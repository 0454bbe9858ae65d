import OpenMapX.Ops.LifecycleExclusion

/-!
# The queue of the lifecycle exclusion

Holders share no id, no one overtakes an earlier waiter of the same id, and after each pass
every waiter is kept waiting by someone. `Moves` lists what one event can do.
-/

namespace OpenMapX.Ops.ExclusionQueue

open LifecycleExclusion Nat Function Finset

def Stuck (active : Ids) : Ids → List Waiter → Prop
  | _, [] => True
  | earlier, waiter :: rest =>
    ¬Disjoint waiter.ids (active ∪ earlier) ∧ Stuck active (earlier ∪ waiter.ids) rest

structure Drained (active earlier : Ids) (waiting : List Waiter) (result : Drain) : Prop where
  stuck : Stuck result.active earlier result.waiting
  grown : ∀ id, id ∈ result.active ↔ id ∈ active ∨ ∃ waiter ∈ result.granted, id ∈ waiter.ids
  free : ∀ waiter ∈ result.granted, Disjoint waiter.ids (active ∪ earlier)
  apart : result.granted.Pairwise fun a b => Disjoint a.ids b.ids
  waiting_sub : result.waiting.Sublist waiting
  granted_sub : result.granted.Sublist waiting
  fair : ∀ waiter ∈ result.granted, ∀ other ∈ result.waiting, other.call < waiter.call →
    Disjoint other.ids waiter.ids
  separate : ∀ waiter ∈ result.granted, ∀ other ∈ result.waiting, waiter.call ≠ other.call

theorem drain_from_drained (waiting : List Waiter) :
    ∀ active earlier : Ids, waiting.Pairwise (fun a b => a.call < b.call) →
      Drained active earlier waiting (drainFrom active earlier waiting) := by
  induction waiting with
  | nil =>
    intro active earlier ordered
    apply Drained.mk
    all_goals simp [drainFrom, Stuck]
  | cons waiter rest ih =>
    intro active earlier ordered
    have before := (List.pairwise_cons.mp ordered).1
    have rest_ordered := (List.pairwise_cons.mp ordered).2
    unfold drainFrom
    split
    · rename_i free
      have later := ih (active ∪ waiter.ids) earlier rest_ordered
      have free_later : ∀ other ∈ (drainFrom (active ∪ waiter.ids) earlier rest).granted,
          Disjoint other.ids active ∧ Disjoint other.ids waiter.ids ∧
            Disjoint other.ids earlier := by
        intro other member
        have apart := later.free other member
        simp only [disjoint_union_right] at apart
        exact And.intro apart.1.1 (And.intro apart.1.2 apart.2)
      apply Drained.mk
      · exact later.stuck
      · intro id
        rw [later.grown, mem_union, or_assoc]
        simp
      · intro other member
        rcases List.mem_cons.mp member with same | inside
        · rw [same]
          exact free
        · have apart := free_later other inside
          exact disjoint_union_right.mpr (And.intro apart.1 apart.2.2)
      · apply List.Pairwise.cons
        · intro other member
          exact (free_later other member).2.1.symm
        · exact later.apart
      · exact later.waiting_sub.cons waiter
      · exact later.granted_sub.cons_cons waiter
      · intro other member stays inside lt
        rcases List.mem_cons.mp member with same | granted
        · rw [same] at lt
          have behind := before stays (later.waiting_sub.subset inside)
          omega
        · exact later.fair other granted stays inside lt
      · intro other member stays inside
        rcases List.mem_cons.mp member with same | granted
        · rw [same]
          exact Nat.ne_of_lt (before stays (later.waiting_sub.subset inside))
        · exact later.separate other granted stays inside
    · rename_i held
      have later := ih active (earlier ∪ waiter.ids) rest_ordered
      have free_later : ∀ other ∈ (drainFrom active (earlier ∪ waiter.ids) rest).granted,
          Disjoint other.ids active ∧ Disjoint other.ids earlier ∧
            Disjoint other.ids waiter.ids := by
        intro other member
        have apart := later.free other member
        simp only [disjoint_union_right] at apart
        exact And.intro apart.1 apart.2
      apply Drained.mk
      · apply And.intro
        · intro free
          apply held
          apply free.mono_right
          apply union_subset_union_left
          intro id member
          exact (later.grown id).mpr (Or.inl member)
        · exact later.stuck
      · exact later.grown
      · intro other member
        have apart := free_later other member
        exact disjoint_union_right.mpr (And.intro apart.1 apart.2.1)
      · exact later.apart
      · exact later.waiting_sub.cons_cons waiter
      · exact later.granted_sub.cons waiter
      · intro other member stays inside lt
        rcases List.mem_cons.mp inside with same | waits
        · rw [same]
          exact (free_later other member).2.2.symm
        · exact later.fair other member stays waits lt
      · intro other member stays inside
        rcases List.mem_cons.mp inside with same | waits
        · rw [same]
          exact Nat.ne_of_gt (before other (later.granted_sub.subset member))
        · exact later.separate other member stays waits

def held (state : State) : List Waiter := state.holders.map Holder.waiter

structure Queue (state : State) : Prop where
  active : ∀ id, id ∈ state.active ↔ ∃ waiter ∈ held state, id ∈ waiter.ids
  apart : (held state).Pairwise fun a b => Disjoint a.ids b.ids
  distinct : (held state).Pairwise fun a b => a.call ≠ b.call
  ordered : state.waiting.Pairwise fun a b => a.call < b.call
  waiting_old : ∀ waiter ∈ state.waiting, waiter.call < state.nextCall
  held_old : ∀ waiter ∈ held state, waiter.call < state.nextCall
  separate : ∀ holder ∈ held state, ∀ waiter ∈ state.waiting, holder.call ≠ waiter.call
  fair : ∀ holder ∈ held state, ∀ waiter ∈ state.waiting,
    waiter.call < holder.call → Disjoint waiter.ids holder.ids

theorem Queue.congr {state next : State} (queue : Queue state) (same_held : held next = held state)
    (same_waiting : next.waiting = state.waiting) (same_active : next.active = state.active)
    (same_calls : next.nextCall = state.nextCall) : Queue next := by
  apply Queue.mk
  · rw [same_active, same_held]
    exact queue.active
  · rw [same_held]
    exact queue.apart
  · rw [same_held]
    exact queue.distinct
  · rw [same_waiting]
    exact queue.ordered
  · rw [same_waiting, same_calls]
    exact queue.waiting_old
  · rw [same_held, same_calls]
    exact queue.held_old
  · rw [same_held, same_waiting]
    exact queue.separate
  · rw [same_held, same_waiting]
    exact queue.fair

theorem held_drain (state : State) :
    held (drain state) = held state ++ (drainFrom state.active ∅ state.waiting).granted := by
  simp [held, drain, comp_def]

variable {state : State}

theorem drain_queue (queue : Queue state) : Queue (drain state) := by
  have drained := drain_from_drained state.waiting state.active ∅ queue.ordered
  have fresh : ∀ waiter ∈ (drainFrom state.active ∅ state.waiting).granted,
      waiter ∈ state.waiting := fun waiter member => drained.granted_sub.subset member
  have stays : ∀ waiter ∈ (drainFrom state.active ∅ state.waiting).waiting,
      waiter ∈ state.waiting := fun waiter member => drained.waiting_sub.subset member
  have free : ∀ holder ∈ held state, ∀ waiter ∈ (drainFrom state.active ∅ state.waiting).granted,
      Disjoint holder.ids waiter.ids := by
    intro holder member waiter granted
    have apart := drained.free waiter granted
    rw [union_empty] at apart
    apply Disjoint.symm
    apply apart.mono_right
    intro id inside
    exact (queue.active id).mpr ⟨holder, member, inside⟩
  have ordered_granted := queue.ordered.sublist drained.granted_sub
  apply Queue.mk
  · intro id
    change id ∈ (drainFrom state.active ∅ state.waiting).active ↔ _
    rw [drained.grown, queue.active, held_drain]
    simp [or_and_right, exists_or]
  · rw [held_drain, List.pairwise_append]
    exact And.intro queue.apart (And.intro drained.apart free)
  · rw [held_drain, List.pairwise_append]
    apply And.intro queue.distinct
    apply And.intro
    · apply ordered_granted.imp
      intro a b lt
      exact Nat.ne_of_lt lt
    · intro holder member waiter granted
      exact queue.separate holder member waiter (fresh waiter granted)
  · exact queue.ordered.sublist drained.waiting_sub
  · intro waiter member
    exact queue.waiting_old waiter (stays waiter member)
  · rw [held_drain]
    intro waiter member
    rcases List.mem_append.mp member with old | granted
    · exact queue.held_old waiter old
    · exact queue.waiting_old waiter (fresh waiter granted)
  · rw [held_drain]
    intro holder member waiter waits
    rcases List.mem_append.mp member with old | granted
    · exact queue.separate holder old waiter (stays waiter waits)
    · exact drained.separate holder granted waiter waits
  · rw [held_drain]
    intro holder member waiter waits lt
    rcases List.mem_append.mp member with old | granted
    · exact queue.fair holder old waiter (stays waiter waits) lt
    · exact drained.fair holder granted waiter waits lt

theorem drain_stuck (queue : Queue state) : Stuck (drain state).active ∅ (drain state).waiting :=
  (drain_from_drained state.waiting state.active ∅ queue.ordered).stuck

/-- The part of `release` before the pass over the queue. -/
def letGo (state : State) (waiter : Waiter) : State :=
  { state with
    active := state.active \ waiter.ids
    holders := state.holders.filter fun holder => holder.waiter.call ≠ waiter.call }

def startWork (state : State) (waiter : Waiter) : State :=
  { setStage state waiter.call (.working false) with
    started := waiter.call :: state.started }

def beginWork (state : State) (waiter : Waiter) : State :=
  { setStage state waiter.call (.working true) with
    pending := state.pending ∪ waiter.ids
    file := state.pending ∪ waiter.ids
    owed := ⟨waiter.call, waiter.ids⟩ :: state.owed }

/-- `pending` is what the process goes on with. -/
def clearWork (state : State) (waiter : Waiter) (pending : Ids) : State :=
  { setStage state waiter.call .ended with
    pending := pending
    file := state.pending \ waiter.ids
    owed := state.owed.filter fun debt => debt.call ≠ waiter.call }

inductive Moves (state : State) : Event → State → Prop
  | stays (event : Event) : Moves state event state
  | counted (creating : Bool) (serviceIds : List String) (signal : Nat) :
      Moves state (.call creating serviceIds signal) { state with nextCall := state.nextCall + 1 }
  | queued (creating : Bool) (serviceIds : List String) (signal : Nat)
      (valid : ∀ id ∈ serviceIds, isId id = true) (open_signal : signal ∉ state.aborted) :
      Moves state (.call creating serviceIds signal) (drain { state with
        nextCall := state.nextCall + 1
        waiting := state.waiting ++
          [⟨state.nextCall, creating, serviceIds.toFinset, signal⟩] })
  | aborted (signal : Nat) :
      Moves state (.abort signal) { state with aborted := insert signal state.aborted }
  | dropped (call : Nat) (waiter : Waiter) :
      Moves state (.listen call) (drain { state with waiting := state.waiting.erase waiter })
  | released (event : Event) (holder : Holder) (member : holder ∈ state.holders) :
      Moves state event (release state holder.waiter)
  | resumed (waiter : Waiter) (member : ⟨waiter, .granted⟩ ∈ state.holders)
      (open_signal : waiter.signal ∉ state.aborted) (free : Disjoint waiter.ids state.pending) :
      Moves state (.resume waiter.call) (startWork state waiter)
  | begun (waiter : Waiter) (before : Bool) (write : Write)
      (member : ⟨waiter, .working before⟩ ∈ state.holders)
      (small : (state.pending ∪ waiter.ids).card ≤ 256) :
      Moves state (.begin waiter.call write) (beginWork state waiter)
  | written (waiter : Waiter) (before : Bool) (write : Write)
      (member : ⟨waiter, .working before⟩ ∈ state.holders)
      (small : (state.pending ∪ waiter.ids).card ≤ 256) :
      Moves state (.begin waiter.call write) { state with file := state.pending ∪ waiter.ids }
  | ended (waiter : Waiter) (before : Bool) (outcome : Outcome) (write : Write)
      (member : ⟨waiter, .working before⟩ ∈ state.holders) :
      Moves state (.settle waiter.call outcome write) (setStage state waiter.call .ended)
  | cleared (waiter : Waiter) (before : Bool) (outcome : Outcome) (write : Write)
      (member : ⟨waiter, .working before⟩ ∈ state.holders)
      (contained : outcome ≠ .failed) (replaced : write ≠ .unchanged) (pending : Ids)
      (smaller : pending = state.pending \ waiter.ids ∨ pending = state.pending) :
      Moves state (.settle waiter.call outcome write) (clearWork state waiter pending)
  | restarted (read : readPending state.file = some state.file) :
      Moves state .restart { state with
        alive := true, active := ∅, waiting := [], holders := [], pending := state.file }
  | stopped (unread : readPending state.file = none) :
      Moves state .restart { state with alive := false, active := ∅, waiting := [], holders := [] }

theorem find_holder_some {call : Nat} {holder : Holder}
    (found : findHolder state call = some holder) :
    holder ∈ state.holders ∧ holder.waiter.call = call := by
  apply And.intro (List.mem_of_find?_eq_some found)
  have matched := List.find?_some found
  simpa using matched

theorem read_pending_some {file pending : Ids} (read : readPending file = some pending) :
    pending = file := by
  unfold readPending at read
  split at read
  · exact (Option.some.inj read).symm
  · cases read

theorem invoke_moves (state : State) (creating : Bool) (serviceIds : List String) (signal : Nat) :
    Moves state (.call creating serviceIds signal) (invoke state creating serviceIds signal) := by
  unfold invoke
  split
  · exact .counted creating serviceIds signal
  · rename_i accepted
    split
    · exact .counted creating serviceIds signal
    · rename_i open_signal
      apply Moves.queued creating serviceIds signal _ open_signal
      intro id member
      by_contra refused
      apply accepted
      exact Or.inr ⟨id, member, by simpa using refused⟩

theorem persist_large {next : Ids} (large : 256 < next.card) (write : Write) :
    persist state next write = (state, false) := by
  unfold persist
  rw [if_pos large]

theorem persist_small {next : Ids} (small : ¬256 < next.card) (write : Write) :
    persist state next write =
      match write with
      | .done => ({ state with pending := next, file := next }, true)
      | .unchanged => (state, false)
      | .replaced => ({ state with file := next }, false) := by
  cases write with
  | done => exact if_neg small
  | unchanged => exact if_neg small
  | replaced => exact if_neg small

variable {waiter : Waiter}

theorem begin_moves {begun : Bool} (write : Write)
    (member : ⟨waiter, .working begun⟩ ∈ state.holders) :
    Moves state (.begin waiter.call write) (beginEffect state waiter begun write) := by
  unfold beginEffect
  split
  · exact .stays _
  · by_cases large : 256 < (state.pending ∪ waiter.ids).card
    · rw [persist_large large]
      exact .stays _
    · rw [persist_small large]
      have fits := Nat.le_of_not_lt large
      cases write with
      | done => exact .begun waiter begun .done member fits
      | unchanged => exact .stays _
      | replaced => exact .written waiter begun .replaced member fits

theorem settle_moves {begun : Bool} (outcome : Outcome)
    (write : Write) (member : ⟨waiter, .working begun⟩ ∈ state.holders) :
    Moves state (.settle waiter.call outcome write)
      (settleWork state waiter begun outcome write) := by
  simp only [settleWork]
  split
  · rename_i clears
    simp only [clearEffect]
    by_cases large : 256 < ((setStage state waiter.call .ended).pending \ waiter.ids).card
    · rw [persist_large large, if_neg (fun both => Nat.not_lt_of_le both.1 large)]
      exact .ended waiter begun outcome write member
    · rw [persist_small large]
      have fits := Nat.le_of_not_lt large
      cases write with
      | done =>
        rw [if_pos (And.intro fits (by decide))]
        exact .cleared waiter begun outcome .done member clears.2 (by decide) _ (Or.inl rfl)
      | unchanged =>
        rw [if_neg (fun both => both.2 rfl)]
        exact .ended waiter begun outcome .unchanged member
      | replaced =>
        rw [if_pos (And.intro fits (by decide))]
        exact .cleared waiter begun outcome .replaced member clears.2 (by decide) _ (Or.inr rfl)
  · exact .ended waiter begun outcome write member

theorem step_moves (state : State) (event : Event) : Moves state event (step state event) := by
  cases event with
  | call creating serviceIds signal =>
    simp only [step]
    split
    · exact invoke_moves state creating serviceIds signal
    · exact .stays _
  | abort signal => exact .aborted signal
  | listen call =>
    simp only [step, abortWaiter]
    split
    · split
      · exact .dropped call _
      · exact .stays _
    · exact .stays _
  | resume call =>
    simp only [step]
    split
    · rename_i waiter found
      obtain ⟨member, named⟩ := find_holder_some found
      simp only [resumeHolder]
      split
      · exact .released _ ⟨waiter, .granted⟩ member
      · rename_i open_signal
        split
        · exact .released _ ⟨waiter, .granted⟩ member
        · rename_i free
          rw [← named]
          exact .resumed waiter member open_signal (not_not.mp free)
    · exact .stays _
  | begin call write =>
    simp only [step]
    split
    · rename_i waiter begun found
      obtain ⟨member, named⟩ := find_holder_some found
      rw [← named]
      exact begin_moves write member
    · exact .stays _
  | settle call outcome write =>
    simp only [step]
    split
    · rename_i waiter begun found
      obtain ⟨member, named⟩ := find_holder_some found
      rw [← named]
      exact settle_moves outcome write member
    · exact .stays _
  | release call =>
    simp only [step]
    split
    · rename_i waiter found
      exact .released _ ⟨waiter, .ended⟩ (find_holder_some found).1
    · exact .stays _
  | restart =>
    simp only [step, restartProcess]
    split
    · rename_i pending read
      have same := read_pending_some read
      subst same
      exact .restarted read
    · rename_i unread
      exact .stopped unread

variable (queue : Queue state)
include queue

theorem Queue.unique {a b : Waiter} (left : a ∈ held state)
    (right : b ∈ held state) (same : a.call = b.call) : a = b := by
  have mutual_calls : Std.Symm fun a b : Waiter => a.call ≠ b.call := ⟨fun _ _ ne => ne.symm⟩
  by_contra different
  exact queue.distinct.forall left right different same

theorem Queue.disjoint {a b : Waiter} (left : a ∈ held state)
    (right : b ∈ held state) (different : a.call ≠ b.call) : Disjoint a.ids b.ids := by
  have mutual_ids : Std.Symm fun a b : Waiter => Disjoint a.ids b.ids :=
    ⟨fun _ _ apart => apart.symm⟩
  apply queue.apart.forall left right
  intro same
  exact different (congrArg Waiter.call same)

omit queue in
theorem mem_held {holder : Holder} (member : holder ∈ state.holders) :
    holder.waiter ∈ held state := List.mem_map_of_mem member

omit queue in
theorem held_set_stage (state : State) (call : Nat) (stage : Stage) :
    held (setStage state call stage) = held state := by
  unfold held setStage
  rw [List.map_map]
  apply List.map_congr_left
  intro holder member
  simp only [comp_apply]
  split
  · rfl
  · rfl

omit queue in
theorem held_let_go (state : State) (waiter : Waiter) :
    held (letGo state waiter) = (held state).filter fun other => other.call ≠ waiter.call := by
  simp [held, letGo, List.filter_map, comp_def]

theorem let_go_queue (member : waiter ∈ held state) : Queue (letGo state waiter) := by
  have fewer : (held (letGo state waiter)).Sublist (held state) := by
    rw [held_let_go]
    exact List.filter_sublist
  apply Queue.mk
  · intro id
    change id ∈ state.active \ waiter.ids ↔ _
    rw [mem_sdiff, queue.active, held_let_go]
    apply Iff.intro
    · intro both
      obtain ⟨⟨owner, owns, inside⟩, outside⟩ := both
      refine ⟨owner, List.mem_filter.mpr (And.intro owns ?_), inside⟩
      simp only [decide_eq_true_eq]
      intro same
      rw [queue.unique owns member same] at inside
      exact outside inside
    · intro other
      obtain ⟨owner, owns, inside⟩ := other
      obtain ⟨present, differs⟩ := List.mem_filter.mp owns
      apply And.intro ⟨owner, present, inside⟩
      have apart := queue.disjoint present member (by simpa using differs)
      exact disjoint_left.mp apart inside
  · exact queue.apart.sublist fewer
  · exact queue.distinct.sublist fewer
  · exact queue.ordered
  · exact queue.waiting_old
  · intro other inside
    exact queue.held_old other (fewer.subset inside)
  · intro other inside
    exact queue.separate other (fewer.subset inside)
  · intro other inside
    exact queue.fair other (fewer.subset inside)

theorem dropped_queue (waiter : Waiter) :
    Queue { state with waiting := state.waiting.erase waiter } := by
  have fewer : (state.waiting.erase waiter).Sublist state.waiting := List.erase_sublist
  refine { queue with ordered := ?_, waiting_old := ?_, separate := ?_, fair := ?_ }
  · exact queue.ordered.sublist fewer
  · intro other inside
    exact queue.waiting_old other (fewer.subset inside)
  · intro holder member other inside
    exact queue.separate holder member other (fewer.subset inside)
  · intro holder member other inside
    exact queue.fair holder member other (fewer.subset inside)

theorem counted_queue : Queue { state with nextCall := state.nextCall + 1 } := by
  refine { queue with waiting_old := ?_, held_old := ?_ }
  · intro waiter member
    exact lt_succ_of_lt (queue.waiting_old waiter member)
  · intro waiter member
    exact lt_succ_of_lt (queue.held_old waiter member)

theorem queued_queue (newest : waiter.call = state.nextCall) : Queue { state with
      nextCall := state.nextCall + 1
      waiting := state.waiting ++ [waiter] } := by
  apply Queue.mk
  · exact queue.active
  · exact queue.apart
  · exact queue.distinct
  · apply List.pairwise_append.mpr
    apply And.intro queue.ordered
    apply And.intro (List.pairwise_singleton _ _)
    intro earlier member last same
    rw [List.mem_singleton.mp same, newest]
    exact queue.waiting_old earlier member
  · intro other member
    rcases List.mem_append.mp member with old | last
    · exact lt_succ_of_lt (queue.waiting_old other old)
    · rw [List.mem_singleton.mp last, newest]
      exact lt_succ_self _
  · intro other member
    exact lt_succ_of_lt (queue.held_old other member)
  · intro holder member other waits
    rcases List.mem_append.mp waits with old | last
    · exact queue.separate holder member other old
    · rw [List.mem_singleton.mp last, newest]
      exact Nat.ne_of_lt (queue.held_old holder member)
  · intro holder member other waits lt
    rcases List.mem_append.mp waits with old | last
    · exact queue.fair holder member other old lt
    · rw [List.mem_singleton.mp last, newest] at lt
      exact absurd (queue.held_old holder member) (Nat.lt_asymm lt)

omit queue

theorem empty_queue (no_active : state.active = ∅) (no_waiting : state.waiting = [])
    (no_holders : state.holders = []) : Queue state := by
  apply Queue.mk
  all_goals simp [held, no_active, no_waiting, no_holders]

structure Settled (state : State) : Prop where
  queue : Queue state
  stuck : Stuck state.active ∅ state.waiting

theorem drain_settled (queue : Queue state) : Settled (drain state) :=
  Settled.mk (drain_queue queue) (drain_stuck queue)

theorem moves_settled {state next : State} {event : Event} (moves : Moves state event next)
    (settled : Settled state) : Settled next := by
  have queue := settled.queue
  have same_held := held_set_stage state
  cases moves with
  | stays => exact settled
  | counted => exact Settled.mk (counted_queue queue) settled.stuck
  | queued => exact drain_settled (queued_queue queue rfl)
  | aborted => exact Settled.mk (queue.congr rfl rfl rfl rfl) settled.stuck
  | dropped call waiter => exact drain_settled (dropped_queue queue waiter)
  | released event holder member => exact drain_settled (let_go_queue queue (mem_held member))
  | resumed waiter => exact Settled.mk (queue.congr (same_held _ _) rfl rfl rfl) settled.stuck
  | begun waiter => exact Settled.mk (queue.congr (same_held _ _) rfl rfl rfl) settled.stuck
  | written => exact Settled.mk (queue.congr rfl rfl rfl rfl) settled.stuck
  | ended waiter => exact Settled.mk (queue.congr (same_held _ _) rfl rfl rfl) settled.stuck
  | cleared waiter => exact Settled.mk (queue.congr (same_held _ _) rfl rfl rfl) settled.stuck
  | restarted => exact Settled.mk (empty_queue rfl rfl rfl) trivial
  | stopped => exact Settled.mk (empty_queue rfl rfl rfl) trivial

end OpenMapX.Ops.ExclusionQueue
