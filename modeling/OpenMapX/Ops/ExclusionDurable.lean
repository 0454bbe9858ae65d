import OpenMapX.Ops.ExclusionQueue

/-!
# The durable set of the lifecycle exclusion

A creating call that has begun stays in the set and in its file until it is cleared, and what
the file holds can always be read back.
-/

namespace OpenMapX.Ops.ExclusionDurable

open LifecycleExclusion ExclusionQueue List

def Readable (ids : Ids) : Prop := ids.card ≤ 256 ∧ ∀ id ∈ ids, isId id = true

theorem read_readable {ids : Ids} (readable : Readable ids) : readPending ids = some ids := by
  unfold readPending
  exact if_pos readable

theorem Readable.sdiff {ids : Ids} (readable : Readable ids) (removed : Ids) :
    Readable (ids \ removed) := by
  apply And.intro
  · exact (Finset.card_le_card Finset.sdiff_subset).trans readable.1
  · intro id member
    exact readable.2 id (Finset.mem_sdiff.mp member).1

structure Durable (state : State) : Prop where
  alive : state.alive = true
  pending_readable : Readable state.pending
  file_readable : Readable state.file
  waiting_ids : ∀ waiter ∈ state.waiting, ∀ id ∈ waiter.ids, isId id = true
  held_ids : ∀ waiter ∈ held state, ∀ id ∈ waiter.ids, isId id = true
  kept : ∀ debt ∈ state.owed, debt.ids ⊆ state.pending ∧ debt.ids ⊆ state.file
  apart : ∀ waiter begun, ⟨waiter, .working begun⟩ ∈ state.holders → ∀ debt ∈ state.owed,
    debt.call ≠ waiter.call → Disjoint debt.ids waiter.ids
  begun : ∀ waiter, ⟨waiter, .working true⟩ ∈ state.holders → ⟨waiter.call, waiter.ids⟩ ∈ state.owed
  started_old : ∀ call ∈ state.started, call < state.nextCall
  unstarted : ∀ waiter, waiter ∈ state.waiting ∨ ⟨waiter, .granted⟩ ∈ state.holders →
    waiter.call ∉ state.started

/-- An event that writes nothing keeps the durable set if it only takes holders away or grants
waiters, and lets only new calls with proper ids wait. -/
theorem Durable.frame {state next : State} (durable : Durable state)
    (same : next.alive = state.alive ∧ next.pending = state.pending ∧ next.file = state.file ∧
      next.owed = state.owed ∧ next.started = state.started)
    (later : state.nextCall ≤ next.nextCall)
    (waits : ∀ waiter ∈ next.waiting, waiter ∈ state.waiting ∨
      (∀ id ∈ waiter.ids, isId id = true) ∧ waiter.call ∉ state.started)
    (holds : ∀ holder ∈ next.holders, holder ∈ state.holders ∨
      holder.waiter ∈ state.waiting ∧ holder.stage = .granted) : Durable next := by
  obtain ⟨same_alive, same_pending, same_file, same_owed, same_started⟩ := same
  have worked : ∀ waiter begun, ⟨waiter, .working begun⟩ ∈ next.holders →
      ⟨waiter, .working begun⟩ ∈ state.holders := by
    intro waiter begun member
    rcases holds _ member with old | granted
    · exact old
    · cases granted.2
  apply Durable.mk
  · rw [same_alive]
    exact durable.alive
  · rw [same_pending]
    exact durable.pending_readable
  · rw [same_file]
    exact durable.file_readable
  · intro waiter member
    rcases waits waiter member with old | fresh
    · exact durable.waiting_ids waiter old
    · exact fresh.1
  · intro waiter member
    obtain ⟨holder, inside, same_waiter⟩ := mem_map.mp member
    rw [← same_waiter]
    rcases holds holder inside with old | granted
    · exact durable.held_ids _ (mem_held old)
    · exact durable.waiting_ids _ granted.1
  · rw [same_owed, same_pending, same_file]
    exact durable.kept
  · intro waiter begun member
    rw [same_owed]
    exact durable.apart waiter begun (worked waiter begun member)
  · intro waiter member
    rw [same_owed]
    exact durable.begun waiter (worked waiter true member)
  · rw [same_started]
    intro call member
    exact Nat.lt_of_lt_of_le (durable.started_old call member) later
  · intro waiter either
    rw [same_started]
    rcases either with member | member
    · rcases waits waiter member with old | fresh
      · exact durable.unstarted waiter (Or.inl old)
      · exact fresh.2
    · rcases holds _ member with old | granted
      · exact durable.unstarted waiter (Or.inr old)
      · exact durable.unstarted waiter (Or.inl granted.1)

variable {state : State}

theorem drain_durable (queue : Queue state) (durable : Durable state) : Durable (drain state) := by
  have drained := drain_from_drained state.waiting state.active ∅ queue.ordered
  apply @Durable.frame state (drain state) durable
  · exact ⟨rfl, rfl, rfl, rfl, rfl⟩
  · exact Nat.le_refl _
  · intro waiter member
    exact Or.inl (drained.waiting_sub.subset member)
  · intro holder member
    rcases mem_append.mp member with old | granted
    · exact Or.inl old
    · obtain ⟨waiter, inside, same⟩ := mem_map.mp granted
      rw [← same]
      exact Or.inr (And.intro (drained.granted_sub.subset inside) rfl)

theorem mem_set_stage {call : Nat} {stage : Stage} {holder : Holder}
    (member : holder ∈ (setStage state call stage).holders) :
    holder.waiter.call = call ∧ holder.stage = stage ∧ holder.waiter ∈ held state ∨
      holder.waiter.call ≠ call ∧ holder ∈ state.holders := by
  obtain ⟨old, inside, same⟩ := mem_map.mp member
  split at same
  · rename_i named
    have present : old.waiter ∈ held state := mem_held inside
    rw [← same]
    exact Or.inl ⟨named, rfl, present⟩
  · rename_i other
    rw [← same]
    exact Or.inr (And.intro other inside)

theorem Durable.restage {state next : State} (durable : Durable state) (queue : Queue state)
    {waiter : Waiter} {stage : Stage} (member : waiter ∈ held state) (resumed : stage ≠ .granted)
    (same : next.alive = state.alive ∧ next.waiting = state.waiting ∧
      next.nextCall = state.nextCall ∧ next.holders = (setStage state waiter.call stage).holders)
    (pending_readable : Readable next.pending) (file_readable : Readable next.file)
    (started : ∀ call ∈ next.started, call ∈ state.started ∨ call = waiter.call)
    (kept : ∀ debt ∈ next.owed, debt.ids ⊆ next.pending ∧ debt.ids ⊆ next.file)
    (owed : ∀ debt ∈ next.owed, debt ∈ state.owed ∨ debt = ⟨waiter.call, waiter.ids⟩)
    (others : ∀ debt ∈ state.owed, debt.call ≠ waiter.call → debt ∈ next.owed)
    (own : ∀ begun, stage = .working begun → ∀ debt ∈ next.owed, debt.call ≠ waiter.call →
      Disjoint debt.ids waiter.ids)
    (begun : stage = .working true → ⟨waiter.call, waiter.ids⟩ ∈ next.owed) : Durable next := by
  obtain ⟨same_alive, same_waiting, same_calls, same_holders⟩ := same
  have same_held : held next = held state := by
    rw [← held_set_stage state waiter.call stage]
    unfold held
    rw [same_holders]
  apply Durable.mk
  · rw [same_alive]
    exact durable.alive
  · exact pending_readable
  · exact file_readable
  · rw [same_waiting]
    exact durable.waiting_ids
  · rw [same_held]
    exact durable.held_ids
  · exact kept
  · intro other still present debt inside different
    rw [same_holders] at present
    rcases mem_set_stage present with moved | old
    · obtain ⟨named, at_stage, holds⟩ := moved
      have same_waiter := queue.unique holds member named
      simp only at same_waiter at_stage
      rw [same_waiter] at different ⊢
      exact own still at_stage.symm debt inside different
    · rcases owed debt inside with earlier | new
      · exact durable.apart other still old.2 debt earlier different
      · rw [new]
        exact queue.disjoint member (mem_held old.2) (fun equal => old.1 equal.symm)
  · intro other present
    rw [same_holders] at present
    rcases mem_set_stage present with moved | old
    · obtain ⟨named, at_stage, holds⟩ := moved
      have same_waiter := queue.unique holds member named
      simp only at same_waiter at_stage
      rw [same_waiter]
      exact begun at_stage.symm
    · exact others _ (durable.begun other old.2) old.1
  · rw [same_calls]
    intro call inside
    rcases started call inside with old | own_call
    · exact durable.started_old call old
    · rw [own_call]
      exact queue.held_old waiter member
  · intro other either inside
    have different : other.call ≠ waiter.call := by
      rcases either with waits | present
      · rw [same_waiting] at waits
        exact (queue.separate waiter member other waits).symm
      · rw [same_holders] at present
        rcases mem_set_stage present with moved | old
        · exact absurd moved.2.1.symm resumed
        · exact old.1
    have before : other ∈ state.waiting ∨ ⟨other, .granted⟩ ∈ state.holders := by
      rcases either with waits | present
      · rw [same_waiting] at waits
        exact Or.inl waits
      · rw [same_holders] at present
        rcases mem_set_stage present with moved | old
        · exact absurd moved.2.1.symm resumed
        · exact Or.inr old.2
    rcases started other.call inside with old | own_call
    · exact durable.unstarted other before old
    · exact different own_call

variable {waiter : Waiter}

theorem grown_readable (durable : Durable state) (member : waiter ∈ held state)
    (small : (state.pending ∪ waiter.ids).card ≤ 256) : Readable (state.pending ∪ waiter.ids) := by
  apply And.intro small
  intro id inside
  rcases Finset.mem_union.mp inside with old | new
  · exact durable.pending_readable.2 id old
  · exact durable.held_ids waiter member id new

variable (queue : Queue state)
include queue

section

variable (durable : Durable state)
include durable

theorem resumed_durable (member : ⟨waiter, .granted⟩ ∈ state.holders)
    (free : Disjoint waiter.ids state.pending) : Durable (startWork state waiter) := by
  apply @Durable.restage state (startWork state waiter) durable queue waiter (.working false)
    (mem_held member) (by decide) ⟨rfl, rfl, rfl, rfl⟩ durable.pending_readable
    durable.file_readable
  · intro call inside
    exact (mem_cons.mp inside).symm
  · exact durable.kept
  · intro debt inside
    exact Or.inl inside
  · intro debt inside different
    exact inside
  · intro begun at_stage debt inside different
    exact (free.mono_right (durable.kept debt inside).1).symm
  · intro at_stage
    cases at_stage

theorem begun_durable {before : Bool} (member : ⟨waiter, .working before⟩ ∈ state.holders)
    (small : (state.pending ∪ waiter.ids).card ≤ 256) : Durable (beginWork state waiter) := by
  have holds : waiter ∈ held state := mem_held member
  have readable := grown_readable durable holds small
  apply @Durable.restage state (beginWork state waiter) durable queue waiter (.working true)
    holds (by decide) ⟨rfl, rfl, rfl, rfl⟩ readable readable
  · intro call inside
    exact Or.inl inside
  · intro debt inside
    have contained : debt.ids ⊆ state.pending ∪ waiter.ids := by
      rcases mem_cons.mp inside with new | old
      · rw [new]
        exact Finset.subset_union_right
      · exact (durable.kept debt old).1.trans Finset.subset_union_left
    exact And.intro contained contained
  · intro debt inside
    exact (mem_cons.mp inside).symm
  · intro debt inside different
    exact mem_cons_of_mem _ inside
  · intro begun at_stage debt inside different
    rcases mem_cons.mp inside with new | old
    · rw [new] at different
      exact absurd rfl different
    · exact durable.apart waiter before member debt old different
  · intro at_stage
    exact mem_cons_self

theorem ended_durable (member : waiter ∈ held state) :
    Durable (setStage state waiter.call .ended) := by
  apply @Durable.restage state (setStage state waiter.call .ended) durable queue waiter .ended
    member (by decide) ⟨rfl, rfl, rfl, rfl⟩ durable.pending_readable durable.file_readable
  · intro call inside
    exact Or.inl inside
  · exact durable.kept
  · intro debt inside
    exact Or.inl inside
  · intro debt inside different
    exact inside
  · intro begun at_stage
    cases at_stage
  · intro at_stage
    cases at_stage

theorem cleared_durable {before : Bool} (member : ⟨waiter, .working before⟩ ∈ state.holders)
    {pending : Ids} (smaller : pending = state.pending \ waiter.ids ∨ pending = state.pending) :
    Durable (clearWork state waiter pending) := by
  have removed := durable.pending_readable.sdiff waiter.ids
  have larger : state.pending \ waiter.ids ⊆ pending := by
    rcases smaller with less | same
    · rw [less]
    · rw [same]
      exact Finset.sdiff_subset
  have readable : Readable pending := by
    rcases smaller with less | same
    · rw [less]
      exact removed
    · rw [same]
      exact durable.pending_readable
  apply @Durable.restage state (clearWork state waiter pending) durable queue waiter .ended
    (mem_held member) (by decide) ⟨rfl, rfl, rfl, rfl⟩ readable removed
  · intro call inside
    exact Or.inl inside
  · intro debt inside
    obtain ⟨old, different⟩ := mem_filter.mp inside
    have apart := durable.apart waiter before member debt old (by simpa using different)
    have stays := Finset.subset_sdiff.mpr (And.intro (durable.kept debt old).1 apart)
    exact And.intro (stays.trans larger) stays
  · intro debt inside
    exact Or.inl (mem_filter.mp inside).1
  · intro debt inside different
    exact mem_filter.mpr (And.intro inside (by simpa using different))
  · intro begun at_stage
    cases at_stage
  · intro at_stage
    cases at_stage

end

omit queue

theorem written_durable (durable : Durable state)
    (member : waiter ∈ held state) (small : (state.pending ∪ waiter.ids).card ≤ 256) :
    Durable { state with file := state.pending ∪ waiter.ids } := by
  refine { durable with file_readable := ?_, kept := ?_ }
  · exact grown_readable durable member small
  · intro debt inside
    have kept := (durable.kept debt inside).1
    exact And.intro kept (kept.trans Finset.subset_union_left)

theorem restarted_durable (durable : Durable state) : Durable { state with
      alive := true, active := ∅, waiting := [], holders := [], pending := state.file } := by
  apply Durable.mk
  · rfl
  · exact durable.file_readable
  · exact durable.file_readable
  · intro waiter member
    cases member
  · intro waiter member
    cases member
  · intro debt inside
    exact And.intro (durable.kept debt inside).2 (durable.kept debt inside).2
  · intro waiter begun member
    cases member
  · intro waiter member
    cases member
  · exact durable.started_old
  · intro waiter either
    rcases either with member | member
    · cases member
    · cases member

structure Sound (state : State) : Prop where
  settled : Settled state
  durable : Durable state

theorem moves_durable {state next : State} {event : Event} (moves : Moves state event next)
    (sound : Sound state) : Durable next := by
  have queue := sound.settled.queue
  have durable := sound.durable
  cases moves with
  | stays => exact durable
  | counted =>
    exact durable.frame ⟨rfl, rfl, rfl, rfl, rfl⟩ (Nat.le_succ _)
      (fun waiter => Or.inl) (fun holder => Or.inl)
  | queued creating serviceIds signal valid open_signal =>
    apply drain_durable (queued_queue queue rfl)
    apply durable.frame
    · exact ⟨rfl, rfl, rfl, rfl, rfl⟩
    · exact Nat.le_succ _
    · intro waiter member
      rcases mem_append.mp member with old | last
      · exact Or.inl old
      · rw [mem_singleton.mp last]
        apply Or.inr
        apply And.intro
        · intro id inside
          exact valid id (mem_toFinset.mp inside)
        · intro started
          exact Nat.lt_irrefl _ (durable.started_old _ started)
    · exact fun holder => Or.inl
  | aborted =>
    exact durable.frame ⟨rfl, rfl, rfl, rfl, rfl⟩ (Nat.le_refl _)
      (fun waiter => Or.inl) (fun holder => Or.inl)
  | dropped call waiter =>
    apply drain_durable (dropped_queue queue waiter)
    apply durable.frame
    · exact ⟨rfl, rfl, rfl, rfl, rfl⟩
    · exact Nat.le_refl _
    · intro other member
      exact Or.inl (erase_subset member)
    · exact fun holder => Or.inl
  | released event holder member =>
    apply drain_durable (let_go_queue queue (mem_held member))
    apply @Durable.frame state (letGo state holder.waiter) durable
    · exact ⟨rfl, rfl, rfl, rfl, rfl⟩
    · exact Nat.le_refl _
    · exact fun waiter => Or.inl
    · intro other inside
      exact Or.inl (mem_filter.mp inside).1
  | resumed waiter member open_signal free => exact resumed_durable queue durable member free
  | begun waiter before write member small => exact begun_durable queue durable member small
  | written waiter before write member small =>
    exact written_durable durable (mem_held member) small
  | ended waiter before outcome write member =>
    exact ended_durable queue durable (mem_held member)
  | cleared waiter before outcome write member contained replaced pending smaller =>
    exact cleared_durable queue durable member smaller
  | restarted => exact restarted_durable durable
  | stopped unread =>
    rw [read_readable durable.file_readable] at unread
    cases unread

theorem step_sound (state : State) (event : Event) (sound : Sound state) :
    Sound (step state event) :=
  Sound.mk (moves_settled (step_moves state event) sound.settled)
    (moves_durable (step_moves state event) sound)

theorem initial_sound : Sound initial := by
  apply Sound.mk
  · exact Settled.mk (empty_queue rfl rfl rfl) trivial
  · apply Durable.mk
    all_goals simp [initial, held, Readable]

end OpenMapX.Ops.ExclusionDurable
