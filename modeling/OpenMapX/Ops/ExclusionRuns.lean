import OpenMapX.Foundation.Runs
import OpenMapX.Ops.ExclusionDurable

/-!
# Runs of the lifecycle exclusion

What every state of every run keeps, from an object constructed where no effect was pending.
-/

namespace OpenMapX.Ops.ExclusionRuns

open Foundation.Runs LifecycleExclusion ExclusionQueue ExclusionDurable Finset

theorem run_sound (events : List Event) : Sound (run step events initial) :=
  run_keeps step_sound events initial initial_sound

/-- A call that has not started and whose signal is aborted wherever it still stands. -/
structure Barred (call : Nat) (state : State) : Prop where
  old : call < state.nextCall
  unstarted : call ∉ state.started
  waiting : ∀ waiter ∈ state.waiting, waiter.call = call → waiter.signal ∈ state.aborted
  granted : ∀ waiter, ⟨waiter, .granted⟩ ∈ state.holders → waiter.call = call →
    waiter.signal ∈ state.aborted

theorem Barred.frame {call : Nat} {state next : State} (barred : Barred call state)
    (later : state.nextCall ≤ next.nextCall) (signals : state.aborted ⊆ next.aborted)
    (started : ∀ other ∈ next.started, other ∈ state.started ∨ other ≠ call)
    (waits : ∀ waiter ∈ next.waiting, waiter ∈ state.waiting ∨ waiter.call ≠ call)
    (grants : ∀ waiter, ⟨waiter, .granted⟩ ∈ next.holders →
      ⟨waiter, .granted⟩ ∈ state.holders ∨ waiter ∈ state.waiting) : Barred call next := by
  apply Barred.mk
  · exact Nat.lt_of_lt_of_le barred.old later
  · intro inside
    rcases started call inside with old | other
    · exact barred.unstarted old
    · exact other rfl
  · intro waiter member named
    rcases waits waiter member with old | other
    · exact signals (barred.waiting waiter old named)
    · exact absurd named other
  · intro waiter member named
    rcases grants waiter member with old | waited
    · exact signals (barred.granted waiter old named)
    · exact signals (barred.waiting waiter waited named)

variable {state : State} {call : Nat}

theorem Barred.drain (barred : Barred call state)
    (queue : Queue state) : Barred call (drain state) := by
  have drained := drain_from_drained state.waiting state.active ∅ queue.ordered
  apply @Barred.frame call state (LifecycleExclusion.drain state) barred
  · exact Nat.le_refl _
  · exact Finset.Subset.refl _
  · exact fun other => Or.inl
  · intro waiter member
    exact Or.inl (drained.waiting_sub.subset member)
  · intro waiter member
    rcases List.mem_append.mp member with old | granted
    · exact Or.inl old
    · obtain ⟨own, inside, same⟩ := List.mem_map.mp granted
      have same_waiter : own = waiter := congrArg Holder.waiter same
      rw [same_waiter] at inside
      exact Or.inr (drained.granted_sub.subset inside)

theorem Barred.restage {call : Nat} {state next : State} (barred : Barred call state)
    {moved : Nat} {stage : Stage} (resumed : stage ≠ .granted)
    (same : next.waiting = state.waiting ∧ next.nextCall = state.nextCall ∧
      next.aborted = state.aborted ∧ next.holders = (setStage state moved stage).holders)
    (started : ∀ other ∈ next.started, other ∈ state.started ∨ other ≠ call) :
    Barred call next := by
  obtain ⟨same_waiting, same_calls, same_aborted, same_holders⟩ := same
  apply barred.frame
  · exact Nat.le_of_eq same_calls.symm
  · rw [same_aborted]
  · exact started
  · rw [same_waiting]
    exact fun waiter => Or.inl
  · intro waiter member
    rw [same_holders] at member
    rcases mem_set_stage member with at_stage | old
    · exact absurd at_stage.2.1.symm resumed
    · exact Or.inl old.2

theorem moves_barred {state next : State} {event : Event} (moves : Moves state event next)
    (sound : Sound state) (barred : Barred call state) : Barred call next := by
  have queue := sound.settled.queue
  have nothing : ∀ other ∈ state.started, other ∈ state.started ∨ other ≠ call :=
    fun other => Or.inl
  cases moves with
  | stays => exact barred
  | counted =>
    exact barred.frame (Nat.le_succ _) (Finset.Subset.refl _) nothing (fun waiter => Or.inl)
      (fun waiter => Or.inl)
  | queued creating serviceIds signal =>
    apply Barred.drain _ (queued_queue queue rfl)
    apply barred.frame
    · exact Nat.le_succ _
    · exact Finset.Subset.refl _
    · exact nothing
    · intro waiter member
      rcases List.mem_append.mp member with old | last
      · exact Or.inl old
      · rw [List.mem_singleton.mp last]
        exact Or.inr (Nat.ne_of_gt barred.old)
    · exact fun waiter => Or.inl
  | aborted signal =>
    exact barred.frame (Nat.le_refl _) (subset_insert _ _) nothing
      (fun waiter => Or.inl) (fun waiter => Or.inl)
  | dropped own waiter =>
    apply Barred.drain _ (dropped_queue queue waiter)
    exact barred.frame (Nat.le_refl _) (Finset.Subset.refl _) nothing
      (fun other member => Or.inl (List.erase_subset member)) (fun other => Or.inl)
  | released event holder member =>
    apply Barred.drain _ (let_go_queue queue (mem_held member))
    apply @Barred.frame call state (letGo state holder.waiter) barred
    · exact Nat.le_refl _
    · exact Finset.Subset.refl _
    · exact nothing
    · exact fun waiter => Or.inl
    · intro waiter inside
      exact Or.inl (List.mem_filter.mp inside).1
  | resumed waiter member open_signal free =>
    apply @Barred.restage call state (startWork state waiter) barred waiter.call
      (.working false) (by decide) ⟨rfl, rfl, rfl, rfl⟩
    intro other inside
    rcases List.mem_cons.mp inside with own | old
    · rw [own]
      apply Or.inr
      intro named
      exact open_signal (barred.granted waiter member named)
    · exact Or.inl old
  | begun waiter =>
    exact @Barred.restage call state (beginWork state waiter) barred waiter.call
      (.working true) (by decide) ⟨rfl, rfl, rfl, rfl⟩ nothing
  | written =>
    exact barred.frame (Nat.le_refl _) (Finset.Subset.refl _) nothing (fun waiter => Or.inl)
      (fun waiter => Or.inl)
  | ended waiter =>
    exact @Barred.restage call state (setStage state waiter.call .ended) barred waiter.call
      .ended (by decide) ⟨rfl, rfl, rfl, rfl⟩ nothing
  | cleared waiter before outcome write member contained replaced pending =>
    exact @Barred.restage call state (clearWork state waiter pending) barred waiter.call
      .ended (by decide) ⟨rfl, rfl, rfl, rfl⟩ nothing
  | restarted | stopped =>
    apply barred.frame
    · exact Nat.le_refl _
    · exact Finset.Subset.refl _
    · exact nothing
    · intro waiter member
      cases member
    · intro waiter member
      cases member

theorem run_barred (sound : Sound state) (barred : Barred call state)
    (events : List Event) : Barred call (run step events state) := by
  have kept : ∀ earlier event, Sound earlier ∧ Barred call earlier →
      Sound (step earlier event) ∧ Barred call (step earlier event) := by
    intro earlier event both
    exact And.intro (step_sound earlier event both.1)
      (moves_barred (step_moves earlier event) both.1 both.2)
  exact (run_keeps kept events state (And.intro sound barred)).2

def Clears (call : Nat) : Event → Prop
  | .settle settled outcome write => settled = call ∧ outcome ≠ .failed ∧ write ≠ .unchanged
  | _ => False

variable {debt : Debt}

theorem moves_owed {state next : State} {event : Event} (moves : Moves state event next)
    (owed : debt ∈ state.owed) (stays : ¬Clears debt.call event) : debt ∈ next.owed := by
  cases moves with
  | begun => exact List.mem_cons_of_mem _ owed
  | cleared waiter before outcome write member contained replaced =>
    apply List.mem_filter.mpr
    apply And.intro owed
    rw [decide_eq_true_eq]
    intro same
    exact stays ⟨same.symm, contained, replaced⟩
  | stays | counted | queued | aborted | dropped | released | resumed | written | ended
  | restarted | stopped => exact owed

theorem run_owed (owed : debt ∈ state.owed) (events : List Event)
    (stays : ∀ event ∈ events, ¬Clears debt.call event) : debt ∈ (run step events state).owed := by
  have kept : ∀ earlier event, ¬Clears debt.call event → debt ∈ State.owed earlier →
      debt ∈ (step earlier event).owed := by
    intro earlier event stands inside
    exact moves_owed (step_moves earlier event) inside stands
  exact run_invariant kept events stays state owed

def NoneShared (state : State) : Prop :=
  state.holders.Pairwise fun a b => Disjoint a.waiter.ids b.waiter.ids

def NoneOvertaken (state : State) : Prop :=
  ∀ holder ∈ state.holders, ∀ waiter ∈ state.waiting, waiter.call < holder.waiter.call →
    Disjoint waiter.ids holder.waiter.ids

def NoneForgotten (state : State) : Prop :=
  ∀ waiter ∈ state.waiting,
    (∃ holder ∈ state.holders, ¬Disjoint waiter.ids holder.waiter.ids) ∨
      ∃ earlier ∈ state.waiting, earlier.call < waiter.call ∧ ¬Disjoint waiter.ids earlier.ids

theorem stuck_reason {active : Ids} (waiting : List Waiter) :
    ∀ {earlier : Ids}, Stuck active earlier waiting →
      waiting.Pairwise (fun a b => a.call < b.call) → ∀ waiter ∈ waiting,
        (∃ id ∈ waiter.ids, id ∈ active ∨ id ∈ earlier) ∨
          ∃ other ∈ waiting, other.call < waiter.call ∧ ¬Disjoint waiter.ids other.ids := by
  induction waiting with
  | nil =>
    intro earlier stuck ordered waiter member
    cases member
  | cons first rest ih =>
    intro earlier stuck ordered waiter member
    obtain ⟨before, rest_ordered⟩ := List.pairwise_cons.mp ordered
    rcases List.mem_cons.mp member with same | inside
    · rw [same]
      obtain ⟨id, own, inside⟩ := not_disjoint_iff.mp stuck.1
      exact Or.inl ⟨id, own, mem_union.mp inside⟩
    · rcases ih stuck.2 rest_ordered waiter inside with shared | other
      · obtain ⟨id, own, taken⟩ := shared
        rcases taken with holds | passed
        · exact Or.inl ⟨id, own, Or.inl holds⟩
        · rcases mem_union.mp passed with old | first_id
          · exact Or.inl ⟨id, own, Or.inr old⟩
          · exact Or.inr ⟨first, List.mem_cons_self, before waiter inside,
              not_disjoint_iff.mpr ⟨id, own, first_id⟩⟩
      · obtain ⟨earlier_one, waits, lt, shares⟩ := other
        exact Or.inr ⟨earlier_one, List.mem_cons_of_mem first waits, lt, shares⟩

theorem none_forgotten (settled : Settled state) : NoneForgotten state := by
  intro waiter member
  cases stuck_reason state.waiting settled.stuck settled.queue.ordered waiter member with
  | inl shared =>
    obtain ⟨id, own, taken⟩ := shared
    apply Or.inl
    rcases taken with holds | none_earlier
    · obtain ⟨owner, owns, inside⟩ := (settled.queue.active id).mp holds
      obtain ⟨holder, present, same⟩ := List.mem_map.mp owns
      rw [← same] at inside
      exact ⟨holder, present, not_disjoint_iff.mpr ⟨id, own, inside⟩⟩
    · exact absurd none_earlier (notMem_empty id)
  | inr other => exact Or.inr other

theorem barred_of_aborted (sound : Sound state) {waiter : Waiter}
    (stands : waiter ∈ state.waiting ∨ ⟨waiter, .granted⟩ ∈ state.holders)
    (aborted : waiter.signal ∈ state.aborted) : Barred waiter.call state := by
  have queue := sound.settled.queue
  apply Barred.mk
  · rcases stands with waits | holds
    · exact queue.waiting_old waiter waits
    · exact queue.held_old waiter (mem_held holds)
  · exact sound.durable.unstarted waiter stands
  · intro other member same
    rcases stands with waits | holds
    · have equal : other = waiter := by
        have increasing : Std.Symm fun a b : Waiter => a.call ≠ b.call := ⟨fun _ _ ne => ne.symm⟩
        by_contra different
        have apart : state.waiting.Pairwise fun a b => a.call ≠ b.call :=
          queue.ordered.imp Nat.ne_of_lt
        exact apart.forall member waits different same
      rw [equal]
      exact aborted
    · exact absurd same.symm (queue.separate waiter (mem_held holds) other member)
  · intro other member same
    rcases stands with waits | holds
    · exact absurd same (queue.separate other (mem_held member) waiter waits)
    · have equal : other = waiter := queue.unique (mem_held member) (mem_held holds) same
      rw [equal]
      exact aborted

theorem find_distinct {holder : Holder} (holders : List Holder) (member : holder ∈ holders)
    (distinct : (holders.map Holder.waiter).Pairwise fun a b => a.call ≠ b.call) :
    (holders.find? fun other => other.waiter.call = holder.waiter.call) = some holder := by
  induction holders with
  | nil => cases member
  | cons first rest ih =>
    obtain ⟨differs, rest_distinct⟩ := List.pairwise_cons.mp distinct
    rw [List.find?_cons]
    rcases List.mem_cons.mp member with same | inside
    · simp [same]
    · have other := differs holder.waiter (List.mem_map_of_mem inside)
      rw [decide_eq_false other]
      exact ih inside rest_distinct

theorem resume_refused (sound : Sound state) {other : Waiter}
    (granted : ⟨other, .granted⟩ ∈ state.holders) (owed : debt ∈ state.owed)
    (shares : ¬Disjoint other.ids debt.ids) :
    step state (.resume other.call) = release state other := by
  have found : findHolder state other.call = some ⟨other, .granted⟩ :=
    find_distinct state.holders granted sound.settled.queue.distinct
  have pending : ¬Disjoint other.ids state.pending := by
    intro free
    exact shares (free.mono_right (sound.durable.kept debt owed).1)
  simp only [step, found, resumeHolder]
  rw [if_pos pending, ite_self]

/-- In every state of every run: no two works hold a common id, nobody is overtaken by a later
call with a common id, and every waiter is kept waiting by a holder or by an earlier waiter. A
call whose signal is aborted before its work starts never starts. After `begin` has returned a
call with a common id is refused when its turn comes, until the ids are cleared from the file. -/
theorem lifecycle_exclusion_kept (events : List Event) :
    NoneShared (run step events initial) ∧ NoneOvertaken (run step events initial) ∧
      NoneForgotten (run step events initial) ∧
      (∀ waiter, waiter ∈ (run step events initial).waiting ∨
          ⟨waiter, .granted⟩ ∈ (run step events initial).holders →
        waiter.signal ∈ (run step events initial).aborted →
        ∀ later, waiter.call ∉ (run step (events ++ later) initial).started) ∧
      ∀ waiter, ⟨waiter, .working true⟩ ∈ (run step events initial).holders →
        ∀ later : List Event, (∀ event ∈ later, ¬Clears waiter.call event) →
        ∀ other, ⟨other, .granted⟩ ∈ (run step (events ++ later) initial).holders →
          ¬Disjoint other.ids waiter.ids →
          step (run step (events ++ later) initial) (.resume other.call) =
            release (run step (events ++ later) initial) other := by
  have sound := run_sound events
  have queue := sound.settled.queue
  apply And.intro
  · have apart : ((run step events initial).holders.map Holder.waiter).Pairwise
        fun a b => Disjoint a.ids b.ids := queue.apart
    rw [List.pairwise_map] at apart
    exact apart
  apply And.intro
  · intro holder member waiter waits
    exact queue.fair holder.waiter (mem_held member) waiter waits
  apply And.intro (none_forgotten sound.settled)
  apply And.intro
  · intro waiter stands aborted later
    rw [run_append]
    exact (run_barred sound (barred_of_aborted sound stands aborted) later).unstarted
  · intro waiter working later kept other granted shares
    have owed := sound.durable.begun waiter working
    have still_owed := run_owed owed later kept
    rw [← run_append] at still_owed
    exact resume_refused (run_sound (events ++ later)) granted still_owed shares

/-- A begun creation is denied to a call after a restart. -/
theorem restarted_call_refused : step (run step ([.call true ["a"] 0, .resume 0, .begin 0 .done] ++
        [.restart, .call false ["a", "b"] 1]) initial) (.resume 1) =
      release (run step ([.call true ["a"] 0, .resume 0, .begin 0 .done] ++
        [.restart, .call false ["a", "b"] 1]) initial) ⟨1, false, {"a", "b"}, 1⟩ := by
  have kept := lifecycle_exclusion_kept [.call true ["a"] 0, .resume 0, .begin 0 .done]
  apply kept.2.2.2.2 ⟨0, true, {"a"}, 0⟩ (by decide +kernel)
    [.restart, .call false ["a", "b"] 1] _ ⟨1, false, {"a", "b"}, 1⟩ (by decide +kernel)
    (by decide +kernel)
  intro event member
  rcases List.mem_cons.mp member with first | second
  · rw [first]
    exact id
  · rw [List.mem_singleton.mp second]
    exact id

/-- Also after restarts, which always succeed: the ids of an effect that has begun and is not
cleared are in the file, the file can be read back, and no work of another call touches them. -/
theorem unsettled_effects_guarded (events : List Event) :
    (run step events initial).alive = true ∧
      readPending (run step events initial).file = some (run step events initial).file ∧
      ∀ debt ∈ (run step events initial).owed, debt.ids ⊆ (run step events initial).file ∧
        ∀ waiter begun, ⟨waiter, .working begun⟩ ∈ (run step events initial).holders →
          debt.call ≠ waiter.call → Disjoint debt.ids waiter.ids := by
  have durable := (run_sound events).durable
  refine ⟨durable.alive, read_readable durable.file_readable, fun debt owed => ?_⟩
  exact ⟨(durable.kept debt owed).2,
    fun waiter begun works other => durable.apart waiter begun works debt owed other⟩

end OpenMapX.Ops.ExclusionRuns
