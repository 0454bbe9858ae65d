/-!
# Loops with a bound and early exits

A loop makes at most a fixed number of iterations. Each iteration either leaves
the loop with an exit or logs an entry and continues with a new state.
-/

namespace OpenMapX.BoundedLoop

universe u v w

variable {State : Type u} {Entry : Type v} {Exit : Type w}

inductive Outcome (State : Type u) (Entry : Type v) (Exit : Type w) where
  | leave (exit : Exit)
  | next (entry : Entry) (state : State)

/-- The logged entries, the last state, and the exit taken if the bound did not
end the loop. -/
structure Run (State : Type u) (Entry : Type v) (Exit : Type w) where
  entries : List Entry
  state : State
  exit : Option Exit

def run (step : State → Outcome State Entry Exit) : Nat → State → Run State Entry Exit
  | 0, state => ⟨[], state, none⟩
  | bound + 1, state =>
    match step state with
    | .leave exit => ⟨[], state, some exit⟩
    | .next entry state =>
      let later := run step bound state
      ⟨entry :: later.entries, later.state, later.exit⟩

variable (step : State → Outcome State Entry Exit)

section

variable (bound : Nat) (state : State)

theorem run_length_le : (run step bound state).entries.length ≤ bound := by
  induction bound generalizing state with
  | zero => exact Nat.le_refl 0
  | succ bound ih =>
    rw [run]
    cases step state with
    | leave exit => exact Nat.zero_le _
    | next entry state => exact Nat.succ_le_succ (ih state)

theorem run_length_eq (complete : (run step bound state).exit = none) :
    (run step bound state).entries.length = bound := by
  induction bound generalizing state with
  | zero => rfl
  | succ bound ih =>
    rw [run] at complete ⊢
    cases reply : step state with
    | leave exit => rw [reply] at complete; cases complete
    | next entry state =>
      rw [reply] at complete
      exact congrArg Nat.succ (ih state complete)

theorem run_length_lt (exit : Exit) (left : (run step bound state).exit = some exit) :
    (run step bound state).entries.length < bound := by
  induction bound generalizing state with
  | zero => cases left
  | succ bound ih =>
    rw [run] at left ⊢
    cases reply : step state with
    | leave taken => exact Nat.succ_pos bound
    | next entry state =>
      rw [reply] at left
      exact Nat.succ_lt_succ (ih state left)

theorem run_exit (exit : Exit) (left : (run step bound state).exit = some exit) :
    step (run step bound state).state = .leave exit := by
  induction bound generalizing state with
  | zero => cases left
  | succ bound ih =>
    rw [run] at left ⊢
    cases reply : step state with
    | leave taken =>
      rw [reply] at left
      obtain rfl := Option.some.inj left
      exact reply
    | next entry state =>
      rw [reply] at left
      exact ih state left

end

inductive LoopPath (link : State → Entry → State → Prop) : State → List Entry → State → Prop where
  | here (state : State) : LoopPath link state [] state
  | step {state middle last : State} {entry : Entry} {rest : List Entry}
      (linked : link state entry middle) (later : LoopPath link middle rest last) :
      LoopPath link state (entry :: rest) last

section

variable {link : State → Entry → State → Prop} {step}

/-- An invariant of the states, preserved by each iteration together with the link
it makes, links the whole run. -/
theorem run_path (invariant : State → Prop)
    (preserved : ∀ state entry later, invariant state → step state = .next entry later →
      link state entry later ∧ invariant later)
    (bound : Nat) (state : State) (holds : invariant state) :
    LoopPath link state (run step bound state).entries (run step bound state).state := by
  induction bound generalizing state with
  | zero => exact .here state
  | succ bound ih =>
    rw [run]
    cases reply : step state with
    | leave exit => exact .here state
    | next entry later =>
      obtain ⟨linked, holdsLater⟩ := preserved state entry later holds reply
      exact .step linked (ih later holdsLater)

variable {first last : State} {entries : List Entry}

theorem LoopPath.forall (good : Entry → Prop) (path : LoopPath link first entries last)
    (each : ∀ state entry later, link state entry later → good entry) :
    ∀ entry ∈ entries, good entry := by
  induction path with
  | here state =>
    intro entry member
    cases member
  | step linked later ih =>
    intro entry member
    cases member with
    | head => exact each _ _ _ linked
    | tail _ member => exact ih entry member

/-- When each link logs a mark past its state's and moves the state to it, the
logged marks increase strictly. -/
theorem LoopPath.marks_increase (mark : State → Nat) (logged : Entry → Nat)
    (path : LoopPath link first entries last)
    (advances : ∀ state entry later, link state entry later →
      mark state < logged entry ∧ logged entry = mark later) :
    (∀ entry ∈ entries, mark first < logged entry) ∧ (entries.map logged).Pairwise (· < ·) := by
  induction path with
  | here state =>
    constructor
    · intro entry member
      cases member
    · exact List.Pairwise.nil
  | step linked later ih =>
    obtain ⟨past, same⟩ := advances _ _ _ linked
    obtain ⟨above, increasing⟩ := ih
    constructor
    · intro other member
      cases member with
      | head => exact past
      | tail _ member => exact Nat.lt_trans past (same ▸ above other member)
    · apply List.Pairwise.cons
      · intro value member
        obtain ⟨other, there, rfl⟩ := List.mem_map.mp member
        exact same ▸ above other there
      · exact increasing

/-- A quantity each entry hands to the state after it is, at the end, the last
entry's. -/
theorem LoopPath.final_value {Value : Type} (ofState : State → Value) (ofEntry : Entry → Value)
    (path : LoopPath link first entries last)
    (hands : ∀ state entry later, link state entry later → ofState later = ofEntry entry) :
    ofState last = ((entries.getLast?).map ofEntry).getD (ofState first) := by
  induction path with
  | here state => rfl
  | @step state middle last entry rest linked later ih =>
    rw [ih, hands _ _ _ linked, List.getLast?_cons]
    cases rest.getLast? <;> rfl

theorem LoopPath.length_eq (count : State → Nat) (path : LoopPath link first entries last)
    (counts : ∀ state entry later, link state entry later → count later = count state + 1) :
    count last = count first + entries.length := by
  induction path with
  | here state => rfl
  | step linked later ih =>
    rw [ih, counts _ _ _ linked, List.length_cons]
    omega

end

end OpenMapX.BoundedLoop
