import Mathlib.Data.List.Infix

/-!
# Runs of a deterministic system

A run folds a step function over a list of events. What a step preserves, a run
preserves, and what holds after a step exactly under a condition on the state before
it holds along a run exactly if each of its states meets that condition.
-/

namespace OpenMapX.Foundation.Runs

open List

variable {State Event : Type*} (step : State → Event → State)

def run (events : List Event) (start : State) : State := events.foldl step start

@[simp] theorem run_nil (start : State) : run step [] start = start := rfl

@[simp] theorem run_cons (event : Event) (events : List Event) (start : State) :
    run step (event :: events) start = run step events (step start event) := rfl

theorem run_append (first second : List Event) (start : State) :
    run step (first ++ second) start = run step second (run step first start) := by
  simp [run, foldl_append]

theorem run_snoc (events : List Event) (event : Event) (start : State) :
    run step (events ++ [event]) start = step (run step events start) event := by
  rw [run_append]
  rfl

variable {step}

section

variable {holds : State → Prop}

/-- A property that each allowed event preserves holds after every run of such events. -/
theorem run_invariant {allowed : Event → Prop}
    (preserved : ∀ state event, allowed event → holds state → holds (step state event))
    (events : List Event) (each : ∀ event ∈ events, allowed event) (start : State)
    (initially : holds start) : holds (run step events start) := by
  induction events generalizing start with
  | nil => exact initially
  | cons event events ih =>
    apply ih
    · intro later member
      exact each later (mem_cons_of_mem event member)
    · exact preserved start event (each event mem_cons_self) initially

theorem run_keeps (preserved : ∀ state event, holds state → holds (step state event))
    (events : List Event) (start : State) (initially : holds start) :
    holds (run step events start) :=
  @run_invariant State Event step holds (fun _ => True)
    (fun state event _ => preserved state event) events (fun _ _ => trivial) start initially

/-- What each step preserves while it is allowed holds in every state of a run whose
steps are all allowed. -/
theorem run_guarded {allowed : State → Event → Prop}
    (preserved : ∀ state event, allowed state event → holds state → holds (step state event))
    (events : List Event) (start : State) (initially : holds start)
    (each : ∀ earlier event, earlier ++ [event] <+: events →
      allowed (run step earlier start) event) (reached : List Event)
    (within : reached <+: events) : holds (run step reached start) := by
  induction reached using reverseRecOn with
  | nil => exact initially
  | append_singleton earlier event ih =>
    rw [run_snoc]
    apply preserved
    · exact each earlier event within
    · exact ih ((prefix_append earlier [event]).trans within)

end

section

variable {kept holds : State → Prop} {allowed : State → Event → Prop}
  (preserved : ∀ state event, kept state → kept (step state event))
  (each : ∀ state event, kept state → holds state → (holds (step state event) ↔ allowed state event))
include preserved each

/-- What a step preserves exactly while it is allowed holds in every state of a run
exactly if all of the run's steps are allowed. -/
theorem run_guarded_iff (events : List Event) (start : State) (keptStart : kept start)
    (initially : holds start) : (∀ reached, reached <+: events → holds (run step reached start)) ↔
    (∀ earlier event, earlier ++ [event] <+: events → allowed (run step earlier start) event) := by
  have keptAfter : ∀ earlier, kept (run step earlier start) :=
    fun earlier => run_keeps preserved earlier start keptStart
  constructor
  · intro always earlier event reached
    have before := always earlier ((prefix_append earlier [event]).trans reached)
    have after := always (earlier ++ [event]) reached
    rw [run_snoc] at after
    exact (each _ event (keptAfter earlier) before).mp after
  · intro guarded reached within
    induction reached using reverseRecOn with
    | nil => exact initially
    | append_singleton earlier event ih =>
      rw [run_snoc]
      have before := ih ((prefix_append earlier [event]).trans within)
      exact (each _ event (keptAfter earlier) before).mpr (guarded earlier event within)

/-- What no step can restore holds after a run exactly if it held at the start and each
step of the run kept it. -/
theorem run_final_iff (back : ∀ state event, kept state → holds (step state event) → holds state)
    (events : List Event) (start : State) (keptStart : kept start) :
    holds (run step events start) ↔ holds start ∧
      (∀ earlier event, earlier ++ [event] <+: events → allowed (run step earlier start) event) := by
  have keptAfter : ∀ earlier, kept (run step earlier start) :=
    fun earlier => run_keeps preserved earlier start keptStart
  have earlierHolds : ∀ later earlier, holds (run step (earlier ++ later) start) →
      holds (run step earlier start) := by
    intro later
    induction later using reverseRecOn with
    | nil =>
      intro earlier final
      simpa using final
    | append_singleton rest event ih =>
      intro earlier final
      rw [← append_assoc, run_snoc] at final
      exact ih earlier (back _ event (keptAfter _) final)
  constructor
  · intro final
    have initially : holds start := earlierHolds events [] final
    apply And.intro initially
    apply (run_guarded_iff preserved each events start keptStart initially).mp
    intro reached within
    obtain ⟨rest, whole⟩ := within
    apply earlierHolds rest reached
    rw [whole]
    exact final
  · intro guarded
    exact (run_guarded_iff preserved each events start keptStart guarded.1).mpr guarded.2
      events prefix_rfl

end

/-- Each step of a run is allowed if its first one is and each step of the rest is. -/
theorem guarded_cons {allowed : State → Event → Prop} {event : Event} {events} {start : State}
    (first : allowed start event) (rest : ∀ earlier later, earlier ++ [later] <+: events →
      allowed (run step earlier (step start event)) later) :
    ∀ earlier later, earlier ++ [later] <+: event :: events →
      allowed (run step earlier start) later := by
  intro earlier later within
  cases earlier with
  | nil =>
    rw [nil_append, cons_prefix_cons] at within
    rw [within.1]
    exact first
  | cons other earlier =>
    rw [cons_append, cons_prefix_cons] at within
    rw [within.1]
    exact rest earlier later within.2

theorem guarded_nil {allowed : State → Event → Prop} {start : State} :
    ∀ earlier event, earlier ++ [event] <+: ([] : List Event) →
      allowed (run step earlier start) event := by
  intro earlier event within
  rw [prefix_nil] at within
  simp at within

theorem along_run_iff {holds : State → Prop} {allowed : Event → Prop}
    {after before : State → Event → Prop}
    (preserved : ∀ state event, allowed event → holds state → holds (step state event))
    (each : ∀ state event, allowed event → holds state →
      (after (step state event) event ↔ before state event)) (events : List Event)
    (every : ∀ event ∈ events, allowed event) (start : State) (initially : holds start) :
    (∀ earlier event, earlier ++ [event] <+: events →
      after (run step (earlier ++ [event]) start) event) ↔
    (∀ earlier event, earlier ++ [event] <+: events → before (run step earlier start) event) := by
  have one : ∀ earlier event, earlier ++ [event] <+: events →
      (after (run step (earlier ++ [event]) start) event ↔
        before (run step earlier start) event) := by
    intro earlier event reached
    have allowed_event : allowed event := every event (reached.subset (by simp))
    have allowed_earlier : ∀ other ∈ earlier, allowed other := by
      intro other member
      exact every other (reached.subset (by simp [member]))
    rw [run_snoc]
    exact each _ event allowed_event
      (run_invariant preserved earlier allowed_earlier start initially)
  constructor
  · intro follows earlier event reached
    exact (one earlier event reached).mp (follows earlier event reached)
  · intro precedes earlier event reached
    exact (one earlier event reached).mpr (precedes earlier event reached)

end OpenMapX.Foundation.Runs
