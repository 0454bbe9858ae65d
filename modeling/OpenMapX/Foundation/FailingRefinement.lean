import Mathlib

/-!
# Refinement of programs that fail

A program with error messages follows a specification without them if it fails where the
specification has no value and otherwise returns a related value.
-/

namespace OpenMapX.Foundation.FailingRefinement

variable {Error Value Spec Next NextSpec : Type}

def Follows (related : Value → Spec → Prop) (program : Except Error Value)
    (specification : Option Spec) : Prop :=
  match specification with
  | some spec => ∃ value, program = .ok value ∧ related value spec
  | none => ∃ error, program = .error error

variable {related : Value → Spec → Prop} {follows_next : Next → NextSpec → Prop}

theorem Follows.value {value : Value} {spec : Spec} (holds : related value spec) :
    Follows related (.ok value : Except Error Value) (some spec) := ⟨value, rfl, holds⟩

theorem Follows.failed {error : Error} :
    Follows related (.error error : Except Error Value) none := ⟨error, rfl⟩

theorem Follows.bind {program specification} (first : Follows related program specification)
    {rest : Value → Except Error Next} {specified : Spec → Option NextSpec}
    (second : ∀ value spec, related value spec →
      Follows follows_next (rest value) (specified spec)) :
    Follows follows_next (program >>= rest) (specification.bind specified) := by
  cases specification with
  | none =>
    obtain ⟨error, failed⟩ := first
    rw [failed]
    exact ⟨error, rfl⟩
  | some spec =>
    obtain ⟨value, returned, holds⟩ := first
    rw [returned]
    exact second value spec holds

theorem Follows.step (program)
    {rest : Value → Except Error Next} {specified : Value → Option NextSpec}
    (second : ∀ value, program = .ok value → Follows follows_next (rest value) (specified value)) :
    Follows follows_next (program >>= rest) (program.toOption.bind specified) := by
  cases program with
  | error error => exact ⟨error, rfl⟩
  | ok value => exact second value rfl

theorem Follows.eq_of_related {program : Except Error Value} {specification : Option Value}
    (follows : Follows Eq program specification) : program.toOption = specification := by
  cases specification with
  | none =>
    obtain ⟨error, failed⟩ := follows
    rw [failed]
    rfl
  | some spec =>
    obtain ⟨value, returned, same⟩ := follows
    rw [returned, same]
    rfl

end OpenMapX.Foundation.FailingRefinement
