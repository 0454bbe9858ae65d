import Mathlib.Algebra.Order.Monoid.Defs

/-!
# Running totals and how far a budget reaches
-/

namespace OpenMapX.RunningTotals

open List

variable {α : Type*}

section

variable [AddMonoid α] [Preorder α] [AddLeftMono α]

theorem scanl_ascending (start : α) (amounts : List α) (nonneg : ∀ amount ∈ amounts, 0 ≤ amount) :
    (amounts.scanl (· + ·) start).Pairwise (· ≤ ·) := by
  induction amounts generalizing start with
  | nil => simp
  | cons amount rest ih =>
    have later := ih (start + amount) fun other member => nonneg other (.tail _ member)
    have grows : start ≤ start + amount := le_add_of_nonneg_right (nonneg amount (.head _))
    rw [scanl_cons]
    apply List.Pairwise.cons
    · intro value member
      cases rest with
      | nil =>
        rw [scanl_nil, mem_singleton] at member
        exact member ▸ grows
      | cons next others =>
        rw [scanl_cons] at member later
        rcases mem_cons.mp member with rfl | there
        · exact grows
        · exact grows.trans ((pairwise_cons.mp later).1 value there)
    · exact later

end

section

variable [LE α] [DecidableLE α]

def reach (budget : α) (levels : List α) : Nat :=
  (levels.takeWhile fun level => level ≤ budget).length

theorem reached_within (budget : α) (levels : List α) (position : Nat)
    (counted : position < reach budget levels) :
    ∃ level, levels[position]? = some level ∧ level ≤ budget := by
  induction levels generalizing position with
  | nil => simp [reach] at counted
  | cons first rest ih =>
    by_cases within : first ≤ budget
    · cases position with
      | zero => exact ⟨first, rfl, within⟩
      | succ position =>
        apply ih position
        simpa [reach, within] using counted
    · simp [reach, within] at counted

end

end OpenMapX.RunningTotals
