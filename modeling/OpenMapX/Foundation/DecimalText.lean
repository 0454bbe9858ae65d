import Mathlib

/-!
# Decimal digits

The digits of a natural number are digits, and the first of a positive one is not zero.
-/

namespace OpenMapX.Foundation.DecimalText

theorem digits_all (n : Nat) : ∀ digit ∈ Nat.toDigits 10 n, digit.isDigit = true := by
  intro digit member
  exact Nat.isDigit_of_mem_toDigits (by decide) (by decide) member

theorem digits_head (n : Nat) (positive : 0 < n) :
    ∃ first rest, Nat.toDigits 10 n = first :: rest ∧ first ≠ '0' := by
  induction n using Nat.strong_induction_on with
  | h n ih =>
    by_cases small : n < 10
    · apply Exists.intro n.digitChar
      apply Exists.intro []
      apply And.intro (Nat.toDigits_of_lt_base small)
      have one_digit : ∀ m < 10, 0 < m → Nat.digitChar m ≠ '0' := by decide
      exact one_digit n small positive
    · have larger : 10 ≤ n := Nat.le_of_not_lt small
      obtain ⟨first, rest, digits, nonzero⟩ := ih (n / 10) (by omega) (by omega)
      apply Exists.intro first
      apply Exists.intro (rest ++ [Nat.digitChar (n % 10)])
      apply And.intro
      · rw [Nat.toDigits_of_base_le (by decide) larger, digits, List.cons_append]
      · exact nonzero

end OpenMapX.Foundation.DecimalText
