import Mathlib

/-!
# Digits on a ladder of resolutions

A value is read from the coarsest resolution to the finest, and each digit
hands the rest of the value on. The digits name a cell as wide as the finest
resolution: the value lies in it, and every value in it has the same digits.
-/

namespace OpenMapX.Foundation.DigitLadder

open List

variable {K : Type} [Field K]

def valueOf : List K → List ℤ → K
  | r :: rest, d :: ds => d * r + valueOf rest ds
  | _, _ => 0

def coarsest (ladder : List K) : K := ladder.headD 0

def finest (ladder : List K) : K := ladder.getLastD 0

theorem finest_cons (r s : K) (rest : List K) : finest (r :: s :: rest) = finest (s :: rest) := by
  simp [finest]

variable [LinearOrder K]

/-- Each resolution is `base` times the one after it. -/
def Ladder (base : ℕ) : List K → Prop
  | [] => False
  | [last] => 0 < last
  | r :: s :: rest => r = base * s ∧ Ladder base (s :: rest)

variable [FloorRing K]

def digits : List K → K → List ℤ
  | [], _ => []
  | r :: rest, v => ⌊v / r⌋ :: digits rest (v - ⌊v / r⌋ * r)

theorem length_digits (ladder : List K) (v : K) : (digits ladder v).length = ladder.length := by
  induction ladder generalizing v with
  | nil => rfl
  | cons r rest ih => simp [digits, ih]

variable [IsStrictOrderedRing K]

/-- The part of a value that the digit at resolution `r` leaves. -/
theorem rest_bounds {r : K} (positive : 0 < r) (v : K) :
    0 ≤ v - ⌊v / r⌋ * r ∧ v - ⌊v / r⌋ * r < r := by
  have lower : (⌊v / r⌋ : K) * r ≤ v := (le_div_iff₀ positive).mp (Int.floor_le _)
  have upper : v < (⌊v / r⌋ + 1) * r := (div_lt_iff₀ positive).mp (Int.lt_floor_add_one _)
  constructor
  · linarith
  · linarith

theorem floor_div_eq {r : K} (positive : 0 < r) {d : ℤ} {w : K} (lower : d * r ≤ w)
    (upper : w < d * r + r) : ⌊w / r⌋ = d := by
  rw [Int.floor_eq_iff]
  constructor
  · exact (le_div_iff₀ positive).mpr lower
  · exact (div_lt_iff₀ positive).mpr (by linarith)

theorem digit_lt {base : ℕ} {r v : K} (positive : 0 < r) (below : v < base * r) :
    ⌊v / r⌋ + 1 ≤ base := by
  have : ⌊v / r⌋ < (base : ℤ) := by
    rw [Int.floor_lt]
    push_cast
    exact (div_lt_iff₀ positive).mpr below
  omega

theorem coarsest_pos {base : ℕ} (some_base : 0 < base) :
    ∀ {ladder : List K}, Ladder base ladder → 0 < coarsest ladder := by
  intro ladder
  induction ladder with
  | nil => exact fun h => h.elim
  | cons r rest ih =>
    cases rest with
    | nil => exact fun h => h
    | cons s rest =>
      intro h
      have next : 0 < s := ih h.2
      change 0 < r
      rw [h.1]
      exact mul_pos (by exact_mod_cast some_base) next

section

variable {base : ℕ} (some_base : 0 < base) {ladder : List K} (steps : Ladder base ladder)
include some_base steps

theorem value_bounds (v : K) : valueOf ladder (digits ladder v) ≤ v ∧
      v < valueOf ladder (digits ladder v) + finest ladder := by
  induction ladder generalizing v with
  | nil => exact steps.elim
  | cons r rest ih =>
    have positive : 0 < r := coarsest_pos some_base steps
    cases rest with
    | nil =>
      have := rest_bounds positive v
      simp only [digits, valueOf, finest, getLastD_cons, getLastD_nil]
      constructor
      · linarith [this.1]
      · linarith [this.2]
    | cons s rest =>
      have inner := ih steps.2 (v - ⌊v / r⌋ * r)
      rw [finest_cons]
      rw [digits, valueOf]
      constructor
      · linarith [inner.1]
      · linarith [inner.2]

theorem value_nonneg {v : K} (nonneg : 0 ≤ v) : 0 ≤ valueOf ladder (digits ladder v) := by
  induction ladder generalizing v with
  | nil => exact steps.elim
  | cons r rest ih =>
    have positive : 0 < r := coarsest_pos some_base steps
    have digit : (0 : K) ≤ ⌊v / r⌋ := by
      exact_mod_cast Int.floor_nonneg.mpr (div_nonneg nonneg positive.le)
    have head : 0 ≤ ⌊v / r⌋ * r := mul_nonneg digit positive.le
    rw [digits, valueOf]
    cases rest with
    | nil => simpa [valueOf] using head
    | cons s rest =>
      have inner := ih steps.2 (rest_bounds positive v).1
      linarith

theorem value_room {v : K} (below : v < base * coarsest ladder) :
    valueOf ladder (digits ladder v) + finest ladder ≤ base * coarsest ladder := by
  induction ladder generalizing v with
  | nil => exact steps.elim
  | cons r rest ih =>
    have positive : 0 < r := coarsest_pos some_base steps
    change v < base * r at below
    have digit : (⌊v / r⌋ : K) + 1 ≤ base := by
      exact_mod_cast digit_lt positive below
    have room : ((⌊v / r⌋ : K) + 1) * r ≤ base * r := mul_le_mul_of_nonneg_right digit positive.le
    change _ ≤ base * r
    cases rest with
    | nil =>
      simp only [digits, valueOf, finest, getLastD_cons, getLastD_nil]
      linarith
    | cons s rest =>
      have handed : v - ⌊v / r⌋ * r < base * s := by
        rw [← steps.1]
        exact (rest_bounds positive v).2
      have inner := ih steps.2 handed
      change _ ≤ base * s at inner
      rw [finest_cons]
      rw [digits, valueOf]
      rw [← steps.1] at inner
      linarith

theorem digits_eq {v w : K} (nonneg : 0 ≤ v) (below : v < base * coarsest ladder)
    (lower : valueOf ladder (digits ladder v) ≤ w)
    (upper : w < valueOf ladder (digits ladder v) + finest ladder) :
    digits ladder w = digits ladder v := by
  induction ladder generalizing v w with
  | nil => exact steps.elim
  | cons r rest ih =>
    have positive : 0 < r := coarsest_pos some_base steps
    cases rest with
    | nil =>
      simp only [digits, valueOf, finest, getLastD_cons, getLastD_nil] at lower upper
      have same : ⌊w / r⌋ = ⌊v / r⌋ := floor_div_eq positive (by linarith) (by linarith)
      simp [digits, same]
    | cons s rest =>
      have bounds := rest_bounds positive v
      have handed : v - ⌊v / r⌋ * r < base * s := by
        rw [← steps.1]
        exact bounds.2
      have floor := value_nonneg some_base steps.2 bounds.1
      have room := value_room some_base steps.2 handed
      change _ ≤ base * s at room
      rw [← steps.1] at room
      rw [finest_cons] at upper
      rw [digits, valueOf] at lower upper
      have same : ⌊w / r⌋ = ⌊v / r⌋ := floor_div_eq positive (by linarith) (by linarith)
      have inner := ih steps.2 bounds.1 handed (w := w - ⌊v / r⌋ * r)
        (by linarith) (by linarith)
      rw [digits, same, inner]
      rfl

theorem digits_range {v : K} (nonneg : 0 ≤ v) (below : v < base * coarsest ladder) :
    ∀ d ∈ digits ladder v, 0 ≤ d ∧ d < base := by
  induction ladder generalizing v with
  | nil => exact steps.elim
  | cons r rest ih =>
    have positive : 0 < r := coarsest_pos some_base steps
    have top := digit_lt positive below
    have bounds := rest_bounds positive v
    intro d member
    rw [digits] at member
    rcases mem_cons.mp member with rfl | later
    · exact ⟨Int.floor_nonneg.mpr (div_nonneg nonneg positive.le), by omega⟩
    · cases rest with
      | nil => simp [digits] at later
      | cons s rest =>
        exact ih steps.2 bounds.1 (by simpa [coarsest, ← steps.1] using bounds.2) d later

end

end OpenMapX.Foundation.DigitLadder
