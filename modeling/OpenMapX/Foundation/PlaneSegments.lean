import Mathlib

/-!
# Segments in the plane

Two segments that do not lie on one line have a point in common exactly when the ends
of each lie on different sides of the other. A point is as far from a segment as from
its line when its foot on the line lies within the segment.
-/

namespace OpenMapX.Foundation.PlaneSegments

abbrev Point := ℝ × ℝ

def turn (p q r : Point) : ℝ := (q.1 - p.1) * (r.2 - p.2) - (q.2 - p.2) * (r.1 - p.1)

def along (p q : Point) (share : ℝ) : Point :=
  (p.1 + share * (q.1 - p.1), p.2 + share * (q.2 - p.2))

/-- The segments from `a` to `b` and from `c` to `d` have a point in common. -/
def Meet (a b c d : Point) : Prop :=
  ∃ s t : ℝ, (0 ≤ s ∧ s ≤ 1) ∧ (0 ≤ t ∧ t ≤ 1) ∧ along a b s = along c d t

def Aligned (a b c d : Point) : Prop :=
  (turn a b c = 0 ∧ turn a b d = 0) ∧ turn c d a = 0 ∧ turn c d b = 0

theorem turn_along (p q a b : Point) (share : ℝ) :
    turn p q (along a b share) = (1 - share) * turn p q a + share * turn p q b := by
  simp only [turn, along]
  ring

theorem turn_own (p q : Point) (share : ℝ) : turn p q (along p q share) = 0 := by
  simp only [turn, along]
  ring

theorem turn_differences (a b c d : Point) : turn a b d - turn a b c = turn c d a - turn c d b := by
  simp only [turn]
  ring

theorem mean_pos {x y share : ℝ} (low : 0 ≤ share) (high : share ≤ 1) (left : 0 < x)
    (right : 0 < y) : 0 < (1 - share) * x + share * y := by
  rcases lt_or_eq_of_le high with less | whole
  · have first : 0 < (1 - share) * x := mul_pos (sub_pos.mpr less) left
    have second : 0 ≤ share * y := mul_nonneg low (le_of_lt right)
    linarith
  · rw [whole]
    linarith

theorem mean_zero {x y share : ℝ} (low : 0 ≤ share) (high : share ≤ 1)
    (mean : (1 - share) * x + share * y = 0) (same : SignType.sign x = SignType.sign y) :
    x = 0 ∧ y = 0 := by
  rcases lt_trichotomy x 0 with negative | zero | positive
  · rw [sign_neg negative] at same
    have other : y < 0 := sign_eq_neg_one_iff.mp same.symm
    have opposite := mean_pos low high (neg_pos.mpr negative) (neg_pos.mpr other)
    linarith
  · rw [zero, sign_zero] at same
    exact ⟨zero, sign_eq_zero_iff.mp same.symm⟩
  · rw [sign_pos positive] at same
    have other : 0 < y := sign_eq_one_iff.mp same.symm
    have own := mean_pos low high positive other
    linarith

theorem turns_differ_of_meet {a b c d : Point} (meet : Meet a b c d) (apart : ¬ Aligned a b c d) :
    SignType.sign (turn a b c) ≠ SignType.sign (turn a b d) := by
  intro same
  obtain ⟨s, t, ⟨sLow, sHigh⟩, ⟨tLow, tHigh⟩, point⟩ := meet
  have first : (1 - t) * turn a b c + t * turn a b d = 0 := by
    rw [← turn_along, ← point, turn_own]
  have second : (1 - s) * turn c d a + s * turn c d b = 0 := by
    rw [← turn_along, point, turn_own]
  obtain ⟨left, right⟩ := mean_zero tLow tHigh first same
  have equal : turn c d a = turn c d b := by
    have differences := turn_differences a b c d
    rw [left, right] at differences
    linarith
  have zero : turn c d a = 0 := by
    rw [← equal] at second
    linarith
  exact apart ⟨⟨left, right⟩, zero, equal ▸ zero⟩

/-- Of two numbers of different signs the smaller is not positive, the larger not negative. -/
theorem sides_of_differ {x y : ℝ} (differ : SignType.sign x ≠ SignType.sign y) (less : x < y) :
    x ≤ 0 ∧ 0 ≤ y := by
  constructor
  · by_contra above
    have left : 0 < x := not_le.mp above
    exact differ (by rw [sign_pos left, sign_pos (lt_trans left less)])
  · by_contra below
    have right : y < 0 := not_le.mp below
    exact differ (by rw [sign_neg right, sign_neg (lt_trans less right)])

theorem cancelling_share {x y : ℝ} (differ : SignType.sign x ≠ SignType.sign y) :
    x - y ≠ 0 ∧ 0 ≤ x / (x - y) ∧ x / (x - y) ≤ 1 := by
  have apart : x ≠ y := by
    intro same
    exact differ (by rw [same])
  refine ⟨sub_ne_zero.mpr apart, ?_⟩
  rcases lt_or_gt_of_ne apart with less | greater
  · obtain ⟨left, right⟩ := sides_of_differ differ less
    have negative : x - y < 0 := sub_neg.mpr less
    refine ⟨div_nonneg_of_nonpos left (le_of_lt negative), ?_⟩
    rw [div_le_one_of_neg negative]
    linarith
  · obtain ⟨right, left⟩ := sides_of_differ differ.symm greater
    have positive : 0 < x - y := sub_pos.mpr greater
    refine ⟨div_nonneg left (le_of_lt positive), ?_⟩
    rw [div_le_one positive]
    linarith

theorem meet_of_turns_differ {a b c d : Point}
    (first : SignType.sign (turn a b c) ≠ SignType.sign (turn a b d))
    (second : SignType.sign (turn c d a) ≠ SignType.sign (turn c d b)) : Meet a b c d := by
  obtain ⟨firstApart, firstLow, firstHigh⟩ := cancelling_share first
  obtain ⟨secondApart, secondLow, secondHigh⟩ := cancelling_share second
  refine ⟨_, _, ⟨secondLow, secondHigh⟩, ⟨firstLow, firstHigh⟩, ?_⟩
  have differences := turn_differences a b c d
  have same : turn c d a - turn c d b = -(turn a b c - turn a b d) := by linarith
  rw [same, div_neg]
  have nonzero : turn a b c - turn a b d ≠ 0 := firstApart
  simp only [along]
  refine Prod.ext ?_ ?_
  · field_simp
    simp only [turn]
    ring
  · field_simp
    simp only [turn]
    ring

/-- The ends of each segment lie on different sides of the other exactly when the segments
meet and do not lie on one line. -/
theorem turns_differ_iff (a b c d : Point) :
    (SignType.sign (turn a b c) ≠ SignType.sign (turn a b d) ∧
      SignType.sign (turn c d a) ≠ SignType.sign (turn c d b)) ↔
    Meet a b c d ∧ ¬ Aligned a b c d := by
  constructor
  · rintro ⟨first, second⟩
    refine ⟨meet_of_turns_differ first second, ?_⟩
    rintro ⟨⟨left, right⟩, _⟩
    exact first (by rw [left, right])
  · rintro ⟨meet, apart⟩
    refine ⟨turns_differ_of_meet meet apart, turns_differ_of_meet ?_ ?_⟩
    · obtain ⟨s, t, sRange, tRange, point⟩ := meet
      exact ⟨t, s, tRange, sRange, point.symm⟩
    · rintro ⟨first, second⟩
      exact apart ⟨second, first⟩

noncomputable def distance (p q : Point) : ℝ := √((p.1 - q.1) ^ 2 + (p.2 - q.2) ^ 2)

def Within (reach : ℝ) (p q point : Point) : Prop :=
  ∃ share, (0 ≤ share ∧ share ≤ 1) ∧ distance point (along p q share) ≤ reach

/-- How far the foot of a point lies along a segment, times the square of its length. -/
def advance (p q point : Point) : ℝ := (point.1 - p.1) * (q.1 - p.1) + (point.2 - p.2) * (q.2 - p.2)

theorem within_of_foot {p q point : Point} {reach : ℝ} (long : distance q p ≠ 0)
    (line : |turn p q point| / distance q p ≤ reach) (behind : 0 ≤ advance p q point)
    (ahead : advance p q point ≤ distance q p ^ 2) : Within reach p q point := by
  have square : distance q p ^ 2 = (q.1 - p.1) ^ 2 + (q.2 - p.2) ^ 2 := Real.sq_sqrt (by positivity)
  have positive : 0 < distance q p ^ 2 := by positivity
  refine ⟨advance p q point / distance q p ^ 2, ⟨by positivity, ?_⟩, ?_⟩
  · rw [div_le_one positive]
    exact ahead
  · refine le_trans (le_of_eq ?_) line
    have foot : (point.1 - (along p q (advance p q point / distance q p ^ 2)).1) ^ 2 +
        (point.2 - (along p q (advance p q point / distance q p ^ 2)).2) ^ 2 =
          (turn p q point / distance q p) ^ 2 := by
      rw [div_pow, square]
      rw [square] at positive
      have nonzero := ne_of_gt positive
      simp only [along, advance, turn]
      field_simp
      ring
    unfold distance at foot ⊢
    rw [foot, Real.sqrt_sq_eq_abs, abs_div, abs_of_nonneg (Real.sqrt_nonneg _)]

end OpenMapX.Foundation.PlaneSegments
