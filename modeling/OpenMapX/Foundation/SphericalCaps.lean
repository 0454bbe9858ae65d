import Mathlib

/-!
# Caps of a sphere

A cap holds the directions within an angle of its centre. The triangle inequality of
angles bounds the angle to what a cap holds from below, and says which caps hold others.
A minor arc lies in the cap around its middle through its ends.
-/

namespace OpenMapX.Foundation.SphericalCaps

open InnerProductGeometry

variable {V : Type*} [NormedAddCommGroup V] [InnerProductSpace ℝ V]

def region (centre : V) (radius : ℝ) : Set V := {direction | angle centre direction ≤ radius}

theorem region_subset {inner outer : V} {narrow wide : ℝ}
    (reaches : angle outer inner + narrow ≤ wide) : region inner narrow ⊆ region outer wide := by
  intro direction within
  calc angle outer direction
      ≤ angle outer inner + angle inner direction := angle_le_angle_add_angle outer inner direction
    _ ≤ angle outer inner + narrow := add_le_add le_rfl within
    _ ≤ wide := reaches

/-- A cap of radius `π` holds every direction. -/
theorem region_all {centre : V} {radius : ℝ} (wide : Real.pi ≤ radius) :
    region centre radius = Set.univ := by
  apply Set.eq_univ_of_forall
  intro direction
  exact (angle_le_pi centre direction).trans wide

theorem region_min {centre : V} {radius : ℝ} :
    region centre (min Real.pi radius) = region centre radius := by
  ext direction
  show angle centre direction ≤ min Real.pi radius ↔ angle centre direction ≤ radius
  rw [le_min_iff, and_iff_right (angle_le_pi centre direction)]

theorem angle_bound {centre query direction : V} {radius : ℝ}
    (within : direction ∈ region centre radius) :
    angle query centre - radius ≤ angle query direction := by
  have triangle := angle_le_angle_add_angle query direction centre
  have close : angle direction centre ≤ radius := by
    rw [angle_comm]
    exact within
  linarith

def OnMinorArc (start finish direction : V) : Prop :=
  ‖direction‖ = 1 ∧ ∃ left right : ℝ, 0 ≤ left ∧ 0 ≤ right ∧
    direction = left • start + right • finish

theorem arc_ends {start finish : V} (unit : ‖finish‖ = 1) : OnMinorArc start finish finish := by
  apply And.intro unit
  refine ⟨0, 1, le_refl 0, zero_le_one, ?_⟩
  rw [zero_smul, one_smul, zero_add]

section

variable {start finish direction : V}

variable (startUnit : ‖start‖ = 1)
include startUnit

theorem arc_weight (finishUnit : ‖finish‖ = 1) {left right : ℝ} (leftPart : 0 ≤ left)
    (rightPart : 0 ≤ right) (unit : ‖left • start + right • finish‖ = 1) : 1 ≤ left + right := by
  have bound := norm_add_le (left • start) (right • finish)
  rw [norm_smul, norm_smul, startUnit, finishUnit, mul_one, mul_one, Real.norm_of_nonneg leftPart,
    Real.norm_of_nonneg rightPart, unit] at bound
  exact bound

theorem arc_point (same : start = finish)
    (onArc : OnMinorArc start finish direction) : direction = finish := by
  obtain ⟨left, right, parts⟩ := onArc.2
  have sum : direction = (left + right) • finish := by
    rw [parts.2.2, same, add_smul]
  have unit := onArc.1
  rw [sum, norm_smul, ← same, startUnit, mul_one,
    Real.norm_of_nonneg (add_nonneg parts.1 parts.2.1)] at unit
  rw [sum, unit, one_smul]

theorem inner_middle (finishUnit : ‖finish‖ = 1) :
    inner ℝ (start + finish) start = inner ℝ (start + finish) finish := by
  rw [inner_add_left, inner_add_left, real_inner_self_eq_norm_sq, real_inner_self_eq_norm_sq,
    startUnit, finishUnit, real_inner_comm start finish, add_comm]

theorem inner_middle_nonneg (finishUnit : ‖finish‖ = 1) : 0 ≤ inner ℝ (start + finish) start := by
  rw [inner_add_left, real_inner_self_eq_norm_sq, startUnit]
  have bound := neg_le_of_abs_le (abs_real_inner_le_norm finish start)
  rw [startUnit, finishUnit] at bound
  linarith

theorem arc_within (finishUnit : ‖finish‖ = 1) (onArc : OnMinorArc start finish direction) :
    angle (start + finish) direction ≤ angle (start + finish) start := by
  obtain ⟨left, right, parts⟩ := onArc.2
  have weight : 1 ≤ left + right := by
    apply arc_weight startUnit finishUnit parts.1 parts.2.1
    rw [← parts.2.2]
    exact onArc.1
  have projected : inner ℝ (start + finish) direction =
      (left + right) * inner ℝ (start + finish) start := by
    rw [parts.2.2, inner_add_right, inner_smul_right, inner_smul_right,
      ← inner_middle startUnit finishUnit, add_mul]
  unfold angle
  apply Real.arccos_le_arccos
  rw [onArc.1, startUnit, projected]
  apply div_le_div_of_nonneg_right
  · exact le_mul_of_one_le_left (inner_middle_nonneg startUnit finishUnit) weight
  · rw [mul_one]
    exact norm_nonneg _

omit startUnit

end

end OpenMapX.Foundation.SphericalCaps
