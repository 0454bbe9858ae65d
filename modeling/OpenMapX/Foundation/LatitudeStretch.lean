import Mathlib

/-!
# The stretch of latitude

The vertical coordinate of the Mercator projection, in radians and for the unit
sphere. It grows with the reciprocal of the cosine. The height between two parallels
that lie symmetrically about a latitude is convex in their distance, so that shrinking
the distance shrinks the height at least as much.
-/

namespace OpenMapX.Foundation.LatitudeStretch

open Real

noncomputable def latitudeStretch (latitude : ℝ) : ℝ := log (tan (π / (4 : ℕ) + latitude / (2 : ℕ)))

theorem stretch_log (latitude : ℝ) :
    latitudeStretch latitude = log (tan (π / 4 + latitude / 2)) := by
  unfold latitudeStretch
  norm_num

theorem stretch_deriv {latitude : ℝ} (low : -(π / 2) < latitude) (high : latitude < π / 2) :
    HasDerivAt latitudeStretch (1 / cos latitude) latitude := by
  have inside : 0 < π / 4 + latitude / 2 ∧ π / 4 + latitude / 2 < π / 2 := by
    constructor <;> linarith
  have cosine : 0 < cos (π / 4 + latitude / 2) :=
    cos_pos_of_mem_Ioo ⟨by linarith [pi_pos], inside.2⟩
  have sine : 0 < sin (π / 4 + latitude / 2) :=
    sin_pos_of_pos_of_lt_pi inside.1 (by linarith [pi_pos])
  have tangent : tan (π / 4 + latitude / 2) ≠ 0 := by
    rw [tan_eq_sin_div_cos]
    exact ne_of_gt (div_pos sine cosine)
  have double : 2 * sin (π / 4 + latitude / 2) * cos (π / 4 + latitude / 2) = cos latitude := by
    rw [← sin_two_mul, ← sin_pi_div_two_sub, ← sin_pi_sub]
    congr 1
    ring
  have inner : HasDerivAt (fun x : ℝ => π / 4 + x / 2) (1 / 2) latitude :=
    ((hasDerivAt_id' latitude).div_const 2).const_add (π / 4)
  have outer := (hasDerivAt_tan (ne_of_gt cosine)).log tangent
  have whole := outer.comp latitude inner
  have same : latitudeStretch = (fun x => log (tan x)) ∘ fun x : ℝ => π / 4 + x / 2 :=
    funext stretch_log
  rw [same]
  refine whole.congr_deriv ?_
  rw [← double, tan_eq_sin_div_cos]
  field_simp

theorem stretch_strict_mono : StrictMonoOn latitudeStretch (Set.Ioo (-(π / 2)) (π / 2)) := by
  apply strictMonoOn_of_deriv_pos (convex_Ioo _ _)
  · intro latitude inside
    exact (stretch_deriv inside.1 inside.2).continuousAt.continuousWithinAt
  · intro latitude inside
    rw [interior_Ioo] at inside
    rw [(stretch_deriv inside.1 inside.2).deriv]
    exact one_div_pos.mpr (cos_pos_of_mem_Ioo inside)

noncomputable def heightAbout (latitude distance : ℝ) : ℝ :=
  latitudeStretch (latitude + distance) - latitudeStretch (latitude - distance)

section

variable {latitude reach : ℝ} (north : latitude + reach < π / 2) (south : -(π / 2) < latitude - reach)

include north south

section

variable {distance : ℝ} (positive : 0 ≤ distance) (within : distance ≤ reach)
include positive within

theorem height_deriv : HasDerivAt (heightAbout latitude)
      (1 / cos (latitude + distance) + 1 / cos (latitude - distance)) distance := by
  have upper := (@stretch_deriv (latitude + distance) (by linarith) (by linarith)).comp
    distance ((hasDerivAt_id' distance).const_add latitude)
  have lower := (@stretch_deriv (latitude - distance) (by linarith) (by linarith)).comp
    distance ((hasDerivAt_id' distance).const_sub latitude)
  refine (upper.sub lower).congr_deriv ?_
  ring

theorem secants_sum : 0 < cos distance ^ 2 - sin latitude ^ 2 ∧
      1 / cos (latitude + distance) + 1 / cos (latitude - distance) =
        2 * cos latitude * (cos distance / (cos distance ^ 2 - sin latitude ^ 2)) := by
  have upper : 0 < cos (latitude + distance) := cos_pos_of_mem_Ioo ⟨by linarith, by linarith⟩
  have lower : 0 < cos (latitude - distance) := cos_pos_of_mem_Ioo ⟨by linarith, by linarith⟩
  have product : cos (latitude + distance) * cos (latitude - distance) =
      cos distance ^ 2 - sin latitude ^ 2 := by
    rw [cos_add, cos_sub]
    have first := sin_sq_add_cos_sq latitude
    have second := sin_sq_add_cos_sq distance
    have cosine : cos latitude ^ 2 = 1 - sin latitude ^ 2 := by linarith
    have sine : sin distance ^ 2 = 1 - cos distance ^ 2 := by linarith
    calc (cos latitude * cos distance - sin latitude * sin distance) *
          (cos latitude * cos distance + sin latitude * sin distance)
        = cos latitude ^ 2 * cos distance ^ 2 - sin latitude ^ 2 * sin distance ^ 2 := by ring
      _ = cos distance ^ 2 - sin latitude ^ 2 := by rw [cosine, sine]; ring
  have sum : cos (latitude + distance) + cos (latitude - distance) =
      2 * cos latitude * cos distance := by
    rw [cos_add, cos_sub]
    ring
  constructor
  · rw [← product]
    exact mul_pos upper lower
  · rw [← product, div_add_div _ _ (ne_of_gt upper) (ne_of_gt lower), one_mul, mul_one,
      add_comm (cos (latitude - distance)), sum, mul_div_assoc]

end

theorem secants_grow {first second : ℝ} (positive : 0 ≤ first) (order : first ≤ second)
    (within : second ≤ reach) : 1 / cos (latitude + first) + 1 / cos (latitude - first) ≤
      1 / cos (latitude + second) + 1 / cos (latitude - second) := by
  have near := secants_sum north south positive (le_trans order within)
  have far := secants_sum north south (le_trans positive order) within
  rw [near.2, far.2]
  have range : second ≤ π / 2 := by linarith
  have cosines : cos second ≤ cos first :=
    cos_le_cos_of_nonneg_of_le_pi positive (by linarith [pi_pos]) order
  have farCos : 0 ≤ cos second := cos_nonneg_of_mem_Icc ⟨by linarith [pi_pos], range⟩
  have centre : 0 < cos latitude := cos_pos_of_mem_Ioo ⟨by linarith, by linarith⟩
  apply mul_le_mul_of_nonneg_left _ (by linarith)
  rw [div_le_div_iff₀ near.1 far.1]
  have gap : 0 ≤ (cos first - cos second) * (cos first * cos second + sin latitude ^ 2) :=
    mul_nonneg (sub_nonneg.mpr cosines)
      (add_nonneg (mul_nonneg (le_trans farCos cosines) farCos) (sq_nonneg _))
  nlinarith [gap]

theorem height_convex : ConvexOn ℝ (Set.Icc 0 reach) (heightAbout latitude) := by
  apply MonotoneOn.convexOn_of_deriv (convex_Icc 0 reach)
  · intro distance inside
    exact (height_deriv north south inside.1 inside.2).continuousAt.continuousWithinAt
  · intro distance inside
    rw [interior_Icc] at inside
    exact (height_deriv north south (le_of_lt inside.1)
      (le_of_lt inside.2)).differentiableAt.differentiableWithinAt
  · intro first firstIn second secondIn order
    rw [interior_Icc] at firstIn secondIn
    rw [(height_deriv north south (le_of_lt firstIn.1) (le_of_lt firstIn.2)).deriv,
      (height_deriv north south (le_of_lt secondIn.1) (le_of_lt secondIn.2)).deriv]
    exact secants_grow north south (le_of_lt firstIn.1) order (le_of_lt secondIn.2)

theorem height_shrinks (positive : 0 ≤ reach) {scale : ℝ} (nonneg : 0 ≤ scale) (small : scale ≤ 1) :
    heightAbout latitude (scale * reach) ≤ scale * heightAbout latitude reach := by
  have convex := (height_convex north south).2 (Set.left_mem_Icc.mpr positive)
    (Set.right_mem_Icc.mpr positive) (sub_nonneg.mpr small) nonneg (sub_add_cancel 1 scale)
  have nothing : heightAbout latitude 0 = 0 := by
    unfold heightAbout
    simp
  simpa [smul_eq_mul, nothing] using convex

end

end OpenMapX.Foundation.LatitudeStretch
