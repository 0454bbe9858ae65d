import OpenMapX.Isochrone.LatticeSpacing

/-!
# The budgets of an isochrone's lattice

Within the latitudes to which boxes are shrunk one pass of shrinking is enough, since
the ground area of a box shrinks at least with the square of its sides. The lattice then
respects its budgets exactly when a spacing of the ladder fits.
-/

namespace OpenMapX.Isochrone.LatticeBudgets

open Real Foundation.LatitudeStretch LatticePlan LatticeSpacing

def boxAbout (lng lat halfLng halfLat : ℝ) : BBox :=
  { west := lng - halfLng, south := lat - halfLat, east := lng + halfLng, north := lat + halfLat }

theorem mercator_y {lng lat : ℝ} (low : -85 ≤ lat) (high : lat ≤ 85) :
    (toWebMercator lng lat).2 = EARTH_RADIUS_METRES * latitudeStretch (lat * π / 180) := by
  have clamp : max (-MAX_MERCATOR_LATITUDE) (min MAX_MERCATOR_LATITUDE lat) = lat := by
    unfold MAX_MERCATOR_LATITUDE
    rw [min_eq_right (by norm_num; linarith), max_eq_right (by norm_num; linarith)]
  unfold toWebMercator
  simp only [clamp]
  rw [stretch_log]
  congr 4
  push_cast
  ring

theorem area_about (lng lat : ℝ) {halfLng halfLat : ℝ} (wide : 0 ≤ halfLng) (tall : 0 ≤ halfLat)
    (south : -85 ≤ lat - halfLat) (north : lat + halfLat ≤ 85) :
    groundAreaKm2 (boxAbout lng lat halfLng halfLat) =
      halfLng * heightAbout (lat * π / 180) (halfLat * π / 180) *
        (2 * π * EARTH_RADIUS_METRES ^ 2 / 180 * cos (lat * π / 180) ^ 2 / 1000000) := by
  have radius : 0 < EARTH_RADIUS_METRES := by
    unfold EARTH_RADIUS_METRES
    norm_num
  have centre : centreLatitude (boxAbout lng lat halfLng halfLat) = lat := by
    simp only [centreLatitude, boxAbout]
    push_cast
    ring
  have width : (toWebMercator (lng + halfLng) (lat + halfLat)).1 -
      (toWebMercator (lng - halfLng) (lat - halfLat)).1 =
        halfLng * (2 * π * EARTH_RADIUS_METRES / 180) := by
    simp only [toWebMercator]
    push_cast
    ring
  have rise : latitudeStretch ((lat + halfLat) * π / 180) -
      latitudeStretch ((lat - halfLat) * π / 180) =
        heightAbout (lat * π / 180) (halfLat * π / 180) := by
    simp only [heightAbout]
    congr 2 <;> ring
  have height : (toWebMercator (lng + halfLng) (lat + halfLat)).2 -
      (toWebMercator (lng - halfLng) (lat - halfLat)).2 =
        EARTH_RADIUS_METRES * heightAbout (lat * π / 180) (halfLat * π / 180) := by
    rw [mercator_y (by linarith) north, mercator_y south (by linarith), ← mul_sub, rise]
  have nonneg : 0 ≤ heightAbout (lat * π / 180) (halfLat * π / 180) := by
    rw [← rise, sub_nonneg]
    apply stretch_strict_mono.monotoneOn
    · constructor <;> nlinarith [pi_pos]
    · constructor <;> nlinarith [pi_pos]
    · nlinarith [pi_pos]
  unfold groundAreaKm2
  rw [centre]
  simp only [boxAbout]
  rw [width, height, abs_of_nonneg (by positivity), abs_of_nonneg (by positivity)]
  push_cast
  ring

theorem area_shrinks (lng lat : ℝ) {halfLng halfLat scale : ℝ} (wide : 0 ≤ halfLng)
    (tall : 0 ≤ halfLat) (south : -85 ≤ lat - halfLat) (north : lat + halfLat ≤ 85)
    (nonneg : 0 ≤ scale) (small : scale ≤ 1) :
    groundAreaKm2 (boxAbout lng lat (halfLng * scale) (halfLat * scale)) ≤
      scale ^ 2 * groundAreaKm2 (boxAbout lng lat halfLng halfLat) := by
  have shorter : halfLat * scale ≤ halfLat := mul_le_of_le_one_right tall small
  rw [area_about lng lat (by positivity) (by positivity) (by linarith) (by linarith),
    area_about lng lat wide tall south north]
  have reach : halfLat * scale * π / 180 = scale * (halfLat * π / 180) := by ring
  have shrunk : heightAbout (lat * π / 180) (scale * (halfLat * π / 180)) ≤
      scale * heightAbout (lat * π / 180) (halfLat * π / 180) := by
    apply height_shrinks
    · nlinarith [pi_pos]
    · nlinarith [pi_pos]
    · positivity
    · exact nonneg
    · exact small
  rw [reach]
  have factor : 0 ≤ 2 * π * EARTH_RADIUS_METRES ^ 2 / 180 * cos (lat * π / 180) ^ 2 / 1000000 := by
    positivity
  calc halfLng * scale * heightAbout (lat * π / 180) (scale * (halfLat * π / 180)) *
        (2 * π * EARTH_RADIUS_METRES ^ 2 / 180 * cos (lat * π / 180) ^ 2 / 1000000)
      ≤ halfLng * scale * (scale * heightAbout (lat * π / 180) (halfLat * π / 180)) *
        (2 * π * EARTH_RADIUS_METRES ^ 2 / 180 * cos (lat * π / 180) ^ 2 / 1000000) := by
        gcongr
    _ = scale ^ 2 * (halfLng * heightAbout (lat * π / 180) (halfLat * π / 180) *
        (2 * π * EARTH_RADIUS_METRES ^ 2 / 180 * cos (lat * π / 180) ^ 2 / 1000000)) := by
        ring

theorem box_about_centre (bbox : BBox) :
    bbox = boxAbout ((bbox.west + bbox.east) / (2 : ℕ)) (centreLatitude bbox)
      ((bbox.east - bbox.west) / (2 : ℕ)) ((bbox.north - bbox.south) / (2 : ℕ)) := by
  cases bbox with
  | mk west south east north =>
    simp only [boxAbout, centreLatitude, BBox.mk.injEq]
    refine ⟨?_, ?_, ?_, ?_⟩ <;> push_cast <;> ring

noncomputable def sampledBox (bbox : BBox) (maxAreaKm2 : ℝ) : BBox :=
  if groundAreaKm2 bbox ≤ maxAreaKm2 then bbox
  else
    let scale := √(maxAreaKm2 / groundAreaKm2 bbox)
    boxAbout ((bbox.west + bbox.east) / (2 : ℕ)) (centreLatitude bbox)
      ((bbox.east - bbox.west) / (2 : ℕ) * scale) ((bbox.north - bbox.south) / (2 : ℕ) * scale)

def InBand (bbox : BBox) : Prop := -(85 : ℕ) ≤ bbox.south ∧ bbox.north ≤ (85 : ℕ)

theorem band_limits {bbox : BBox} (band : InBand bbox) : -85 ≤ bbox.south ∧ bbox.north ≤ 85 := by
  unfold InBand at band
  push_cast at band
  exact band

theorem scale_small {budget area : ℝ} (positive : 0 < area) (large : budget < area) :
    √(budget / area) ≤ 1 := by
  rw [sqrt_le_one, div_le_one positive]
  exact le_of_lt large

section

variable {bbox : BBox} {maxAreaKm2 : ℝ} (positive : 0 < maxAreaKm2)
  (width : bbox.west < bbox.east) (height : bbox.south < bbox.north)

include positive width height

theorem sampled_within : Contained bbox (sampledBox bbox maxAreaKm2) := by
  unfold sampledBox
  split
  · next fits =>
      exact ⟨le_refl _, le_of_lt width, le_refl _, le_refl _, le_of_lt height, le_refl _⟩
  · next large =>
      have area := lt_trans positive (not_le.mp large)
      have nonneg : 0 ≤ √(maxAreaKm2 / groundAreaKm2 bbox) := sqrt_nonneg _
      have small := scale_small area (not_le.mp large)
      simp only [boxAbout, centreLatitude]
      push_cast
      constructor <;> dsimp only <;> nlinarith

theorem sampled_fits (band : InBand bbox) :
    groundAreaKm2 (sampledBox bbox maxAreaKm2) ≤ maxAreaKm2 := by
  unfold sampledBox
  split
  · next fits => exact fits
  · next large =>
      have area := lt_trans positive (not_le.mp large)
      have small := scale_small area (not_le.mp large)
      have shrunk := @area_shrinks ((bbox.west + bbox.east) / (2 : ℕ)) (centreLatitude bbox)
        ((bbox.east - bbox.west) / (2 : ℕ)) ((bbox.north - bbox.south) / (2 : ℕ)) _
        (by push_cast; linarith) (by push_cast; linarith)
        (by unfold centreLatitude; push_cast; linarith [(band_limits band).1])
        (by unfold centreLatitude; push_cast; linarith [(band_limits band).2]) (sqrt_nonneg _) small
      rw [← box_about_centre, sq_sqrt (by positivity), div_mul_cancel₀ _ (ne_of_gt area)] at shrunk
      exact shrunk

end

section

variable {maxAreaKm2 : ℝ} {current : BBox} (lng lat halfLng halfLat : ℝ) (passes : ℕ)

theorem passes_stop (fits : groundAreaKm2 current ≤ maxAreaKm2) :
    shrinkPasses maxAreaKm2 lng lat passes halfLng halfLat current = current := by
  cases passes with
  | zero => rfl
  | succ passes => exact if_pos fits

theorem passes_scale (large : ¬ groundAreaKm2 current ≤ maxAreaKm2)
    (south : -85 ≤ lat - halfLat * √(maxAreaKm2 / groundAreaKm2 current))
    (north : lat + halfLat * √(maxAreaKm2 / groundAreaKm2 current) ≤ 85) :
    shrinkPasses maxAreaKm2 lng lat (passes + 1) halfLng halfLat current =
      shrinkPasses maxAreaKm2 lng lat passes (halfLng * √(maxAreaKm2 / groundAreaKm2 current))
        (halfLat * √(maxAreaKm2 / groundAreaKm2 current))
        (boxAbout lng lat (halfLng * √(maxAreaKm2 / groundAreaKm2 current))
          (halfLat * √(maxAreaKm2 / groundAreaKm2 current))) := by
  have low : max (-((85 : ℕ) : ℝ)) (lat - halfLat * √(maxAreaKm2 / groundAreaKm2 current)) =
      lat - halfLat * √(maxAreaKm2 / groundAreaKm2 current) :=
    max_eq_right (by push_cast; exact south)
  have high : min ((85 : ℕ) : ℝ) (lat + halfLat * √(maxAreaKm2 / groundAreaKm2 current)) =
      lat + halfLat * √(maxAreaKm2 / groundAreaKm2 current) :=
    min_eq_right (by push_cast; exact north)
  conv_lhs => unfold shrinkPasses
  dsimp only
  rw [if_neg large, low, high]
  rfl

theorem passes_clamped :
    ∀ (halfLng halfLat : ℝ) (current : BBox), -85 ≤ current.south → current.north ≤ 85 →
      -85 ≤ (shrinkPasses maxAreaKm2 lng lat passes halfLng halfLat current).south ∧
        (shrinkPasses maxAreaKm2 lng lat passes halfLng halfLat current).north ≤ 85 := by
  induction passes with
  | zero =>
    intro halfLng halfLat current south north
    exact ⟨south, north⟩
  | succ passes ih =>
    intro halfLng halfLat current south north
    unfold shrinkPasses
    dsimp only
    split
    · exact ⟨south, north⟩
    · apply ih
      · push_cast
        exact le_max_left _ _
      · push_cast
        exact min_le_left _ _

end

theorem clamp_sampled {bbox : BBox} {maxAreaKm2 : ℝ} (positive : 0 < maxAreaKm2)
    (width : bbox.west < bbox.east) (height : bbox.south < bbox.north)
    (single : groundAreaKm2 bbox ≤ maxAreaKm2 ∨ InBand bbox) :
    (clampArea bbox maxAreaKm2).1 = sampledBox bbox maxAreaKm2 := by
  by_cases fits : groundAreaKm2 bbox ≤ maxAreaKm2
  · simp only [clampArea, sampledBox, if_pos fits]
  · have band : InBand bbox := single.resolve_left fits
    have within := sampled_within positive width height
    have enough := sampled_fits positive width height band
    simp only [sampledBox, if_neg fits] at within enough ⊢
    simp only [clampArea, if_neg fits]
    rw [passes_scale _ _ _ _ 23 fits (le_trans (band_limits band).1 within.south)
      (le_trans within.north (band_limits band).2)]
    exact passes_stop _ _ _ _ 23 enough

theorem clamp_beyond {bbox : BBox} {maxAreaKm2 : ℝ} (large : ¬ groundAreaKm2 bbox ≤ maxAreaKm2)
    (beyond : 85 < bbox.south ∨ bbox.north < -85) :
    ¬ Contained bbox (clampArea bbox maxAreaKm2).1 := by
  intro contained
  have limits : -85 ≤ (clampArea bbox maxAreaKm2).1.south ∧
      (clampArea bbox maxAreaKm2).1.north ≤ 85 := by
    simp only [clampArea, if_neg large]
    unfold shrinkPasses
    dsimp only
    rw [if_neg large]
    apply passes_clamped
    · push_cast
      exact le_max_left _ _
    · push_cast
      exact min_le_left _ _
  rcases beyond with north | south
  · linarith [contained.south, contained.height, limits.2]
  · linarith [contained.north, contained.height, limits.1]

/-- What is sampled fits in the area with one pass at most, and one of the first spacings of
the ladder fits in the samples. -/
def BudgetsReachable (options : PlanIsochroneLatticeOptions) : Prop :=
  (groundAreaKm2 options.bbox ≤ options.maxArea ∨ InBand options.bbox) ∧
    RungFits options (extentOf (sampledBox options.bbox options.maxArea))

theorem planned_samples {options} (valid : ValidRequest options)
    (single : groundAreaKm2 options.bbox ≤ options.maxArea ∨ InBand options.bbox) :
    RespectsBudgets options (planIsochroneLattice options) ↔
      RungFits options (extentOf (sampledBox options.bbox options.maxArea)) := by
  obtain ⟨_, _, _, _, _, _, samples⟩ := planned_grid options
  obtain ⟨encloses, columns, rows⟩ := planned_encloses valid
  have box : (planIsochroneLattice options).bbox = sampledBox options.bbox options.maxArea :=
    clamp_sampled valid.area valid.width valid.height single
  rw [box] at samples
  constructor
  · intro respects
    exact samples.mp respects.samples
  · intro rungFits
    refine ⟨samples.mpr rungFits, encloses, ?_, columns, rows, ?_⟩
    · rw [box]
      by_cases fits : groundAreaKm2 options.bbox ≤ options.maxArea
      · rw [sampledBox, if_pos fits]
        exact fits
      · exact sampled_fits valid.area valid.width valid.height (single.resolve_left fits)
    · rw [box]
      exact sampled_within valid.area valid.width valid.height

noncomputable def equatorTile : PlanIsochroneLatticeOptions :=
  { bbox := { west := 0, south := 0, east := (30 : ℕ), north := (30 : ℕ) }
    maxSamples := none
    minSpacingMetres := some (100000000 : ℕ)
    maxAreaKm2 := some (1000000000 : ℕ) }

theorem equator_tile_valid : ValidRequest equatorTile := by
  constructor <;>
    norm_num [equatorTile, PlanIsochroneLatticeOptions.samples,
      PlanIsochroneLatticeOptions.minSpacing, PlanIsochroneLatticeOptions.maxArea]

theorem equator_tile_corners : toWebMercator 0 0 = (0, 0) ∧
      0 ≤ (toWebMercator (30 : ℕ) (30 : ℕ)).1 ∧ (toWebMercator (30 : ℕ) (30 : ℕ)).1 ≤ 10000000 ∧
      0 ≤ (toWebMercator (30 : ℕ) (30 : ℕ)).2 ∧ (toWebMercator (30 : ℕ) (30 : ℕ)).2 ≤ 10000000 := by
  have origin : (toWebMercator 0 0).2 = 0 := by
    rw [mercator_y (by norm_num) (by norm_num), stretch_log]
    simp
  have angle : π / 4 + ((30 : ℕ) : ℝ) * π / 180 / 2 = π / 3 := by
    push_cast
    ring
  have north : (toWebMercator (30 : ℕ) (30 : ℕ)).2 = EARTH_RADIUS_METRES * log √3 := by
    rw [mercator_y (by norm_num) (by norm_num), stretch_log, angle, tan_pi_div_three]
  have root : √3 ≤ 2 := by
    rw [sqrt_le_left (by norm_num)]
    norm_num
  have low : 0 ≤ log √3 := log_nonneg (by rw [one_le_sqrt]; norm_num)
  have high : log √3 ≤ 1 := by
    have below := log_le_sub_one_of_pos (show 0 < √3 by positivity)
    linarith
  refine ⟨Prod.ext ?_ origin, ?_, ?_, ?_, ?_⟩
  · simp [toWebMercator]
  · unfold toWebMercator EARTH_RADIUS_METRES
    positivity
  · unfold toWebMercator EARTH_RADIUS_METRES
    push_cast
    have pi := pi_lt_four
    linarith
  · rw [north]
    unfold EARTH_RADIUS_METRES
    positivity
  · rw [north]
    unfold EARTH_RADIUS_METRES
    push_cast
    linarith

theorem equator_tile_fits : groundAreaKm2 equatorTile.bbox ≤ equatorTile.maxArea := by
  obtain ⟨origin, left, right, down, up⟩ := equator_tile_corners
  have cosine : cos (centreLatitude equatorTile.bbox * π / (180 : ℕ)) ^ 2 ≤ 1 := cos_sq_le_one _
  have product : (toWebMercator (30 : ℕ) (30 : ℕ)).1 * (toWebMercator (30 : ℕ) (30 : ℕ)).2 *
      cos (centreLatitude equatorTile.bbox * π / (180 : ℕ)) ^ 2 ≤ 10000000 * 10000000 * 1 := by
    gcongr
  have area : groundAreaKm2 equatorTile.bbox =
      (toWebMercator (30 : ℕ) (30 : ℕ)).1 * (toWebMercator (30 : ℕ) (30 : ℕ)).2 *
        cos (centreLatitude equatorTile.bbox * π / (180 : ℕ)) ^ 2 / (1000000 : ℕ) := by
    unfold groundAreaKm2
    dsimp only [equatorTile]
    rw [origin, sub_zero, sub_zero, abs_of_nonneg left, abs_of_nonneg down]
  have budget : equatorTile.maxArea = 1000000000 := by
    norm_num [equatorTile, PlanIsochroneLatticeOptions.maxArea]
  rw [area, budget]
  push_cast at product ⊢
  linarith

theorem cell_count {high spacing : ℝ} (nonneg : 0 ≤ high) (small : high ≤ spacing)
    (positive : 0 < spacing) : 0 ≤ ((⌈(high - ⌊0 / spacing⌋ * spacing) / spacing⌉ + 1 : ℤ) : ℝ) ∧
      ((⌈(high - ⌊0 / spacing⌋ * spacing) / spacing⌉ + 1 : ℤ) : ℝ) ≤ 2 := by
  have share : (high - ⌊0 / spacing⌋ * spacing) / spacing = high / spacing := by
    rw [zero_div, Int.floor_zero, Int.cast_zero, zero_mul, sub_zero]
  have least : 0 ≤ ⌈high / spacing⌉ := Int.ceil_nonneg (div_nonneg nonneg (le_of_lt positive))
  have most : ⌈high / spacing⌉ ≤ 1 := by
    rw [Int.ceil_le, div_le_iff₀ positive]
    push_cast
    linarith
  rw [share]
  constructor
  · exact_mod_cast Int.le_add_one least
  · exact_mod_cast Int.add_le_add_right most 1

theorem equator_tile_reachable : BudgetsReachable equatorTile := by
  refine ⟨Or.inl equator_tile_fits, 0, Nat.zero_le _, ?_⟩
  rw [sampledBox, if_pos equator_tile_fits]
  obtain ⟨origin, left, right, down, up⟩ := equator_tile_corners
  have spacing : (100000000 : ℝ) ≤ firstSpacing (extentOf equatorTile.bbox) equatorTile.samples
      equatorTile.minSpacing := by
    have least : equatorTile.minSpacing = 100000000 := by
      norm_num [equatorTile, PlanIsochroneLatticeOptions.minSpacing]
    rw [← least]
    exact first_spacing_least _ _ equator_tile_valid.spacing
  have extent : extentOf equatorTile.bbox =
      { minX := 0, minY := 0, maxX := (toWebMercator (30 : ℕ) (30 : ℕ)).1,
        maxY := (toWebMercator (30 : ℕ) (30 : ℕ)).2 } := by
    unfold extentOf
    dsimp only [equatorTile]
    rw [origin, min_eq_left left, min_eq_left down, max_eq_right left, max_eq_right down]
  have positive : 0 < firstSpacing (extentOf equatorTile.bbox) equatorTile.samples
      equatorTile.minSpacing := lt_of_lt_of_le (by norm_num) spacing
  have columns := cell_count left (le_trans right (by linarith)) positive
  have rows := cell_count down (le_trans up (by linarith)) positive
  have samples : equatorTile.samples = 2048 := by
    norm_num [equatorTile, PlanIsochroneLatticeOptions.samples]
  rw [extent] at columns rows ⊢
  simp only [rung, pointCount, gridAt]
  refine le_trans (mul_le_mul columns.2 rows.2 rows.1 (by norm_num)) ?_
  rw [samples]
  norm_num

noncomputable def capStrip : PlanIsochroneLatticeOptions :=
  { bbox := { west := -(180 : ℕ), south := (86 : ℕ), east := (180 : ℕ), north := (87 : ℕ) }
    maxSamples := none
    minSpacingMetres := none
    maxAreaKm2 := none }

theorem cap_strip_valid : ValidRequest capStrip := by
  constructor <;>
    norm_num [capStrip, PlanIsochroneLatticeOptions.samples,
      PlanIsochroneLatticeOptions.minSpacing, PlanIsochroneLatticeOptions.maxArea]

theorem mercator_limit {first second : ℝ} (north : MAX_MERCATOR_LATITUDE ≤ first)
    (further : MAX_MERCATOR_LATITUDE ≤ second) (lng other : ℝ) :
    (toWebMercator lng first).2 = (toWebMercator other second).2 := by
  unfold toWebMercator
  dsimp only
  rw [min_eq_left north, min_eq_left further]

theorem cap_strip_limit :
    (toWebMercator (-(180 : ℕ)) (86 : ℕ)).2 = (toWebMercator (180 : ℕ) (87 : ℕ)).2 := by
  apply mercator_limit
  · norm_num [MAX_MERCATOR_LATITUDE]
  · norm_num [MAX_MERCATOR_LATITUDE]

theorem cap_strip_extent : let extent := extentOf capStrip.bbox
    extent.maxX - extent.minX = 2 * π * EARTH_RADIUS_METRES ∧ extent.minY = extent.maxY := by
  have radius : 0 < π * EARTH_RADIUS_METRES := by
    apply mul_pos pi_pos
    norm_num [EARTH_RADIUS_METRES]
  have low : (toWebMercator (-(180 : ℕ)) (86 : ℕ)).1 = -(π * EARTH_RADIUS_METRES) := by
    simp only [toWebMercator]
    push_cast
    ring
  have high : (toWebMercator (180 : ℕ) (87 : ℕ)).1 = π * EARTH_RADIUS_METRES := by
    simp only [toWebMercator]
    push_cast
    ring
  simp only [extentOf, capStrip]
  constructor
  · rw [low, high, max_eq_right (by linarith), min_eq_left (by linarith)]
    ring
  · rw [cap_strip_limit, min_self, max_self]

theorem cap_strip_fits : groundAreaKm2 capStrip.bbox ≤ capStrip.maxArea := by
  simp only [groundAreaKm2, capStrip, PlanIsochroneLatticeOptions.maxArea, cap_strip_limit, sub_self,
    abs_zero, mul_zero, zero_mul, zero_div, Option.getD_none]
  positivity

end OpenMapX.Isochrone.LatticeBudgets
