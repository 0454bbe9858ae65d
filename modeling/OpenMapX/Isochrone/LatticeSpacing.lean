import OpenMapX.Isochrone.LatticePlan

/-!
# The spacing of an isochrone's lattice

The lattice encloses its box on a grid of multiples of its spacing. The spacings that
are tried form a ladder, and the samples fit exactly when they do so on one of its
first rungs.
-/

namespace OpenMapX.Isochrone.LatticeSpacing

open Real LatticePlan Int

structure Encloses (extent : Extent) (lattice : IsochroneLattice) : Prop where
  west : lattice.originX ≤ extent.minX
  south : lattice.originY ≤ extent.minY
  east : extent.maxX ≤ lattice.originX + (lattice.nx - 1) * lattice.spacing
  north : extent.maxY ≤ lattice.originY + (lattice.ny - 1) * lattice.spacing

structure Contained (outer inner : BBox) : Prop where
  west : outer.west ≤ inner.west
  width : inner.west ≤ inner.east
  east : inner.east ≤ outer.east
  south : outer.south ≤ inner.south
  height : inner.south ≤ inner.north
  north : inner.north ≤ outer.north

structure RespectsBudgets (options : PlanIsochroneLatticeOptions) (lattice : IsochroneLattice) :
    Prop where
  samples : (lattice.nx * lattice.ny : ℝ) ≤ options.samples
  encloses : Encloses (extentOf lattice.bbox) lattice
  area : groundAreaKm2 lattice.bbox ≤ options.maxArea
  columns : ∃ multiple : ℤ, lattice.originX = multiple * lattice.spacing
  rows : ∃ multiple : ℤ, lattice.originY = multiple * lattice.spacing
  contained : Contained options.bbox lattice.bbox

structure ValidRequest (options : PlanIsochroneLatticeOptions) : Prop where
  west : -(180 : ℕ) ≤ options.bbox.west
  width : options.bbox.west < options.bbox.east
  east : options.bbox.east ≤ (180 : ℕ)
  south : -(90 : ℕ) ≤ options.bbox.south
  height : options.bbox.south < options.bbox.north
  north : options.bbox.north ≤ (90 : ℕ)
  samples : (4 : ℕ) ≤ options.samples
  spacing : 0 < options.minSpacing
  area : 0 < options.maxArea

theorem quantize_bounds {raw : ℝ} (positive : 0 < raw) :
    raw ≤ quantizeSpacing raw ∧ quantizeSpacing raw < raw + 100 := by
  have rounded : ∀ step : ℝ, 0 < step → step ≤ 100 →
      raw ≤ ⌈raw / step⌉ * step ∧ ⌈raw / step⌉ * step < raw + 100 := by
    intro step stepPositive small
    have above := le_ceil (raw / step)
    have below := ceil_lt_add_one (raw / step)
    rw [div_le_iff₀ stepPositive] at above
    have scaled : ⌈raw / step⌉ * step < (raw / step + 1) * step :=
      mul_lt_mul_of_pos_right below stepPositive
    have cancelled : (raw / step + 1) * step = raw + step := by
      field_simp
    constructor
    · exact above
    · linarith
  unfold quantizeSpacing
  dsimp only
  split
  · exact rounded _ (by norm_num) (by norm_num)
  · split
    · exact rounded _ (by norm_num) (by norm_num)
    · exact rounded _ (by norm_num) (by norm_num)

noncomputable def rung (first : ℝ) : ℕ → ℝ
  | 0 => first
  | passes + 1 => quantizeSpacing (rung first passes + 1)

theorem rung_bounds {first : ℝ} (positive : 0 < first) (passes : ℕ) :
    first ≤ rung first passes ∧ rung first passes ≤ first + 101 * passes := by
  induction passes with
  | zero => simp [rung]
  | succ passes ih =>
    have next : 0 < rung first passes + 1 := by linarith
    have rounded := quantize_bounds next
    simp only [rung]
    push_cast
    constructor
    · linarith
    · linarith

theorem rung_next (first : ℝ) (passes : ℕ) :
    rung (quantizeSpacing (first + 1)) passes = rung first (passes + 1) := by
  induction passes with
  | zero => rfl
  | succ passes ih =>
    simp only [rung] at ih ⊢
    rw [ih]

noncomputable def pointCount (extent : Extent) (spacing : ℝ) : ℝ :=
  (gridAt extent spacing).nx * (gridAt extent spacing).ny

theorem widened_rung (extent : Extent) (maxSamples : ℝ) (passes : ℕ) : ∀ first : ℝ, ∃ used ≤ passes,
      widenPasses extent maxSamples passes (gridAt extent first) = gridAt extent (rung first used) ∧
        (pointCount extent (rung first used) ≤ maxSamples ∨
          ∀ earlier ≤ passes, ¬ pointCount extent (rung first earlier) ≤ maxSamples) := by
  induction passes with
  | zero =>
    intro first
    refine ⟨0, le_refl 0, rfl, ?_⟩
    by_cases fits : pointCount extent (rung first 0) ≤ maxSamples
    · exact Or.inl fits
    · right
      intro earlier bound
      rw [Nat.le_zero.mp bound]
      exact fits
  | succ passes ih =>
    intro first
    by_cases fits : pointCount extent first ≤ maxSamples
    · refine ⟨0, Nat.zero_le _, ?_, Or.inl fits⟩
      unfold widenPasses
      exact if_neg (not_lt_of_ge fits)
    · obtain ⟨used, within, grid, ends⟩ := ih (quantizeSpacing (first + 1))
      refine ⟨used + 1, Nat.succ_le_succ within, ?_, ?_⟩
      · have many : maxSamples < (gridAt extent first).nx * (gridAt extent first).ny :=
          not_le.mp fits
        unfold widenPasses
        rw [if_pos many, ← rung_next]
        exact grid
      · rw [← rung_next]
        rcases ends with last | never
        · exact Or.inl last
        · right
          intro earlier bound
          cases earlier with
          | zero => exact fits
          | succ earlier =>
            rw [← rung_next]
            exact never earlier (Nat.le_of_succ_le_succ bound)

def RungFits (options : PlanIsochroneLatticeOptions) (extent : Extent) : Prop :=
  ∃ passes ≤ 64, pointCount extent
    (rung (firstSpacing extent options.samples options.minSpacing) passes) ≤ options.samples

theorem point_count_low {extent : Extent} {spacing : ℝ} (positive : 0 < spacing)
    (width : extent.minX ≤ extent.maxX) (height : extent.minY ≤ extent.maxY) :
    (extent.maxX - extent.minX) / spacing ≤ pointCount extent spacing := by
  have count : ∀ low high : ℝ, low ≤ high →
      (high - low) / spacing + 1 ≤
        ((⌈(high - ⌊low / spacing⌋ * spacing) / spacing⌉ + 1 : ℤ) : ℝ) := by
    intro low high _
    have below := floor_le (low / spacing)
    rw [le_div_iff₀ positive] at below
    have above := le_ceil ((high - ⌊low / spacing⌋ * spacing) / spacing)
    have wider : (high - low) / spacing ≤ (high - ⌊low / spacing⌋ * spacing) / spacing :=
      div_le_div_of_nonneg_right (by linarith) (le_of_lt positive)
    push_cast
    linarith
  have columns := count extent.minX extent.maxX width
  have rows := count extent.minY extent.maxY height
  have across : 0 ≤ (extent.maxX - extent.minX) / spacing :=
    div_nonneg (sub_nonneg.mpr width) (le_of_lt positive)
  have up : 0 ≤ (extent.maxY - extent.minY) / spacing :=
    div_nonneg (sub_nonneg.mpr height) (le_of_lt positive)
  unfold pointCount gridAt
  dsimp only
  nlinarith

section

variable {options : PlanIsochroneLatticeOptions}

theorem planned_grid (options : PlanIsochroneLatticeOptions) :
    ∃ used, let lattice := planIsochroneLattice options
      let grid := gridAt (extentOf lattice.bbox)
        (rung (firstSpacing (extentOf lattice.bbox) options.samples options.minSpacing) used)
      lattice.originX = grid.originX ∧ lattice.originY = grid.originY ∧
        lattice.spacing = grid.spacing ∧ lattice.nx = grid.nx ∧ lattice.ny = grid.ny ∧
        ((lattice.nx * lattice.ny : ℝ) ≤ options.samples ↔
          RungFits options (extentOf lattice.bbox)) := by
  obtain ⟨used, within, grid, ends⟩ := widened_rung
    (extentOf (clampArea options.bbox options.maxArea).1) options.samples 64
    (firstSpacing (extentOf (clampArea options.bbox options.maxArea).1) options.samples
      options.minSpacing)
  refine ⟨used, ?_⟩
  unfold planIsochroneLattice
  dsimp only
  rw [grid]
  refine ⟨rfl, rfl, rfl, rfl, rfl, ?_⟩
  apply Iff.intro
  · intro fits
    exact ⟨used, within, fits⟩
  · intro fits
    obtain ⟨earlier, bound, small⟩ := fits
    rcases ends with last | never
    · exact last
    · exact absurd small (never earlier bound)

theorem first_spacing_least (extent : Extent) (maxSamples : ℝ) {minSpacing : ℝ}
    (positive : 0 < minSpacing) : minSpacing ≤ firstSpacing extent maxSamples minSpacing := by
  have raw : minSpacing ≤ max minSpacing
      √((extent.maxX - extent.minX) * (extent.maxY - extent.minY) / max 1 maxSamples) :=
    le_max_left _ _
  exact le_trans raw (quantize_bounds (lt_of_lt_of_le positive raw)).1

theorem grid_encloses (low high : ℝ) {spacing : ℝ} (positive : 0 < spacing) :
    ⌊low / spacing⌋ * spacing ≤ low ∧ high ≤ ⌊low / spacing⌋ * spacing +
        (((⌈(high - ⌊low / spacing⌋ * spacing) / spacing⌉ + 1 : ℤ) : ℝ) - 1) * spacing := by
  constructor
  · have below := floor_le (low / spacing)
    rwa [le_div_iff₀ positive] at below
  · have above := le_ceil ((high - ⌊low / spacing⌋ * spacing) / spacing)
    rw [div_le_iff₀ positive] at above
    push_cast
    linarith

theorem planned_encloses (valid : ValidRequest options) :
    Encloses (extentOf (planIsochroneLattice options).bbox) (planIsochroneLattice options) ∧
    (∃ multiple : ℤ, (planIsochroneLattice options).originX =
      multiple * (planIsochroneLattice options).spacing) ∧
    (∃ multiple : ℤ, (planIsochroneLattice options).originY =
      multiple * (planIsochroneLattice options).spacing) := by
  obtain ⟨used, originX, originY, spacing, nx, ny, _⟩ := planned_grid options
  have first := lt_of_lt_of_le valid.spacing (first_spacing_least
    (extentOf (planIsochroneLattice options).bbox) options.samples valid.spacing)
  have positive := lt_of_lt_of_le first (rung_bounds first used).1
  have horizontal := grid_encloses (extentOf (planIsochroneLattice options).bbox).minX
    (extentOf (planIsochroneLattice options).bbox).maxX positive
  have vertical := grid_encloses (extentOf (planIsochroneLattice options).bbox).minY
    (extentOf (planIsochroneLattice options).bbox).maxY positive
  constructor
  · constructor
    · rw [originX]
      exact horizontal.1
    · rw [originY]
      exact vertical.1
    · rw [originX, spacing, nx]
      exact horizontal.2
    · rw [originY, spacing, ny]
      exact vertical.2
  · rw [originX, originY, spacing]
    exact ⟨⟨_, rfl⟩, ⟨_, rfl⟩⟩

end

end OpenMapX.Isochrone.LatticeSpacing
