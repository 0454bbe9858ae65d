import OpenMapX.Foundation.LatitudeStretch

/-!
# Planning the lattice of an isochrone

`planIsochroneLattice`: a box is shrunk until its ground area fits, and the spacing of
the lattice is widened until the number of its points does. Numbers are exact reals,
and whole numbers of the source are cast.
-/

namespace OpenMapX.Isochrone.LatticePlan

open Real

noncomputable section

def EARTH_RADIUS_METRES : ℝ := (6378137 : ℕ)

def MAX_MERCATOR_LATITUDE : ℝ := (85051129 : ℕ) / (1000000 : ℕ)

/-- WGS84 to Web Mercator metres; the latitude is clamped to the projection limit. -/
def toWebMercator (lng lat : ℝ) : ℝ × ℝ :=
  let clamped := max (-MAX_MERCATOR_LATITUDE) (min MAX_MERCATOR_LATITUDE lat)
  (lng * π * EARTH_RADIUS_METRES / (180 : ℕ),
    EARTH_RADIUS_METRES * log (tan (π / (4 : ℕ) + clamped * π / (360 : ℕ))))

structure BBox where
  west : ℝ
  south : ℝ
  east : ℝ
  north : ℝ

def centreLatitude (bbox : BBox) : ℝ := (bbox.south + bbox.north) / (2 : ℕ)

def groundAreaKm2 (bbox : BBox) : ℝ :=
  let low := toWebMercator bbox.west bbox.south
  let high := toWebMercator bbox.east bbox.north
  let shrink := cos (centreLatitude bbox * π / (180 : ℕ)) ^ 2
  |high.1 - low.1| * |high.2 - low.2| * shrink / (1000000 : ℕ)

def shrinkPasses (maxAreaKm2 centreLng centreLat : ℝ) : ℕ → ℝ → ℝ → BBox → BBox
  | 0, _, _, current => current
  | passes + 1, halfLng, halfLat, current =>
    let areaKm2 := groundAreaKm2 current
    if areaKm2 ≤ maxAreaKm2 then current
    else
      let scale := √(maxAreaKm2 / areaKm2)
      shrinkPasses maxAreaKm2 centreLng centreLat passes (halfLng * scale) (halfLat * scale) {
        west := centreLng - halfLng * scale
        south := max (-(85 : ℕ)) (centreLat - halfLat * scale)
        east := centreLng + halfLng * scale
        north := min (85 : ℕ) (centreLat + halfLat * scale) }

def clampArea (bbox : BBox) (maxAreaKm2 : ℝ) : BBox × Bool :=
  if groundAreaKm2 bbox ≤ maxAreaKm2 then (bbox, false)
  else
    (shrinkPasses maxAreaKm2 ((bbox.west + bbox.east) / (2 : ℕ)) (centreLatitude bbox) 24
      ((bbox.east - bbox.west) / (2 : ℕ)) ((bbox.north - bbox.south) / (2 : ℕ)) bbox, true)

def quantizeSpacing (raw : ℝ) : ℝ :=
  let step : ℝ := if raw < (250 : ℕ) then (10 : ℕ) else if raw < (1000 : ℕ) then (25 : ℕ)
    else (100 : ℕ)
  ⌈raw / step⌉ * step

structure Extent where
  minX : ℝ
  minY : ℝ
  maxX : ℝ
  maxY : ℝ

def extentOf (bbox : BBox) : Extent :=
  let low := toWebMercator bbox.west bbox.south
  let high := toWebMercator bbox.east bbox.north
  { minX := min low.1 high.1
    minY := min low.2 high.2
    maxX := max low.1 high.1
    maxY := max low.2 high.2 }

structure Grid where
  spacing : ℝ
  originX : ℝ
  originY : ℝ
  nx : ℤ
  ny : ℤ

/-- The points with a spacing: the origin is a multiple of it, and the last row and column
lie at or beyond the far edges. -/
def gridAt (extent : Extent) (spacing : ℝ) : Grid :=
  let originX := ⌊extent.minX / spacing⌋ * spacing
  let originY := ⌊extent.minY / spacing⌋ * spacing
  { spacing := spacing
    originX := originX
    originY := originY
    nx := ⌈(extent.maxX - originX) / spacing⌉ + 1
    ny := ⌈(extent.maxY - originY) / spacing⌉ + 1 }

/-- The spacing is widened along the ladder until the points fit, for at most so many
passes. -/
def widenPasses (extent : Extent) (maxSamples : ℝ) : ℕ → Grid → Grid
  | 0, grid => grid
  | passes + 1, grid =>
    if maxSamples < grid.nx * grid.ny then
      widenPasses extent maxSamples passes
        (gridAt extent (quantizeSpacing (grid.spacing + 1)))
    else grid

def firstSpacing (extent : Extent) (maxSamples minSpacing : ℝ) : ℝ :=
  let width := extent.maxX - extent.minX
  let height := extent.maxY - extent.minY
  quantizeSpacing (max minSpacing √(width * height / max 1 maxSamples))

structure IsochroneLattice where
  bbox : BBox
  originX : ℝ
  originY : ℝ
  spacing : ℝ
  resolutionMetres : ℝ
  nx : ℤ
  ny : ℤ
  clipped : Bool

structure PlanIsochroneLatticeOptions where
  bbox : BBox
  maxSamples : Option ℝ
  minSpacingMetres : Option ℝ
  maxAreaKm2 : Option ℝ

def PlanIsochroneLatticeOptions.samples (options : PlanIsochroneLatticeOptions) : ℝ :=
  options.maxSamples.getD (2048 : ℕ)

def PlanIsochroneLatticeOptions.minSpacing (options : PlanIsochroneLatticeOptions) : ℝ :=
  options.minSpacingMetres.getD (100 : ℕ)

def PlanIsochroneLatticeOptions.maxArea (options : PlanIsochroneLatticeOptions) : ℝ :=
  options.maxAreaKm2.getD (900 : ℕ)

def planIsochroneLattice (options : PlanIsochroneLatticeOptions) : IsochroneLattice :=
  let clamped := clampArea options.bbox options.maxArea
  let extent := extentOf clamped.1
  let grid := widenPasses extent options.samples 64
    (gridAt extent (firstSpacing extent options.samples options.minSpacing))
  { bbox := clamped.1
    originX := grid.originX
    originY := grid.originY
    spacing := grid.spacing
    resolutionMetres := grid.spacing * cos (centreLatitude clamped.1 * π / (180 : ℕ))
    nx := grid.nx
    ny := grid.ny
    clipped := clamped.2 }

end

end OpenMapX.Isochrone.LatticePlan
