import OpenMapX.Navigation.GroundFix

/-!
# Coasting along a route

The distances from the start of a route to its vertices, the position at a distance and
the extrapolation from a fix.
-/

namespace OpenMapX.Navigation.Coast

open GroundFix

section

variable (geo : RouteGeometry)

def cumulativeDistances (geometry : List Point) : List ℚ :=
  (List.zipWith geo.haversineDistance geometry geometry.tail).scanl (· + ·) 0

/-- The largest index from `lo` to `hi` whose distance is not past `d`; the fuel bounds the
halvings. -/
def segmentOf (cum : List ℚ) (d : ℚ) : Nat → Nat → Nat → Nat
  | 0, lo, _ => lo
  | fuel + 1, lo, hi =>
    if lo < hi then
      let mid := (lo + hi + 1) / 2
      if cum.getD mid 0 ≤ d then segmentOf cum d fuel mid hi else segmentOf cum d fuel lo (mid - 1)
    else lo

structure RoutePosition where
  point : Point
  bearing : ℚ

def positionAt (geometry : List Point) (cum : List ℚ) (distanceMeters : ℚ) : RoutePosition :=
  match geometry with
  | [] => { point := (0, 0), bearing := 0 }
  | [only] => { point := only, bearing := 0 }
  | _ =>
    let n := geometry.length
    let d := min (max distanceMeters 0) (cum.getD (n - 1) 0)
    let i := segmentOf cum d n 0 (n - 2)
    let segLen := cum.getD (i + 1) 0 - cum.getD i 0
    let t := if 0 < segLen then (d - cum.getD i 0) / segLen else 0
    let start := geometry.getD i (0, 0)
    let finish := geometry.getD (i + 1) (0, 0)
    { point := (start.1 + (finish.1 - start.1) * t, start.2 + (finish.2 - start.2) * t)
      bearing := geo.bearingBetween start finish }

end

structure CoastOptions where
  startAfterMs : ℚ
  maxCoastMs : ℚ
  maxCoastMeters : ℚ
  routeLengthMeters : ℚ

structure CoastResult where
  coasting : Bool
  alongMeters : ℚ
  speedMps : ℚ

def coastState (lastAlongMeters lastSpeedMps ageMs : ℚ) (opts : CoastOptions) : CoastResult :=
  if ageMs < opts.startAfterMs then
    { coasting := false, alongMeters := lastAlongMeters, speedMps := lastSpeedMps }
  else
    let maxMs := max opts.maxCoastMs 1
    let cappedAgeMs := min ageMs maxMs
    let ageSec := cappedAgeMs / 1000
    let maxSec := maxMs / 1000
    let s := max lastSpeedMps 0
    let rawDist := s * ageSec * (1 - ageSec / (2 * maxSec))
    let dist := min rawDist opts.maxCoastMeters
    { coasting := true
      alongMeters := min (max (lastAlongMeters + dist) 0) opts.routeLengthMeters
      speedMps := s * (1 - cappedAgeMs / maxMs) }

theorem coast_within {lastAlongMeters lastSpeedMps ageMs : ℚ} {opts}
    (limit : 0 ≤ opts.maxCoastMeters)
    (coasts : (coastState lastAlongMeters lastSpeedMps ageMs opts).coasting = true) :
    (coastState lastAlongMeters lastSpeedMps ageMs opts).alongMeters ≤
      max lastAlongMeters 0 + opts.maxCoastMeters := by
  unfold coastState at coasts ⊢
  by_cases early : ageMs < opts.startAfterMs
  · rw [if_pos early] at coasts
    cases coasts
  · rw [if_neg early]
    apply le_trans (min_le_left _ _)
    apply max_le
    · exact add_le_add (le_max_left _ _) (min_le_right _ _)
    · exact add_nonneg (le_max_right _ _) limit

end OpenMapX.Navigation.Coast
