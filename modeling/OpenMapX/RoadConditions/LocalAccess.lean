import Mathlib.Data.List.Infix
import OpenMapX.RoadConditions.Closures

/-!
# Roads closed to all but local access

How near a route runs to such a road. One scan over the route keeps the start of the current
run along the first road within reach. It finds a route that drives along a road exactly if
the route does so from the place where that road became the first one.
-/

namespace OpenMapX.RoadConditions.LocalAccess

open Closures List Prod

def SNAP_M : ℚ := 100

def ALONG_M : ℚ := 20

def ALONG_WITHIN_M : ℚ := 15

structure Geodesy where
  /-- `Math.cos` of an angle in degrees. -/
  cos : ℚ → ℚ
  haversineDistance : LngLat → LngLat → ℚ

/-- The point of a line nearest to another; `none` is an infinite distance. -/
structure Nearest where
  point : LngLat
  metres : Option ℚ
  along : ℚ

def Nearest.within (near : Nearest) (reach : ℚ) : Bool := near.metres.any (· ≤ reach)

def round (v : ℚ) : ℚ := ⌊v * 10 ^ 7 + 1 / 2⌋ / 10 ^ 7

structure Box where
  west : ℚ
  south : ℚ
  east : ℚ
  north : ℚ

def Box.misses (box : Box) (p : LngLat) : Bool :=
  p.1 < box.west || box.east < p.1 || p.2 < box.south || box.north < p.2

section

variable (geodesy : Geodesy)

/-- The point of a segment nearest to `p`. -/
def nearestOnSegment (p a b : LngLat) : LngLat :=
  let k := geodesy.cos p.2
  let dx := (b.1 - a.1) * k
  let dy := b.2 - a.2
  let len2 := dx * dx + dy * dy
  let t :=
    if len2 = 0 then 0
    else max 0 (min 1 (((p.1 - a.1) * k * dx + (p.2 - a.2) * dy) / len2))
  (round (a.1 + (b.1 - a.1) * t), round (a.2 + (b.2 - a.2) * t))

def nearestFrom (p : LngLat) : Nearest → ℚ → List LngLat → Nearest
  | best, _, [] => best
  | best, start, a :: rest =>
    let b := rest.headD a
    let point := nearestOnSegment geodesy p a b
    let metres := geodesy.haversineDistance p point
    nearestFrom p
      (if best.metres.all (metres < ·) then
        ⟨point, some metres, start + geodesy.haversineDistance a point⟩
      else best)
      (start + geodesy.haversineDistance a b) rest

def nearestOnLine (p : LngLat) (line : List LngLat) : Nearest :=
  nearestFrom geodesy p ⟨line.headD p, none, 0⟩ 0 line

def paddedBox (line : List LngLat) (metres : ℚ) : Option Box := do
  let lats := line.map snd
  let lons := line.map fst
  let dLat := metres / 111320
  let dLon := dLat / max (1 / 100) (geodesy.cos (← (lats.map abs).max?))
  return ⟨(← lons.min?) - dLon, (← lats.min?) - dLat, (← lons.max?) + dLon, (← lats.max?) + dLat⟩

section

variable (roads : List (List LngLat))

def reaches (p : LngLat) (line : List LngLat) : Bool :=
  !(paddedBox geodesy line ALONG_WITHIN_M).any (·.misses p) &&
    (nearestOnLine geodesy p line).within ALONG_WITHIN_M

def nearRoad (p : LngLat) : Option (Nat × ℚ) :=
  (roads.zipIdx.find? fun road => reaches geodesy p road.1).map fun road =>
    (road.2, (nearestOnLine geodesy p road.1).along)

def drivesAlong : Option (Nat × ℚ) → List LngLat → Bool
  | _, [] => false
  | run, p :: route =>
    match nearRoad geodesy roads p, run with
    | none, _ => drivesAlong none route
    | some near, none => drivesAlong (some near) route
    | some near, some start =>
      if start.1 ≠ near.1 then drivesAlong (some near) route
      else if ALONG_M ≤ |near.2 - start.2| then true
      else drivesAlong (some start) route

def routeUsesLocalAccessRoad (route : List LngLat) : Bool :=
  if roads.length = 0 then false else drivesAlong geodesy roads none route

/-- Consecutive vertices within reach of one road, two of them far apart along it. -/
def UsesRoad (route : List LngLat) : Prop :=
  ∃ line ∈ roads, ∃ before run after, route = before ++ run ++ after ∧
    (∀ p ∈ run, (nearestOnLine geodesy p line).within ALONG_WITHIN_M = true) ∧
    ∃ p ∈ run, ∃ q ∈ run,
      ALONG_M ≤ |(nearestOnLine geodesy q line).along - (nearestOnLine geodesy p line).along|

def firstRoad (p : LngLat) : Option Nat := (nearRoad geodesy roads p).map fst

/-- One road is the first within reach from `start`, where it became so, until `last`, far
from `start` along it. -/
def UsesFirstRoad (route : List LngLat) : Prop :=
  ∃ before start run last after, route = (before ++ start :: run) ++ last :: after ∧
    ∃ road position reached, before.getLast?.bind (firstRoad geodesy roads) ≠ some road ∧
      nearRoad geodesy roads start = some (road, position) ∧
      (∀ p ∈ run, firstRoad geodesy roads p = some road) ∧
      nearRoad geodesy roads last = some (road, reached) ∧ ALONG_M ≤ |reached - position|

def runStep (run : Option (Nat × ℚ)) (p : LngLat) : Option (Nat × ℚ) :=
  if run.map fst = firstRoad geodesy roads p then run else nearRoad geodesy roads p

def Farther (run : Option (Nat × ℚ)) (p : LngLat) : Prop :=
  ∃ road position reached, run = some (road, position) ∧
    nearRoad geodesy roads p = some (road, reached) ∧ ALONG_M ≤ |reached - position|

theorem drives_step (run) (p : LngLat) (route : List LngLat) :
    drivesAlong geodesy roads run (p :: route) = true ↔ Farther geodesy roads run p ∨
        drivesAlong geodesy roads (runStep geodesy roads run p) route = true := by
  unfold Farther runStep firstRoad
  conv_lhs => unfold drivesAlong
  cases near : nearRoad geodesy roads p with
  | none => cases run <;> simp
  | some here =>
    cases run with
    | none => simp
    | some start =>
      obtain ⟨road, position⟩ := start
      obtain ⟨other, reached⟩ := here
      by_cases same : road = other
      · subst same
        by_cases far : ALONG_M ≤ |reached - position|
        · simp [far]
        · simp [far]
      · simp [same, Ne.symm same]

theorem drives_iff (route : List LngLat) : ∀ run, drivesAlong geodesy roads run route = true ↔
      ∃ before last after, route = before ++ last :: after ∧
        Farther geodesy roads (before.foldl (runStep geodesy roads) run) last := by
  induction route with
  | nil => simp [drivesAlong]
  | cons p route ih =>
    intro run
    rw [drives_step, ih]
    constructor
    · rintro (far | ⟨before, last, after, rfl, far⟩)
      · exact ⟨[], p, route, rfl, far⟩
      · exact ⟨p :: before, last, after, rfl, far⟩
    · rintro ⟨before, last, after, split, far⟩
      cases before with
      | nil =>
        obtain ⟨rfl, rfl⟩ := List.cons.inj split
        exact Or.inl far
      | cons q before =>
        obtain ⟨rfl, rfl⟩ := List.cons.inj split
        exact Or.inr ⟨before, last, after, rfl, far⟩

theorem run_road (before : List LngLat) : (before.foldl (runStep geodesy roads) none).map fst =
      before.getLast?.bind (firstRoad geodesy roads) := by
  induction before using reverseRecOn with
  | nil => rfl
  | append_singleton before p ih =>
    rw [foldl_append, getLast?_concat, foldl_cons, foldl_nil, Option.bind_some,
      runStep]
    split
    · assumption
    · rfl

theorem run_iff (before : List LngLat) (road : Nat) (position : ℚ) :
    before.foldl (runStep geodesy roads) none = some (road, position) ↔
      ∃ head start run, before = head ++ start :: run ∧
        head.getLast?.bind (firstRoad geodesy roads) ≠ some road ∧
        nearRoad geodesy roads start = some (road, position) ∧
        ∀ p ∈ run, firstRoad geodesy roads p = some road := by
  induction before using reverseRecOn with
  | nil => simp
  | append_singleton before p ih =>
    have known := run_road geodesy roads before
    rw [foldl_append, foldl_cons, foldl_nil, runStep]
    constructor
    · intro kept
      split at kept
      · rename_i same
        obtain ⟨head, start, run, rfl, apart, near, along⟩ := ih.mp kept
        refine ⟨head, start, run ++ [p], by simp, apart, near, ?_⟩
        refine forall_mem_append.mpr ⟨along, forall_mem_singleton.mpr ?_⟩
        rw [← same, kept]
        rfl
      · rename_i other
        refine ⟨before, p, [], rfl, ?_, kept, by simp⟩
        rw [← known]
        intro same
        apply other
        rw [same, firstRoad, kept]
        rfl
    · rintro ⟨head, start, run, split, apart, near, along⟩
      cases run using reverseRecOn with
      | nil =>
        obtain ⟨rfl, rfl⟩ := append_singleton_inj.mp split
        rw [if_neg, near]
        rw [known, firstRoad, near]
        exact apart
      | append_singleton run q =>
        rw [← cons_append, ← append_assoc] at split
        obtain ⟨rfl, rfl⟩ := append_singleton_inj.mp split
        have kept := ih.mpr ⟨head, start, run, rfl, apart, near,
          fun r member => along r (mem_append_left _ member)⟩
        rw [kept, along p (mem_append_right _ (mem_singleton_self p))]
        exact if_pos rfl

theorem uses_drives (route : List LngLat) :
    routeUsesLocalAccessRoad geodesy roads route = drivesAlong geodesy roads none route := by
  unfold routeUsesLocalAccessRoad
  split
  · rename_i empty
    rw [length_eq_zero_iff] at empty
    subst empty
    induction route with
    | nil => rfl
    | cons p route ih => exact ih
  · rfl

theorem scan_iff (route : List LngLat) :
    routeUsesLocalAccessRoad geodesy roads route = true ↔ UsesFirstRoad geodesy roads route := by
  rw [uses_drives, drives_iff]
  unfold UsesFirstRoad Farther
  constructor
  · rintro ⟨before, last, after, rfl, road, position, reached, kept, near, far⟩
    obtain ⟨head, start, run, rfl, apart, began, along⟩ := (run_iff ..).mp kept
    exact ⟨head, start, run, last, after, rfl, road, position, reached, apart, began, along, near,
      far⟩
  · rintro ⟨head, start, run, last, after, rfl, road, position, reached, apart, began, along, near,
      far⟩
    exact ⟨_, last, after, rfl, road, position, reached,
      (run_iff ..).mpr ⟨head, start, run, rfl, apart, began, along⟩, near, far⟩

theorem near_road {p : LngLat} {road : Nat} {position : ℚ}
    (near : nearRoad geodesy roads p = some (road, position)) : ∃ line, roads[road]? = some line ∧
      (nearestOnLine geodesy p line).within ALONG_WITHIN_M = true ∧
      (nearestOnLine geodesy p line).along = position := by
  obtain ⟨⟨line, index⟩, found, same⟩ := Option.map_eq_some_iff.mp near
  obtain ⟨rfl, along⟩ := mk.inj same
  have reached := find?_some found
  unfold reaches at reached
  exact ⟨line, mem_zipIdx_iff_getElem?.mp (mem_of_find?_eq_some found),
    (Bool.and_eq_true _ _ ▸ reached).2, along⟩

theorem uses_road {route} (used : UsesFirstRoad geodesy roads route) :
    UsesRoad geodesy roads route := by
  obtain ⟨before, start, run, last, after, rfl, road, position, reached, -, began, along, near,
    far⟩ := used
  obtain ⟨line, known, inReach, rfl⟩ := near_road geodesy roads began
  obtain ⟨line', known', inReach', rfl⟩ := near_road geodesy roads near
  obtain rfl := Option.some.inj (known.symm.trans known')
  refine ⟨line, mem_of_getElem? known, before, start :: run ++ [last], after, by simp, ?_,
    start, by simp, last, by simp, far⟩
  intro p member
  rcases mem_append.mp member with member | member
  · rcases mem_cons.mp member with rfl | member
    · exact inReach
    · obtain ⟨⟨other, position⟩, here, rfl⟩ := Option.map_eq_some_iff.mp (along p member)
      obtain ⟨line', known', within, -⟩ := near_road geodesy roads here
      obtain rfl := Option.some.inj (known.symm.trans known')
      exact within
  · rw [mem_singleton.mp member]
    exact inReach'

end

end

def nearEquator : Geodesy where
  cos _ := 1
  haversineDistance a b := 111195 * (|b.1 - a.1| + |b.2 - a.2|)

def equatorRoad : List LngLat := [(0, 0), (1 / 1000, 0)]

def backAndForth : List LngLat := [(1 / 10000, 0), (0, 0), (1 / 4000, 0)]

end OpenMapX.RoadConditions.LocalAccess
