import Mathlib
import OpenMapX.RoadConditions.LocalAccess

/-!
# Exclusions near the ends of a trip

The closures that were collected for a route as exclusions of a request. A road closed to all
but local access that has no routing evidence is excluded if both ends are clear of its
lines, also where an end lies deep inside the area that is excluded.
-/

namespace OpenMapX.RoadConditions.EndpointExclusions

open Effects Closures LocalAccess List

def REACH_M : ℚ := 1000

def MAX_ACCESS_POINTS : Nat := 2

structure LocalAccessEndpoint where
  snapOntoClosure : Bool
  accessPoints : List LngLat

structure LocalAccessPlan where
  origin : Option LocalAccessEndpoint
  destination : Option LocalAccessEndpoint

structure RoadConditionImpact where
  availability : Availability
  validUntil : Option ℤ
  reasons : List String

structure ClosureExclusionResult where
  exclusions : Exclusions
  hasExclusions : Bool
  exclusionsHash : Option String
  roadConditionImpact : Option RoadConditionImpact
  localAccess : Option (LocalAccessPlan × List (List LngLat))

structure ExclusionDeps extends Geodesy where
  geometryAt : Address → Geometry
  hashKey : Exclusions → Option LocalAccessPlan → String

def endsOf (waypoints : List LngLat) : List LngLat :=
  waypoints.head?.toList ++ waypoints.getLast?.toList

section

variable (deps : ExclusionDeps)

def distanceTo (p : LngLat) (lines : List (List LngLat)) : Option ℚ :=
  (lines.filterMap fun line => (nearestOnLine deps.toGeodesy p line).metres).min?

def planEnd (finish : LngLat) (roads hard : List (List LngLat)) : Option LocalAccessEndpoint :=
  let near := ((roads.map (nearestOnLine deps.toGeodesy finish)).filter
    (·.within REACH_M)).insertionSort fun a b => a.metres.getD 0 ≤ b.metres.getD 0
  near.head?.map fun first =>
    { snapOntoClosure := first.within SNAP_M && (distanceTo deps finish hard).all (SNAP_M < ·)
      accessPoints := (near.take MAX_ACCESS_POINTS).map (·.point) }

def planLocalAccess (waypoints : List LngLat) (roads hard : List (List LngLat)) :
    Option LocalAccessPlan :=
  if roads.length = 0 ∨ waypoints.length < 2 then none
  else
    let origin := waypoints.head?.bind (planEnd deps · roads hard)
    let destination := waypoints.getLast?.bind (planEnd deps · roads hard)
    if origin.isNone && destination.isNone then none else some ⟨origin, destination⟩

def clearOfEndpoints (line waypoints : List LngLat) : Bool :=
  (endsOf waypoints).all fun finish => !(nearestOnLine deps.toGeodesy finish line).within SNAP_M

def nearbyLines (waypoints : List LngLat) (lines : List (List LngLat)) : List (List LngLat) :=
  lines.filter fun line =>
    (endsOf waypoints).any fun finish => (nearestOnLine deps.toGeodesy finish line).within REACH_M

def isClear (waypoints : List LngLat) (geometry : Geometry) : Bool :=
  (geometryLines geometry).all (clearOfEndpoints deps · waypoints)

def legacyStep (waypoints : List LngLat) (state : Exclusions × List (List LngLat))
    (geometry : Geometry) : Exclusions × List (List LngLat) :=
  if isClear deps waypoints geometry then
    (state.1.append (geometryToExclusions deps.haversineDistance geometry), state.2)
  else (state.1, state.2 ++ geometryLines geometry)

/-- `collected` is what was answered for the box of the waypoints, unless it failed. -/
def applyClosureExclusions (waypoints : List LngLat) (wantClosureAvoidance : Bool)
    (collected : Option ClosureExclusions) : ClosureExclusionResult :=
  if !wantClosureAvoidance then ⟨.empty, false, none, none, none⟩
  else
    match collected with
    | none =>
      ⟨.empty, false, none,
        some ⟨.unavailable, none, ["road_condition_provider_unavailable"]⟩, none⟩
    | some closures =>
      let found := (closures.legacyLocalAccess.map deps.geometryAt).foldl (legacyStep deps waypoints)
        (⟨closures.points, closures.polygons⟩, closures.localAccessLines)
      let plan := planLocalAccess deps waypoints found.2 closures.hardLines
      let hasExclusions := 0 < found.1.points.length || 0 < found.1.polygons.length
      { exclusions := found.1
        hasExclusions
        exclusionsHash :=
          if hasExclusions || plan.isSome then some (deps.hashKey found.1 plan) else none
        roadConditionImpact :=
          some ⟨closures.availability, closures.validUntil, closures.reasons⟩
        localAccess := plan.map fun plan => (plan, nearbyLines deps waypoints found.2) }

end

mutual

def polygonsOf : Geometry → List (List (List LngLat))
  | .polygon coordinates => [coordinates.map sampleCoords]
  | .multiPolygon coordinates => coordinates.map (·.map sampleCoords)
  | .geometryCollection geometries => polygonsOfAll geometries
  | _ => []

def polygonsOfAll : List Geometry → List (List (List LngLat))
  | [] => []
  | geometry :: rest => polygonsOf geometry ++ polygonsOfAll rest

end

/-- An edge to the east of `p`, from one side of its parallel to the other. -/
def crosses (p a b : LngLat) : Bool :=
  decide (p.2 < a.2) != decide (p.2 < b.2) &&
    p.1 < a.1 + (b.1 - a.1) * (p.2 - a.2) / (b.2 - a.2)

def insideRing (p : LngLat) (ring : List LngLat) : Bool :=
  (ring.zip (ring.rotate 1)).countP (fun edge => crosses p edge.1 edge.2) % 2 = 1

def insidePolygon (p : LngLat) : List (List LngLat) → Bool
  | [] => false
  | outer :: holes => insideRing p outer && !holes.any (insideRing p)

def endInside (waypoints : List LngLat) (geometry : Geometry) : Bool :=
  (endsOf waypoints).any fun finish => (polygonsOf geometry).any (insidePolygon finish)

section

variable (deps : ExclusionDeps) (waypoints : List LngLat)

def liesOn (geometry : Geometry) : Bool :=
  ((endsOf waypoints).any fun finish => (geometryLines geometry).any fun line =>
    (nearestOnLine deps.toGeodesy finish line).within SNAP_M) || endInside waypoints geometry

def openAtEnds (closures : ClosureExclusions) : Exclusions :=
  Exclusions.append ⟨closures.points, closures.polygons⟩
    (exclusionsOfAll deps.haversineDistance
      ((closures.legacyLocalAccess.map deps.geometryAt).filter (!liesOn deps waypoints ·)))

theorem lies_on_iff (geometry : Geometry) :
    liesOn deps waypoints geometry = (!isClear deps waypoints geometry ||
      endInside waypoints geometry) := by
  have swap : ((endsOf waypoints).any fun finish => (geometryLines geometry).any fun line =>
      (nearestOnLine deps.toGeodesy finish line).within SNAP_M) =
        !isClear deps waypoints geometry := by
    rw [Bool.eq_iff_iff]
    simp only [isClear, clearOfEndpoints, any_eq_true, Bool.not_eq_true', all_eq_false,
      Bool.not_eq_true, Bool.not_eq_false]
    exact ⟨fun ⟨finish, at_, line, of, near⟩ => ⟨line, of, finish, at_, near⟩,
      fun ⟨line, of, finish, at_, near⟩ => ⟨finish, at_, line, of, near⟩⟩
  rw [liesOn, swap]

theorem crosses_comm (p a b : LngLat) : crosses p a b = crosses p b a := by
  unfold crosses
  by_cases same : a.2 = b.2
  · rw [same]
    simp
  · have up : b.2 - a.2 ≠ 0 := sub_ne_zero.mpr (Ne.symm same)
    have down : a.2 - b.2 ≠ 0 := sub_ne_zero.mpr same
    have meet : a.1 + (b.1 - a.1) * (p.2 - a.2) / (b.2 - a.2) =
        b.1 + (a.1 - b.1) * (p.2 - b.2) / (a.2 - b.2) := by
      field_simp
      ring
    rw [meet, bne_comm]

theorem inside_length {p : LngLat} {ring} (inside : insideRing p ring = true) :
    3 ≤ ring.length := by
  unfold insideRing at inside
  match ring with
  | [] => simp at inside
  | [a] => simp [crosses, List.rotate] at inside
  | [a, b] =>
    have twice : ([a, b].zip ([a, b].rotate 1)).countP (fun edge => crosses p edge.1 edge.2) =
        if crosses p a b then 2 else 0 := by
      have turned : [a, b].rotate 1 = [b, a] := rfl
      cases cross : crosses p a b <;>
        simp [turned, crosses_comm p b a, cross]
    rw [twice] at inside
    split at inside <;> simp at inside
  | _ :: _ :: _ :: _ => simp

theorem outer_ring_excluded {p : LngLat} {rings}
    (inside : insidePolygon p (rings.map sampleCoords) = true) :
    polygonOf (outerRing rings) ≠ [] := by
  cases rings with
  | nil => cases inside
  | cons outer holes =>
    have around := inside_length (Bool.and_eq_true _ _ ▸ inside).1
    unfold polygonOf outerRing
    rw [headD_cons, if_pos around]
    exact cons_ne_nil _ _

mutual

theorem inside_excluded (hav : LngLat → LngLat → ℚ) (p : LngLat) : ∀ geometry : Geometry,
    (polygonsOf geometry).any (insidePolygon p) = true →
      (geometryToExclusions hav geometry).polygons ≠ []
  | .point _, inside => by cases inside
  | .multiPoint _, inside => by cases inside
  | .lineString _, inside => by cases inside
  | .multiLineString _, inside => by cases inside
  | .unknown, inside => by cases inside
  | .polygon coordinates, inside => by
    rw [polygonsOf, any_cons, any_nil, Bool.or_false] at inside
    exact outer_ring_excluded inside
  | .multiPolygon coordinates, inside => by
    obtain ⟨_, member, inside⟩ := any_eq_true.mp inside
    obtain ⟨rings, given, rfl⟩ := mem_map.mp member
    intro none
    exact outer_ring_excluded inside (flatMap_eq_nil_iff.mp none rings given)
  | .geometryCollection geometries, inside => inside_excluded_all hav p geometries inside

theorem inside_excluded_all (hav : LngLat → LngLat → ℚ) (p : LngLat) :
    ∀ geometries : List Geometry, (polygonsOfAll geometries).any (insidePolygon p) = true →
      (exclusionsOfAll hav geometries).polygons ≠ []
  | [], inside => by cases inside
  | geometry :: rest, inside => by
    rw [polygonsOfAll, any_append, Bool.or_eq_true] at inside
    rw [exclusionsOfAll, Exclusions.append]
    rcases inside with inside | inside
    · exact append_ne_nil_of_left_ne_nil (inside_excluded hav p geometry inside) _
    · exact append_ne_nil_of_right_ne_nil _ (inside_excluded_all hav p rest inside)

end

theorem append_assoc (first second third : Exclusions) :
    (first.append second).append third = first.append (second.append third) := by
  unfold Exclusions.append
  rw [List.append_assoc, List.append_assoc]

theorem append_empty (first : Exclusions) : first.append .empty = first := by
  unfold Exclusions.append Exclusions.empty
  rw [append_nil, append_nil]

theorem legacy_exclusions (geometries : List Geometry) : ∀ state,
    (geometries.foldl (legacyStep deps waypoints) state).1 =
      state.1.append (exclusionsOfAll deps.haversineDistance
        (geometries.filter (isClear deps waypoints))) := by
  induction geometries with
  | nil =>
    intro state
    exact (append_empty state.1).symm
  | cons geometry rest ih =>
    intro state
    rw [foldl_cons, ih, legacyStep]
    cases clear : isClear deps waypoints geometry with
    | false => simp [clear]
    | true =>
      rw [if_pos rfl, filter_cons_of_pos clear, exclusionsOfAll]
      exact append_assoc _ _ _

theorem excluded_apply (closures : ClosureExclusions) :
    (applyClosureExclusions deps waypoints true (some closures)).exclusions =
      Exclusions.append ⟨closures.points, closures.polygons⟩ (exclusionsOfAll deps.haversineDistance
          ((closures.legacyLocalAccess.map deps.geometryAt).filter (isClear deps waypoints))) :=
  legacy_exclusions deps waypoints _ _

theorem open_filter (geometries : List Geometry) : geometries.filter (!liesOn deps waypoints ·) =
      (geometries.filter (isClear deps waypoints)).filter (!endInside waypoints ·) := by
  rw [filter_filter]
  apply filter_congr
  intro geometry _
  rw [lies_on_iff, Bool.not_or, Bool.not_not, Bool.and_comm]

theorem polygons_split (keep : Geometry → Bool) (geometries : List Geometry) :
    ((geometries.filter (!keep ·)).flatMap fun geometry =>
        (geometryToExclusions deps.haversineDistance geometry).polygons).length +
      (exclusionsOfAll deps.haversineDistance (geometries.filter keep)).polygons.length =
      (exclusionsOfAll deps.haversineDistance geometries).polygons.length := by
  induction geometries with
  | nil => rfl
  | cons geometry rest ih =>
    rw [exclusionsOfAll, Exclusions.append, length_append, ← ih]
    cases kept : keep geometry with
    | false => simp [kept, Nat.add_assoc]
    | true =>
      simp [kept, exclusionsOfAll, Exclusions.append]
      omega

/-- The roads at the ends stay open exactly if no end is inside an area, clear of its lines. -/
theorem ends_open_iff (closures : ClosureExclusions) :
    (applyClosureExclusions deps waypoints true (some closures)).exclusions =
        openAtEnds deps waypoints closures ↔
      ∀ geometry ∈ closures.legacyLocalAccess.map deps.geometryAt,
        endInside waypoints geometry = true → isClear deps waypoints geometry = false := by
  rw [excluded_apply, openAtEnds, open_filter]
  constructor
  · intro agree geometry member inside
    by_contra clear
    have same := congrArg (fun exclusions => exclusions.polygons.length) agree
    have split := polygons_split deps (!endInside waypoints ·)
      ((closures.legacyLocalAccess.map deps.geometryAt).filter (isClear deps waypoints))
    simp only [Exclusions.append, length_append] at same
    rw [Nat.add_left_cancel same] at split
    have none := length_eq_zero_iff.mp (Nat.add_eq_right.mp split)
    obtain ⟨finish, -, around⟩ := any_eq_true.mp inside
    apply inside_excluded deps.haversineDistance finish geometry around
    apply flatMap_eq_nil_iff.mp none
    simp [mem_filter, member, inside, eq_true_of_ne_false clear]
  · intro apart
    congr 2
    symm
    apply filter_eq_self.mpr
    intro geometry kept
    obtain ⟨member, clear⟩ := mem_filter.mp kept
    cases inside : endInside waypoints geometry with
    | false => rfl
    | true => simp [apart geometry member inside] at clear

end

def closedQuarter : Geometry :=
  .polygon [[[some (-1 / 100), some (-1 / 100)], [some (1 / 100), some (-1 / 100)],
    [some (1 / 100), some (1 / 100)], [some (-1 / 100), some (1 / 100)],
    [some (-1 / 100), some (-1 / 100)]]]

def quarterDeps : ExclusionDeps :=
  { nearEquator with
    geometryAt := fun _ => closedQuarter
    hashKey := fun _ _ => "excl" }

def quarterClosures : ClosureExclusions :=
  ⟨[], [], [], [], [0], .limited, none, ["legacy_geometry_unverified"]⟩

theorem end_in_area_closed :
    (applyClosureExclusions quarterDeps [(0, 0), (1, 0)] true (some quarterClosures)).exclusions ≠
      openAtEnds quarterDeps [(0, 0), (1, 0)] quarterClosures := by
  intro agree
  have closed := congrArg Exclusions.polygons agree
  revert closed
  decide +kernel

end OpenMapX.RoadConditions.EndpointExclusions
