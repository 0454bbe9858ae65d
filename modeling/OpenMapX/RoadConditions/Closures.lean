import Mathlib.Data.Rat.Floor
import OpenMapX.RoadConditions.Effects

/-!
# Road closures as route exclusions

The closures that road-condition providers report, judged effect by effect and turned into
points, polygons and lines for the route planner.
-/

namespace OpenMapX.RoadConditions.Closures

open Effects

abbrev LngLat := ℚ × ℚ

/-- The numbers of a position; `none` is a number that is not finite. -/
abbrev Position := List (Option ℚ)

inductive Geometry where
  | point (coordinates : Position)
  | multiPoint (coordinates : List Position)
  | lineString (coordinates : List Position)
  | multiLineString (coordinates : List (List Position))
  | polygon (coordinates : List (List Position))
  | multiPolygon (coordinates : List (List (List Position)))
  | geometryCollection (geometries : List Geometry)
  | unknown

def toLngLat : Position → Option LngLat
  | some lng :: some lat :: _ => some (lng, lat)
  | _ => none

def sampleCoords (coords : List Position) : List LngLat := coords.filterMap toLngLat

def outerRing (rings : List (List Position)) : List LngLat := sampleCoords (rings.headD [])

mutual

def geometryLines : Geometry → List (List LngLat)
  | .point coordinates => (toLngLat coordinates).toList.map fun p => [p]
  | .multiPoint coordinates => (sampleCoords coordinates).map fun p => [p]
  | .lineString coordinates => [sampleCoords coordinates]
  | .multiLineString coordinates => coordinates.map sampleCoords
  | .polygon coordinates => [outerRing coordinates]
  | .multiPolygon coordinates => coordinates.map outerRing
  | .geometryCollection geometries => linesOfAll geometries
  | .unknown => []

def linesOfAll : List Geometry → List (List LngLat)
  | [] => []
  | geometry :: rest => geometryLines geometry ++ linesOfAll rest

end

def MAX_EXCLUSION_SPACING_M : ℚ := 45

def MAX_EXCLUSION_POINTS_PER_CLOSURE : Nat := 300

section

variable (haversineDistance : LngLat → LngLat → ℚ)

def densifySegment (a b : LngLat) : List LngLat :=
  let steps := ⌈haversineDistance a b / MAX_EXCLUSION_SPACING_M⌉.toNat
  if steps ≤ 1 then [a]
  else
    (List.range steps).map fun i : Nat =>
      let t : ℚ := i / steps
      (a.1 + (b.1 - a.1) * t, a.2 + (b.2 - a.2) * t)

def pushSegment : List LngLat → List LngLat → List LngLat × Bool
  | out, [] => (out, false)
  | out, pt :: rest =>
    let pushed := out ++ [pt]
    if MAX_EXCLUSION_POINTS_PER_CLOSURE ≤ pushed.length then (pushed, true)
    else pushSegment pushed rest

def densifyVertices : List LngLat → List LngLat → List LngLat
  | out, a :: b :: rest =>
    match pushSegment out (densifySegment haversineDistance a b) with
    | (pushed, true) => pushed
    | (pushed, false) => densifyVertices pushed (b :: rest)
  | out, [last] =>
    if out.length < MAX_EXCLUSION_POINTS_PER_CLOSURE then out ++ [last] else out
  | out, [] => out

def densifyLine (coords : List Position) : List LngLat :=
  match sampleCoords coords with
  | [] => []
  | [vertex] => [vertex]
  | vertices => densifyVertices haversineDistance [] vertices

structure Exclusions where
  points : List LngLat
  polygons : List (List LngLat)

def Exclusions.empty : Exclusions := ⟨[], []⟩

def Exclusions.append (first second : Exclusions) : Exclusions :=
  ⟨first.points ++ second.points, first.polygons ++ second.polygons⟩

def polygonOf (ring : List LngLat) : List (List LngLat) := if 3 ≤ ring.length then [ring] else []

mutual

def geometryToExclusions : Geometry → Exclusions
  | .point coordinates => ⟨(toLngLat coordinates).toList, []⟩
  | .lineString coordinates => ⟨densifyLine haversineDistance coordinates, []⟩
  | .multiLineString coordinates =>
    ⟨coordinates.flatMap (densifyLine haversineDistance), []⟩
  | .polygon coordinates => ⟨[], polygonOf (outerRing coordinates)⟩
  | .multiPolygon coordinates => ⟨[], coordinates.flatMap fun poly => polygonOf (outerRing poly)⟩
  -- each point is an exclusion of its own
  | .multiPoint coordinates => ⟨sampleCoords coordinates, []⟩
  | .geometryCollection geometries => exclusionsOfAll geometries
  | .unknown => .empty

def exclusionsOfAll : List Geometry → Exclusions
  | [] => .empty
  | geometry :: rest => (geometryToExclusions geometry).append (exclusionsOfAll rest)

end

end

inductive Origin where
  | feed
  | crowd
  | federation
  | derived
  deriving DecidableEq

structure Situation (Timing : Type) where
  source : String
  geometry : Option Address
  origin : Origin
  /-- `evidence?.routingEligible === true`. -/
  routingEligible : Bool
  /-- The effects for which there is routing evidence, if the provider publishes any. -/
  routingEvidence : Option (List String)
  timing : Timing

structure RoadConditionEvent (Timing : Type) extends Situation Timing where
  effects : List (RoadConditionEffect Timing)

inductive TravelMode where
  | driving
  | walking
  | cycling
  | motorcycle
  | transit
  | flying
  | ride
  deriving DecidableEq

structure RoutingDecision where
  eligible : Bool
  reasons : List String
  validUntil : Option ℤ

/-- The checks of time, evidence and rights, the distance of two positions, and what the
objects of the heap hold. -/
structure ClosureDeps (Timing : Type) where
  haversineDistance : LngLat → LngLat → ℚ
  geometryAt : Address → Geometry
  inForceAt : Situation Timing → RoadConditionEffect Timing → Bool
  getRoadConditionRoutingDecision : Situation Timing → RoadConditionEffect Timing → RoutingDecision

structure RouteContext where
  evaluatedAt : ℤ
  travelAt : ℤ
  mode : TravelMode
  disallowedSources : List String

inductive Disposition where
  | legacyGeometry
  | sharedTraffic
  | ignored
  deriving DecidableEq

structure RouteDecision where
  disposition : Disposition
  reasons : List String
  validUntil : Option ℤ

section

variable {Timing : Type} (deps : ClosureDeps Timing) (context : RouteContext)

def isCrowdNonRoutable (event : Situation Timing) : Bool :=
  (event.origin = .crowd || event.origin = .federation) && !event.routingEligible

def effectGeometry (event : Situation Timing) (effect : RoadConditionEffect Timing) :
    Option Address :=
  match effect.location with
  | some own => some own
  | none => event.geometry

def assessRoadConditionForRoute (sharedTrafficApplied allowLegacyGeometry : Bool)
    (event : Situation Timing) (effect : RoadConditionEffect Timing) : RouteDecision :=
  let bindsThisCar :=
    context.mode = .driving && (closesRoadForCars effect || (speedCapKph effect).isSome)
  if isRestrictionEvidence effect || (isVehicleSpecific effect && !bindsThisCar) then
    ⟨.ignored, ["vehicle_specific_restriction"], none⟩
  else if !(event.routingEvidence.any fun known => known.contains effect.id) then
    if event.routingEvidence.isSome || !allowLegacyGeometry then
      ⟨.ignored, ["missing_routing_evidence"], none⟩
    else ⟨.legacyGeometry, ["legacy_geometry_unverified"], none⟩
  else
    let eligibility := deps.getRoadConditionRoutingDecision event effect
    if !eligibility.eligible then ⟨.ignored, eligibility.reasons, eligibility.validUntil⟩
    else
      let reasons :=
        (if context.mode ≠ .driving ∧ context.mode ≠ .motorcycle then ["unsupported_mode"]
          else []) ++
        (if context.travelAt ≠ context.evaluatedAt then ["unsupported_future_shared_traffic"]
          else []) ++
        (if !sharedTrafficApplied then ["unverified_engine_application"] else [])
      ⟨if reasons = [] then .sharedTraffic else .ignored, reasons, eligibility.validUntil⟩

structure Collected where
  exclusions : Exclusions
  localAccessLines : List (List LngLat)
  hardLines : List (List LngLat)
  legacyLocalAccess : List Address
  sawLegacyGeometry : Bool
  sawRoutingEvidence : Bool
  providerFailed : Bool
  assessmentReasons : List String
  deadlines : List ℤ

def Collected.empty : Collected := ⟨.empty, [], [], [], false, false, false, [], []⟩

/-- `Set.add`, in the order of insertion. -/
def addReasons (known added : List String) : List String :=
  added.foldl (fun known reason => if known.contains reason then known else known ++ [reason])
    known

def sharedTrafficLines (event : Situation Timing) (effect : RoadConditionEffect Timing)
    (found : Collected) : Collected :=
  if closesRoadForCars effect &&
      (assessRoadConditionForRoute deps context true false event effect).disposition =
        .sharedTraffic then
    match effectGeometry event effect with
    | none => found
    | some geometry =>
      let lines := geometryLines (deps.geometryAt geometry)
      if isLocalAccessClosure effect then
        { found with localAccessLines := found.localAccessLines ++ lines }
      else { found with hardLines := found.hardLines ++ lines }
  else found

/-- A closure judged by its geometry; `excluded` are the objects that were dealt with. -/
def legacyClosure (event : Situation Timing) (effect : RoadConditionEffect Timing)
    (found : Collected) (excluded : List Address) : Collected × List Address :=
  if isCrowdNonRoutable event then (found, excluded)
  else if !closesRoadForCars effect then (found, excluded)
  else if !deps.inForceAt event effect then (found, excluded)
  else
    match effectGeometry event effect with
    | none => (found, excluded)
    | some geometry =>
      if excluded.contains geometry then (found, excluded)
      else if isLocalAccessClosure effect then
        ({ found with legacyLocalAccess := found.legacyLocalAccess ++ [geometry] },
          geometry :: excluded)
      else
        ({ found with
            hardLines := found.hardLines ++ geometryLines (deps.geometryAt geometry)
            exclusions := found.exclusions.append
              (geometryToExclusions deps.haversineDistance (deps.geometryAt geometry)) },
          geometry :: excluded)

def effectStep (event : Situation Timing) (state : Collected × List Address)
    (effect : RoadConditionEffect Timing) : Collected × List Address :=
  let routeDecision := assessRoadConditionForRoute deps context false true event effect
  let noted :=
    { state.1 with
      assessmentReasons := addReasons state.1.assessmentReasons routeDecision.reasons
      deadlines := state.1.deadlines ++ routeDecision.validUntil.toList }
  if routeDecision.disposition ≠ .legacyGeometry then
    (sharedTrafficLines deps context event effect noted, state.2)
  else legacyClosure deps event effect { noted with sawLegacyGeometry := true } state.2

def eventStep (found : Collected) (event : RoadConditionEvent Timing) : Collected :=
  if context.disallowedSources.contains event.source then found
  else
    let seen :=
      { found with
        sawRoutingEvidence := found.sawRoutingEvidence || event.routingEvidence.isSome }
    (event.effects.foldl (effectStep deps context event.toSituation) (seen, [])).1

inductive ProviderResult (Timing : Type) where
  | rejected
  | fulfilled (events : List (RoadConditionEvent Timing))

def resultStep (found : Collected) : ProviderResult Timing → Collected
  | .rejected => { found with providerFailed := true }
  | .fulfilled events => events.foldl (eventStep deps context) found

inductive Availability where
  | limited
  | unsupported
  | unavailable

structure ClosureExclusions where
  points : List LngLat
  polygons : List (List LngLat)
  localAccessLines : List (List LngLat)
  hardLines : List (List LngLat)
  legacyLocalAccess : List Address
  availability : Availability
  validUntil : Option ℤ
  reasons : List String

def collect (results : List (ProviderResult Timing)) : Collected :=
  results.foldl (resultStep deps context) .empty

def activeClosuresForBbox (results : List (ProviderResult Timing)) : ClosureExclusions :=
  if results = [] then ⟨[], [], [], [], [], .unavailable, none, ["no_road_condition_provider"]⟩
  else
    let found := collect deps context results
    { points := found.exclusions.points
      polygons := found.exclusions.polygons
      localAccessLines := found.localAccessLines
      hardLines := found.hardLines
      legacyLocalAccess := found.legacyLocalAccess
      availability :=
        if found.sawLegacyGeometry then .limited
        else if found.sawRoutingEvidence then .unsupported
        else .unavailable
      validUntil := found.deadlines.min?
      reasons :=
        if !found.sawLegacyGeometry && !found.sawRoutingEvidence then
          addReasons found.assessmentReasons
            [if found.providerFailed then "road_condition_provider_unavailable"
              else "missing_current_evidence"]
        else found.assessmentReasons }

end

end OpenMapX.RoadConditions.Closures
