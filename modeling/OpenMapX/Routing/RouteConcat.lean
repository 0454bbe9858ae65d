import Mathlib.Algebra.Order.Field.Rat
import OpenMapX.Foundation.KeyedList

/-!
# Joining routes

`concatenateRoutes` folds the routes of a trip's legs into one. A shared endpoint is kept
once, other endpoints are joined by a connecting segment, and limits and contributor spans
are moved to the places of their segments. What a receipt of a contributor is, is left open.
-/

namespace OpenMapX.Routing.RouteConcat

open Foundation.KeyedList

abbrev LngLat := ℚ × ℚ

structure ReceiptReader (Receipt : Type) where
  parseReceipt : Receipt → Option Receipt
  contributorKey : Receipt → String

abbrev FieldContributors (Receipt : Type) := List (String × List Receipt)

structure GeometryContributorSpan (Receipt : Type) where
  startIndex : ℤ
  endIndex : ℤ
  contributors : Option (List Receipt)

structure RouteChild (Receipt Content : Type) where
  contributors : Option (List Receipt)
  fieldContributors : Option (FieldContributors Receipt)
  content : Content

structure Route (Receipt Content : Type) where
  geometryContributors : Option (List (GeometryContributorSpan Receipt))
  contributors : Option (List Receipt)
  fieldContributors : Option (FieldContributors Receipt)
  distance : ℚ
  duration : ℚ
  baselineDuration : Option ℚ
  geometry : List LngLat
  legs : List (RouteChild Receipt Content)
  steps : List (RouteChild Receipt Content)
  mode : String
  segmentSpeedLimits : Option (List (Option ℚ))
  summary : Option String
  hasTolls : Option Bool
  sourceIds : Option (List String)
  elevation : Option (List ℚ)
  elevationInterval : Option ℚ

section

variable {Receipt Content : Type} (reader : ReceiptReader Receipt)

def parseContributors (value : Option (List Receipt)) : Option (List Receipt) :=
  value.bind (List.mapM reader.parseReceipt)

def unionContributors (groups : List (List Receipt)) : List Receipt :=
  (groups.flatMap fun group => (parseContributors reader (some group)).getD []).foldl
    (fun result receipt =>
      if result.any fun other => reader.contributorKey other = reader.contributorKey receipt then
        result
      else result ++ [receipt]) []

def snapshotContributors (receipts : List Receipt) : List Receipt :=
  unionContributors reader [receipts]

def contributorsForRecords (routes : List (Route Receipt Content)) : List Receipt :=
  unionContributors reader (routes.map fun route => route.contributors.getD [])

/-- `key.slice(0, key.lastIndexOf("."))`. -/
def parentKey (key : List Char) : Option (List Char) :=
  match key.reverse.dropWhile (· ≠ '.') with
  | [] => none
  | _ :: before => some before.reverse

def containerReceipts (fields : FieldContributors Receipt) : Nat → List Char → List Receipt
  | 0, _ => []
  | fuel + 1, key =>
    if key = [] then []
    else
      match fields.lookup (String.ofList key) with
      | some receipts => snapshotContributors reader receipts
      | none =>
        match parentKey key with
        | none => []
        | some parent => containerReceipts fields fuel parent

def contributorsForField (route : Route Receipt Content) (field : String) : List Receipt :=
  match route.fieldContributors with
  | none => snapshotContributors reader (route.contributors.getD [])
  | some fields => containerReceipts reader fields (field.length + 1) field.toList

/-- The spans from `previousEnd` on, in order and within the points. -/
def parseSpans (pointCount : Nat) :
    ℤ → List (GeometryContributorSpan Receipt) → Option (List (GeometryContributorSpan Receipt))
  | _, [] => some []
  | previousEnd, raw :: later =>
    if raw.startIndex < previousEnd ∨ raw.endIndex ≤ raw.startIndex ∨
        (pointCount : ℤ) ≤ raw.endIndex then none
    else
      match parseContributors reader raw.contributors with
      | none => none
      | some contributors =>
        (parseSpans pointCount raw.endIndex later).map fun spans =>
          { startIndex := raw.startIndex, endIndex := raw.endIndex
            contributors := some (snapshotContributors reader contributors) } :: spans

def parseGeometryContributors (value : List (GeometryContributorSpan Receipt))
    (pointCount : Nat) : Option (List (GeometryContributorSpan Receipt)) :=
  parseSpans reader pointCount 0 value

def unknownSpan (startIndex endIndex : ℤ) : GeometryContributorSpan Receipt where
  startIndex := startIndex
  endIndex := endIndex
  contributors := some []

/-- The spans with the gaps between them filled, from `cursor` up to the last point. -/
def fillGaps (endIndex : ℤ) :
    ℤ → List (GeometryContributorSpan Receipt) → List (GeometryContributorSpan Receipt)
  | cursor, [] => if cursor < endIndex then [unknownSpan cursor endIndex] else []
  | cursor, span :: later =>
    (if cursor < span.startIndex then [unknownSpan cursor span.startIndex] else []) ++
      span :: fillGaps endIndex span.endIndex later

def captureGeometryContributors (route : Route Receipt Content) :
    List (GeometryContributorSpan Receipt) :=
  let endIndex : ℤ := route.geometry.length - 1
  if endIndex < 1 then []
  else
    match route.geometryContributors with
    | none =>
      [{ startIndex := 0, endIndex := endIndex
         contributors := some (contributorsForField reader route "geometry") }]
    | some given =>
      fillGaps endIndex 0
        ((parseGeometryContributors reader given route.geometry.length).getD [])

def shiftSpan (offset : ℤ) (span : GeometryContributorSpan Receipt) :
    GeometryContributorSpan Receipt :=
  { span with
    startIndex := span.startIndex + offset
    endIndex := span.endIndex + offset }

def JOIN_EPSILON : ℚ := 1 / 10 ^ 9

def samePoint (a b : LngLat) : Bool :=
  decide (|a.1 - b.1| < JOIN_EPSILON) && decide (|a.2 - b.2| < JOIN_EPSILON)

structure Joined (Receipt Content : Type) where
  geometryContributors : List (GeometryContributorSpan Receipt)
  geometry : List LngLat
  legs : List (RouteChild Receipt Content)
  steps : List (RouteChild Receipt Content)
  speedLimits : List (Option ℚ)
  elevation : List ℚ
  distance : ℚ
  duration : ℚ
  baseline : ℚ

def nothingJoined : Joined Receipt Content where
  geometryContributors := []
  geometry := []
  legs := []
  steps := []
  speedLimits := []
  elevation := []
  distance := 0
  duration := 0
  baseline := 0

def endpoints (geometry : List LngLat) (route : Route Receipt Content) : Option (LngLat × LngLat) :=
  match geometry.getLast?, route.geometry.head? with
  | some last, some first => some (last, first)
  | _, _ => none

def sharesEndpoint (geometry : List LngLat) (route : Route Receipt Content) : Bool :=
  (endpoints geometry route).any fun ends => samePoint ends.1 ends.2

def connects (geometry : List LngLat) (route : Route Receipt Content) : Bool :=
  (endpoints geometry route).any fun ends => !samePoint ends.1 ends.2

def joinRoute (joined : Joined Receipt Content) (route : Route Receipt Content) :
    Joined Receipt Content :=
  let sharedEndpoint := sharesEndpoint joined.geometry route
  let shape := if sharedEndpoint then route.geometry.tail else route.geometry
  let offset : ℤ := joined.geometry.length - (if sharedEndpoint then 1 else 0)
  let connecting := connects joined.geometry route
  { geometryContributors := joined.geometryContributors ++
      (if connecting then [unknownSpan (offset - 1) offset] else []) ++
      (captureGeometryContributors reader route).map (shiftSpan offset)
    geometry := joined.geometry ++ shape
    legs := joined.legs ++ route.legs
    steps := joined.steps ++ route.steps
    speedLimits := joined.speedLimits ++ (if connecting then [none] else []) ++
      route.segmentSpeedLimits.getD []
    elevation := joined.elevation ++ route.elevation.getD []
    distance := joined.distance + route.distance
    duration := joined.duration + route.duration
    baseline := joined.baseline + route.baselineDuration.getD 0 }

def joinRoutes (routes : List (Route Receipt Content)) : Joined Receipt Content :=
  routes.foldl (joinRoute reader) nothingJoined

/-- `fieldContributors[field] = receipts`. -/
def setField (fields : FieldContributors Receipt) (field : String) (receipts : List Receipt) :
    FieldContributors Receipt :=
  setKey Prod.fst fields (field, receipts)

/-- The receipts of one leg or step at its new place, with those of its own fields. -/
def placeChild (route : Route Receipt Content) (place target : String)
    (child : RouteChild Receipt Content) (fields : FieldContributors Receipt) :
    FieldContributors Receipt :=
  let bare := child.contributors.isNone && child.fieldContributors.isNone
  let whole :=
    if bare then contributorsForField reader route place
    else if child.fieldContributors.isNone then
      snapshotContributors reader (child.contributors.getD [])
    else []
  let inherited := if bare then route.fieldContributors.getD [] else []
  let below := (place ++ ".").toList
  let fields := inherited.foldl (fun fields entry =>
    if below.isPrefixOf entry.1.toList then
      setField fields (target ++ String.ofList (entry.1.toList.drop place.length))
        (snapshotContributors reader entry.2)
    else fields) (setField fields target whole)
  (child.fieldContributors.getD []).foldl (fun fields entry =>
    setField fields (target ++ "." ++ entry.1) (snapshotContributors reader entry.2)) fields

/-- The children of the routes under one of the two roots, at their places in the whole. -/
def placeChildren (root : String)
    (childrenOf : Route Receipt Content → List (RouteChild Receipt Content))
    (routes : List (Route Receipt Content)) (fields : FieldContributors Receipt) :
    FieldContributors Receipt :=
  (routes.foldl (fun (sofar : Nat × FieldContributors Receipt) route =>
    (sofar.1 + (childrenOf route).length,
      (childrenOf route).zipIdx.foldl (fun fields entry =>
        placeChild reader route (root ++ "." ++ toString entry.2)
          (root ++ "." ++ toString (sofar.1 + entry.2)) entry.1 fields) sofar.2))
    (0, fields)).2

def suppliers (first : Route Receipt Content) (routes : List (Route Receipt Content))
    (hasTolls : Option Bool) (field : String) : List (Route Receipt Content) :=
  if ["summary", "mode", "elevationInterval"].contains field then [first]
  else if field = "hasTolls" ∧ hasTolls = some true then
    routes.filter fun route => route.hasTolls = some true
  else routes

def tripTolls (routes : List (Route Receipt Content)) : Option Bool :=
  if routes.any fun route => route.hasTolls = some true then some true
  else if routes.all fun route => route.hasTolls = some false then some false
  else none

def concatenateRoutes : List (Route Receipt Content) → Option (Route Receipt Content)
  | [] => none
  | [route] => some route
  | first :: second :: rest =>
    let routes := first :: second :: rest
    let joined := joinRoutes reader routes
    let everyHasSpeedLimits := routes.all fun route => route.segmentSpeedLimits.isSome
    let everyHasBaseline := routes.all fun route => route.baselineDuration.isSome
    let hasTolls := tripTolls routes
    let interval := first.elevationInterval
    let everyHasElevation := routes.all fun route =>
      route.elevation.isSome && decide (route.elevationInterval = interval)
    let summary := first.summary.filter (· ≠ "")
    let sourceIds := (routes.flatMap fun route => route.sourceIds.getD []).eraseDups
    let retainedFields := ["geometry", "distance", "duration", "legs", "steps", "mode"] ++
      (if summary.isSome then ["summary"] else []) ++
      (if everyHasBaseline then ["baselineDuration"] else []) ++
      (if everyHasSpeedLimits then ["segmentSpeedLimits"] else []) ++
      (if hasTolls.isNone then [] else ["hasTolls"]) ++
      (if everyHasElevation && interval.isSome then ["elevation", "elevationInterval"] else [])
    let fields := retainedFields.map fun field =>
      (field, unionContributors reader ((suppliers first routes hasTolls field).map
        fun route => contributorsForField reader route field))
    some
      { geometryContributors := some joined.geometryContributors
        contributors := some (contributorsForRecords reader routes)
        fieldContributors := some (placeChildren reader "steps" Route.steps routes
          (placeChildren reader "legs" Route.legs routes fields))
        distance := joined.distance
        duration := joined.duration
        baselineDuration := if everyHasBaseline then some joined.baseline else none
        geometry := joined.geometry
        legs := joined.legs
        steps := joined.steps
        mode := first.mode
        segmentSpeedLimits := if everyHasSpeedLimits then some joined.speedLimits else none
        summary := summary
        hasTolls := hasTolls
        sourceIds := if sourceIds.isEmpty then none else some sourceIds
        elevation := if everyHasElevation && interval.isSome then some joined.elevation else none
        elevationInterval := if everyHasElevation then interval else none }

end

end OpenMapX.Routing.RouteConcat
