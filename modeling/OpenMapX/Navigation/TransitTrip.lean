import Mathlib.Algebra.Order.Ring.Rat

/-!
# Transit trips

The itinerary, the captured stops and the rider's tick state, with the fields that
following a trip reads. An itinerary is what a server sent, so that a leg may lack
any of its parts. Fields that are only displayed are left out.
-/

namespace OpenMapX.Navigation.TransitTrip

inductive JsNumber where
  | finite (value : ℚ)
  | infinite (negative : Bool)
  | nan
  deriving DecidableEq

/-- `Number.isFinite`, with the value. -/
def JsNumber.value? : JsNumber → Option ℚ
  | .finite value => some value
  | _ => none

/-- `a <= b`, which is false as soon as one side is not a number. -/
def JsNumber.le (left right : JsNumber) : Bool :=
  match left, right with
  | .finite left, .finite right => left ≤ right
  | .nan, _ => false
  | _, .nan => false
  | .infinite true, _ => true
  | _, .infinite false => true
  | _, _ => false

/-- `a < b`. -/
def JsNumber.lt (left right : JsNumber) : Bool :=
  match left, right with
  | .finite left, .finite right => left < right
  | .finite _, .infinite negative => !negative
  | .infinite negative, .finite _ => negative
  | .infinite true, .infinite false => true
  | _, _ => false

/-- What a property access on `null` or `undefined` throws. -/
inductive TypeError where
  | typeError
  deriving DecidableEq

structure LngLat where
  lng : JsNumber
  lat : JsNumber
  deriving DecidableEq

structure FixInput where
  coords : LngLat
  accuracy : JsNumber
  speed : Option JsNumber
  timestampMs : JsNumber
  coasted : Bool
  deriving DecidableEq

structure StopPlace where
  name : Option String
  stopId : Option String
  location : LngLat
  platformCode : Option String
  scheduledPlatformCode : Option String

structure TransitStep where
  distanceMeters : ℚ

structure TransitLeg where
  mode : Option String
  route : Bool
  tripId : Option String
  fromStop : Option StopPlace
  toStop : Option StopPlace
  startTime : Option String
  endTime : Option String
  scheduledStartTime : Option String
  scheduledEndTime : Option String
  geometry : Option (List LngLat)
  steps : List TransitStep
  cancelled : Bool
  interlineWithPrevious : Bool

structure TripItinerary where
  legs : List TransitLeg
  refreshToken : Option String

inductive PlatformKind where
  | schedule | correction | realtime
  deriving DecidableEq

structure TransitPlatformEvidence where
  code : String
  scheduledCode : Option String
  kind : PlatformKind

structure CapturedStop where
  stopId : String
  location : LngLat
  expectedDeparture : Option String
  scheduledDeparture : Option String
  platform : Option String
  scheduledPlatform : Option String
  arrivalPlatform : Option TransitPlatformEvidence
  departurePlatform : Option TransitPlatformEvidence

structure LegCapture where
  legIndex : Nat
  tripId : String
  captured : Bool
  stops : List CapturedStop

inductive ShapeType where
  | point | line | polygon
  deriving DecidableEq

structure TransitStopAreaShape where
  type : ShapeType
  coordinates : List LngLat
  bufferMeters : ℚ
  deriving DecidableEq

structure TransitStopArea where
  platform : List TransitStopAreaShape
  station : List TransitStopAreaShape

/-- Areas by `transitStopAreaKey`. -/
abbrev TransitStopAreaIndex := List (String × TransitStopArea)

inductive TransitPhase where
  | walking | waitingToBoard | riding | transferring | arrived
  deriving DecidableEq

inductive TransitConfidence where
  | gps | schedule | stale
  deriving DecidableEq

inductive ProgressConfidence where
  | gps | uncertain | stale
  deriving DecidableEq

structure TransitStopTracking where
  alongTimestampMs : Option ℚ
  candidateAlongMeters : Option ℚ
  candidateTimestampMs : Option ℚ
  deriving DecidableEq

inductive BoardingAction where
  | board | alight | «continue»
  deriving DecidableEq

inductive RiderActionType where
  | boarding (action : BoardingAction)
  | undo
  deriving DecidableEq

structure TransitRiderAction where
  type : RiderActionType
  legIndex : Nat
  deriving DecidableEq

structure PreviousPosition where
  currentLegIndex : Nat
  phase : TransitPhase
  currentWalkStepIndex : Nat
  stopCursor : Nat
  alongMeters : ℚ
  deriving DecidableEq

structure LastAction where
  type : BoardingAction
  legIndex : Nat
  atMs : ℤ
  previous : PreviousPosition
  deriving DecidableEq

structure TransitTickState where
  currentLegIndex : Nat
  currentWalkStepIndex : Nat
  walkRevision : Option Nat
  phase : TransitPhase
  lastAcceptedFix : Option FixInput
  lastProgressAtMs : Option ℤ
  legEnteredAtMs : ℤ
  spokenCueIds : List String
  emittedEventIds : List String
  stopCursor : Option Nat
  alongMeters : Option ℚ
  stopTracking : Option TransitStopTracking
  reachedStepEnd : Option Bool
  distanceToNextStepMeters : Option ℚ
  progressConfidence : Option ProgressConfidence
  offPlan : Option Bool
  lastActionId : Option String
  lastAction : Option LastAction
  deriving DecidableEq

def truthy (text : Option String) : Bool :=
  match text with
  | some text => text != ""
  | none => false

def isTransitRide (leg : Option TransitLeg) : Bool :=
  match leg with
  | some leg => truthy leg.tripId || (leg.route && leg.mode != some "walking")
  | none => false

def freshTransitTickState (nowMs : ℤ) (itinerary : TripItinerary) : TransitTickState where
  currentLegIndex := 0
  currentWalkStepIndex := 0
  walkRevision := none
  phase := if isTransitRide itinerary.legs[0]? then .waitingToBoard else .walking
  lastAcceptedFix := none
  lastProgressAtMs := none
  legEnteredAtMs := nowMs
  spokenCueIds := []
  emittedEventIds := []
  stopCursor := some 1
  alongMeters := some 0
  stopTracking := none
  reachedStepEnd := none
  distanceToNextStepMeters := none
  progressConfidence := none
  offPlan := none
  lastActionId := none
  lastAction := none

end OpenMapX.Navigation.TransitTrip
