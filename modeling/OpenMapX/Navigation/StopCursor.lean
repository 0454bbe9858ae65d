import OpenMapX.Navigation.TransitTrip

/-!
# The stop cursor and the step gate

How an accepted fix moves a rider along the captured stops of a ride, and along the
steps of a walk. Snapping and projecting onto a polyline, and the distance of two
points, are geometric tests and stay parameters.
-/

namespace OpenMapX.Navigation.StopCursor

open TransitTrip

structure AcceptedFix where
  fix : FixInput
  accuracy : ℚ
  timestampMs : ℚ

def AcceptedFix.coords (accepted : AcceptedFix) : LngLat := accepted.fix.coords

structure RouteSnap where
  alongMeters : ℚ
  deviationMeters : ℚ

structure LineGeometry where
  lineLength : List LngLat → ℚ
  snapPreparedRoute : List LngLat → LngLat → RouteSnap
  projectWaypointAfter : List LngLat → LngLat → ℚ → RouteSnap
  resolveWaypointOccurrences : List LngLat → List LngLat → List ℚ
  haversineDistance : LngLat → LngLat → ℚ

structure PreparedTransitLeg where
  matcher : List LngLat
  lengthMeters : ℚ

section

variable (geometry : LineGeometry)

def prepareTransitProgress (itinerary : TripItinerary) : List (Option PreparedTransitLeg) :=
  itinerary.legs.map fun leg =>
    match leg.geometry with
    | some coords =>
      if coords.length < 2 then none
      else some { matcher := coords, lengthMeters := geometry.lineLength coords }
    | none => none

def orderedAlong (stops : List CapturedStop) (leg : PreparedTransitLeg) : List ℚ :=
  0 :: geometry.resolveWaypointOccurrences leg.matcher (stops.map CapturedStop.location)

structure CursorProgress where
  cursor : Nat
  alongMeters : ℚ
  trusted : Bool
  tracking : Option TransitStopTracking

/-- `Math.max(150, Math.min(Math.max(0, seconds), 1800) * 90)` for the time since. -/
def movementBudget (timestampMs : ℚ) (since : JsNumber) : JsNumber :=
  match since with
  | .finite since =>
    .finite (max 150 (min (max 0 ((timestampMs - since) / 1000)) 1800 * 90))
  | .infinite true => .finite (1800 * 90)
  | .infinite false => .finite 150
  | .nan => .nan

def nearStop (stops : List CapturedStop) (accepted : AcceptedFix) (current : Nat) : Option Nat :=
  (stops.zipIdx.find? fun entry =>
    decide (current ≤ entry.2) && decide (entry.2 ≤ current + 2) &&
      decide (geometry.haversineDistance accepted.coords entry.1.location ≤
        35 + min accepted.accuracy 20)).map Prod.snd

def passStops (projected : List ℚ) (along : ℚ) (limit next : Nat) : Nat → Nat
  | 0 => next
  | fuel + 1 =>
    match projected[next]? with
    | some place =>
      if next < limit ∧ place + 25 < along then passStops projected along limit (next + 1) fuel
      else next
    | none => next

def advanceTransitStopCursor (stops : List CapturedStop) (leg : Option PreparedTransitLeg)
    (accepted : AcceptedFix) (previous : Option FixInput) (cursor : Nat) (alongMeters : ℚ)
    (tracking : TransitStopTracking) : CursorProgress :=
  if stops.length < 2 then
    { cursor := cursor, alongMeters := alongMeters, trusted := false, tracking := none }
  else
    let last := stops.length - 1
    let current := min (max 1 cursor) last
    match leg with
    | none =>
      let near := (stops[current]?.map fun target =>
        decide (geometry.haversineDistance accepted.coords target.location ≤
          35 + min accepted.accuracy 20)).getD false
      { cursor := if near then min (current + 1) last else current,
        alongMeters := alongMeters,
        trusted := near,
        tracking := none }
    | some leg =>
      let nearest := geometry.snapPreparedRoute leg.matcher accepted.coords
      let snap := if nearest.alongMeters < alongMeters - 50 then
        geometry.projectWaypointAfter leg.matcher accepted.coords (max 0 (alongMeters - 50))
        else nearest
      let budget := movementBudget accepted.timestampMs
      let rawPlausible := match previous with
        | some previous =>
          (JsNumber.finite (geometry.haversineDistance previous.coords accepted.coords)).le
            (budget previous.timestampMs)
        | none => true
      let inCorridor := decide (snap.deviationMeters ≤ 50 + min accepted.accuracy 25)
      let forward := decide (alongMeters - 50 ≤ snap.alongMeters)
      let isPlausible := match tracking.alongTimestampMs with
        | some since => rawPlausible &&
          (JsNumber.finite (snap.alongMeters - alongMeters)).le (budget (.finite since))
        | none => true
      let consistentCandidate := match tracking.candidateAlongMeters,
          tracking.candidateTimestampMs with
        | some candidateAlong, some candidateAt =>
          decide (accepted.timestampMs - candidateAt ≤ 30000) && rawPlausible &&
            (JsNumber.finite |snap.alongMeters - candidateAlong|).le (budget (.finite candidateAt))
        | _, _ => false
      if !inCorridor || !forward || (!isPlausible && !consistentCandidate) then
        let candidate := if inCorridor && forward then
          { tracking with
            candidateAlongMeters := some snap.alongMeters,
            candidateTimestampMs := some accepted.timestampMs }
          else { alongTimestampMs := tracking.alongTimestampMs,
                 candidateAlongMeters := none,
                 candidateTimestampMs := none }
        match nearStop geometry stops accepted current, rawPlausible with
        | some near, true =>
          { cursor := min (near + 1) last, alongMeters := alongMeters, trusted := true,
            tracking := some candidate }
        | _, _ =>
          { cursor := current, alongMeters := alongMeters, trusted := false,
            tracking := some candidate }
      else
        { cursor := passStops (orderedAlong geometry stops leg) snap.alongMeters
            (min (current + 3) last) current 3,
          alongMeters := max alongMeters snap.alongMeters,
          trusted := true,
          tracking := some {
            alongTimestampMs := some accepted.timestampMs,
            candidateAlongMeters := none,
            candidateTimestampMs := none } }

/-- `isApproachingTransitAlight`. -/
def isApproachingTransitAlight (stops : List CapturedStop) (cursor : Nat)
    (position : LngLat) : Bool :=
  match stops.getLast? with
  | some target =>
    decide (2 ≤ stops.length) && decide (stops.length - 1 ≤ cursor) &&
      decide (geometry.haversineDistance position target.location ≤ 1000)
  | none => false

end

structure StepGateState where
  committedStepIndex : Nat
  reachedStepEnd : Bool

/-- `stepGateEntryMeters` and `stepGateExitMeters` of walking. -/
def WALKING_GATE_ENTRY_METERS : ℚ := 20

def WALKING_GATE_EXIT_METERS : ℚ := 3

def stepEnds (distances : List ℚ) : List ℚ :=
  (List.range distances.length).map fun index => (distances.take (index + 1)).sum

def passSteps (ends : List ℚ) (alongMeters entryMeters exitMeters : ℚ) (lastIndex : Nat)
    (gate : StepGateState) : Nat → StepGateState
  | 0 => gate
  | fuel + 1 =>
    if gate.committedStepIndex < lastIndex then
      let finish := (ends[gate.committedStepIndex]?).getD 0
      let entered := gate.reachedStepEnd || decide (finish - entryMeters ≤ alongMeters)
      if entered && decide (finish + exitMeters ≤ alongMeters) then
        passSteps ends alongMeters entryMeters exitMeters lastIndex
          { committedStepIndex := gate.committedStepIndex + 1, reachedStepEnd := false } fuel
      else { committedStepIndex := gate.committedStepIndex, reachedStepEnd := entered }
    else gate

def advanceStepGate (distances : List ℚ) (alongMeters : ℚ) (prev : StepGateState)
    (entryMeters exitMeters : ℚ) : StepGateState :=
  let lastIndex := distances.length - 1
  if lastIndex = 0 then { committedStepIndex := 0, reachedStepEnd := false }
  else
    passSteps (stepEnds distances) alongMeters entryMeters exitMeters lastIndex
      { committedStepIndex := min prev.committedStepIndex lastIndex,
        reachedStepEnd := prev.reachedStepEnd } distances.length

end OpenMapX.Navigation.StopCursor
