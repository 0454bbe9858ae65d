import OpenMapX.Routing.TripTruncation
import OpenMapX.Transit.BackwardChainSchedule

/-!
# Chained transit plans

`planTransitChain` asks the provider once per segment. Forward, the segments are
the legs of a scheduled trip; backward, each segment is asked to arrive before
the next one starts. `runSegment` appends to the shared arrays, so its effects
are returned as a record a call.
-/

namespace OpenMapX.Transit.ChainPlan

open Routing Routing.TripSchedule Routing.ScheduleConstraints Routing.ScheduledTrip
  BackwardChainSchedule

inductive ChainPlanWarning where
  | missedConnection (afterSegmentIndex : Nat) (overlapSeconds : ℤ)
  | cancelledLeg (segmentIndex : Nat)
  | unmetRequirement (segmentIndex : Nat) (requirements : List String)
  | noConnection (segmentIndex : Nat)
  deriving DecidableEq

structure Waypoint where
  lat : ℚ
  lng : ℚ
  deriving DecidableEq

inductive RequestedTime where
  | departureTime (ms : ℚ)
  | arrivalTime (ms : ℚ)
  deriving DecidableEq

structure TripPlanRequest where
  origin : Option Waypoint
  destination : Option Waypoint
  time : RequestedTime
  deriving DecidableEq

/-- `result.data`, with no itinerary when it is null. -/
structure TripPlan where
  itineraries : List TripItinerary
  provider : Option String

/-- The provider, asked for a segment. `none` is a rejected call. A segment is
asked for at most once, so its index stands for the moment of the call. -/
abbrev PlanTrip := Nat → TripPlanRequest → Option TripPlan

structure PlanTransitChainArgs where
  waypoints : List Waypoint
  schedules : List (Option WaypointSchedule)
  anchor : ScheduleAnchor
  nowMs : ℚ

structure ChainedTripPlan where
  segments : List ChainedTripSegment
  schedule : TripSchedule
  warnings : List ChainPlanWarning
  provider : Option String

inductive ChainError where
  | tooFewStops
  | schedule (error : ScheduleError)
  deriving DecidableEq

/-- `reduce` with a strict comparison: the first of the earliest arrivals. -/
def earliestArrivalOption (first : TripItinerary) (options : List TripItinerary) : TripItinerary :=
  options.foldl
    (fun earliest option => if option.endTime < earliest.endTime then option else earliest) first

def selectItinerary (itineraries : List TripItinerary) (deadlineMs : Option ℚ) :
    Option TripItinerary :=
  match itineraries with
  | [] => none
  | first :: others =>
    match deadlineMs with
    | none => some first
    | some deadlineMs =>
      match (first :: others).find? (·.endTime ≤ deadlineMs) with
      | some inTime => some inTime
      | none => some (earliestArrivalOption first others)

/-- Realtime arrival minus scheduled arrival, from the last leg that reports both. -/
def arrivalDelaySeconds (itinerary : TripItinerary) : ℤ :=
  match itinerary.legs.reverse.find? (·.scheduledEndTime.isSome) with
  | none => 0
  | some leg => mathRound ((leg.endTime - leg.scheduledEndTime.getD 0) / 1000)

/-- What one call of `runSegment` returns and adds to the shared arrays. -/
structure SegmentRun where
  segment : Option ChainedTripSegment
  warnings : List ChainPlanWarning
  provider : Option String

def segmentRequest (args : PlanTransitChainArgs) (segmentIndex : Nat) (instantMs : ℚ)
    (pinArrival : Bool) : TripPlanRequest where
  origin := args.waypoints[segmentIndex]?
  destination := args.waypoints[segmentIndex + 1]?
  time := if pinArrival then .arrivalTime instantMs else .departureTime instantMs

def usableItineraries (pinArrival : Bool) (options : List TripItinerary) : List TripItinerary :=
  if pinArrival then options.filter fun option => option.startTime ≤ option.endTime else options

def segmentDeadline (stops : List ResolvedStopConstraint) (segmentIndex : Nat) (instantMs : ℚ)
    (pinArrival : Bool) : Option ℚ :=
  if pinArrival then some instantMs else (stops[segmentIndex + 1]?).bind (·.latestArrivalMs)

def segmentWarnings (segmentIndex : Nat) (chosen : TripItinerary) : List ChainPlanWarning :=
  (if chosen.legs.any (·.cancelled) then [.cancelledLeg segmentIndex] else []) ++
    match chosen.invalidRequirements with
    | none => []
    | some requirements =>
      if requirements = [] then [] else [.unmetRequirement segmentIndex requirements]

/-- The options without the chosen object. The chosen one is the first that
equals it, since both choices take the first option that qualifies. -/
def chainedSegment (segmentIndex : Nat) (instantMs : ℚ) (pinArrival : Bool)
    (itineraries : List TripItinerary) (chosen : TripItinerary) : ChainedTripSegment where
  fromIndex := segmentIndex
  toIndex := segmentIndex + 1
  itinerary := chosen
  alternatives := itineraries.erase chosen
  boardingWaitSeconds :=
    if pinArrival then 0 else max 0 (mathRound ((chosen.startTime - instantMs) / 1000))
  delaySeconds := arrivalDelaySeconds chosen

def runSegment (args : PlanTransitChainArgs) (stops : List ResolvedStopConstraint)
    (planTrip : PlanTrip) (pinArrival : Bool) (segmentIndex : Nat) (instantMs : ℚ) : SegmentRun :=
  match planTrip segmentIndex (segmentRequest args segmentIndex instantMs pinArrival) with
  | none => ⟨none, [], none⟩
  | some result =>
    let itineraries := usableItineraries pinArrival result.itineraries
    match selectItinerary itineraries
        (segmentDeadline stops segmentIndex instantMs pinArrival) with
    | none => ⟨none, [.noConnection segmentIndex], none⟩
    | some chosen =>
      ⟨some (chainedSegment segmentIndex instantMs pinArrival itineraries chosen),
        segmentWarnings segmentIndex chosen, result.provider⟩

def forwardSeconds (itinerary : TripItinerary) (departureMs : ℚ) : ℚ :=
  mathRound ((itinerary.endTime - departureMs) / 1000)

def segmentOracle (run : Nat → ℚ → SegmentRun) : LegOracle ChainedTripSegment :=
  fun segmentIndex departureMs =>
    (run segmentIndex departureMs).segment.map fun segment =>
      ⟨forwardSeconds segment.itinerary departureMs, some segment⟩

/-- The calls of `runSegment` a forward walk makes. -/
def forwardRuns (run : Nat → ℚ → SegmentRun) :
    ℚ → List (Nat × ResolvedStopConstraint) → List SegmentRun
  | _, [] => []
  | departure, (leg, stop) :: rest =>
    run leg departure ::
      match (run leg departure).segment with
      | none => []
      | some segment =>
        forwardRuns run
          (forwardAdvance stop departure (forwardSeconds segment.itinerary departure)) rest

/-- The backward loop: each segment with the stop it leaves, last segment first. -/
def backwardRuns (run : Nat → ℚ → SegmentRun) :
    ℚ → List (Nat × ResolvedStopConstraint) → List SegmentRun
  | _, [] => []
  | deadline, (index, stop) :: rest =>
    run index deadline ::
      match (run index deadline).segment with
      | none => []
      | some segment =>
        backwardRuns run (arrivalBefore stop segment.itinerary.startTime) rest

def backwardBreak (runs : List SegmentRun) (legCount : Nat) : List ScheduleViolation :=
  if runs.any (·.segment.isNone) then
    [.unreachable (legCount - runs.length) (legCount - runs.length + 1)]
  else []

def withBoardingWait (stops : List ResolvedStopConstraint)
    (previous segment : ChainedTripSegment) : ChainedTripSegment :=
  { segment with
    boardingWaitSeconds :=
      match stops[segment.fromIndex]? with
      | none => 0
      | some stop =>
        max 0 (mathRound ((segment.itinerary.startTime -
          departureAfter stop previous.itinerary.endTime) / 1000)) }

def withBoardingWaits (stops : List ResolvedStopConstraint)
    (segments : List ChainedTripSegment) : List ChainedTripSegment :=
  segments.take 1 ++ List.zipWith (withBoardingWait stops) segments segments.tail

def missedConnections : List ChainedTripSegment → List ChainPlanWarning
  | before :: after :: rest =>
    (if after.itinerary.startTime < before.itinerary.endTime then
      [.missedConnection before.fromIndex
        (mathRound ((before.itinerary.endTime - after.itinerary.startTime) / 1000))]
    else []) ++ missedConnections (after :: rest)
  | _ => []

def chainWaypoints (args : PlanTransitChainArgs) : List ScheduleWaypoint :=
  args.waypoints.mapIdx fun index point => ⟨point.lng, point.lat, (args.schedules[index]?).join⟩

def chainPlan (runs : List SegmentRun) (segments : List ChainedTripSegment)
    (schedule : TripSchedule) : ChainedTripPlan where
  segments := segments
  schedule := schedule
  warnings := runs.flatMap (·.warnings) ++ missedConnections segments
  provider := (runs.filterMap (·.provider)).head?

def planBackwardChain (args : PlanTransitChainArgs) (platform : ZonePlatform)
    (planTrip : PlanTrip) (resolved : ResolvedSchedule) (finalStop : ResolvedStopConstraint) :
    ChainedTripPlan :=
  let deadline := min resolved.anchorMs (finalStop.latestArrivalMs.getD resolved.anchorMs)
  let runs := backwardRuns (runSegment args resolved.stops planTrip true) deadline
    (backwardHops resolved.stops)
  let violations := resolved.violations ++ backwardBreak runs (resolved.stops.length - 1)
  let retained := withBoardingWaits resolved.stops (runs.filterMap (·.segment)).reverse
  chainPlan runs retained
    (composeBackwardTransitSchedule platform resolved finalStop retained violations)

def planForwardChain (args : PlanTransitChainArgs) (platform : ZonePlatform)
    (planTrip : PlanTrip) (resolved : ResolvedSchedule) (first : ResolvedStopConstraint) :
    Except ChainError ChainedTripPlan :=
  let run := runSegment args resolved.stops planTrip false
  let runs := forwardRuns run (firstDeparture first resolved.anchorMs) (forwardHops resolved.stops)
  match planScheduledTrip platform resolved (some (segmentOracle run)) none none with
  | .error error => .error (.schedule error)
  | .ok planned => .ok (chainPlan runs (runs.filterMap (·.segment)) planned.schedule)

def chainSchedule (args : PlanTransitChainArgs) (platform : ZonePlatform) : ResolvedSchedule :=
  resolveScheduleConstraints platform ⟨chainWaypoints args, args.anchor, args.nowMs⟩

def planTransitChain (args : PlanTransitChainArgs) (platform : ZonePlatform)
    (planTrip : PlanTrip) : Except ChainError ChainedTripPlan :=
  let resolved := chainSchedule args platform
  match resolved.stops.head?, resolved.stops.getLast? with
  | some first, some finalStop =>
    if resolved.stops.length < 2 then .error .tooFewStops
    else
      match resolved.direction with
      | .backward => .ok (planBackwardChain args platform planTrip resolved finalStop)
      | .forward => planForwardChain args platform planTrip resolved first
  | _, _ => .error .tooFewStops

end OpenMapX.Transit.ChainPlan
