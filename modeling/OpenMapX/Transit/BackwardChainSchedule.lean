import OpenMapX.Routing.ScheduleConstraints

/-!
# The timeline of a backward transit chain

An arrive-by chain is composed from the service times the provider reported, not
from the instants it was asked for. Service times are the instants `Date.parse`
reads off the itinerary's texts.
-/

namespace OpenMapX.Transit.BackwardChainSchedule

open Routing Routing.TripSchedule Routing.ScheduleConstraints

structure TripLeg where
  endTime : ℚ
  scheduledEndTime : Option ℚ
  cancelled : Bool
  deriving DecidableEq

structure TripItinerary where
  startTime : ℚ
  endTime : ℚ
  invalidRequirements : Option (List String)
  legs : List TripLeg
  deriving DecidableEq

structure ChainedTripSegment where
  fromIndex : Nat
  toIndex : Nat
  itinerary : TripItinerary
  alternatives : List TripItinerary
  boardingWaitSeconds : ℤ
  delaySeconds : ℤ
  deriving DecidableEq

/-- `arrivals.get(index)`: the end of the last segment set for the stop. -/
def arrivalAt (segments : List ChainedTripSegment) (index : Nat) : Option ℚ :=
  ((segments.filter (·.toIndex = index)).getLast?).map (·.itinerary.endTime)

/-- `departures.get(index)`. -/
def departureAt (segments : List ChainedTripSegment) (index : Nat) : Option ℚ :=
  ((segments.filter (·.fromIndex = index)).getLast?).map (·.itinerary.startTime)

def zoneAt (stops : List ResolvedStopConstraint) (index : Nat) : String :=
  ((stops[index]?).map (·.timeZone)).getD ""

def renderAt (stops : List ResolvedStopConstraint) (instant : ℚ) (index : Nat) : ZonedInstant :=
  ⟨instant, zoneAt stops index⟩

def deadlineOf (resolved : ResolvedSchedule) (finalIndex : Nat) (stop : ResolvedStopConstraint) :
    Option ℚ :=
  if stop.index = finalIndex then
    some (min resolved.anchorMs (stop.latestArrivalMs.getD resolved.anchorMs))
  else stop.latestArrivalMs

/-- From when a stop may be left: after its dwell when it was reached, after its
window alone at the start of the trip. -/
def allowedFrom (stop : ResolvedStopConstraint) (arrival : Option ℚ) : Option ℚ :=
  match arrival with
  | some arrival => some (departureAfter stop arrival)
  | none => stop.earliestDepartureMs

def lateAt (resolved : ResolvedSchedule) (finalIndex : Nat) (stop : ResolvedStopConstraint)
    (arrival : Option ℚ) : List ScheduleViolation :=
  match arrival, deadlineOf resolved finalIndex stop with
  | some arrival, some deadline =>
    if arrival > deadline then
      [.lateArrival stop.index (renderAt resolved.stops deadline stop.index)
        (renderAt resolved.stops arrival stop.index) (mathRound ((arrival - deadline) / 1000))]
    else []
  | _, _ => []

def earlyAt (resolved : ResolvedSchedule) (stop : ResolvedStopConstraint)
    (arrival departure : Option ℚ) : List ScheduleViolation :=
  match departure, allowedFrom stop arrival with
  | some departure, some allowed =>
    if departure < allowed then
      [.earlyDeparture stop.index (renderAt resolved.stops allowed stop.index)
        (renderAt resolved.stops departure stop.index)
        (mathRound ((allowed - departure) / 1000))]
    else []
  | _, _ => []

def backwardStop (platform : ZonePlatform) (resolved : ResolvedSchedule)
    (stop : ResolvedStopConstraint) (arrival departure : Option ℚ) : ScheduledStop :=
  let served : Bool := arrival.isSome && departure.isSome
  let dwellSeconds := if served then stop.dwellSeconds else 0
  { waypointIndex := stop.index
    timeZone := stop.timeZone
    arrival := arrival.map fun instant => renderAt resolved.stops instant stop.index
    departure := departure.map fun instant => renderAt resolved.stops instant stop.index
    dwellSeconds := dwellSeconds
    waitSeconds :=
      match arrival, departure with
      | some arrival, some departure =>
        -- A resolved dwell is a whole number of seconds, so the floor is the dwell.
        max 0 (mathRound ((departure - arrival) / 1000) - dwellSeconds.floor)
      | _, _ => 0
    utcOffsetMinutes :=
      (platform.tzOffsetMinutes ((arrival.or departure).getD resolved.anchorMs)
        stop.timeZone).getD 0 }

def backwardLeg (resolved : ResolvedSchedule) (segment : ChainedTripSegment) : ScheduledLeg where
  fromIndex := segment.fromIndex
  toIndex := segment.toIndex
  departure := renderAt resolved.stops segment.itinerary.startTime segment.fromIndex
  arrival := renderAt resolved.stops segment.itinerary.endTime segment.toIndex
  travelSeconds := mathRound ((segment.itinerary.endTime - segment.itinerary.startTime) / 1000)

def stopViolations (resolved : ResolvedSchedule) (segments : List ChainedTripSegment)
    (finalIndex : Nat) (stop : ResolvedStopConstraint) : List ScheduleViolation :=
  lateAt resolved finalIndex stop (arrivalAt segments stop.index) ++
    earlyAt resolved stop (arrivalAt segments stop.index) (departureAt segments stop.index)

def composeBackwardTransitSchedule (platform : ZonePlatform) (resolved : ResolvedSchedule)
    (finalStop : ResolvedStopConstraint) (segments : List ChainedTripSegment)
    (violations : List ScheduleViolation) : TripSchedule :=
  let firstIndex := (segments.head?.map (·.fromIndex)).getD finalStop.index
  let retained := resolved.stops.filter fun stop => firstIndex ≤ stop.index
  let stops := retained.map fun stop =>
    backwardStop platform resolved stop (arrivalAt segments stop.index)
      (departureAt segments stop.index)
  let legs := segments.map (backwardLeg resolved)
  let startMs := (departureAt segments firstIndex).getD resolved.anchorMs
  let endMs := (arrivalAt segments finalStop.index).getD resolved.anchorMs
  { stops := stops
    legs := legs
    departure := renderAt resolved.stops startMs firstIndex
    arrival := renderAt resolved.stops endMs finalStop.index
    totalTravelSeconds := (legs.map (·.travelSeconds)).sum
    totalDwellSeconds := (stops.map (·.dwellSeconds)).sum
    totalWaitSeconds := (stops.map (·.waitSeconds)).sum
    multiDay := platform.localDateInZone startMs (zoneAt resolved.stops firstIndex) !=
      platform.localDateInZone endMs finalStop.timeZone
    violations := violations ++
      retained.flatMap (stopViolations resolved segments finalStop.index) }

theorem late_at_eq_nil (resolved : ResolvedSchedule) (finalIndex : Nat) (stop) (arrival : ℚ) :
    lateAt resolved finalIndex stop (some arrival) = [] ↔
      ∀ deadline ∈ deadlineOf resolved finalIndex stop, arrival ≤ deadline := by
  unfold lateAt
  cases deadlineOf resolved finalIndex stop with
  | none => simp
  | some deadline =>
    by_cases late : arrival > deadline
    · simp [late]
    · simp [late, not_lt.mp late]

theorem early_at_eq_nil (resolved : ResolvedSchedule) (stop) (arrival departure : ℚ) :
    earlyAt resolved stop (some arrival) (some departure) = [] ↔
      departureAfter stop arrival ≤ departure := by
  unfold earlyAt allowedFrom
  by_cases early : departure < departureAfter stop arrival
  · simp [early]
  · simp [early, not_lt.mp early]

theorem departure_after_le_iff (stop) (arrival departure : ℚ) :
    departureAfter stop arrival ≤ departure ↔ arrival + stop.dwellSeconds * 1000 ≤ departure ∧
        ∀ earliest ∈ stop.earliestDepartureMs, earliest ≤ departure := by
  unfold departureAfter
  cases stop.earliestDepartureMs with
  | none => simp
  | some earliest => simp

end OpenMapX.Transit.BackwardChainSchedule
