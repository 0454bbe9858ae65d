import OpenMapX.Foundation.TimedChain
import OpenMapX.Routing.ScheduleTypes

/-!
# The canonical timeline of a trip

`composeSchedule` turns fixed leg durations and resolved stops into a timeline.
Its two loops write each cell of the arrival, departure and wait arrays once, so
the arrays are lists of rows here, one row a stop. The rows are those of a
`TimedChain`, which gives optimality in both directions.
-/

namespace OpenMapX.Routing.TripSchedule

open TimedChain

structure ComposeScheduleInput where
  stops : List ResolvedStopConstraint
  legSeconds : List ℚ
  anchorMs : ℚ
  direction : Direction

def departureAfter (stop : ResolvedStopConstraint) (arrivalMs : ℚ) : ℚ :=
  let ready := arrivalMs + stop.dwellSeconds * 1000
  match stop.earliestDepartureMs with
  | none => ready
  | some earliestDepartureMs => max ready earliestDepartureMs

def arrivalBefore (stop : ResolvedStopConstraint) (departureMs : ℚ) : ℚ :=
  let latest := departureMs - stop.dwellSeconds * 1000
  match stop.latestArrivalMs with
  | none => latest
  | some latestArrivalMs => min latest latestArrivalMs

/-- The cells one stop has in `arrivalMs`, `departureMs` and `waitSeconds`. -/
structure StopTimes where
  arrivalMs : Option ℚ
  departureMs : Option ℚ
  waitSeconds : ℤ

structure TimelineRow where
  times : StopTimes
  violation : Option ScheduleViolation

def render (stop : ResolvedStopConstraint) (ms : ℚ) : ZonedInstant := ⟨ms, stop.timeZone⟩

def waitAt (stop : ResolvedStopConstraint) (arrival departure : ℚ) : ℤ :=
  mathRound ((departure - arrival - stop.dwellSeconds * 1000) / 1000)

def lateArrival (stop : ResolvedStopConstraint) (arrival : ℚ) : Option ScheduleViolation :=
  match stop.latestArrivalMs with
  | none => none
  | some deadline =>
    if arrival > deadline then
      some (.lateArrival stop.index (render stop deadline) (render stop arrival)
        (mathRound ((arrival - deadline) / 1000)))
    else none

def earlyDeparture (stop : ResolvedStopConstraint) (departure : ℚ) : Option ScheduleViolation :=
  match stop.earliestDepartureMs with
  | none => none
  | some allowed =>
    if departure < allowed then
      some (.earlyDeparture stop.index (render stop allowed) (render stop departure)
        (mathRound ((allowed - departure) / 1000)))
    else none

/-- The forward loop: each leg with the stop it leads to. The last stop is not
left, so it gets no departure and no wait. -/
def forwardRows (departure : ℚ) : List (ℚ × ResolvedStopConstraint) → List TimelineRow
  | [] => []
  | (seconds, stop) :: rest =>
    let arrival := departure + seconds * 1000
    let next := departureAfter stop arrival
    { times :=
        if rest.isEmpty then ⟨some arrival, none, 0⟩
        else ⟨some arrival, some next, waitAt stop arrival next⟩
      violation := lateArrival stop arrival } :: forwardRows next rest

/-- Arrival at the first stop of `hops`, each hop a leg with the stop it leaves. -/
def backwardArrival (finalArrival : ℚ) : List (ℚ × ResolvedStopConstraint) → ℚ
  | [] => finalArrival
  | (seconds, stop) :: rest =>
    arrivalBefore stop (backwardArrival finalArrival rest - seconds * 1000)

/-- The backward loop, its rows in stop order. Leg zero leaves the origin, which
is not arrived at. -/
def backwardRows (finalArrival : ℚ) : Nat → List (ℚ × ResolvedStopConstraint) → List TimelineRow
  | _, [] => []
  | leg, (seconds, stop) :: rest =>
    let departure := backwardArrival finalArrival rest - seconds * 1000
    let arrival := arrivalBefore stop departure
    { times :=
        if leg = 0 then ⟨none, some departure, 0⟩
        else ⟨some arrival, some departure, waitAt stop arrival departure⟩
      violation := earlyDeparture stop departure } :: backwardRows finalArrival (leg + 1) rest

def firstDeparture (first : ResolvedStopConstraint) (anchorMs : ℚ) : ℚ :=
  departureAfter { first with dwellSeconds := 0 } anchorMs

def lastArrival (last : ResolvedStopConstraint) (anchorMs : ℚ) : ℚ :=
  match last.latestArrivalMs with
  | none => anchorMs
  | some latestArrivalMs => min anchorMs latestArrivalMs

def composeTimeline (input : ComposeScheduleInput) : List TimelineRow :=
  match input.stops with
  | [] => []
  | first :: others =>
    match input.direction with
    | .forward =>
      let departure := firstDeparture first input.anchorMs
      { times := ⟨none, some departure, 0⟩, violation := none } ::
        forwardRows departure (input.legSeconds.zip others)
    | .backward =>
      let arrival := lastArrival (others.getLastD first) input.anchorMs
      backwardRows arrival 0 (input.legSeconds.zip (first :: others)) ++
        [{ times := ⟨some arrival, none, 0⟩, violation := none }]

def timelineViolations (direction : Direction) (rows : List TimelineRow) : List ScheduleViolation :=
  match direction with
  | .forward => rows.filterMap (·.violation)
  | .backward => (rows.filterMap (·.violation)).reverse

def scheduledStop (platform : ZonePlatform) (anchorMs : ℚ)
    (stop : ResolvedStopConstraint) (times : StopTimes) : ScheduledStop where
  waypointIndex := stop.index
  timeZone := stop.timeZone
  arrival := times.arrivalMs.map (render stop)
  departure := times.departureMs.map (render stop)
  dwellSeconds := stop.dwellSeconds
  waitSeconds := times.waitSeconds
  utcOffsetMinutes :=
    (platform.tzOffsetMinutes ((times.arrivalMs.or times.departureMs).getD anchorMs)
      stop.timeZone).getD 0

/-- `new Date(null)` is the epoch, so an absent cell renders as instant zero. -/
def scheduledLeg (seconds : ℚ) (here next : ResolvedStopConstraint × StopTimes) : ScheduledLeg where
  fromIndex := here.1.index
  toIndex := next.1.index
  departure := render here.1 (here.2.departureMs.getD 0)
  arrival := render next.1 (next.2.arrivalMs.getD 0)
  travelSeconds := seconds

def scheduledLegs (legSeconds : List ℚ) (stops : List (ResolvedStopConstraint × StopTimes)) :
    List ScheduledLeg :=
  List.zipWith (fun seconds pair => scheduledLeg seconds pair.1 pair.2) legSeconds
    (stops.zip stops.tail)

def tripDepartureMs (first : StopTimes) (anchorMs : ℚ) : ℚ :=
  (first.departureMs.or first.arrivalMs).getD anchorMs

def tripArrivalMs (first last : StopTimes) (anchorMs : ℚ) : ℚ :=
  (last.arrivalMs.or last.departureMs).getD (tripDepartureMs first anchorMs)

def stopTimes (input : ComposeScheduleInput) : List (ResolvedStopConstraint × StopTimes) :=
  input.stops.zip ((composeTimeline input).map (·.times))

def tripScheduleOf (platform : ZonePlatform) (input : ComposeScheduleInput)
    (first last : ResolvedStopConstraint × StopTimes) : TripSchedule :=
  let departureMs := tripDepartureMs first.2 input.anchorMs
  let arrivalMs := tripArrivalMs first.2 last.2 input.anchorMs
  { stops := (stopTimes input).map fun pair =>
      scheduledStop platform input.anchorMs pair.1 pair.2
    legs := scheduledLegs input.legSeconds (stopTimes input)
    departure := render first.1 departureMs
    arrival := render last.1 arrivalMs
    totalTravelSeconds := input.legSeconds.sum
    totalDwellSeconds := (input.stops.map (·.dwellSeconds)).sum
    totalWaitSeconds := ((composeTimeline input).map (·.times.waitSeconds)).sum
    multiDay := platform.localDateInZone departureMs first.1.timeZone !=
      platform.localDateInZone arrivalMs last.1.timeZone
    violations := timelineViolations input.direction (composeTimeline input) }

/-- Without a stop the zone of the trip's ends cannot be read and the call throws. -/
def composeSchedule (platform : ZonePlatform) (input : ComposeScheduleInput) :
    Except ScheduleError TripSchedule :=
  match (stopTimes input).head?, (stopTimes input).getLast? with
  | some first, some last => .ok (tripScheduleOf platform input first last)
  | _, _ => .error .typeError

def tripChain (stops : List ResolvedStopConstraint) (legSeconds : List ℚ) : Chain ℚ where
  travel leg := (legSeconds[leg]?).getD 0 * 1000
  dwell stop := ((stops[stop]?).map (·.dwellSeconds)).getD 0 * 1000
  release stop := (stops[stop]?).bind (·.earliestDepartureMs)
  deadline stop := (stops[stop]?).bind (·.latestArrivalMs)

variable (stop : ResolvedStopConstraint)

theorem departureAfter_eq_holdUntil (arrivalMs : ℚ) : departureAfter stop arrivalMs =
      holdUntil stop.earliestDepartureMs (arrivalMs + stop.dwellSeconds * 1000) := by
  cases window : stop.earliestDepartureMs <;> simp [departureAfter, holdUntil, window]

theorem arrivalBefore_eq_capAt (departureMs : ℚ) : arrivalBefore stop departureMs =
      capAt stop.latestArrivalMs (departureMs - stop.dwellSeconds * 1000) := by
  cases window : stop.latestArrivalMs <;> simp [arrivalBefore, capAt, window, min_comm]

theorem firstDeparture_eq_holdUntil (first) (anchorMs : ℚ) :
    firstDeparture first anchorMs = holdUntil first.earliestDepartureMs anchorMs := by
  simp [firstDeparture, departureAfter_eq_holdUntil]

theorem lastArrival_eq_capAt (last) (anchorMs : ℚ) :
    lastArrival last anchorMs = capAt last.latestArrivalMs anchorMs := by
  cases window : last.latestArrivalMs <;> simp [lastArrival, capAt, window]

theorem lateArrival_eq_none (arrival : ℚ) :
    lateArrival stop arrival = none ↔ ∀ deadline ∈ stop.latestArrivalMs, arrival ≤ deadline := by
  cases window : stop.latestArrivalMs <;> simp [lateArrival, window]

theorem earlyDeparture_eq_none (departure : ℚ) : earlyDeparture stop departure = none ↔
      ∀ allowed ∈ stop.earliestDepartureMs, allowed ≤ departure := by
  cases window : stop.earliestDepartureMs <;> simp [earlyDeparture, window]

/-- The row the forward loop writes for hop `leg`, when `departure` follows the
loop's recursion. -/
def forwardRow (departure : Nat → ℚ) (hops leg : Nat) (seconds : ℚ)
    (stop : ResolvedStopConstraint) : TimelineRow :=
  let arrival := departure leg + seconds * 1000
  { times :=
      if leg + 1 < hops then
        ⟨some arrival, some (departure (leg + 1)), waitAt stop arrival (departure (leg + 1))⟩
      else ⟨some arrival, none, 0⟩
    violation := lateArrival stop arrival }

theorem forward_rows_follow (departure : Nat → ℚ) (hops) (start : Nat)
    (step : ∀ leg hop, hops[leg]? = some hop →
      departure (start + leg + 1) = departureAfter hop.2 (departure (start + leg) + hop.1 * 1000))
    (leg : Nat) (hop) (present : hops[leg]? = some hop) :
    (forwardRows (departure start) hops)[leg]? =
      some (forwardRow departure (start + hops.length) (start + leg) hop.1 hop.2) := by
  induction hops generalizing start leg with
  | nil => simp at present
  | cons head rest ih =>
    obtain ⟨seconds, stop⟩ := head
    have here : departure (start + 1) =
        departureAfter stop (departure start + seconds * 1000) := by
      simpa using step 0 (seconds, stop) rfl
    cases leg with
    | zero =>
      obtain rfl : (seconds, stop) = hop := by simpa using present
      cases rest with
      | nil => simp [forwardRows, forwardRow]
      | cons next rest => simp [forwardRows, forwardRow, here]
    | succ leg =>
      have tail := ih (start + 1) (fun later hop found => by
        have next := step (later + 1) hop (by simpa using found)
        rw [show start + (later + 1) = start + 1 + later by omega] at next
        exact next) leg (by simpa using present)
      simp only [forwardRows, List.getElem?_cons_succ, ← here, tail, List.length_cons]
      rw [show start + 1 + rest.length = start + (rest.length + 1) by omega,
        show start + 1 + leg = start + (leg + 1) by omega]

def backwardRow (arrival : Nat → ℚ) (leg : Nat) (seconds : ℚ)
    (stop : ResolvedStopConstraint) : TimelineRow :=
  let departure := arrival (leg + 1) - seconds * 1000
  { times :=
      if leg = 0 then ⟨none, some departure, 0⟩
      else ⟨some (arrivalBefore stop departure), some departure,
        waitAt stop (arrivalBefore stop departure) departure⟩
    violation := earlyDeparture stop departure }

section

variable (arrival : Nat → ℚ) (hops : List (ℚ × ResolvedStopConstraint)) (start : Nat)
  (step : ∀ leg hop, hops[leg]? = some hop → arrival (start + leg) = arrivalBefore hop.2 (arrival (start + leg + 1) - hop.1 * 1000))
include step

theorem backward_arrival_follows :
    backwardArrival (arrival (start + hops.length)) hops = arrival start := by
  induction hops generalizing start with
  | nil => rfl
  | cons head rest ih =>
    have tail := ih (start + 1) (fun later hop found => by
      have next := step (later + 1) hop (by simpa using found)
      rw [show start + (later + 1) = start + 1 + later by omega] at next
      exact next)
    have here := step 0 head rfl
    rw [List.length_cons, show start + (rest.length + 1) = start + 1 + rest.length by omega,
      backwardArrival, tail]
    exact here.symm

theorem backward_rows_follow (leg : Nat) (hop) (present : hops[leg]? = some hop) :
    (backwardRows (arrival (start + hops.length)) start hops)[leg]? =
      some (backwardRow arrival (start + leg) hop.1 hop.2) := by
  induction hops generalizing start leg with
  | nil => simp at present
  | cons head rest ih =>
    have later : ∀ leg hop, rest[leg]? = some hop →
        arrival (start + 1 + leg) =
          arrivalBefore hop.2 (arrival (start + 1 + leg + 1) - hop.1 * 1000) := by
      intro later hop found
      have next := step (later + 1) hop (by simpa using found)
      rw [show start + (later + 1) = start + 1 + later by omega] at next
      exact next
    have tailArrival := backward_arrival_follows arrival rest (start + 1) later
    rw [List.length_cons, show start + (rest.length + 1) = start + 1 + rest.length by omega]
    cases leg with
    | zero =>
      obtain rfl : head = hop := by simpa using present
      simp [backwardRows, backwardRow, tailArrival]
    | succ leg =>
      have tail := ih (start + 1) later leg (by simpa using present)
      simp only [backwardRows, List.getElem?_cons_succ, tail]
      rw [show start + 1 + leg = start + (leg + 1) by omega]

end

end OpenMapX.Routing.TripSchedule
