import OpenMapX.Routing.TripSchedule

/-!
# Resolved constraints and the order scan

`resolveScheduleConstraints` turns wall clocks into instants and reports what is
contradictory before any route is known. Its order scan compares every pair of
stops; without travel time the scan sees a contradiction exactly when the
composed schedule has one.
-/

namespace OpenMapX.Routing.ScheduleConstraints

open TripSchedule

def MAX_DWELL_SECONDS : ℚ := 86400

structure WaypointSchedule where
  departAfter : Option String
  arriveBy : Option String
  fixedAt : Option String
  dwellSeconds : Option ℚ
  timeZone : Option String

structure ScheduleWaypoint where
  lng : ℚ
  lat : ℚ
  schedule : Option WaypointSchedule

inductive ScheduleAnchor where
  | now
  | departAt (wallClock : String)
  | arriveBy (wallClock : String)
  deriving DecidableEq

structure ResolveScheduleInput where
  waypoints : List ScheduleWaypoint
  anchor : ScheduleAnchor
  nowMs : ℚ

structure ResolvedSchedule where
  stops : List ResolvedStopConstraint
  anchorMs : ℚ
  anchor : ScheduleAnchor
  direction : Direction
  violations : List ScheduleViolation

def matchesShape : List (Option Char) → List Char → Bool
  | [], [] => true
  | none :: shape, char :: rest => char.isDigit && matchesShape shape rest
  | some expected :: shape, char :: rest => char == expected && matchesShape shape rest
  | _, _ => false

def wallClockShape : List (Option Char) :=
  [none, none, none, none, some '-', none, none, some '-', none, none, some 'T',
    none, none, some ':', none, none]

/-- `WALL_CLOCK.test(wallClock)`. -/
def isWallClock (wallClock : String) : Bool := matchesShape wallClockShape wallClock.toList

def zoneFor (platform : ZonePlatform) (waypoint : ScheduleWaypoint) : String :=
  let resolved := (platform.timeZoneAt waypoint.lat waypoint.lng).getD "UTC"
  match waypoint.schedule.bind (·.timeZone) with
  | none => resolved
  | some explicit =>
    if explicit ≠ "" ∧ platform.isKnownZone explicit then explicit else resolved

def instantIn (platform : ZonePlatform) (zone wallClock : String) : Option ℚ :=
  if isWallClock wallClock then platform.zonedWallClockToInstant zone wallClock else none

/-- A wall clock of the waypoint and the violation its failure to parse reports. -/
def readField (platform : ZonePlatform) (timeZone : String) (index : Nat)
    (field : ScheduleField) (value : Option String) : Option ℚ × List ScheduleViolation :=
  match value with
  | none => (none, [])
  | some value =>
    match instantIn platform timeZone value with
    | none => (none, [.invalidTime index field value])
    | some instant => (some instant, [])

def readDwell (index : Nat) (rawDwell : Option ℚ) : ℚ × List ScheduleViolation :=
  match rawDwell with
  | none => (0, [])
  | some rawDwell =>
    if rawDwell.den ≠ 1 ∨ rawDwell < 0 ∨ rawDwell > MAX_DWELL_SECONDS then
      (0, [.invalidDwell index rawDwell])
    else (rawDwell, [])

def conflictingFields (index : Nat) (schedule : WaypointSchedule) : List ScheduleViolation :=
  let conflicting :=
    (if schedule.departAfter.isSome then [ScheduleField.departAfter] else []) ++
      (if schedule.arriveBy.isSome then [ScheduleField.arriveBy] else [])
  if schedule.fixedAt.isSome ∧ conflicting ≠ [] then
    [.conflictingFields index (.fixedAt :: conflicting)]
  else []

def resolveStop (platform : ZonePlatform) (waypointCount index : Nat)
    (waypoint : ScheduleWaypoint) : ResolvedStopConstraint × List ScheduleViolation :=
  let timeZone := zoneFor platform waypoint
  let isEndpoint : Bool := index = 0 ∨ index + 1 = waypointCount
  let dwell := readDwell index (waypoint.schedule.bind (·.dwellSeconds))
  let dwellIgnored : Bool := isEndpoint ∧ dwell.1 > 0
  let dwellSeconds := if dwellIgnored then 0 else dwell.1
  let conflicts := (waypoint.schedule.map (conflictingFields index)).getD []
  let fixedAt := readField platform timeZone index .fixedAt (waypoint.schedule.bind (·.fixedAt))
  let arriveBy := readField platform timeZone index .arriveBy (waypoint.schedule.bind (·.arriveBy))
  let departAfter :=
    readField platform timeZone index .departAfter (waypoint.schedule.bind (·.departAfter))
  let violations := dwell.2 ++ conflicts ++ fixedAt.2 ++ arriveBy.2 ++ departAfter.2
  match fixedAt.1 with
  -- An appointment is a deadline plus a departure measured from the appointment.
  | some fixedAtMs =>
    (⟨index, timeZone, some (fixedAtMs + dwellSeconds * 1000), some fixedAtMs, 0,
      dwellIgnored⟩, violations)
  | none => (⟨index, timeZone, departAfter.1, arriveBy.1, dwellSeconds, dwellIgnored⟩, violations)

def isOrderViolation : ScheduleViolation → Bool
  | .invertedOrder .. => true
  | .anchorConflict .. => true
  | _ => false

/-- `a === null ? b : b === null ? a : combine(a, b)`. -/
def combineBounds (combine : ℚ → ℚ → ℚ) : Option ℚ → Option ℚ → Option ℚ
  | none, pinned => pinned
  | some own, none => some own
  | some own, some pinned => some (combine own pinned)

def deadlineAt (pinnedArrivalMs : Option ℚ) (stop : ResolvedStopConstraint)
    (later : List ResolvedStopConstraint) : Option ℚ :=
  combineBounds min stop.latestArrivalMs (if later.isEmpty then pinnedArrivalMs else none)

def orderViolation (boundByAnchor : Bool) (here there : ResolvedStopConstraint)
    (departure deadline : ℚ) : ScheduleViolation :=
  if boundByAnchor then
    .anchorConflict there.index ⟨departure, here.timeZone⟩ ⟨deadline, there.timeZone⟩
  else
    .invertedOrder here.index there.index ⟨departure, here.timeZone⟩ ⟨deadline, there.timeZone⟩

/-- The inner loop, over the stops after `here`. -/
def scanLater (boundByAnchor : Bool) (here : ResolvedStopConstraint) (departure : ℚ)
    (pinnedArrivalMs : Option ℚ) : ℚ → List ResolvedStopConstraint → List ScheduleViolation
  | _, [] => []
  | dwellBetween, there :: later =>
    (match deadlineAt pinnedArrivalMs there later with
      | none => []
      | some deadline =>
        if departure + dwellBetween > deadline then
          [orderViolation boundByAnchor here there departure deadline]
        else []) ++
      scanLater boundByAnchor here departure pinnedArrivalMs
        (dwellBetween + there.dwellSeconds * 1000) later

/-- The outer loop. `pinned` holds for the origin alone. -/
def scanFrom (pinned pinnedArrivalMs : Option ℚ) :
    List ResolvedStopConstraint → List ScheduleViolation
  | [] => []
  | here :: later =>
    (match combineBounds max here.earliestDepartureMs pinned with
      | none => []
      | some departure =>
        scanLater (pinned = some departure) here departure pinnedArrivalMs 0 later) ++
      scanFrom none pinnedArrivalMs later

def scanOrder (stops : List ResolvedStopConstraint)
    (pinnedDepartureMs pinnedArrivalMs : Option ℚ) : List ScheduleViolation :=
  scanFrom pinnedDepartureMs pinnedArrivalMs stops

def directionOf : ScheduleAnchor → Direction
  | .arriveBy _ => .backward
  | _ => .forward

def departurePin (anchor : ScheduleAnchor) (anchorMs : ℚ) : Option ℚ :=
  match anchor with
  | .departAt _ => some anchorMs
  | _ => none

def arrivalPin (anchor : ScheduleAnchor) (anchorMs : ℚ) : Option ℚ :=
  match anchor with
  | .arriveBy _ => some anchorMs
  | _ => none

/-- The zone the anchor is read in: the destination's for `arriveBy`, else the origin's. -/
def anchorZone (anchor : ScheduleAnchor) (stops : List ResolvedStopConstraint) : Option String :=
  match directionOf anchor with
  | .backward => stops.getLast?.map (·.timeZone)
  | .forward => stops.head?.map (·.timeZone)

def parseAnchor (platform : ZonePlatform) (anchor : ScheduleAnchor)
    (stops : List ResolvedStopConstraint) (wallClock : String) : Option ℚ :=
  match anchorZone anchor stops with
  | none => none
  | some zone => if zone = "" then none else instantIn platform zone wallClock

def resolveAnchor (platform : ZonePlatform) (input : ResolveScheduleInput)
    (stops : List ResolvedStopConstraint) : ℚ × List ScheduleViolation :=
  match input.anchor with
  | .now => (input.nowMs, [])
  | .departAt wallClock =>
    match parseAnchor platform input.anchor stops wallClock with
    | none => (input.nowMs, [.invalidTime 0 .departAt wallClock])
    | some parsed => (parsed, [])
  | .arriveBy wallClock =>
    match parseAnchor platform input.anchor stops wallClock with
    | none => (input.nowMs, [.invalidTime (stops.length - 1) .arriveBy wallClock])
    | some parsed => (parsed, [])

def resolveScheduleConstraints (platform : ZonePlatform) (input : ResolveScheduleInput) :
    ResolvedSchedule :=
  let resolved := input.waypoints.mapIdx (resolveStop platform input.waypoints.length)
  let stops := resolved.map (·.1)
  let anchor := resolveAnchor platform input stops
  { stops := stops
    anchorMs := anchor.1
    anchor := input.anchor
    direction := directionOf input.anchor
    violations := (resolved.map (·.2)).flatten ++ anchor.2 ++
      scanOrder stops (departurePin input.anchor anchor.1) (arrivalPin input.anchor anchor.1) }

end OpenMapX.Routing.ScheduleConstraints
