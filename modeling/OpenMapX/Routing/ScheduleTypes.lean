import Mathlib.Data.Rat.Floor

/-!
# Instants, resolved stops and schedule records

Epoch milliseconds and seconds are exact rationals. A rendered instant is kept
as the arguments of `isoWithOffsetInZone`: the text is a function of the instant
and the zone, and both are what the schedule decides. Zone data is the
platform's, so the functions that read it are fields of `ZonePlatform`.
-/

namespace OpenMapX.Routing

/-- `isoWithOffsetInZone(new Date(ms), timeZone)`, named by its arguments. -/
structure ZonedInstant where
  ms : ℚ
  timeZone : String
  deriving DecidableEq

structure ZonePlatform where
  isKnownZone : String → Bool
  timeZoneAt : ℚ → ℚ → Option String
  zonedWallClockToInstant : String → String → Option ℚ
  tzOffsetMinutes : ℚ → String → Option ℤ
  localDateInZone : ℚ → String → String

def utcPlatform : ZonePlatform where
  isKnownZone zone := zone == "UTC"
  timeZoneAt _ _ := some "UTC"
  zonedWallClockToInstant _ _ := none
  tzOffsetMinutes _ zone := if zone == "UTC" then some 0 else none
  localDateInZone ms _ := toString (Int.floor (ms / 86400000))

/-- `Math.round`: halves go up. -/
def mathRound (value : ℚ) : ℤ := ⌊value + 1 / 2⌋

theorem mathRound_nonneg {value : ℚ} (nonneg : 0 ≤ value) : 0 ≤ mathRound value :=
  Int.floor_nonneg.mpr (by linarith)

theorem mathRound_intCast (value : ℤ) : mathRound (value : ℚ) = value := by
  rw [mathRound, Int.floor_eq_iff]
  constructor <;> linarith

inductive Direction where
  | forward
  | backward
  deriving DecidableEq

inductive ScheduleField where
  | departAfter
  | arriveBy
  | fixedAt
  | departAt
  deriving DecidableEq

inductive ScheduleViolation where
  | conflictingFields (waypointIndex : Nat) (fields : List ScheduleField)
  | invalidTime (waypointIndex : Nat) (field : ScheduleField) (value : String)
  | invalidDwell (waypointIndex : Nat) (dwellSeconds : ℚ)
  | invertedOrder (fromIndex toIndex : Nat) (earliestDeparture latestArrival : ZonedInstant)
  | anchorConflict (waypointIndex : Nat) (anchor latestArrival : ZonedInstant)
  | lateArrival (waypointIndex : Nat) (requiredBy earliestArrival : ZonedInstant)
      (shortfallSeconds : ℤ)
  | earlyDeparture (waypointIndex : Nat) (allowedFrom latestDeparture : ZonedInstant)
      (shortfallSeconds : ℤ)
  | unreachable (fromIndex toIndex : Nat)
  deriving DecidableEq

structure ResolvedStopConstraint where
  index : Nat
  timeZone : String
  earliestDepartureMs : Option ℚ
  latestArrivalMs : Option ℚ
  dwellSeconds : ℚ
  dwellIgnored : Bool
  deriving DecidableEq

structure ScheduledStop where
  waypointIndex : Nat
  timeZone : String
  arrival : Option ZonedInstant
  departure : Option ZonedInstant
  dwellSeconds : ℚ
  waitSeconds : ℤ
  utcOffsetMinutes : ℤ
  deriving DecidableEq

structure ScheduledLeg where
  fromIndex : Nat
  toIndex : Nat
  departure : ZonedInstant
  arrival : ZonedInstant
  travelSeconds : ℚ
  deriving DecidableEq

structure TripSchedule where
  stops : List ScheduledStop
  legs : List ScheduledLeg
  departure : ZonedInstant
  arrival : ZonedInstant
  totalTravelSeconds : ℚ
  totalDwellSeconds : ℚ
  totalWaitSeconds : ℤ
  multiDay : Bool
  violations : List ScheduleViolation
  deriving DecidableEq

inductive ScheduleError where
  | unsupportedDirection (direction : Direction) (providerId : Option String)
  | typeError
  deriving DecidableEq

end OpenMapX.Routing
