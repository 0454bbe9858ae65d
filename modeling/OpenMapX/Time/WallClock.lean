import OpenMapX.Foundation.CivilCalendar

/-!
# Wall clocks in time zones

`zonedWallClockToInstant` finds the instant of a local wall clock. What `Intl` knows of a zone is
its offset from UTC at each instant, in whole minutes and less than a day. Instants and local
times are milliseconds.
-/

namespace OpenMapX.Time.WallClock

open Foundation.CivilCalendar

structure WallClockParts where
  year : Int
  month : Int
  day : Int
  hour : Int
  minute : Int
  second : Int
  deriving DecidableEq

structure Zone where
  offsetMinutes : Int → Int
  bounded : ∀ instant, -1440 < offsetMinutes instant ∧ offsetMinutes instant < 1440

def digitValue (c : Char) : Option Int := if '0' ≤ c ∧ c ≤ '9' then some (c.toNat - 48) else none

/-- Exactly `count` digits. -/
def readDigits : Nat → Int → List Char → Option (Int × List Char)
  | 0, value, text => some (value, text)
  | count + 1, value, text =>
    match text with
    | [] => none
    | c :: rest =>
      match digitValue c with
      | none => none
      | some digit => readDigits count (10 * value + digit) rest

def readHour (text : List Char) : Option (Int × List Char) :=
  match readDigits 2 0 text with
  | some two => some two
  | none => readDigits 1 0 text

def skip (mark : Char) : List Char → Option (List Char)
  | [] => none
  | c :: rest => if c = mark then some rest else none

def skipSeparator : List Char → Option (List Char)
  | [] => none
  | c :: rest => if c = 'T' ∨ c = ' ' then some rest else none

/-- `(?:\.\d+)?$`. -/
def endsWithFraction : List Char → Bool
  | [] => true
  | c :: rest => c == '.' && rest != [] && rest.all fun digit => (digitValue digit).isSome

/-- `(?::(\d{2})(?:\.\d+)?)?$`. -/
def readSecond : List Char → Option Int
  | [] => some 0
  | c :: rest =>
    if c = ':' then
      match readDigits 2 0 rest with
      | some (second, last) => if endsWithFraction last then some second else none
      | none => none
    else none

/-- `WALL_CLOCK_PATTERN` and the numbers of its groups. -/
def matchWallClock (wallClock : String) : Option WallClockParts := do
  let (year, afterYear) ← readDigits 4 0 wallClock.toList
  let monthText ← skip '-' afterYear
  let (month, afterMonth) ← readDigits 2 0 monthText
  let dayText ← skip '-' afterMonth
  let (day, afterDay) ← readDigits 2 0 dayText
  let hourText ← skipSeparator afterDay
  let (hour, afterHour) ← readHour hourText
  let minuteText ← skip ':' afterHour
  let (minute, afterMinute) ← readDigits 2 0 minuteText
  let second ← readSecond afterMinute
  some ⟨year, month, day, hour, minute, second⟩

def partsOf (clock : Int) : WallClockParts :=
  let seconds := clock / 1000
  let date := civilOf (seconds / 86400)
  ⟨date.year, date.month, date.day, seconds % 86400 / 3600, seconds % 3600 / 60, seconds % 60⟩

def localTime (zone : Zone) (instant : Int) : Int := instant + zone.offsetMinutes instant * 60000

def partsAt (zone : Zone) (instant : Int) : WallClockParts := partsOf (localTime zone instant)

def compareWallClock (left right : WallClockParts) : Int :=
  if left.year ≠ right.year then left.year - right.year
  else if left.month ≠ right.month then left.month - right.month
  else if left.day ≠ right.day then left.day - right.day
  else if left.hour ≠ right.hour then left.hour - right.hour
  else if left.minute ≠ right.minute then left.minute - right.minute
  else if left.second ≠ right.second then left.second - right.second
  else 0

def timeOf (parts : WallClockParts) : Int :=
  dayNumber parts.year parts.month parts.day * 86400000 + parts.hour * 3600000 +
    parts.minute * 60000 + parts.second * 1000

/-- `Date.UTC`, which takes a year below 100 for one of the twentieth century. -/
def dateUTC (parts : WallClockParts) : Int :=
  timeOf (if 0 ≤ parts.year ∧ parts.year ≤ 99 then { parts with year := 1900 + parts.year }
    else parts)

def SAMPLE_HOURS : List Int := [-36, -24, -12, 0, 12, 24, 36]

def offsetsAround (zone : Zone) (naiveMs : Int) : List Int :=
  (SAMPLE_HOURS.map fun hours => zone.offsetMinutes (naiveMs + hours * 3600000)).eraseDups

def candidatesOf (zone : Zone) (naiveMs : Int) : List Int :=
  (offsetsAround zone naiveMs).map fun offset => naiveMs - offset * 60000

def exactCandidates (zone : Zone) (requested : WallClockParts) (naiveMs : Int) : List Int :=
  ((candidatesOf zone naiveMs).filter fun candidate =>
    compareWallClock (partsAt zone candidate) requested = 0).mergeSort fun a b => a ≤ b

/-- The first of the instants `start`, `start + step`, … that passes the test. -/
def scan (test : Int → Bool) (step : Int) : Nat → Int → Option Int
  | 0, _ => none
  | count + 1, instant =>
    if test instant then some instant else scan test step count (instant + step)

def afterGap (zone : Zone) (requested : WallClockParts) (instant : Int) : Bool :=
  let shown := partsAt zone instant
  shown.year == requested.year && shown.month == requested.month && shown.day == requested.day &&
    0 ≤ compareWallClock shown requested

def stepMs (requested : WallClockParts) : Int := if requested.second = 0 then 60000 else 1000

def searchGap (zone : Zone) (requested : WallClockParts) (naiveMs : Int) : Option Int :=
  let candidates := candidatesOf zone naiveMs
  let start := (candidates.min?).getD 0 - 3 * 3600000
  let stop := (candidates.max?).getD 0 + 3 * 3600000
  scan (afterGap zone requested) (stepMs requested)
    ((stop - start) / stepMs requested + 1).toNat start

/-- `zones` is what `Intl` finds under a name; it throws where it finds nothing. -/
def zonedWallClockToInstant (zones : String → Option Zone) (timeZone wallClock : String) :
    Option Int :=
  match matchWallClock wallClock with
  | none => none
  | some requested =>
    let naiveMs := dateUTC requested
    if partsOf naiveMs ≠ requested then none
    else
      match zones timeZone with
      | none => none
      | some zone =>
        match exactCandidates zone requested naiveMs with
        | earliest :: _ => some earliest
        | [] => searchGap zone requested naiveMs

end OpenMapX.Time.WallClock
