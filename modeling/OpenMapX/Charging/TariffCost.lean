import OpenMapX.Foundation.CivilCalendar
import OpenMapX.Foundation.Stretches
import OpenMapX.Foundation.TextOrder

/-!
# The cost of a charging session

`costOn` of the charge planner: what a tariff asks for a session, stretch by stretch
between the shares at which one of its elements may start or stop applying. Numbers
are exact, in any ordered field whose numbers can be rounded. The station's clock runs
on evenly during a session.
-/

namespace OpenMapX.Charging.TariffCost

open Foundation.CivilCalendar Foundation.JsText Foundation.Stretches Foundation.TextOrder

inductive Day where
  | SU | MO | TU | WE | TH | FR | SA
  deriving DecidableEq

/-- Weekdays in `Date.getUTCDay()` order. -/
def WEEK : List Day := [.SU, .MO, .TU, .WE, .TH, .FR, .SA]

inductive ComponentType where
  | energy | time | flat | parking_time | session | idle | reservation | distance
  deriving DecidableEq

structure Component (K : Type) where
  type : ComponentType
  price : K
  vatPct : Option K
  stepSize : Option K
  deriving DecidableEq

structure EnergyTariffRestrictions (K : Type) where
  startTime : Option String
  endTime : Option String
  startDate : Option String
  endDate : Option String
  days : Option (List Day)
  minKwh : Option K
  maxKwh : Option K
  minCurrentA : Option K
  maxCurrentA : Option K
  minPowerKw : Option K
  maxPowerKw : Option K
  minDurationSec : Option K
  maxDurationSec : Option K
  reservation : Option String

structure TariffElement (K : Type) where
  components : List (Component K)
  restrictions : Option (EnergyTariffRestrictions K)

structure EnergyTariff (K : Type) where
  id : String
  currency : String
  type : Option String
  elements : List (TariffElement K)
  minPrice : Option K
  maxPrice : Option K
  priceIncludesVat : Bool

/-- The component types a charging stop pays for, in the order the summary prefers. -/
def COSTED : List ComponentType := [.energy, .time, .flat, .session]

inductive PriceUnit where
  | kWh | h | session
  deriving DecidableEq

/-- `UNIT[type] ?? "session"`. -/
def unitOf : ComponentType → PriceUnit
  | .energy => .kWh
  | .time => .h
  | _ => .session

def MINUTES_PER_DAY : ℕ := 24 * 60

structure LocalArrival where
  day : ℤ
  minute : ℕ
  inDay : minute < MINUTES_PER_DAY

def digitChar (digit : ℕ) : Char := Char.ofNat (48 + digit)

/-- `HH:MM`. -/
def clockText (minute : ℕ) : String :=
  String.ofList [digitChar (minute / 600), digitChar (minute / 60 % 10), ':',
    digitChar (minute % 60 / 10), digitChar (minute % 10)]

def padStart (width : ℕ) (number : ℕ) : String :=
  let digits := toString number
  String.ofList (List.replicate (width - digits.length) '0') ++ digits

/-- `toISOString().slice(0, 10)` of a day: the year has four digits, or a sign and six. -/
def dateText (day : ℤ) : String :=
  let date := civilOf day
  let year := if 0 ≤ date.year ∧ date.year ≤ 9999 then padStart 4 date.year.toNat
    else (if date.year < 0 then "-" else "+") ++ padStart 6 date.year.natAbs
  String.ofList ((year ++ "-" ++ padStart 2 date.month.toNat ++ "-"
    ++ padStart 2 date.day.toNat).toList.take 10)

def LocalArrival.time (arrival : LocalArrival) : String := clockText arrival.minute

def LocalArrival.date (arrival : LocalArrival) : String := dateText arrival.day

def LocalArrival.weekday (arrival : LocalArrival) : Day :=
  (WEEK[((arrival.day + 4) % 7).toNat]?).getD .SU

section

variable (K : Type) [Field K] [LinearOrder K]

/-- `SessionFacts` with the amperage that the connector states. -/
structure Session where
  powerKw : K
  arrivalLocal : LocalArrival
  addedKwh : K
  chargeSeconds : K
  maxAmperage : Option K
  nonneg : 0 ≤ chargeSeconds

end

def present (text : Option String) : Option String := text.filter (· ≠ "")

def textLt (left right : String) : Bool := !textLe right left

def digitOf (unit : ℕ) : Option ℚ := if 48 ≤ unit ∧ unit ≤ 57 then some (unit - 48) else none

/-- `Number` of a text of at most two code units: white space around it does not count. -/
def numberOf (units : List ℕ) : Option ℚ :=
  match units.filter fun unit => !isWhiteSpace unit with
  | [] => some 0
  | [unit] => digitOf unit
  | [first, second] =>
    if first = '+'.toNat then digitOf second
    else if first = '-'.toNat then (digitOf second).map fun digit => -digit
    else if first = '.'.toNat then (digitOf second).map fun digit => digit / 10
    else if second = '.'.toNat then digitOf first
    else (digitOf first).bind fun tens => (digitOf second).map fun ones => 10 * tens + ones
  | _ => none

/-- Minutes past midnight of a `HH:MM` time, with no value for `NaN`. -/
def minutesOf (time : String) : Option ℚ :=
  let units := codeUnits time
  (numberOf (units.take 2)).bind fun hours =>
    (numberOf ((units.drop 3).take 2)).map fun minutes => hours * 60 + minutes

/-- Whether a `HH:MM` time falls in a daily window; a window ending before it starts
crosses midnight. -/
def withinWindow (time : String) (start finish : Option String) : Bool :=
  let crosses := match present start, present finish with
    | some start, some finish => textLt finish start
    | _, _ => false
  let after := (present start).all fun start => textLe start time
  let before := (present finish).all fun finish => textLt time finish
  if crosses then after || before else after && before

def dayBefore (day : Day) : Day := (WEEK[(WEEK.idxOf day + 6) % 7]?).getD .SU

section

variable {K : Type} [Field K] [LinearOrder K]

/-- `min` inclusive, `max` exclusive. -/
def within (value : K) (min max : Option K) : Bool :=
  min.all (fun min => decide (min ≤ value)) && max.all (fun max => decide (value < max))

def eligibleFor (element : TariffElement K) (session : Session K) : Bool :=
  match element.restrictions with
  | none => true
  | some r =>
    if (present r.reservation).isSome || !within session.powerKw r.minPowerKw r.maxPowerKw then
      false
    else session.maxAmperage.all fun amps => within amps r.minCurrentA r.maxCurrentA

def afterMidnight (r : EnergyTariffRestrictions K) (time : String) : Bool :=
  match r.startTime, r.endTime with
  | some start, some finish => textLt finish start && textLt time finish
  | _, _ => false

def tariffMatches (element : TariffElement K) (session : Session K) : Bool :=
  match element.restrictions with
  | none => true
  | some r =>
    let arrival := session.arrivalLocal
    let day := if afterMidnight r arrival.time then dayBefore arrival.weekday
      else arrival.weekday
    if (present r.reservation).isSome then false
    else if r.days.any fun days => !days.isEmpty && !days.contains day then false
    else if !withinWindow arrival.time r.startTime r.endTime then false
    else if (present r.startDate).any fun date => textLt arrival.date date then false
    else if (present r.endDate).any fun date => textLe date arrival.date then false
    else eligibleFor element session

def shareOf (value total : K) : Option K :=
  if 0 < total then some (value / total) else if 0 < value then none else some 0

def laterShare (first second : Option K) : Option K :=
  first.bind fun first => second.map fun second => max first second

/-- The part of a session an element's energy and duration bounds cover, from 0 at
plug-in to 1 at the end. -/
def shareSpan (r : Option (EnergyTariffRestrictions K)) (session : Session K) : Option K × K :=
  let lower := fun (bound : Option K) (total : K) => match bound with
    | some bound => shareOf bound total
    | none => some 0
  let upper := fun (bound : Option K) (total : K) => match bound with
    | some bound => (shareOf bound total).getD 1
    | none => 1
  (laterShare (lower (r.bind EnergyTariffRestrictions.minKwh) session.addedKwh)
      (lower (r.bind EnergyTariffRestrictions.minDurationSec) session.chargeSeconds),
    min (min (upper (r.bind EnergyTariffRestrictions.maxKwh) session.addedKwh)
      (upper (r.bind EnergyTariffRestrictions.maxDurationSec) session.chargeSeconds)) 1)

variable [FloorRing K]

def billed (quantity : K) (stepSize : Option K) : K :=
  match stepSize with
  | none => quantity
  | some stepSize =>
    if stepSize ≤ 0 then quantity
    else (⌈quantity / stepSize - 1 / (1000000000 : ℕ)⌉ : ℤ) * stepSize

def quantityOf (component : Component K) (share : K) (session : Session K) : K :=
  match component.type with
  | .energy => billed (share * session.addedKwh * (1000 : ℕ)) component.stepSize / (1000 : ℕ)
  | .time => billed (share * session.chargeSeconds) component.stepSize / (3600 : ℕ)
  | _ => 1

/-- The station's wall clock `seconds` after `start`, taking the clock not to change in
between. -/
def localAfter (start : LocalArrival) (seconds : K) : LocalArrival :=
  let total := (start.minute : ℤ) + ⌊seconds / (60 : ℕ)⌋
  { day := start.day + total / 1440,
    minute := (total % 1440).toNat,
    inDay := by
      have below := Int.emod_lt_of_pos total (show (0 : ℤ) < 1440 by decide)
      have above := Int.emod_nonneg total (show (1440 : ℤ) ≠ 0 by decide)
      unfold MINUTES_PER_DAY
      omega }

/-- `((x % 1440) + 1440) % 1440`. -/
def minuteOfDay (minutes : ℚ) : ℚ := minutes - 1440 * ⌊minutes / 1440⌋

def clockEdges (elements : List (TariffElement K)) : List ℚ :=
  (0 :: elements.flatMap fun element =>
    ((present (element.restrictions.bind EnergyTariffRestrictions.startTime)).bind minutesOf).toList
      ++ ((present (element.restrictions.bind EnergyTariffRestrictions.endTime)).bind
        minutesOf).toList).dedup

/-- Every time at which the clock passes the edge before the end of the session. -/
def passesOf (first span : K) : List K :=
  (List.range ⌈(span - first) / (1440 : ℕ)⌉.toNat).map fun pass => first + (1440 * pass : ℕ)

/-- The shares of a session at which the station's clock passes midnight or the edge of
an element's daily window. -/
def clockCuts (elements : List (TariffElement K)) (session : Session K) : List K :=
  let span := session.chargeSeconds / (60 : ℕ)
  if 0 < span then
    (clockEdges elements).flatMap fun edge =>
      let first := minuteOfDay (edge - session.arrivalLocal.minute)
      ((passesOf (first : K) span).filter fun at_ => 0 < at_).map fun at_ => at_ / span
  else []

/-- An element with its place in the tariff and the part of the session that its energy
and duration bounds cover. -/
structure SpannedElement (K : Type) where
  index : ℕ
  element : TariffElement K
  start : K
  finish : K

structure PlacedComponent (K : Type) where
  element : ℕ
  place : ℕ
  component : Component K
  deriving DecidableEq

structure Charge (K : Type) where
  component : PlacedComponent K
  amount : K

structure SessionPrice (K : Type) where
  amount : K
  currency : String
  unit : PriceUnit

structure SessionCost (K : Type) where
  amount : K
  currency : String
  tariffId : String
  tariffType : Option String
  price : SessionPrice K

def placedComponents (index : ℕ) (element : TariffElement K) : List (PlacedComponent K) :=
  element.components.zipIdx.map fun entry => ⟨index, entry.2, entry.1⟩

def spanned (entry : TariffElement K × ℕ) (session : Session K) : Option (SpannedElement K) :=
  match shareSpan entry.1.restrictions session with
  | (some start, finish) =>
    if start < finish then some ⟨entry.2, entry.1, start, finish⟩ else none
  | (none, _) => none

section

variable (tariff : EnergyTariff K) (session : Session K)

def gross (component : Component K) : K :=
  if tariff.priceIncludesVat then 1 else 1 + component.vatPct.getD 0 / (100 : ℕ)

def spannedElements : List (SpannedElement K) :=
  tariff.elements.zipIdx.filterMap fun entry => spanned entry session

def Session.atShare (session : Session K) (share : K) : Session K :=
  { session with arrivalLocal := localAfter session.arrivalLocal (share * session.chargeSeconds) }

def appliesAt (element : TariffElement K) (share : K) : Bool :=
  tariffMatches element (session.atShare share)

def cutPoints : List K :=
  0 :: 1 :: ((spannedElements tariff session).flatMap (fun e => [e.start, e.finish])
    ++ clockCuts ((spannedElements tariff session).map SpannedElement.element) session)

def cutsFrom (points : List K) : List K :=
  (points.dedup.filter fun cut => decide (0 ≤ cut) && decide (cut ≤ 1)).mergeSort
    fun a b => decide (a ≤ b)

/-- The first component of the type whose element applies at a share of the session. -/
def componentAt (type : ComponentType) (share : K) : Option (PlacedComponent K) :=
  (((spannedElements tariff session).filter fun e =>
      decide (e.start ≤ share) && decide (share < e.finish) &&
        appliesAt session e.element share).flatMap
    fun e => placedComponents e.index e.element).find? fun c => c.component.type = type

def componentOnArrival (type : ComponentType) : Option (PlacedComponent K) :=
  (((spannedElements tariff session).filter fun e => appliesAt session e.element 0).flatMap
    fun e => placedComponents e.index e.element).find? fun c => c.component.type = type

def priced (type : ComponentType) : Bool :=
  tariff.elements.any fun e =>
    eligibleFor e session && e.components.any fun c => c.type = type

def baseType : Option ComponentType :=
  if priced tariff session .energy then some .energy
  else if priced tariff session .time then some .time else none

def chargeOf (entry : PlacedComponent K × K) : Charge K where
  component := entry.1
  amount := entry.1.component.price * quantityOf entry.1.component entry.2 session
    * gross tariff entry.1.component

/-- What is charged for a type, over the stretches between the cuts; nothing at all
where a part of the session has no base price. -/
def chargeType (cuts : List K) (type : ComponentType) : Option (List (Charge K)) :=
  if type = .flat ∨ type = .session then
    some ((componentOnArrival tariff session type).map fun c =>
      { component := c, amount := c.component.price * gross tariff c.component }).toList
  else
    let shares := sharesOf (componentAt tariff session type) cuts
    if shares.uncovered ∧ baseType tariff session = some type then none
    else some (shares.entries.map (chargeOf tariff session))

def chargesOver (cuts : List K) : Option (List (Charge K)) :=
  (COSTED.mapM (chargeType tariff session cuts)).map List.flatten

def largestCharge (first : Charge K) (rest : List (Charge K)) : Charge K :=
  rest.foldl (fun a b => if a.amount < b.amount then b else a) first

/-- `Math.round`. -/
def mathRound (value : K) : K := (⌊value + 1 / (2 : ℕ)⌋ : ℤ)

def costOf : List (Charge K) → Option (SessionCost K)
  | [] => none
  | main :: rest =>
    let largest := (largestCharge main rest).component.component
    let sum := (main :: rest).foldl (fun sum c => sum + c.amount) 0
    let raised := match tariff.minPrice with
      | some price => max sum (price * gross tariff largest)
      | none => sum
    let amount := match tariff.maxPrice with
      | some price => min raised (price * gross tariff largest)
      | none => raised
    some {
      amount := amount,
      currency := tariff.currency,
      tariffId := tariff.id,
      tariffType := tariff.type,
      price := {
        amount := mathRound (main.component.component.price
          * gross tariff main.component.component * (10000 : ℕ)) / (10000 : ℕ),
        currency := tariff.currency,
        unit := unitOf main.component.component.type } }

def costOver (points : List K) : Option (SessionCost K) :=
  (chargesOver tariff session (cutsFrom points)).bind (costOf tariff)

def costOn : Option (SessionCost K) := costOver tariff session (cutPoints tariff session)

end

end

end OpenMapX.Charging.TariffCost
