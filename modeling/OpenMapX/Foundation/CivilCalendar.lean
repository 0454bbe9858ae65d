import Mathlib.Data.Int.Basic

/-!
# The civil calendar

Days counted from 1970-01-01 and the proleptic Gregorian dates they have. A year is taken to
begin in March, so that the leap day is its last one. Later days have later dates, and a date
gives its day back.
-/

namespace OpenMapX.Foundation.CivilCalendar

@[ext]
structure CivilDate where
  year : Int
  month : Int
  day : Int
  deriving DecidableEq

def eraOf (days : Int) : Int := (days + 719468) / 146097

def dayOfEra (days : Int) : Int := (days + 719468) % 146097

def centuryOf (days : Int) : Int := min 3 (dayOfEra days / 36524)

def dayOfCentury (days : Int) : Int := dayOfEra days - 36524 * centuryOf days

def cycleOf (days : Int) : Int := dayOfCentury days / 1461

def dayOfCycle (days : Int) : Int := dayOfCentury days % 1461

def yearOfCycle (days : Int) : Int := min 3 (dayOfCycle days / 365)

def dayOfYear (days : Int) : Int := dayOfCycle days - 365 * yearOfCycle days

def marchYear (days : Int) : Int :=
  400 * eraOf days + 100 * centuryOf days + 4 * cycleOf days + yearOfCycle days

def marchMonth (days : Int) : Int := (5 * dayOfYear days + 2) / 153

def civilOf (days : Int) : CivilDate where
  year := if marchMonth days < 10 then marchYear days else marchYear days + 1
  month := if marchMonth days < 10 then marchMonth days + 3 else marchMonth days - 9
  day := dayOfYear days - (153 * marchMonth days + 2) / 5 + 1

/-- The day of a date, as `Date.UTC` counts it: a month beyond the year and a day beyond the
month go on into the next. -/
def dayNumber (year month day : Int) : Int :=
  let monthsFromMarch := (month + 9) % 12
  let fromMarch := year + (month + 9) / 12 - 1
  365 * fromMarch + fromMarch / 4 - fromMarch / 100 + fromMarch / 400 +
    (153 * monthsFromMarch + 2) / 5 + day - 719469

structure InCycle (days : Int) : Prop where
  century : 0 ≤ centuryOf days ∧ centuryOf days ≤ 3
  cycle : 0 ≤ cycleOf days ∧ cycleOf days ≤ 24
  year : 0 ≤ yearOfCycle days ∧ yearOfCycle days ≤ 3
  day : 0 ≤ dayOfYear days ∧ dayOfYear days ≤ 365

theorem in_cycle (days : Int) : InCycle days := by
  have start : 0 ≤ dayOfEra days := Int.emod_nonneg _ (by decide)
  have stop : dayOfEra days < 146097 := Int.emod_lt_of_pos _ (by decide)
  apply InCycle.mk
  all_goals
    simp only [dayOfYear, yearOfCycle, cycleOf, dayOfCycle, dayOfCentury, centuryOf]
    generalize dayOfEra days = position at *
    omega

theorem march_year_lt {first second : Int} (lt : first < second) :
    marchYear first < marchYear second ∨
      (marchYear first = marchYear second ∧ dayOfYear first < dayOfYear second) := by
  have here := in_cycle first
  have there := in_cycle second
  have centuries := And.intro here.century there.century
  have cycles := And.intro here.cycle there.cycle
  have years := And.intro here.year there.year
  unfold marchYear
  by_cases same_era : eraOf first = eraOf second
  · have in_era : dayOfEra first < dayOfEra second := by
      unfold eraOf at same_era
      unfold dayOfEra
      omega
    by_cases same_century : centuryOf first = centuryOf second
    · have in_century : dayOfCentury first < dayOfCentury second := by
        unfold dayOfCentury
        omega
      by_cases same_cycle : cycleOf first = cycleOf second
      · have in_cycle : dayOfCycle first < dayOfCycle second := by
          unfold cycleOf at same_cycle
          unfold dayOfCycle
          omega
        by_cases same_year : yearOfCycle first = yearOfCycle second
        · right
          unfold dayOfYear
          omega
        · left
          have earlier : yearOfCycle first < yearOfCycle second := by
            unfold yearOfCycle at same_year ⊢
            omega
          omega
      · left
        have earlier : cycleOf first < cycleOf second := by
          unfold cycleOf at same_cycle ⊢
          omega
        omega
    · left
      have earlier : centuryOf first < centuryOf second := by
        unfold centuryOf at same_century ⊢
        omega
      omega
  · left
    have earlier : eraOf first < eraOf second := by
      unfold eraOf at same_era ⊢
      omega
    omega

theorem march_month_bounds (days : Int) : 0 ≤ marchMonth days ∧ marchMonth days ≤ 11 := by
  have day := (in_cycle days).day
  unfold marchMonth
  omega

def Before (first second : CivilDate) : Prop :=
  first.year < second.year ∨
    (first.year = second.year ∧ (first.month < second.month ∨
      (first.month = second.month ∧ first.day < second.day)))

theorem civil_before {first second : Int} (lt : first < second) :
    Before (civilOf first) (civilOf second) := by
  have here := march_month_bounds first
  have there := march_month_bounds second
  unfold Before civilOf
  rcases march_year_lt lt with earlier | same
  · simp only
    omega
  · have months : marchMonth first < marchMonth second ∨
        (marchMonth first = marchMonth second ∧
          dayOfYear first - (153 * marchMonth first + 2) / 5 <
            dayOfYear second - (153 * marchMonth second + 2) / 5) := by
      unfold marchMonth
      omega
    simp only
    omega

theorem civil_injective {first second : Int} (same : civilOf first = civilOf second) :
    first = second := by
  have apart : ∀ date : CivilDate, ¬Before date date := by
    intro date before
    unfold Before at before
    omega
  apply Int.le_antisymm
  · apply Int.not_lt.mp
    intro lt
    have before := civil_before lt
    rw [same] at before
    exact apart _ before
  · apply Int.not_lt.mp
    intro lt
    have before := civil_before lt
    rw [same] at before
    exact apart _ before

theorem day_from_march (days : Int) :
    365 * marchYear days + marchYear days / 4 - marchYear days / 100 + marchYear days / 400 +
      dayOfYear days - 719468 = days := by
  have parts := in_cycle days
  have century := parts.century
  have cycle := parts.cycle
  have year := parts.year
  have quarter : marchYear days / 4 = 100 * eraOf days + 25 * centuryOf days + cycleOf days := by
    unfold marchYear
    omega
  have hundreds : marchYear days / 100 = 4 * eraOf days + centuryOf days := by
    unfold marchYear
    omega
  have eras : marchYear days / 400 = eraOf days := by
    unfold marchYear
    omega
  have era_days : 146097 * eraOf days + dayOfEra days = days + 719468 := by
    unfold eraOf dayOfEra
    omega
  have century_days : dayOfEra days = 36524 * centuryOf days + dayOfCentury days := by
    unfold dayOfCentury
    omega
  have cycle_days : dayOfCentury days = 1461 * cycleOf days + dayOfCycle days := by
    unfold cycleOf dayOfCycle
    omega
  have year_days : dayOfCycle days = 365 * yearOfCycle days + dayOfYear days := by
    unfold dayOfYear
    omega
  rw [quarter, hundreds, eras]
  unfold marchYear
  omega

theorem day_number_civil (days : Int) :
    dayNumber (civilOf days).year (civilOf days).month (civilOf days).day = days := by
  have bounds := march_month_bounds days
  have from_march := day_from_march days
  have year : (civilOf days).year + ((civilOf days).month + 9) / 12 - 1 = marchYear days := by
    unfold civilOf
    simp only
    omega
  have month : ((civilOf days).month + 9) % 12 = marchMonth days := by
    unfold civilOf
    simp only
    omega
  have day : (civilOf days).day = dayOfYear days - (153 * marchMonth days + 2) / 5 + 1 := rfl
  unfold dayNumber
  simp only [year, month]
  rw [day]
  omega

example : civilOf (-719528) = ⟨0, 1, 1⟩ ∧ civilOf 11016 = ⟨2000, 2, 29⟩ ∧
    dayNumber 2000 2 30 = 11017 := by decide

end OpenMapX.Foundation.CivilCalendar
