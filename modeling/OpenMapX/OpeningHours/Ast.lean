import Mathlib.Data.Int.Notation

/-!
# Weekday selectors

The weekdays of the OpenStreetMap `opening_hours` values. A flag that the source leaves out is
`false` here.
-/

namespace OpenMapX.OpeningHours.Ast

inductive OsmWeekday where
  | Mo | Tu | We | Th | Fr | Sa | Su
  deriving DecidableEq

def OSM_WEEKDAYS : List OsmWeekday := [.Mo, .Tu, .We, .Th, .Fr, .Sa, .Su]

inductive OsmHoliday where
  | PH | SH
  deriving DecidableEq

structure OsmNthEntry where
  fromNth : ℤ
  toNth : Option ℤ
  deriving DecidableEq

inductive OsmWeekdaySelectorItem where
  | weekday (fromDay : OsmWeekday) (toDay : Option OsmWeekday) (nth : Option (List OsmNthEntry))
      (dayOffset : Option ℤ)
  | holiday (holiday : OsmHoliday) (dayOffset : Option ℤ) (andWithNext : Bool)
  deriving DecidableEq

end OpenMapX.OpeningHours.Ast
