import Mathlib.Data.Fintype.Basic
import OpenMapX.OpeningHours.Ast

/-!
# The simple weekday selection

The visual editor takes a list of weekday selectors apart into toggled days and holidays and
builds a list from them again. The selection has one flag for `SH` standing in front of a
weekday; the two lists match the same days exactly when that flag can say what the list says.
-/

namespace OpenMapX.OpeningHours.WeekdaySelection

open Ast List

def OsmWeekday.index : OsmWeekday → Nat
  | .Mo => 0
  | .Tu => 1
  | .We => 2
  | .Th => 3
  | .Fr => 4
  | .Sa => 5
  | .Su => 6

structure SimpleWeekdaySelection where
  weekdays : List OsmWeekday
  includePH : Bool
  includeSH : Bool
  shAndMode : Bool
  deriving DecidableEq

/-- The variables of the loop of `extractSimpleWeekdaySelection`. -/
structure Extraction where
  selected : List OsmWeekday
  includePH : Bool
  includeSH : Bool
  shAndMode : Bool
  deriving DecidableEq

def shifted : Option Int → Bool
  | none => false
  | some offset => offset != 0

def numbered : Option (List OsmNthEntry) → Bool
  | none => false
  | some entries => entries != []

/-- `OSM_WEEKDAYS.slice(startIdx, endIdx + 1)`. -/
def daysBetween (fromDay toDay : OsmWeekday) : List OsmWeekday :=
  OSM_WEEKDAYS.filter fun day =>
    OsmWeekday.index fromDay ≤ OsmWeekday.index day && OsmWeekday.index day ≤ OsmWeekday.index toDay

def extractItem (state : Extraction) : OsmWeekdaySelectorItem → Option Extraction
  | .holiday kind dayOffset andWithNext =>
    if shifted dayOffset then none
    else
      match kind with
      | .PH => if andWithNext then none else some { state with includePH := true }
      | .SH => some { state with includeSH := true, shAndMode := andWithNext || state.shAndMode }
  | .weekday fromDay toDay nth dayOffset =>
    if numbered nth || shifted dayOffset then none
    else
      match toDay with
      | none => some { state with selected := fromDay :: state.selected }
      | some last =>
        -- a range that wraps around the end of the week stays in the advanced editor
        if OsmWeekday.index last < OsmWeekday.index fromDay then none
        else some { state with selected := daysBetween fromDay last ++ state.selected }

def extractItems : List OsmWeekdaySelectorItem → Extraction → Option Extraction
  | [], state => some state
  | item :: rest, state =>
    match extractItem state item with
    | none => none
    | some next => extractItems rest next

def extractSimpleWeekdaySelection (items : List OsmWeekdaySelectorItem) :
    Option SimpleWeekdaySelection :=
  match extractItems items ⟨[], false, false, false⟩ with
  | none => none
  | some state =>
    some ⟨OSM_WEEKDAYS.filter fun day => day ∈ state.selected, state.includePH, state.includeSH,
      state.shAndMode⟩

def spanItem (startDay endDay : OsmWeekday) : OsmWeekdaySelectorItem :=
  .weekday startDay (if startDay = endDay then none else some endDay) none none

/-- The spans of consecutive days, the open one going from `startDay` to `endDay`. -/
def spansFrom (startDay endDay : OsmWeekday) : List OsmWeekday → List OsmWeekdaySelectorItem
  | [] => [spanItem startDay endDay]
  | next :: rest =>
    if OsmWeekday.index next = OsmWeekday.index endDay + 1 then spansFrom startDay next rest
    else spanItem startDay endDay :: spansFrom next next rest

def weekdayItems : List OsmWeekday → List OsmWeekdaySelectorItem
  | [] => []
  | first :: rest => spansFrom first first rest

def buildSimpleWeekdaySelectors (selection : SimpleWeekdaySelection) :
    List OsmWeekdaySelectorItem :=
  let items := weekdayItems (OSM_WEEKDAYS.filter fun day => day ∈ selection.weekdays)
  let inFront := selection.includeSH && selection.shAndMode && items != []
  (if inFront then [.holiday .SH none true] else []) ++ items ++
    (if selection.includeSH && (!selection.shAndMode || items == []) then [.holiday .SH none false]
      else []) ++
    (if selection.includePH then [.holiday .PH none false] else [])

structure DayStatus where
  weekday : OsmWeekday
  publicHoliday : Bool
  schoolHoliday : Bool
  deriving DecidableEq

def inRange (fromDay toDay day : OsmWeekday) : Bool :=
  if OsmWeekday.index fromDay ≤ OsmWeekday.index toDay then
    OsmWeekday.index fromDay ≤ OsmWeekday.index day && OsmWeekday.index day ≤ OsmWeekday.index toDay
  else
    OsmWeekday.index fromDay ≤ OsmWeekday.index day || OsmWeekday.index day ≤ OsmWeekday.index toDay

def itemMatches (day : DayStatus) : OsmWeekdaySelectorItem → Bool
  | .weekday fromDay toDay _ _ => inRange fromDay (toDay.getD fromDay) day.weekday
  | .holiday .PH _ _ => day.publicHoliday
  | .holiday .SH _ _ => day.schoolHoliday

def andWithNext : OsmWeekdaySelectorItem → Bool
  | .weekday .. => false
  | .holiday _ _ flag => flag

/-- A comma is OR, and an item with `andWithNext` is AND with the item behind it. `held` is what
the items before demand of this one. -/
def matchesFrom (day : DayStatus) (held : Bool) : List OsmWeekdaySelectorItem → Bool
  | [] => false
  | [item] => held && itemMatches day item
  | item :: next :: rest =>
    if andWithNext item then matchesFrom day (held && itemMatches day item) (next :: rest)
    else (held && itemMatches day item) || matchesFrom day true (next :: rest)

def matchesDay (items : List OsmWeekdaySelectorItem) (day : DayStatus) : Bool :=
  matchesFrom day true items

def coversDay (weekday : OsmWeekday) : OsmWeekdaySelectorItem → Bool
  | .weekday fromDay toDay _ _ => inRange fromDay (toDay.getD fromDay) weekday
  | .holiday .. => false

def isPublicHoliday : OsmWeekdaySelectorItem → Bool
  | .holiday .PH _ _ => true
  | _ => false

def isSchoolHoliday : OsmWeekdaySelectorItem → Bool
  | .holiday .SH _ _ => true
  | _ => false

def covered (items : List OsmWeekdaySelectorItem) (weekday : OsmWeekday) : Bool :=
  items.any (coversDay weekday)

/-- Some item that no holiday is AND-ed to passes the test. The flag says whether the item
before asks for the next one. -/
def someFree (test : OsmWeekdaySelectorItem → Bool) (bound : Bool) :
    List OsmWeekdaySelectorItem → Bool
  | [] => false
  | item :: rest => (!bound && test item) || someFree test (andWithNext item) rest

/-- An `SH` that is not AND-ed to an item behind it. -/
def schoolHolidayAlone : List OsmWeekdaySelectorItem → Bool
  | [] => false
  | item :: rest =>
    (isSchoolHoliday item && (!andWithNext item || rest == [])) || schoolHolidayAlone rest

def InFirstRun (selected : OsmWeekday → Bool) (weekday : OsmWeekday) : Prop :=
  selected weekday = true ∧ ∀ first between : OsmWeekday,
    OsmWeekday.index first ≤ OsmWeekday.index between →
      OsmWeekday.index between ≤ OsmWeekday.index weekday →
        selected first = true → selected between = true

/-- What a list that has an AND-ed `SH` must be like: with weekdays, the days that are not AND-ed
are those behind the first run of selected days, and `SH` alone comes only with all seven days;
without weekdays, `SH` stands alone somewhere. A `PH` must then stand free somewhere. -/
structure OneFlagSays (items : List OsmWeekdaySelectorItem) : Prop where
  free_days : ∀ weekday, someFree (coversDay weekday) false items = true ↔
    covered items weekday = true ∧ ¬InFirstRun (covered items) weekday
  school : (∃ weekday, covered items weekday = true) →
    schoolHolidayAlone items = true → ∀ weekday, covered items weekday = true
  school_alone : (∀ weekday, covered items weekday = false) → schoolHolidayAlone items = true
  free_public : items.any isPublicHoliday = true → someFree isPublicHoliday false items = true

def KeptWhen (items : List OsmWeekdaySelectorItem) : Prop :=
  items.any andWithNext = true → OneFlagSays items

structure Took (items : List OsmWeekdaySelectorItem) (before after : Extraction) : Prop where
  days : ∀ day, day ∈ after.selected ↔ day ∈ before.selected ∨ covered items day = true
  includePH : after.includePH = (before.includePH || items.any isPublicHoliday)
  includeSH : after.includeSH = (before.includeSH || items.any isSchoolHoliday)
  shAndMode : after.shAndMode = (before.shAndMode || items.any andWithNext)
  school_only : ∀ item ∈ items, andWithNext item = true → isSchoolHoliday item = true

theorem range_of_one (fromDay day : OsmWeekday) :
    inRange fromDay fromDay day = true ↔ day = fromDay := by
  cases fromDay <;> cases day <;> decide

theorem mem_days_between {fromDay last day}
    (forward : ¬OsmWeekday.index last < OsmWeekday.index fromDay) :
    day ∈ daysBetween fromDay last ↔ inRange fromDay last day = true := by
  have listed : day ∈ OSM_WEEKDAYS := by cases day <;> decide
  simp only [daysBetween, mem_filter, listed, true_and, inRange, if_pos (not_lt.mp forward)]

theorem extract_item_took {item state next} (extracted : extractItem state item = some next) :
    Took [item] state next := by
  cases item with
  | weekday fromDay toDay nth dayOffset =>
    simp only [extractItem] at extracted
    split at extracted
    · cases extracted
    · cases toDay with
      | none =>
        cases extracted
        apply Took.mk
        · intro day
          simp [covered, coversDay, range_of_one, or_comm]
        all_goals simp [isPublicHoliday, isSchoolHoliday, andWithNext]
      | some last =>
        simp only at extracted
        split at extracted
        · cases extracted
        · rename_i forward
          cases extracted
          apply Took.mk
          · intro day
            simp [covered, coversDay, mem_days_between forward, or_comm]
          all_goals simp [isPublicHoliday, isSchoolHoliday, andWithNext]
  | holiday kind dayOffset flag =>
    simp only [extractItem] at extracted
    split at extracted
    · cases extracted
    · cases kind with
      | PH =>
        simp only at extracted
        split at extracted
        · cases extracted
        · rename_i single
          cases extracted
          apply Took.mk
          all_goals simp [covered, coversDay, isPublicHoliday, isSchoolHoliday, andWithNext,
            single]
      | SH =>
        cases extracted
        apply Took.mk
        all_goals simp [covered, coversDay, isPublicHoliday, isSchoolHoliday, andWithNext,
          Bool.or_comm]

theorem extract_items_took (items) :
    ∀ {state result : Extraction}, extractItems items state = some result →
      Took items state result := by
  induction items with
  | nil =>
    intro state result extracted
    cases extracted
    apply Took.mk
    all_goals simp [covered]
  | cons item rest ih =>
    intro state result extracted
    unfold extractItems at extracted
    split at extracted
    · cases extracted
    · rename_i next own
      have first := extract_item_took own
      have later := ih extracted
      apply Took.mk
      · intro day
        rw [later.days, first.days, or_assoc]
        simp [covered]
      · rw [later.includePH, first.includePH, Bool.or_assoc]
        simp
      · rw [later.includeSH, first.includeSH, Bool.or_assoc]
        simp
      · rw [later.shAndMode, first.shAndMode, Bool.or_assoc]
        simp
      · intro other member
        rcases mem_cons.mp member with same | inside
        · rw [same]
          exact first.school_only item (mem_singleton.mpr rfl)
        · exact later.school_only other inside

theorem matches_from (day : DayStatus) (items) :
    ∀ bound : Bool, (∀ item ∈ items, andWithNext item = true → isSchoolHoliday item = true) →
      matchesFrom day (!bound || day.schoolHoliday) items =
        (someFree (coversDay day.weekday) bound items ||
          (day.schoolHoliday && (covered items day.weekday || schoolHolidayAlone items)) ||
          (day.publicHoliday && someFree isPublicHoliday bound items) ||
          (day.schoolHoliday && day.publicHoliday && items.any isPublicHoliday)) := by
  induction items with
  | nil =>
    intro bound school_only
    simp [matchesFrom, someFree, covered, schoolHolidayAlone]
  | cons item rest ih =>
    intro bound school_only
    have later_only : ∀ other ∈ rest, andWithNext other = true → isSchoolHoliday other = true :=
      fun other member => school_only other (mem_cons_of_mem item member)
    cases rest with
    | nil =>
      cases item with
      | weekday fromDay toDay nth dayOffset =>
        simp only [matchesFrom, someFree, covered, schoolHolidayAlone, itemMatches,
          coversDay, isPublicHoliday, isSchoolHoliday, andWithNext, any_cons,
          any_nil]
        grind
      | holiday kind dayOffset flag =>
        cases kind <;> simp only [matchesFrom, someFree, covered, schoolHolidayAlone,
          itemMatches, coversDay, isPublicHoliday, isSchoolHoliday, andWithNext,
          any_cons, any_nil] <;> grind
    | cons next others =>
      have after_free := ih false later_only
      have after_bound := ih true later_only
      cases item with
      | weekday fromDay toDay nth dayOffset =>
        simp only [matchesFrom, andWithNext, Bool.false_eq_true, if_false]
        simp only [Bool.not_false, Bool.true_or] at after_free
        rw [after_free]
        generalize next :: others = more
        simp only [someFree, covered, schoolHolidayAlone, itemMatches, coversDay,
          isPublicHoliday, isSchoolHoliday, andWithNext, any_cons]
        clear ih later_only school_only after_free after_bound
        grind
      | holiday kind dayOffset flag =>
        cases flag with
        | false =>
          simp only [matchesFrom, andWithNext, Bool.false_eq_true, if_false]
          simp only [Bool.not_false, Bool.true_or] at after_free
          rw [after_free]
          clear ih later_only school_only after_free after_bound
          generalize next :: others = more
          cases kind <;> simp only [someFree, covered, schoolHolidayAlone, itemMatches,
            coversDay, isPublicHoliday, isSchoolHoliday, andWithNext, any_cons] <;>
            grind
        | true =>
          have school := school_only _ mem_cons_self rfl
          cases kind with
          | PH => cases school
          | SH =>
            simp only [Bool.not_true, Bool.false_or] at after_bound
            have held : ((!bound || day.schoolHoliday) && day.schoolHoliday) =
                day.schoolHoliday := by grind
            simp only [matchesFrom, andWithNext, if_true, itemMatches]
            rw [held, after_bound]
            have behind : (next :: others == []) = false := rfl
            clear ih later_only school_only after_free after_bound held
            generalize next :: others = more at *
            simp only [someFree, covered, schoolHolidayAlone, coversDay,
              isPublicHoliday, isSchoolHoliday, andWithNext, any_cons, behind]
            grind

instance : Fintype OsmWeekday where
  elems := OSM_WEEKDAYS.toFinset
  complete := by
    intro day
    cases day <;> decide

instance (selected : OsmWeekday → Bool) (weekday : OsmWeekday) :
    Decidable (InFirstRun selected weekday) := by
  unfold InFirstRun
  infer_instance

def daysOf (mo tu we th fr sa su : Bool) : OsmWeekday → Bool
  | .Mo => mo
  | .Tu => tu
  | .We => we
  | .Th => th
  | .Fr => fr
  | .Sa => sa
  | .Su => su

theorem days_of_each (selected : OsmWeekday → Bool) :
    selected = daysOf (selected .Mo) (selected .Tu) (selected .We) (selected .Th) (selected .Fr)
      (selected .Sa) (selected .Su) := by
  funext day
  cases day <;> rfl

def spansOf (selected : OsmWeekday → Bool) : List OsmWeekdaySelectorItem :=
  weekdayItems (OSM_WEEKDAYS.filter selected)

theorem spans_of_days : ∀ mo tu we th fr sa su : Bool, ∀ day : OsmWeekday,
    let selected := daysOf mo tu we th fr sa su
    (((spansOf selected).take 1).any (coversDay day) = true ↔ InFirstRun selected day) ∧
      (((spansOf selected).drop 1).any (coversDay day) = true ↔
        selected day = true ∧ ¬InFirstRun selected day) := by
  decide +kernel

section

variable (selected : OsmWeekday → Bool) (day : OsmWeekday)

theorem first_span :
    ((spansOf selected).take 1).any (coversDay day) = true ↔ InFirstRun selected day := by
  rw [days_of_each selected]
  exact (spans_of_days _ _ _ _ _ _ _ day).1

theorem later_spans : ((spansOf selected).drop 1).any (coversDay day) = true ↔
      selected day = true ∧ ¬InFirstRun selected day := by
  rw [days_of_each selected]
  exact (spans_of_days _ _ _ _ _ _ _ day).2

theorem spans_cover : (spansOf selected).any (coversDay day) = selected day := by
  rw [← take_append_drop 1 (spansOf selected), any_append, Bool.eq_iff_iff,
    Bool.or_eq_true, first_span, later_spans]
  constructor
  · intro either
    rcases either with first | later
    · exact first.1
    · exact later.1
  · intro chosen
    by_cases first : InFirstRun selected day
    · exact Or.inl first
    · exact Or.inr (And.intro chosen first)

end

theorem spans_from_weekday (ordered : List OsmWeekday) :
    ∀ startDay endDay, ∀ item ∈ spansFrom startDay endDay ordered,
      ∃ fromDay toDay, item = .weekday fromDay toDay none none := by
  induction ordered with
  | nil =>
    intro startDay endDay item member
    rw [spansFrom, mem_singleton] at member
    rw [member]
    exact ⟨_, _, rfl⟩
  | cons next rest ih =>
    intro startDay endDay item member
    unfold spansFrom at member
    split at member
    · exact ih _ _ item member
    · rcases mem_cons.mp member with same | later
      · rw [same]
        exact ⟨_, _, rfl⟩
      · exact ih _ _ item later

variable {selected : OsmWeekday → Bool}

theorem span_weekday {item}
    (member : item ∈ spansOf selected) : ∃ fromDay toDay, item = .weekday fromDay toDay none none := by
  unfold spansOf weekdayItems at member
  split at member
  · cases member
  · exact spans_from_weekday _ _ _ item member

theorem spans_empty_iff (selected : OsmWeekday → Bool) :
    spansOf selected = [] ↔ ∀ day, selected day = false := by
  constructor
  · intro none day
    have covers := spans_cover selected day
    rw [none] at covers
    exact covers.symm
  · intro none
    have nothing : OSM_WEEKDAYS.filter selected = [] := by
      rw [filter_eq_nil_iff]
      intro day member
      simp [none day]
    rw [spansOf, nothing]
    rfl

theorem span_matches (selected : OsmWeekday → Bool) (day : DayStatus)
    (items : List OsmWeekdaySelectorItem) (spans : ∀ item ∈ items, item ∈ spansOf selected) :
    items.any (itemMatches day) = items.any (coversDay day.weekday) := by
  rw [Bool.eq_iff_iff, any_eq_true, any_eq_true]
  apply exists_congr
  intro item
  apply and_congr_right
  intro member
  obtain ⟨fromDay, toDay, same⟩ := span_weekday (spans item member)
  rw [same]
  rfl

theorem matches_alternatives (day : DayStatus) (rest) :
    ∀ (held : Bool) (first : OsmWeekdaySelectorItem),
      (∀ item ∈ first :: rest, andWithNext item = false) → matchesFrom day held (first :: rest) =
          ((held && itemMatches day first) || rest.any (itemMatches day)) := by
  induction rest with
  | nil =>
    intro held first plain
    simp [matchesFrom]
  | cons next others ih =>
    intro held first plain
    have later := ih true next fun item member => plain item (mem_cons_of_mem first member)
    rw [matchesFrom, plain first mem_cons_self, later]
    simp

variable {items : List OsmWeekdaySelectorItem}

theorem matches_any (day : DayStatus) (plain : ∀ item ∈ items, andWithNext item = false) :
    matchesFrom day true items = items.any (itemMatches day) := by
  cases items with
  | nil => rfl
  | cons first rest =>
    rw [matches_alternatives day rest true first plain, Bool.true_and, any_cons]

variable {selection : SimpleWeekdaySelection}

section

variable
  (days : (OSM_WEEKDAYS.filter fun day => day ∈ selection.weekdays) = OSM_WEEKDAYS.filter selected)
include days

theorem build_and_matches (school : selection.includeSH = true) (front : selection.shAndMode = true)
    (some_day : spansOf selected ≠ []) (day : DayStatus) :
    matchesDay (buildSimpleWeekdaySelectors selection) day =
      ((day.schoolHoliday && ((spansOf selected).take 1).any (coversDay day.weekday)) ||
        ((spansOf selected).drop 1).any (coversDay day.weekday) ||
        (selection.includePH && day.publicHoliday)) := by
  obtain ⟨first, more, spans⟩ := exists_cons_of_ne_nil some_day
  have plain : ∀ item ∈ first :: (more ++
      if selection.includePH = true then [.holiday .PH none false] else []),
      andWithNext item = false := by
    intro item member
    rw [← cons_append, ← spans] at member
    rcases mem_append.mp member with inside | last
    · obtain ⟨fromDay, toDay, same⟩ := span_weekday inside
      rw [same]
      rfl
    · split at last
      · rw [mem_singleton.mp last]
        rfl
      · cases last
  have first_days : itemMatches day first = coversDay day.weekday first := by
    have alone := span_matches selected day [first] (by
      intro item member
      rw [mem_singleton.mp member, spans]
      exact mem_cons_self)
    simpa using alone
  have more_days : more.any (itemMatches day) = more.any (coversDay day.weekday) := by
    apply span_matches selected
    intro item member
    rw [spans]
    exact mem_cons_of_mem first member
  have list : buildSimpleWeekdaySelectors selection =
      .holiday .SH none true :: first :: (more ++
        if selection.includePH = true then [.holiday .PH none false] else []) := by
    unfold buildSimpleWeekdaySelectors
    simp only [days, school, front]
    rw [← spansOf, spans]
    simp
  have public_day : (if selection.includePH = true
      then [OsmWeekdaySelectorItem.holiday .PH none false] else []).any (itemMatches day) =
        (selection.includePH && day.publicHoliday) := by
    cases selection.includePH <;> simp [itemMatches]
  have joined : andWithNext (.holiday .SH none true) = true := rfl
  rw [list, matchesDay, matchesFrom, if_pos joined, matches_alternatives day _ _ first plain,
    any_append, more_days, public_day, first_days, spans]
  simp [itemMatches, Bool.or_assoc]

theorem build_or_matches
    (apart : (selection.includeSH && selection.shAndMode && spansOf selected != []) = false)
    (day : DayStatus) : matchesDay (buildSimpleWeekdaySelectors selection) day =
      (selected day.weekday || (selection.includeSH && day.schoolHoliday) ||
        (selection.includePH && day.publicHoliday)) := by
  have list : buildSimpleWeekdaySelectors selection = spansOf selected ++
      (if selection.includeSH = true then [.holiday .SH none false] else []) ++
      (if selection.includePH = true then [.holiday .PH none false] else []) := by
    unfold buildSimpleWeekdaySelectors
    simp only [days]
    rw [← spansOf, apart]
    have school : (selection.includeSH && (!selection.shAndMode || spansOf selected == [])) =
        selection.includeSH := by
      cases school : selection.includeSH with
      | false => rfl
      | true =>
        rw [school] at apart
        cases front : selection.shAndMode with
        | false => rfl
        | true =>
          rw [front] at apart
          simpa using apart
    rw [school]
    rfl
  have plain : ∀ item ∈ spansOf selected ++
      (if selection.includeSH = true then [.holiday .SH none false] else []) ++
      (if selection.includePH = true then [.holiday .PH none false] else []),
      andWithNext item = false := by
    intro item member
    rcases mem_append.mp member with inside | last
    · rcases mem_append.mp inside with span | last
      · obtain ⟨fromDay, toDay, same⟩ := span_weekday span
        rw [same]
        rfl
      · split at last
        · rw [mem_singleton.mp last]
          rfl
        · cases last
    · split at last
      · rw [mem_singleton.mp last]
        rfl
      · cases last
  rw [list, matchesDay, matches_any day plain, any_append, any_append,
    span_matches selected day _ (fun item member => member), spans_cover]
  cases selection.includeSH <;> cases selection.includePH <;> simp [itemMatches]

end

structure Extracted (items : List OsmWeekdaySelectorItem) (selection : SimpleWeekdaySelection) :
    Prop where
  days : (OSM_WEEKDAYS.filter fun day => day ∈ selection.weekdays) =
    OSM_WEEKDAYS.filter (covered items)
  includePH : selection.includePH = items.any isPublicHoliday
  includeSH : selection.includeSH = items.any isSchoolHoliday
  shAndMode : selection.shAndMode = items.any andWithNext
  school_only : ∀ item ∈ items, andWithNext item = true → isSchoolHoliday item = true

theorem extracted_facts (extracted : extractSimpleWeekdaySelection items = some selection) :
    Extracted items selection := by
  unfold extractSimpleWeekdaySelection at extracted
  split at extracted
  · cases extracted
  · rename_i state went
    have took := extract_items_took items went
    cases extracted
    apply Extracted.mk
    · apply filter_congr
      intro day listed
      have chosen := took.days day
      simp only [not_mem_nil, false_or] at chosen
      simp only [mem_filter, listed, true_and, decide_eq_true_eq, chosen]
      exact Bool.decide_coe _
    · simpa using took.includePH
    · simpa using took.includeSH
    · simpa using took.shAndMode
    · exact took.school_only

theorem and_has_school
    (school_only : ∀ item ∈ items, andWithNext item = true → isSchoolHoliday item = true)
    (joined : items.any andWithNext = true) : items.any isSchoolHoliday = true := by
  obtain ⟨item, member, flag⟩ := any_eq_true.mp joined
  exact any_eq_true.mpr ⟨item, member, school_only item member flag⟩

theorem free_without_and (test : OsmWeekdaySelectorItem → Bool)
    (items) (apart : ∀ item ∈ items, andWithNext item = false) :
    someFree test false items = items.any test := by
  induction items with
  | nil => rfl
  | cons item rest ih =>
    rw [someFree, apart item mem_cons_self,
      ih fun other member => apart other (mem_cons_of_mem item member), any_cons]
    rfl

theorem alone_without_and (items) (apart : ∀ item ∈ items, andWithNext item = false) :
    schoolHolidayAlone items = items.any isSchoolHoliday := by
  induction items with
  | nil => rfl
  | cons item rest ih =>
    rw [schoolHolidayAlone, apart item mem_cons_self,
      ih fun other member => apart other (mem_cons_of_mem item member), any_cons]
    simp

theorem free_imp_any {test : OsmWeekdaySelectorItem → Bool} (items) :
    ∀ bound, someFree test bound items = true → items.any test = true := by
  induction items with
  | nil =>
    intro bound found
    cases found
  | cons item rest ih =>
    intro bound found
    rw [someFree, Bool.or_eq_true, Bool.and_eq_true] at found
    rw [any_cons, Bool.or_eq_true]
    rcases found with here | later
    · exact Or.inl here.2
    · exact Or.inr (ih _ later)

theorem matches_list {items}
    (school_only : ∀ item ∈ items, andWithNext item = true → isSchoolHoliday item = true)
    (day : DayStatus) : matchesDay items day = (someFree (coversDay day.weekday) false items ||
        (day.schoolHoliday && (covered items day.weekday || schoolHolidayAlone items)) ||
        (day.publicHoliday && someFree isPublicHoliday false items) ||
        (day.schoolHoliday && day.publicHoliday && items.any isPublicHoliday)) := by
  have list := matches_from day items false school_only
  simpa [matchesDay] using list

theorem kept_without_and
    (facts : Extracted items selection) (apart : items.any andWithNext = false) (day : DayStatus) :
    matchesDay (buildSimpleWeekdaySelectors selection) day = matchesDay items day := by
  have each : ∀ item ∈ items, andWithNext item = false := by
    intro item member
    cases flag : andWithNext item with
    | false => rfl
    | true =>
      rw [any_eq_true.mpr ⟨item, member, flag⟩] at apart
      cases apart
  rw [build_or_matches facts.days (by rw [facts.shAndMode, apart]; simp),
    matches_list facts.school_only, free_without_and _ items each, free_without_and _ items each,
    alone_without_and items each, facts.includeSH, facts.includePH]
  unfold covered
  cases day.schoolHoliday <;> cases day.publicHoliday <;>
    cases items.any (coversDay day.weekday) <;> simp

theorem starts_range (fromDay toDay : OsmWeekday) : inRange fromDay toDay fromDay = true := by
  cases fromDay <;> cases toDay <;> rfl

theorem first_run_exists (some_day : spansOf selected ≠ []) :
    ∃ weekday, InFirstRun selected weekday := by
  obtain ⟨first, more, spans⟩ := exists_cons_of_ne_nil some_day
  have member : first ∈ spansOf selected := by
    rw [spans]
    exact mem_cons_self
  obtain ⟨fromDay, toDay, same⟩ := span_weekday member
  apply Exists.intro fromDay
  rw [← first_span, spans, same]
  simp [coversDay, starts_range]

section

variable (facts : Extracted items selection) (joined : items.any andWithNext = true)
include facts joined

theorem kept_with_and_iff (some_day : spansOf (covered items) ≠ []) :
    (∀ day, matchesDay (buildSimpleWeekdaySelectors selection) day = matchesDay items day) ↔
      OneFlagSays items := by
  have school : selection.includeSH = true := by
    rw [facts.includeSH]
    exact and_has_school facts.school_only joined
  have front : selection.shAndMode = true := by
    rw [facts.shAndMode, joined]
  have built := build_and_matches facts.days school front some_day
  have listed := @matches_list items facts.school_only
  have span := first_span (covered items)
  have later := later_spans (covered items)
  have some_covered : ∃ weekday, covered items weekday = true := by
    apply not_forall_not.mp
    intro none
    apply some_day
    rw [spans_empty_iff]
    intro weekday
    exact Bool.eq_false_iff.mpr (none weekday)
  constructor
  · intro kept
    have free_days : ∀ weekday, someFree (coversDay weekday) false items = true ↔
        covered items weekday = true ∧ ¬InFirstRun (covered items) weekday := by
      intro weekday
      have plain := kept ⟨weekday, false, false⟩
      rw [built, listed] at plain
      simp only [Bool.false_and, Bool.and_false, Bool.or_false, Bool.false_or] at plain
      rw [← later, plain]
    apply OneFlagSays.mk free_days
    · intro _ alone weekday
      have on_school := kept ⟨weekday, false, true⟩
      rw [built, listed, alone] at on_school
      simp only [Bool.true_and, Bool.and_false, Bool.or_false, Bool.or_true, Bool.false_and,
        Bool.or_eq_true] at on_school
      rcases on_school with first | other
      · exact ((span weekday).mp first).1
      · exact ((later weekday).mp other).1
    · intro none
      obtain ⟨weekday, chosen⟩ := some_covered
      rw [none weekday] at chosen
      cases chosen
    · intro public_item
      obtain ⟨weekday, in_first⟩ := first_run_exists some_day
      have on_public := kept ⟨weekday, true, false⟩
      have not_free : someFree (coversDay weekday) false items = false := by
        rw [Bool.eq_false_iff]
        intro free
        exact ((free_days weekday).mp free).2 in_first
      rw [built, listed, facts.includePH, public_item, not_free] at on_public
      simpa using on_public.symm
  · intro flagged day
    have same_days : ((spansOf (covered items)).drop 1).any (coversDay day.weekday) =
        someFree (coversDay day.weekday) false items := by
      rw [Bool.eq_iff_iff, later, flagged.free_days]
    have all_days : (((spansOf (covered items)).take 1).any (coversDay day.weekday) ||
        ((spansOf (covered items)).drop 1).any (coversDay day.weekday)) =
          covered items day.weekday := by
      rw [← any_append, take_append_drop, spans_cover]
    have own := flagged.school some_covered
    have free_public : someFree isPublicHoliday false items = items.any isPublicHoliday := by
      rw [Bool.eq_iff_iff]
      exact Iff.intro (free_imp_any items false) flagged.free_public
    rw [built, listed, ← same_days, free_public, facts.includePH, ← all_days]
    have alone : schoolHolidayAlone items = true →
        (((spansOf (covered items)).take 1).any (coversDay day.weekday) ||
          ((spansOf (covered items)).drop 1).any (coversDay day.weekday)) = true := by
      intro there
      rw [all_days]
      exact own there day.weekday
    clear built listed span later same_days all_days own free_public facts
    cases day.schoolHoliday <;> cases day.publicHoliday <;>
      cases there : schoolHolidayAlone items <;> grind

theorem kept_alone_iff (no_day : spansOf (covered items) = []) :
    (∀ day, matchesDay (buildSimpleWeekdaySelectors selection) day = matchesDay items day) ↔
      OneFlagSays items := by
  have school : selection.includeSH = true := by
    rw [facts.includeSH]
    exact and_has_school facts.school_only joined
  have none := (spans_empty_iff ..).mp no_day
  have built := build_or_matches facts.days (by rw [no_day]; simp)
  have listed := @matches_list items facts.school_only
  have no_free : ∀ weekday, someFree (coversDay weekday) false items = false := by
    intro weekday
    rw [Bool.eq_false_iff]
    intro free
    have there := free_imp_any items false free
    rw [← covered, none weekday] at there
    cases there
  constructor
  · intro kept
    apply OneFlagSays.mk
    · intro weekday
      rw [no_free, none]
      simp
    · intro some_covered
      obtain ⟨weekday, chosen⟩ := some_covered
      rw [none weekday] at chosen
      cases chosen
    · intro _
      have on_school := kept ⟨.Mo, false, true⟩
      rw [built, listed, no_free, none, school] at on_school
      simpa using on_school.symm
    · intro public_item
      have on_public := kept ⟨.Mo, true, false⟩
      rw [built, listed, no_free, none, facts.includePH, public_item] at on_public
      simpa using on_public.symm
  · intro flagged day
    have free_public : someFree isPublicHoliday false items = items.any isPublicHoliday := by
      rw [Bool.eq_iff_iff]
      exact Iff.intro (free_imp_any items false) flagged.free_public
    rw [built, listed, no_free, none, school, facts.includePH, free_public,
      flagged.school_alone none]
    cases day.schoolHoliday <;> cases day.publicHoliday <;> simp

end

theorem selection_kept_iff {items : List OsmWeekdaySelectorItem}
    {selection : SimpleWeekdaySelection}
    (extracted : extractSimpleWeekdaySelection items = some selection) :
    (∀ day, matchesDay (buildSimpleWeekdaySelectors selection) day = matchesDay items day) ↔
      KeptWhen items := by
  have facts := extracted_facts extracted
  cases joined : items.any andWithNext with
  | false =>
    apply iff_of_true
    · exact kept_without_and facts joined
    · intro same
      rw [joined] at same
      cases same
  | true =>
    have conditional : KeptWhen items ↔ OneFlagSays items :=
      Iff.intro (fun kept => kept joined) (fun flagged _ => flagged)
    rw [conditional]
    by_cases no_day : spansOf (covered items) = []
    · exact kept_alone_iff facts joined no_day
    · exact kept_with_and_iff facts joined no_day

/-- `SH Mo-Fr,Sa` is built again as `SH Mo-Sa`: the days of the AND and the Saturday form one
run. -/
theorem school_week_kept_iff : (∀ day, matchesDay (buildSimpleWeekdaySelectors
        ⟨[.Mo, .Tu, .We, .Th, .Fr, .Sa], false, true, true⟩) day =
      matchesDay [.holiday .SH none true, .weekday .Mo (some .Fr) none none,
        .weekday .Sa none none none] day) ↔
      KeptWhen [.holiday .SH none true, .weekday .Mo (some .Fr) none none,
        .weekday .Sa none none none] :=
  selection_kept_iff (by decide)

/-- `Mo,SH We` is built again as `SH Mo,We`, which leaves the Mondays out that are no school
holidays. -/
theorem monday_lost : ∃ selection, extractSimpleWeekdaySelection [.weekday .Mo none none none,
        .holiday .SH none true, .weekday .We none none none] = some selection ∧
      matchesDay [.weekday .Mo none none none, .holiday .SH none true,
        .weekday .We none none none] ⟨.Mo, false, false⟩ = true ∧
      matchesDay (buildSimpleWeekdaySelectors selection) ⟨.Mo, false, false⟩ = false := by
  exact ⟨⟨[.Mo, .We], false, true, true⟩, by decide, by decide, by decide⟩

end OpenMapX.OpeningHours.WeekdaySelection
