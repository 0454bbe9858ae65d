import Mathlib.Tactic.Ring
import OpenMapX.Time.WallClock

/-!
# The instant a wall clock names

Around one transition a local time is reached once, twice or, where the clock is set forward
past it, never. The search finds the earliest instant in the first two cases. In a gap it finds
the end of the gap only on its own grid and on the day that was asked for.
-/

namespace OpenMapX.Time.WallClockInstant

open Foundation.CivilCalendar WallClock List Bool

theorem parts_same {first second : Int} (same : first / 1000 = second / 1000) :
    partsOf first = partsOf second := by
  unfold partsOf
  rw [same]

theorem compare_self (parts : WallClockParts) : compareWallClock parts parts = 0 := by
  simp [compareWallClock]

theorem compare_earlier {first second : Int} (earlier : first / 1000 < second / 1000) :
    compareWallClock (partsOf first) (partsOf second) < 0 ∧
      0 < compareWallClock (partsOf second) (partsOf first) := by
  unfold compareWallClock partsOf
  simp only
  by_cases same_day : first / 1000 / 86400 = second / 1000 / 86400
  · rw [same_day]
    simp only [ne_eq, not_true_eq_false, if_false]
    constructor
    · split
      · omega
      · split
        · omega
        · split <;> omega
    · split
      · omega
      · split
        · omega
        · split <;> omega
  · have day : first / 1000 / 86400 < second / 1000 / 86400 := by omega
    have before := civil_before day
    unfold Before at before
    constructor
    · split
      · omega
      · split
        · omega
        · rw [if_pos (by omega)]
          omega
    · split
      · omega
      · split
        · omega
        · rw [if_pos (by omega)]
          omega

theorem time_of_parts (clock : Int) : timeOf (partsOf clock) = clock / 1000 * 1000 := by
  unfold timeOf partsOf
  simp only [day_number_civil]
  omega

theorem time_whole_seconds (parts : WallClockParts) : timeOf parts % 1000 = 0 := by
  unfold timeOf
  omega

def InCalendar (requested : WallClockParts) : Prop := partsOf (timeOf requested) = requested

section

variable {requested : WallClockParts} (exists_ : InCalendar requested)
include exists_

theorem parts_eq_iff (clock : Int) :
    partsOf clock = requested ↔ clock / 1000 = timeOf requested / 1000 := by
  constructor
  · intro same
    rw [← same, time_of_parts]
    omega
  · intro same
    rw [parts_same same]
    exact exists_

theorem compare_nonneg_iff (clock : Int) : 0 ≤ compareWallClock (partsOf clock) requested ↔
      timeOf requested / 1000 ≤ clock / 1000 := by
  constructor
  · intro above
    apply Int.not_lt.mp
    intro earlier
    have below := (compare_earlier earlier).1
    rw [exists_] at below
    omega
  · intro later
    rcases Int.lt_or_eq_of_le later with strictly | same
    · have above := (compare_earlier strictly).2
      rw [exists_] at above
      omega
    · rw [(parts_eq_iff exists_ clock).mpr same.symm, compare_self]

theorem compare_zero_iff (clock : Int) : compareWallClock (partsOf clock) requested = 0 ↔
      clock / 1000 = timeOf requested / 1000 := by
  constructor
  · intro zero
    have above := (compare_nonneg_iff exists_ clock).mp (by omega)
    apply Int.le_antisymm _ above
    apply Int.not_lt.mp
    intro later
    have positive := (compare_earlier later).2
    rw [exists_] at positive
    omega
  · intro same
    rw [(parts_eq_iff exists_ clock).mpr same, compare_self]

end

theorem scan_found {test : Int → Bool} {step : Int} (steps : Nat) :
    ∀ {count : Nat} {start : Int}, steps < count →
      (∀ k : Nat, k < steps → test (start + k * step) = false) →
      test (start + steps * step) = true →
      scan test step count start = some (start + steps * step) := by
  induction steps with
  | zero =>
    intro count start inside none passes
    cases count with
    | zero => omega
    | succ count =>
      simp only [Int.natCast_zero, Int.zero_mul, Int.add_zero] at passes ⊢
      rw [scan, if_pos passes]
  | succ steps ih =>
    intro count start inside none passes
    cases count with
    | zero => omega
    | succ count =>
      have first := none 0 (Nat.succ_pos steps)
      simp only [Int.natCast_zero, Int.zero_mul, Int.add_zero] at first
      have shifted : ∀ k : Nat, start + step + k * step = start + (k + 1 : Nat) * step := by
        intro k
        push_cast
        ring
      rw [scan, if_neg (by rw [first]; exact Bool.false_ne_true), ih (by omega), shifted]
      · intro k below
        rw [shifted]
        exact none (k + 1) (by omega)
      · rw [shifted]
        exact passes

theorem scan_none {test : Int → Bool} {step : Int} (count : Nat) :
    ∀ {start : Int}, (∀ k : Nat, k < count → test (start + k * step) = false) →
      scan test step count start = none := by
  induction count with
  | zero =>
    intro start none
    rfl
  | succ count ih =>
    intro start none
    have first := none 0 (Nat.succ_pos count)
    simp only [Int.natCast_zero, Int.zero_mul, Int.add_zero] at first
    rw [scan, if_neg (by rw [first]; exact Bool.false_ne_true)]
    apply ih
    intro k below
    have shifted : start + step + k * step = start + (k + 1 : Nat) * step := by
      push_cast
      ring
    rw [shifted]
    exact none (k + 1) (by omega)

def HOURS_36 : Int := 36 * 3600000

/-- Within 36 hours of the requested time, taken as UTC, the offset is `before` up to the
instant `at_` and `after` from there on. -/
structure OneTransition (zone : Zone) (requested : WallClockParts) (at_ before after : Int) :
    Prop where
  offset : ∀ instant, timeOf requested - HOURS_36 ≤ instant →
    instant ≤ timeOf requested + HOURS_36 →
      zone.offsetMinutes instant = if instant < at_ then before else after
  before_bound : -1440 < before ∧ before < 1440
  after_bound : -1440 < after ∧ after < 1440

def Skips (requested : WallClockParts) (at_ before after : Int) : Prop :=
  timeOf requested - after * 60000 < at_ ∧ at_ ≤ timeOf requested - before * 60000

/-- The earliest instant that shows the requested time or, if none does, the earliest that shows
a later one. -/
def Earliest (zone : Zone) (requested : WallClockParts) (instant : Int) : Prop :=
  (partsAt zone instant = requested ∧ ∀ other, partsAt zone other = requested → instant ≤ other) ∨
  ((∀ other, partsAt zone other ≠ requested) ∧
    0 ≤ compareWallClock (partsAt zone instant) requested ∧
    ∀ other, 0 ≤ compareWallClock (partsAt zone other) requested → instant ≤ other)

section

variable {zone : Zone} {requested : WallClockParts} (exists_ : InCalendar requested)
include exists_

theorem shows_local (instant : Int) : partsAt zone instant = requested ↔
      timeOf requested ≤ localTime zone instant ∧
        localTime zone instant < timeOf requested + 1000 := by
  have whole := time_whole_seconds requested
  rw [partsAt, parts_eq_iff exists_]
  omega

theorem not_before_local (instant : Int) : 0 ≤ compareWallClock (partsAt zone instant) requested ↔
      timeOf requested ≤ localTime zone instant := by
  have whole := time_whole_seconds requested
  rw [partsAt, compare_nonneg_iff exists_]
  omega

theorem zero_shows (instant : Int) :
    compareWallClock (partsAt zone instant) requested = 0 ↔ partsAt zone instant = requested := by
  rw [partsAt, compare_zero_iff exists_, parts_eq_iff exists_]

theorem mem_exact (candidate : Int) :
    candidate ∈ exactCandidates zone requested (timeOf requested) ↔
      (∃ hours ∈ SAMPLE_HOURS, candidate = timeOf requested -
        zone.offsetMinutes (timeOf requested + hours * 3600000) * 60000) ∧
      partsAt zone candidate = requested := by
  unfold exactCandidates candidatesOf offsetsAround
  rw [mem_mergeSort, mem_filter, decide_eq_true_eq, zero_shows exists_]
  apply and_congr_left
  intro shown
  simp only [mem_map, mem_eraseDups, exists_exists_and_eq_and]
  constructor
  · intro found
    obtain ⟨hours, member, same⟩ := found
    exact ⟨hours, member, same.symm⟩
  · intro found
    obtain ⟨hours, member, same⟩ := found
    exact ⟨hours, member, same.symm⟩

omit exists_ in
theorem first_exact {earliest : Int} {others}
    (found : exactCandidates zone requested (timeOf requested) = earliest :: others) :
    ∀ candidate ∈ exactCandidates zone requested (timeOf requested), earliest ≤ candidate := by
  have sorted : (exactCandidates zone requested (timeOf requested)).Pairwise
      (fun a b => decide (a ≤ b) = true) := by
    apply pairwise_mergeSort
    · intro a b c first second
      simp only [decide_eq_true_eq] at first second ⊢
      exact Int.le_trans first second
    · intro a b
      simp only [or_eq_true, decide_eq_true_eq]
      exact Int.le_total a b
  rw [found] at sorted ⊢
  intro candidate member
  rcases mem_cons.mp member with same | later
  · exact Int.le_of_eq same.symm
  · exact of_decide_eq_true ((pairwise_cons.mp sorted).1 candidate later)

variable {at_ before after : Int} (window : OneTransition zone requested at_ before after)
include window

theorem shows_iff (instant : Int) : partsAt zone instant = requested ↔
      (instant < at_ ∧ timeOf requested - before * 60000 ≤ instant ∧
        instant < timeOf requested - before * 60000 + 1000) ∨
      (at_ ≤ instant ∧ timeOf requested - after * 60000 ≤ instant ∧
        instant < timeOf requested - after * 60000 + 1000) := by
  have bound := zone.bounded instant
  have before_bound := window.before_bound
  have after_bound := window.after_bound
  rw [shows_local exists_, localTime]
  by_cases inside : timeOf requested - HOURS_36 ≤ instant ∧ instant ≤ timeOf requested + HOURS_36
  · have offset := window.offset instant inside.1 inside.2
    split at offset
    · rw [offset]
      omega
    · rw [offset]
      omega
  · unfold HOURS_36 at inside
    omega

theorem before_exact (reached : timeOf requested - before * 60000 < at_) :
    timeOf requested - before * 60000 ∈ exactCandidates zone requested (timeOf requested) := by
  have bound := window.before_bound
  rw [mem_exact exists_]
  apply And.intro
  · apply Exists.intro (-36)
    apply And.intro (by decide)
    rw [window.offset _ (by unfold HOURS_36; omega) (by unfold HOURS_36; omega),
      if_pos (by omega)]
  · rw [shows_iff exists_ window]
    omega

theorem after_exact (reached : at_ ≤ timeOf requested - after * 60000) :
    timeOf requested - after * 60000 ∈ exactCandidates zone requested (timeOf requested) := by
  have bound := window.after_bound
  rw [mem_exact exists_]
  apply And.intro
  · apply Exists.intro 36
    apply And.intro (by decide)
    rw [window.offset _ (by unfold HOURS_36; omega) (by unfold HOURS_36; omega),
      if_neg (by omega)]
  · rw [shows_iff exists_ window]
    omega

theorem exact_found (reached : ¬Skips requested at_ before after) :
    ∃ earliest others, exactCandidates zone requested (timeOf requested) = earliest :: others ∧
      Earliest zone requested earliest := by
  have one : timeOf requested - before * 60000 < at_ ∨
      at_ ≤ timeOf requested - after * 60000 := by
    unfold Skips at reached
    omega
  have some_exact : exactCandidates zone requested (timeOf requested) ≠ [] := by
    rcases one with early | late
    · exact ne_nil_of_mem (before_exact exists_ window early)
    · exact ne_nil_of_mem (after_exact exists_ window late)
  obtain ⟨earliest, others, found⟩ := exists_cons_of_ne_nil some_exact
  have least := first_exact found
  have shown : partsAt zone earliest = requested := by
    have member : earliest ∈ exactCandidates zone requested (timeOf requested) := by
      rw [found]
      exact mem_cons_self
    exact ((mem_exact exists_ earliest).mp member).2
  apply Exists.intro earliest
  apply Exists.intro others
  apply And.intro found
  apply Or.inl
  apply And.intro shown
  intro other same
  rcases (shows_iff exists_ window other).mp same with early | late
  · have candidate := least _ (before_exact exists_ window (by omega))
    omega
  · by_cases after_reached : at_ ≤ timeOf requested - after * 60000
    · have candidate := least _ (after_exact exists_ window after_reached)
      omega
    · have before_reached : timeOf requested - before * 60000 < at_ := by omega
      have candidate := least _ (before_exact exists_ window before_reached)
      omega

section

variable (skipped : Skips requested at_ before after)
include skipped

omit exists_ in
theorem not_before_iff (instant : Int) :
    timeOf requested ≤ localTime zone instant ↔ at_ ≤ instant := by
  have bound := zone.bounded instant
  have before_bound := window.before_bound
  have after_bound := window.after_bound
  unfold Skips at skipped
  unfold localTime
  by_cases inside : timeOf requested - HOURS_36 ≤ instant ∧ instant ≤ timeOf requested + HOURS_36
  · have offset := window.offset instant inside.1 inside.2
    split at offset
    · rw [offset]
      omega
    · rw [offset]
      omega
  · unfold HOURS_36 at inside
    omega

theorem earliest_gap (instant : Int) : Earliest zone requested instant ↔ instant = at_ := by
  have reached := not_before_iff window skipped
  have shows_late : ∀ other, partsAt zone other = requested → at_ ≤ other := by
    intro other same
    exact (reached other).mp ((shows_local exists_ other).mp same).1
  have end_not_before : 0 ≤ compareWallClock (partsAt zone at_) requested := by
    rw [not_before_local exists_, reached]
  constructor
  · intro earliest
    rcases earliest with shown | later
    · have late := shows_late instant shown.1
      have end_shows : partsAt zone at_ = requested := by
        have inside := (shows_iff exists_ window instant).mp shown.1
        rw [shows_iff exists_ window]
        unfold Skips at skipped
        omega
      exact Int.le_antisymm (shown.2 at_ end_shows) late
    · have late : at_ ≤ instant := by
        rw [← reached, ← not_before_local exists_]
        exact later.2.1
      exact Int.le_antisymm (later.2.2 at_ end_not_before) late
  · intro same
    rw [same]
    by_cases shown : partsAt zone at_ = requested
    · exact Or.inl (And.intro shown shows_late)
    · apply Or.inr
      apply And.intro
      · intro other other_shows
        apply shown
        have inside := (shows_iff exists_ window other).mp other_shows
        rw [shows_iff exists_ window]
        unfold Skips at skipped
        omega
      · apply And.intro end_not_before
        intro other not_before
        rw [not_before_local exists_, reached] at not_before
        exact not_before

theorem exact_empty : exactCandidates zone requested (timeOf requested) = [] := by
  apply eq_nil_iff_forall_not_mem.mpr
  intro candidate member
  obtain ⟨⟨hours, listed, same⟩, shown⟩ := (mem_exact exists_ candidate).mp member
  have inside := (shows_iff exists_ window candidate).mp shown
  have hours_bound : ∀ h ∈ SAMPLE_HOURS, -36 ≤ h ∧ h ≤ 36 := by decide
  have near := hours_bound hours listed
  rw [window.offset _ (by unfold HOURS_36; omega) (by unfold HOURS_36; omega)] at same
  unfold Skips at skipped
  split at same
  · omega
  · omega

omit exists_ skipped in
theorem candidate_cases (candidate : Int)
    (member : candidate ∈ candidatesOf zone (timeOf requested)) :
    candidate = timeOf requested - before * 60000 ∨
      candidate = timeOf requested - after * 60000 := by
  unfold candidatesOf offsetsAround at member
  obtain ⟨offset, sampled, same⟩ := mem_map.mp member
  obtain ⟨hours, listed, sample⟩ := mem_map.mp (mem_eraseDups.mp sampled)
  have hours_bound : ∀ h ∈ SAMPLE_HOURS, -36 ≤ h ∧ h ≤ 36 := by decide
  have near := hours_bound hours listed
  rw [window.offset _ (by unfold HOURS_36; omega) (by unfold HOURS_36; omega)] at sample
  split at sample
  · omega
  · omega

omit exists_ window skipped in
theorem sampled_candidate {hours : Int} (listed : hours ∈ SAMPLE_HOURS) :
    timeOf requested - zone.offsetMinutes (timeOf requested + hours * 3600000) * 60000 ∈
      candidatesOf zone (timeOf requested) := by
  unfold candidatesOf offsetsAround
  apply mem_map.mpr
  apply Exists.intro (zone.offsetMinutes (timeOf requested + hours * 3600000))
  apply And.intro _ rfl
  exact mem_eraseDups.mpr (mem_map.mpr ⟨hours, listed, rfl⟩)

omit exists_ in
theorem candidates_ends :
    (candidatesOf zone (timeOf requested)).min? = some (timeOf requested - after * 60000) ∧
      (candidatesOf zone (timeOf requested)).max? = some (timeOf requested - before * 60000) := by
  have before_bound := window.before_bound
  have after_bound := window.after_bound
  have early := @sampled_candidate zone requested (-36)
    (by decide)
  have late := @sampled_candidate zone requested 36
    (by decide)
  unfold Skips at skipped
  rw [window.offset _ (by unfold HOURS_36; omega) (by unfold HOURS_36; omega),
    if_pos (by omega)] at early
  rw [window.offset _ (by unfold HOURS_36; omega) (by unfold HOURS_36; omega),
    if_neg (by omega)] at late
  have cases_ := candidate_cases window
  constructor
  · rw [min?_eq_some_iff]
    apply And.intro late
    intro other member
    have either := cases_ other member
    omega
  · rw [max?_eq_some_iff]
    apply And.intro early
    intro other member
    have either := cases_ other member
    omega

omit exists_ skipped in
theorem after_gap_iff (exists_ : InCalendar requested) (skipped : Skips requested at_ before after)
    (instant : Int) : afterGap zone requested instant = true ↔
      localTime zone instant / 86400000 = timeOf requested / 86400000 ∧ at_ ≤ instant := by
  have date : requested.year = (civilOf (timeOf requested / 1000 / 86400)).year ∧
      requested.month = (civilOf (timeOf requested / 1000 / 86400)).month ∧
      requested.day = (civilOf (timeOf requested / 1000 / 86400)).day := by
    have parts : partsOf (timeOf requested) = requested := exists_
    have year := congrArg WallClockParts.year parts
    have month := congrArg WallClockParts.month parts
    have day := congrArg WallClockParts.day parts
    exact And.intro year.symm (And.intro month.symm day.symm)
  have days : ∀ clock : Int, clock / 1000 / 86400 = clock / 86400000 := by
    intro clock
    omega
  rw [← not_before_iff window skipped, ← not_before_local exists_]
  unfold afterGap
  simp only [and_eq_true, beq_iff_eq, decide_eq_true_eq]
  apply and_congr_left
  intro late
  rw [date.1, date.2.1, date.2.2, partsAt, partsOf]
  simp only
  rw [← days, ← days]
  constructor
  · intro same
    apply civil_injective
    apply CivilDate.ext
    · exact same.1.1
    · exact same.1.2
    · exact same.2
  · intro same
    rw [same]
    exact And.intro (And.intro rfl rfl) rfl

def EndFound (requested : WallClockParts) (at_ after : Int) : Prop :=
  at_ % stepMs requested = 0 ∧ (at_ + after * 60000) / 86400000 = timeOf requested / 86400000

end

end

section

variable {zone : Zone} {requested : WallClockParts} {at_ before after : Int}

/-- The first instant of the search's grid that is not before the end of the gap. -/
structure OnGrid (start stop step at_ : Int) (steps : Nat) : Prop where
  inside : steps < ((stop - start) / step + 1).toNat
  reached : at_ ≤ start + steps * step
  near : start + steps * step < at_ + step
  earlier : ∀ k : Nat, k < steps → start + k * step < at_
  later : ∀ k : Nat, steps ≤ k → start + steps * step ≤ start + k * step
  stops : ∀ k : Nat, k < ((stop - start) / step + 1).toNat → start + k * step ≤ stop
  aligned : start + steps * step = at_ ↔ at_ % step = 0

theorem on_grid {start stop step at_ : Int} (width : step = 60000 ∨ step = 1000)
    (start_aligned : start % step = 0) (first : start < at_) (last : at_ + 60000 ≤ stop) :
    ∃ steps, OnGrid start stop step at_ steps := by
  rcases width with minutes | seconds
  · subst minutes
    apply Exists.intro ((at_ - start + 59999) / 60000).toNat
    apply OnGrid.mk
    all_goals omega
  · subst seconds
    apply Exists.intro ((at_ - start + 999) / 1000).toNat
    apply OnGrid.mk
    all_goals omega

theorem step_width (requested : WallClockParts) :
    (stepMs requested = 60000 ∨ stepMs requested = 1000) ∧
      timeOf requested % stepMs requested = 0 ∧ 60000 % stepMs requested = 0 := by
  unfold stepMs
  split
  · rename_i whole
    have time : timeOf requested % 60000 = 0 := by
      unfold timeOf
      omega
    exact And.intro (Or.inl rfl) (And.intro time (by decide))
  · exact And.intro (Or.inr rfl) (And.intro (time_whole_seconds requested) (by decide))

theorem search_gap_iff (exists_ : InCalendar requested)
    (window : OneTransition zone requested at_ before after)
    (skipped : Skips requested at_ before after) :
    searchGap zone requested (timeOf requested) = some at_ ↔ EndFound requested at_ after := by
  have test := @after_gap_iff zone requested at_ before after window exists_ skipped
  have reached := not_before_iff window skipped
  have before_bound := window.before_bound
  have after_bound := window.after_bound
  have ends := candidates_ends window skipped
  have width := step_width requested
  have gap := skipped
  unfold Skips at gap
  have shown : ∀ instant, at_ ≤ instant → instant ≤ timeOf requested - before * 60000 + 3 * 3600000 →
      localTime zone instant = instant + after * 60000 := by
    intro instant from_end to_stop
    unfold localTime
    rw [window.offset instant (by unfold HOURS_36; omega) (by unfold HOURS_36; omega),
      if_neg (by omega)]
  have start_aligned : (timeOf requested - after * 60000 - 3 * 3600000) % stepMs requested = 0 := by
    rcases width.1 with minutes | seconds
    · rw [minutes] at width ⊢
      omega
    · rw [seconds] at width ⊢
      omega
  obtain ⟨steps, grid⟩ := @on_grid _ (timeOf requested - before * 60000 + 3 * 3600000) _ at_
    width.1 start_aligned (by omega) (by omega)
  have small : stepMs requested ≤ 60000 := by omega
  have end_shown := shown at_ (Int.le_refl at_) (by omega)
  have found_shown := shown _ grid.reached (grid.stops steps grid.inside)
  have none_earlier : ∀ k : Nat, k < steps →
      afterGap zone requested (timeOf requested - after * 60000 - 3 * 3600000 +
        k * stepMs requested) = false := by
    intro k below
    rw [eq_false_iff, ne_eq, test]
    have before_end := grid.earlier k below
    omega
  unfold searchGap EndFound
  simp only [ends.1, ends.2, Option.getD_some]
  by_cases same_day : localTime zone (timeOf requested - after * 60000 - 3 * 3600000 +
      steps * stepMs requested) / 86400000 = timeOf requested / 86400000
  · rw [scan_found steps grid.inside none_earlier ((test _).mpr (And.intro same_day grid.reached)),
      Option.some.injEq, grid.aligned]
    apply Iff.intro
    · intro aligned
      apply And.intro aligned
      rw [← grid.aligned.mpr aligned, ← found_shown]
      exact same_day
    · exact And.left
  · have none_later : ∀ k : Nat, k < ((timeOf requested - before * 60000 + 3 * 3600000 -
        (timeOf requested - after * 60000 - 3 * 3600000)) / stepMs requested + 1).toNat →
        afterGap zone requested (timeOf requested - after * 60000 - 3 * 3600000 +
          k * stepMs requested) = false := by
      intro k inside
      by_cases below : k < steps
      · exact none_earlier k below
      · rw [eq_false_iff, ne_eq, test]
        have behind := grid.later k (by omega)
        have here := shown _ (Int.le_trans grid.reached behind) (grid.stops k inside)
        have late := (reached _).mpr grid.reached
        rw [found_shown] at same_day late
        rw [here]
        omega
    rw [scan_none _ none_later]
    apply iff_of_false (by simp)
    intro both
    apply same_day
    rw [grid.aligned.mpr both.1, end_shown]
    exact both.2

end

theorem digit_nonneg {c : Char} {digit : Int} (read : digitValue c = some digit) : 0 ≤ digit := by
  unfold digitValue at read
  split at read
  · rename_i range
    cases read
    have low : 48 ≤ c.toNat := range.1
    omega
  · cases read

theorem digits_nonneg (count : Nat) :
    ∀ {value : Int} {text rest : List Char} {number : Int}, 0 ≤ value →
      readDigits count value text = some (number, rest) → 0 ≤ number := by
  induction count with
  | zero =>
    intro value text rest number start read
    cases read
    exact start
  | succ count ih =>
    intro value text rest number start read
    unfold readDigits at read
    split at read
    · cases read
    · split at read
      · cases read
      · rename_i digit found
        have own := digit_nonneg found
        exact ih (by omega) read

theorem year_nonneg {wallClock : String} {requested}
    (matched : matchWallClock wallClock = some requested) : 0 ≤ requested.year := by
  unfold matchWallClock at matched
  cases read : readDigits 4 0 wallClock.toList with
  | none =>
    rw [read] at matched
    cases matched
  | some found =>
    rw [read] at matched
    have year := @digits_nonneg 4 0 _ found.2 found.1 (Int.le_refl 0) read
    simp only [Option.bind_eq_bind, Option.bind_some, Option.bind_eq_some_iff] at matched
    obtain ⟨_, _, _, _, _, _, _, _, _, _, _, _, _, _, _, _, _, _, last⟩ := matched
    cases last
    exact year

theorem early_year_refused {requested} (exists_ : InCalendar requested)
    (early : 0 ≤ requested.year ∧ requested.year ≤ 99) :
    partsOf (dateUTC requested) ≠ requested := by
  intro same
  rw [parts_eq_iff exists_] at same
  unfold dateUTC at same
  rw [if_pos early] at same
  unfold timeOf dayNumber at same
  simp only at same
  omega

theorem wall_clock_resolved_iff {zones : String → Option Zone} {timeZone wallClock : String}
    {zone : Zone} {requested : WallClockParts} {at_ before after : Int}
    (matched : matchWallClock wallClock = some requested) (exists_ : InCalendar requested)
    (known : zones timeZone = some zone) (window : OneTransition zone requested at_ before after) :
    (∃ instant, zonedWallClockToInstant zones timeZone wallClock = some instant ∧
        Earliest zone requested instant) ↔
      100 ≤ requested.year ∧ (Skips requested at_ before after → EndFound requested at_ after) := by
  have year := year_nonneg matched
  unfold zonedWallClockToInstant
  simp only [matched, known]
  by_cases early : requested.year ≤ 99
  · rw [if_pos (early_year_refused exists_ (And.intro year early))]
    apply iff_of_false
    · intro resolved
      obtain ⟨instant, none, _⟩ := resolved
      cases none
    · intro late
      omega
  · have utc : dateUTC requested = timeOf requested := by
      unfold dateUTC
      rw [if_neg (fun both => early both.2)]
    have shown : ¬partsOf (timeOf requested) ≠ requested := not_not.mpr exists_
    rw [utc, if_neg shown]
    by_cases skipped : Skips requested at_ before after
    · rw [exact_empty exists_ window skipped]
      simp only
      constructor
      · intro resolved
        obtain ⟨instant, found, earliest⟩ := resolved
        rw [earliest_gap exists_ window skipped] at earliest
        rw [earliest, search_gap_iff exists_ window skipped] at found
        exact And.intro (by omega) (fun _ => found)
      · intro condition
        apply Exists.intro at_
        apply And.intro
        · exact (search_gap_iff exists_ window skipped).mpr (condition.2 skipped)
        · exact (earliest_gap exists_ window skipped at_).mpr rfl
    · obtain ⟨earliest, others, found, least⟩ := exact_found exists_ window skipped
      rw [found]
      simp only
      apply iff_of_true
      · exact ⟨earliest, rfl, least⟩
      · exact And.intro (by omega) (fun skips => absurd skips skipped)

def apia : Zone where
  offsetMinutes instant := if instant < 1325239200000 then -600 else 840
  bounded := by
    intro instant
    split <;> decide

theorem apia_day_lost : matchWallClock "2011-12-30T12:00" = some ⟨2011, 12, 30, 12, 0, 0⟩ ∧
      InCalendar ⟨2011, 12, 30, 12, 0, 0⟩ ∧
      OneTransition apia ⟨2011, 12, 30, 12, 0, 0⟩ 1325239200000 (-600) 840 ∧
      Earliest apia ⟨2011, 12, 30, 12, 0, 0⟩ 1325239200000 ∧
      zonedWallClockToInstant (fun _ => some apia) "Pacific/Apia" "2011-12-30T12:00" = none := by
  have exists_ : InCalendar ⟨2011, 12, 30, 12, 0, 0⟩ := by
    unfold InCalendar
    decide
  have window : OneTransition apia ⟨2011, 12, 30, 12, 0, 0⟩ 1325239200000 (-600) 840 := by
    apply OneTransition.mk
    · intro instant _ _
      rfl
    · decide
    · decide
  have skipped : Skips ⟨2011, 12, 30, 12, 0, 0⟩ 1325239200000 (-600) 840 := by
    unfold Skips
    decide
  apply And.intro (by decide)
  apply And.intro exists_
  apply And.intro window
  apply And.intro ((earliest_gap exists_ window skipped _).mpr rfl)
  decide +kernel

def berlin : Zone where
  offsetMinutes instant := if instant < 1774746000000 then 60 else 120
  bounded := by
    intro instant
    split <;> decide

theorem berlin_gap_resolved :
    (∃ instant, zonedWallClockToInstant (fun _ => some berlin) "Europe/Berlin"
        "2026-03-29T02:30" = some instant ∧ Earliest berlin ⟨2026, 3, 29, 2, 30, 0⟩ instant) ↔
      100 ≤ (2026 : Int) ∧ (Skips ⟨2026, 3, 29, 2, 30, 0⟩ 1774746000000 60 120 →
        EndFound ⟨2026, 3, 29, 2, 30, 0⟩ 1774746000000 120) :=
  wall_clock_resolved_iff (by decide) (by unfold InCalendar; decide) rfl
    ⟨fun _ _ _ => rfl, by decide, by decide⟩

/-- A date and a minute as a plan gives them, whether or not the calendar has them. -/
structure WallMinute where
  year : Nat
  month : Nat
  day : Nat
  hour : Nat
  minute : Nat
  yearDigits : year < 10000
  monthDigits : month < 100
  dayDigits : day < 100
  hourDigits : hour < 100
  minuteDigits : minute < 100

def WallMinute.parts (wall : WallMinute) : WallClockParts :=
  ⟨wall.year, wall.month, wall.day, wall.hour, wall.minute, 0⟩

def twoDigit (n : Nat) : List Char := [Nat.digitChar (n / 10 % 10), Nat.digitChar (n % 10)]

def minuteText (year : List Char) (month day hour minute : Nat) : String :=
  String.ofList (year ++ '-' :: twoDigit month ++ '-' :: twoDigit day ++ 'T' :: twoDigit hour ++
    ':' :: twoDigit minute)

/-- `YYYY-MM-DDTHH:MM`. -/
def WallMinute.text (wall : WallMinute) : String :=
  minuteText (twoDigit (wall.year / 100) ++ twoDigit wall.year) wall.month wall.day wall.hour
    wall.minute

/-- The year is printed with as many digits as it has. -/
def wallAt (zone : Zone) (ms : Int) : String :=
  let parts := partsAt zone ms
  minuteText (Nat.toDigits 10 parts.year.toNat) parts.month.toNat parts.day.toNat
    parts.hour.toNat parts.minute.toNat

def PROBES : List Int := [-7200000, -3600000, 3600000, 7200000]

def strictInstant (zones : String → Option Zone) (wall timeZone : String) : Option Int :=
  match zonedWallClockToInstant zones timeZone wall, zones timeZone with
  | some instant, some zone =>
    if wallAt zone instant ≠ wall then none
    else if PROBES.any fun delta => wallAt zone (instant + delta) = wall then none
    else some instant
  | _, _ => none

/-- The instant at which a local minute begins. -/
def Begins (zone : Zone) (wall : WallMinute) (instant : Int) : Prop :=
  partsAt zone instant = wall.parts ∧ instant % 60000 = 0

instance (zone : Zone) (wall : WallMinute) (instant : Int) : Decidable (Begins zone wall instant) :=
  inferInstanceAs (Decidable (_ ∧ _))

/-- The clock is set back over the requested time. -/
def Repeats (requested : WallClockParts) (at_ before after : Int) : Prop :=
  timeOf requested - before * 60000 < at_ ∧ at_ ≤ timeOf requested - after * 60000 ∧ after < before

theorem digit_value {n : Nat} (small : n < 10) : digitValue (Nat.digitChar n) = some (n : Int) := by
  have each : ∀ digit : Fin 10, digitValue (Nat.digitChar digit) = some ((digit : Nat) : Int) := by
    decide
  exact each ⟨n, small⟩

theorem read_two {n : Nat} (small : n < 100) (value : Int) (rest : List Char) :
    readDigits 2 value (twoDigit n ++ rest) = some (100 * value + n, rest) := by
  simp [twoDigit, readDigits, digit_value (Nat.mod_lt _ (by decide : 0 < 10))]
  omega

theorem read_four {n : Nat} (small : n < 10000) (rest : List Char) :
    readDigits 4 0 (twoDigit (n / 100) ++ (twoDigit n ++ rest)) = some ((n : Int), rest) := by
  simp [twoDigit, readDigits, digit_value (Nat.mod_lt _ (by decide : 0 < 10))]
  omega

theorem match_text (wall : WallMinute) : matchWallClock wall.text = some wall.parts := by
  have hour : ∀ rest, readHour (twoDigit wall.hour ++ rest) = some ((wall.hour : Int), rest) := by
    intro rest
    simp [readHour, read_two wall.hourDigits]
  unfold matchWallClock WallMinute.text minuteText
  rw [String.toList_ofList]
  have last := read_two wall.minuteDigits 0 []
  rw [append_nil] at last
  simp [append_assoc, read_four wall.yearDigits, skip, read_two wall.monthDigits,
    read_two wall.dayDigits, skipSeparator, hour, last, readSecond, WallMinute.parts]

theorem text_injective {first second : WallMinute} (same : first.text = second.text) :
    first.parts = second.parts := by
  have parts := match_text first
  rw [same, match_text second] at parts
  exact (Option.some.inj parts).symm

theorem toDigits_four {n : Nat} (least : 1000 ≤ n) (most : n < 10000) :
    Nat.toDigits 10 n = twoDigit (n / 100) ++ twoDigit n := by
  rw [Nat.toDigits_of_base_le (by decide) (by omega),
    Nat.toDigits_of_base_le (by decide) (by omega), Nat.toDigits_of_base_le (by decide) (by omega),
    Nat.toDigits_of_lt_base (by omega)]
  simp only [twoDigit, cons_append, nil_append]
  have thousands : n / 10 / 10 / 10 = n / 100 / 10 % 10 := by omega
  have hundreds : n / 10 / 10 % 10 = n / 100 % 10 := by omega
  rw [thousands, hundreds]

structure Printable (parts : WallClockParts) : Prop where
  month : 0 ≤ parts.month ∧ parts.month < 100
  day : 0 ≤ parts.day ∧ parts.day < 100
  hour : 0 ≤ parts.hour ∧ parts.hour < 100
  minute : 0 ≤ parts.minute ∧ parts.minute < 100

theorem parts_printable (zone : Zone) (ms : Int) : Printable (partsAt zone ms) := by
  have month := march_month_bounds (localTime zone ms / 1000 / 86400)
  have day := (in_cycle (localTime zone ms / 1000 / 86400)).day
  unfold partsAt partsOf civilOf
  constructor
  · dsimp only
    split <;> omega
  · unfold marchMonth at month ⊢
    dsimp only
    omega
  · dsimp only
    omega
  · dsimp only
    omega

theorem wall_at_iff (zone : Zone) (ms : Int) (wall : WallMinute) : wallAt zone ms = wall.text ↔
      1000 ≤ wall.year ∧ { partsAt zone ms with second := 0 } = wall.parts := by
  obtain ⟨month, day, hour, minute⟩ := parts_printable zone ms
  have four : ∀ most : (partsAt zone ms).year.toNat < 10000, 1000 ≤ (partsAt zone ms).year.toNat →
      ∃ shown : WallMinute, wallAt zone ms = shown.text ∧ 1000 ≤ shown.year ∧
        shown.parts = { partsAt zone ms with second := 0 } := by
    intro most least
    refine ⟨⟨(partsAt zone ms).year.toNat, (partsAt zone ms).month.toNat,
      (partsAt zone ms).day.toNat, (partsAt zone ms).hour.toNat, (partsAt zone ms).minute.toNat,
      most, by omega, by omega, by omega, by omega⟩, ?_, least, ?_⟩
    · simp only [wallAt, WallMinute.text, toDigits_four least most]
    · simp only [WallMinute.parts, WallClockParts.mk.injEq]
      refine ⟨?_, ?_, ?_, ?_, ?_, trivial⟩ <;> omega
  constructor
  · intro same
    have lengths := congrArg (fun text => text.toList.length) same
    simp only [wallAt, WallMinute.text, minuteText, String.toList_ofList, length_append, length_cons,
      twoDigit, length_nil] at lengths
    have digits : (Nat.toDigits 10 (partsAt zone ms).year.toNat).length = 4 := by omega
    have most := (Nat.length_toDigits_le_iff (by decide) (by decide : 0 < 4)).mp digits.le
    have least : ¬(partsAt zone ms).year.toNat < 10 ^ 3 := by
      rw [← Nat.length_toDigits_le_iff (by decide) (by decide)]
      omega
    obtain ⟨shown, text, late, parts⟩ := four most (by omega)
    have equal := text_injective (text.symm.trans same)
    rw [← parts, equal]
    refine ⟨?_, rfl⟩
    have years := congrArg WallClockParts.year equal
    simp only [WallMinute.parts] at years
    omega
  · rintro ⟨late, same⟩
    have years := congrArg WallClockParts.year same
    simp only [WallMinute.parts] at years
    have most := wall.yearDigits
    obtain ⟨shown, text, _, parts⟩ := four (by omega) (by omega)
    rw [text]
    have equal := parts.trans same
    simp only [WallMinute.parts, WallClockParts.mk.injEq, Nat.cast_inj] at equal
    simp only [WallMinute.text, equal]

theorem scan_grid {test : Int → Bool} {step : Int} (count : Nat) {start instant : Int}
    (found : scan test step count start = some instant) :
    ∃ steps : Nat, instant = start + steps * step := by
  induction count generalizing start with
  | zero => cases found
  | succ count ih =>
    unfold scan at found
    split at found
    · cases found
      exact ⟨0, by simp⟩
    · obtain ⟨steps, same⟩ := ih found
      refine ⟨steps + 1, ?_⟩
      rw [same]
      push_cast
      ring

section

variable {zone : Zone} (wall : WallMinute)

theorem minute_time : timeOf wall.parts % 60000 = 0 := by
  simp only [timeOf, WallMinute.parts]
  omega

theorem wall_at_begins {instant : Int} (aligned : instant % 60000 = 0) :
    wallAt zone instant = wall.text ↔ 1000 ≤ wall.year ∧ Begins zone wall instant := by
  have second : (partsAt zone instant).second = 0 := by
    simp only [partsAt, partsOf, localTime]
    omega
  rw [wall_at_iff, Begins]
  have same : { partsAt zone instant with second := 0 } = partsAt zone instant := by
    rw [← second]
  rw [same]
  tauto

variable {at_ before after : Int} (window : OneTransition zone wall.parts at_ before after)
include window

theorem begins_iff (exists_ : InCalendar wall.parts) (instant : Int) : Begins zone wall instant ↔
      (instant < at_ ∧ instant = timeOf wall.parts - before * 60000) ∨
      (at_ ≤ instant ∧ instant = timeOf wall.parts - after * 60000) := by
  have whole := minute_time wall
  unfold Begins
  rw [shows_iff exists_ window]
  omega

/-- One instant begins the minute, and no other. -/
def OnlyInstant (zone : Zone) (wall : WallMinute) (instant : Int) : Prop :=
  Begins zone wall instant ∧ ∀ other, Begins zone wall other → other = instant

theorem gap_aligned (skipped : Skips wall.parts at_ before after) {instant : Int}
    (found : searchGap zone wall.parts (timeOf wall.parts) = some instant) :
    instant % 60000 = 0 := by
  have whole := minute_time wall
  have ends := candidates_ends window skipped
  have width : stepMs wall.parts = 60000 := if_pos rfl
  unfold searchGap at found
  simp only [ends.1, ends.2, Option.getD_some, width] at found
  obtain ⟨steps, same⟩ := scan_grid _ found
  omega

end

section

variable {zones : String → Option Zone} {timeZone : String} {zone : Zone}
  (known : zones timeZone = some zone) {wall : WallMinute}
include known

theorem strict_known : strictInstant zones wall.text timeZone =
    (zonedWallClockToInstant zones timeZone wall.text).bind fun instant =>
      if wallAt zone instant ≠ wall.text then none
      else if PROBES.any fun delta => wallAt zone (instant + delta) = wall.text then none
      else some instant := by
  unfold strictInstant
  rw [known]
  cases zonedWallClockToInstant zones timeZone wall.text with
  | none => rfl
  | some instant => rfl

theorem strict_early (early : wall.year < 1000) :
    strictInstant zones wall.text timeZone = none := by
  rw [strict_known known]
  apply Option.bind_eq_none_iff.mpr
  intro instant _
  rw [if_pos]
  rw [ne_eq, wall_at_iff]
  omega

omit known in
theorem in_calendar {clock : Int} {parts} (same : partsOf clock = parts) : InCalendar parts := by
  have time := time_of_parts clock
  rw [same] at time
  rw [InCalendar, time, ← same]
  exact parts_same (by omega)

theorem strict_uncalendared (missing : ¬InCalendar wall.parts) :
    strictInstant zones wall.text timeZone = none := by
  have wrong : partsOf (dateUTC wall.parts) ≠ wall.parts := fun same => missing (in_calendar same)
  rw [strict_known known, zonedWallClockToInstant]
  simp only [match_text, if_pos wrong]
  rfl

theorem zoned_resolved (late : 1000 ≤ wall.year) (exists_ : InCalendar wall.parts) :
    zonedWallClockToInstant zones timeZone wall.text =
      match exactCandidates zone wall.parts (timeOf wall.parts) with
      | earliest :: _ => some earliest
      | [] => searchGap zone wall.parts (timeOf wall.parts) := by
  have utc : dateUTC wall.parts = timeOf wall.parts := by
    unfold dateUTC
    rw [if_neg]
    simp only [WallMinute.parts]
    omega
  have shown : ¬partsOf (timeOf wall.parts) ≠ wall.parts := not_not.mpr exists_
  unfold zonedWallClockToInstant
  cases candidates : exactCandidates zone wall.parts (timeOf wall.parts) with
  | nil => simp only [match_text, known, utc, if_neg shown, candidates]
  | cons earliest others => simp only [match_text, known, utc, if_neg shown, candidates]

variable {at_ before after : Int} (window : OneTransition zone wall.parts at_ before after)
  (exists_ : InCalendar wall.parts)
include window exists_

theorem strict_gap (late : 1000 ≤ wall.year) (skipped : Skips wall.parts at_ before after) :
    strictInstant zones wall.text timeZone = none := by
  rw [strict_known known, zoned_resolved known late exists_, exact_empty exists_ window skipped]
  apply Option.bind_eq_none_iff.mpr
  intro instant found
  rw [if_pos]
  rw [ne_eq, wall_at_begins wall (gap_aligned wall window skipped found),
    begins_iff wall window exists_]
  unfold Skips at skipped
  omega

theorem strict_reached (late : 1000 ≤ wall.year) (reached : ¬Skips wall.parts at_ before after) :
    ∃ earliest, Begins zone wall earliest ∧ (∀ other, Begins zone wall other → earliest ≤ other) ∧
      strictInstant zones wall.text timeZone =
        if Begins zone wall (earliest + 3600000) ∨ Begins zone wall (earliest + 7200000) then none
        else some earliest := by
  obtain ⟨earliest, others, found, least⟩ := exact_found exists_ window reached
  have member : earliest ∈ exactCandidates zone wall.parts (timeOf wall.parts) := by
    rw [found]
    exact mem_cons_self
  obtain ⟨⟨hours, _, same⟩, shown⟩ := (mem_exact exists_ earliest).mp member
  have whole := minute_time wall
  have aligned : earliest % 60000 = 0 := by omega
  have first : ∀ other, Begins zone wall other → earliest ≤ other := by
    intro other begins
    rcases least with minimal | missing
    · exact minimal.2 other begins.1
    · exact absurd begins.1 (missing.1 other)
  have printed : ∀ delta, delta % 60000 = 0 → (wallAt zone (earliest + delta) = wall.text ↔
      Begins zone wall (earliest + delta)) := by
    intro delta minutes
    rw [wall_at_begins wall (by omega)]
    simp [late]
  have own : ¬wallAt zone earliest ≠ wall.text := by
    rw [Classical.not_not, wall_at_begins wall aligned]
    exact ⟨late, shown, aligned⟩
  refine ⟨earliest, ⟨shown, aligned⟩, first, ?_⟩
  rw [strict_known known, zoned_resolved known late exists_, found]
  simp only [Option.bind_some, if_neg own]
  have probed : (PROBES.any fun delta => wallAt zone (earliest + delta) = wall.text) = true ↔
      Begins zone wall (earliest + 3600000) ∨ Begins zone wall (earliest + 7200000) := by
    simp only [PROBES, any_cons, any_nil, or_eq_true, decide_eq_true_eq,
      printed (-7200000) (by decide), printed (-3600000) (by decide), printed 3600000 (by decide),
      printed 7200000 (by decide)]
    constructor
    · rintro (before | before | hour | hours | none)
      · have later := first _ before
        omega
      · have later := first _ before
        omega
      · exact .inl hour
      · exact .inr hours
      · cases none
    · rintro (hour | hours)
      · exact .inr (.inr (.inl hour))
      · exact .inr (.inr (.inr (.inl hours)))
  by_cases twice : Begins zone wall (earliest + 3600000) ∨ Begins zone wall (earliest + 7200000)
  · rw [if_pos (probed.mpr twice), if_pos twice]
  · rw [if_neg fun hit => twice (probed.mp hit), if_neg twice]

end

/-- A fold is seen when the clock goes back by one hour or by two. Before the year 1000 every time
is refused. -/
def NotGuessed (wall : WallMinute) (at_ before after : Int) : Prop :=
  if 1000 ≤ wall.year then
    Repeats wall.parts at_ before after → before - after = 60 ∨ before - after = 120
  else Skips wall.parts at_ before after ∨ Repeats wall.parts at_ before after

section

variable {zone : Zone} {wall : WallMinute} {at_ before after : Int}
  (begins : ∀ instant, Begins zone wall instant ↔
    (instant < at_ ∧ instant = timeOf wall.parts - before * 60000) ∨
    (at_ ≤ instant ∧ instant = timeOf wall.parts - after * 60000))
include begins

theorem only_instant_iff {instant : Int} : OnlyInstant zone wall instant ↔
    Begins zone wall instant ∧ ¬Repeats wall.parts at_ before after := by
  unfold OnlyInstant Repeats
  constructor
  · rintro ⟨own, only⟩
    refine ⟨own, fun fold => ?_⟩
    have early := only _ ((begins _).mpr (.inl ⟨fold.1, rfl⟩))
    have late := only _ ((begins _).mpr (.inr ⟨fold.2.1, rfl⟩))
    omega
  · rintro ⟨own, single⟩
    refine ⟨own, fun other also => ?_⟩
    rw [begins] at own also
    omega

theorem answer_iff {earliest : Int} (own : Begins zone wall earliest)
    (first : ∀ other, Begins zone wall other → earliest ≤ other) :
    (∀ instant, (if Begins zone wall (earliest + 3600000) ∨ Begins zone wall (earliest + 7200000)
        then none else some earliest) = some instant ↔ OnlyInstant zone wall instant) ↔
      (Repeats wall.parts at_ before after → before - after = 60 ∨ before - after = 120) := by
  simp only [only_instant_iff begins]
  by_cases fold : Repeats wall.parts at_ before after
  · have early := first _ ((begins _).mpr (.inl ⟨fold.1, rfl⟩))
    have probed : (Begins zone wall (earliest + 3600000) ∨
        Begins zone wall (earliest + 7200000)) ↔ before - after = 60 ∨ before - after = 120 := by
      have before_fold := (begins earliest).mp own
      unfold Repeats at fold
      rw [begins, begins]
      omega
    simp only [fold, true_imp_iff, ← probed]
    constructor
    · intro all
      by_contra unseen
      exact ((all earliest).mp (if_neg unseen)).2 trivial
    · intro seen instant
      rw [if_pos seen]
      exact iff_of_false (by simp) fun only => only.2 trivial
  · refine iff_of_true ?_ fun given => absurd given fold
    intro instant
    have single : ∀ other, Begins zone wall other → other = earliest := by
      intro other also
      unfold Repeats at fold
      rw [begins] at own also
      omega
    rw [if_neg]
    · constructor
      · rintro ⟨⟩
        exact ⟨own, fold⟩
      · rintro ⟨also, _⟩
        rw [single instant also]
    · rintro (hour | hours)
      · have same := single _ hour
        omega
      · have same := single _ hours
        omega

theorem early_iff : (∀ instant, (none : Option Int) = some instant ↔
      OnlyInstant zone wall instant) ↔
    Skips wall.parts at_ before after ∨ Repeats wall.parts at_ before after := by
  simp only [only_instant_iff begins, reduceCtorEq, false_iff]
  constructor
  · intro none
    by_contra neither
    obtain ⟨reached, single⟩ := not_or.mp neither
    have early := none (timeOf wall.parts - before * 60000)
    have late := none (timeOf wall.parts - after * 60000)
    rw [begins] at early late
    unfold Skips at reached
    unfold Repeats at single early late
    omega
  · intro missing instant own
    rw [begins] at own
    unfold Skips Repeats at missing
    unfold Repeats at own
    omega

end

theorem strict_instant_iff {zones : String → Option Zone} {timeZone : String} {zone : Zone}
    (known : zones timeZone = some zone) {wall : WallMinute} {at_ before after : Int}
    (window : OneTransition zone wall.parts at_ before after) :
    (∀ instant, strictInstant zones wall.text timeZone = some instant ↔
        OnlyInstant zone wall instant) ↔
      (InCalendar wall.parts → NotGuessed wall at_ before after) := by
  by_cases exists_ : InCalendar wall.parts
  swap
  · rw [strict_uncalendared known exists_]
    exact iff_of_true (fun instant => iff_of_false (by simp) fun only =>
      exists_ (in_calendar only.1.1)) fun given => absurd given exists_
  have begins := begins_iff wall window exists_
  simp only [exists_, true_imp_iff, NotGuessed]
  split
  · rename_i late
    by_cases skipped : Skips wall.parts at_ before after
    · rw [strict_gap known window exists_ late skipped]
      unfold Skips at skipped
      unfold OnlyInstant Repeats
      refine iff_of_true (fun instant => iff_of_false (by simp) fun only => ?_) (by omega)
      have own := (begins instant).mp only.1
      omega
    · obtain ⟨earliest, own, first, answer⟩ := strict_reached known window exists_ late skipped
      rw [answer]
      exact answer_iff begins own first
  · rename_i early
    rw [strict_early known (by omega)]
    exact early_iff begins

def berlinGap : WallMinute where
  year := 2026
  month := 3
  day := 29
  hour := 2
  minute := 30
  yearDigits := by decide
  monthDigits := by decide
  dayDigits := by decide
  hourDigits := by decide
  minuteDigits := by decide

theorem strict_instant_berlin : OneTransition berlin berlinGap.parts 1774746000000 60 120 ∧
    ∀ instant, strictInstant (fun _ => some berlin) berlinGap.text "Europe/Berlin" = some instant ↔
      OnlyInstant berlin berlinGap instant := by
  have window : OneTransition berlin berlinGap.parts 1774746000000 60 120 :=
    ⟨fun _ _ _ => rfl, by decide, by decide⟩
  refine ⟨window, (@strict_instant_iff (fun _ => some berlin) "Europe/Berlin" berlin rfl berlinGap
    1774746000000 60 120 window).mpr ?_⟩
  intro _ _
  unfold Repeats at *
  omega

def lordHowe : Zone where
  offsetMinutes instant := if instant < 1775314800000 then 660 else 630
  bounded := by
    intro instant
    split <;> decide

def lordHoweFold : WallMinute where
  year := 2026
  month := 4
  day := 5
  hour := 1
  minute := 45
  yearDigits := by decide
  monthDigits := by decide
  dayDigits := by decide
  hourDigits := by decide
  minuteDigits := by decide

/-- The clock goes back by half an hour, and the earlier of two instants is taken. -/
theorem lord_howe_guessed : OneTransition lordHowe lordHoweFold.parts 1775314800000 660 630 ∧
    ¬∀ instant, strictInstant (fun _ => some lordHowe) lordHoweFold.text "Australia/Lord_Howe" =
      some instant ↔ OnlyInstant lordHowe lordHoweFold instant := by
  have window : OneTransition lordHowe lordHoweFold.parts 1775314800000 660 630 :=
    ⟨fun _ _ _ => rfl, by decide, by decide⟩
  have exists_ : InCalendar lordHoweFold.parts := by
    unfold InCalendar
    decide
  refine ⟨window, fun all => ?_⟩
  obtain ⟨earliest, own, first, answer⟩ := @strict_reached (fun _ => some lordHowe)
    "Australia/Lord_Howe" lordHowe rfl lordHoweFold _ _ _ window exists_ (by decide)
    (by unfold Skips; decide)
  rw [answer] at all
  have sizes := (answer_iff (begins_iff _ window exists_) own first).mp all
    (by unfold Repeats; decide)
  omega

end OpenMapX.Time.WallClockInstant
