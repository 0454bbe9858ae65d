import OpenMapX.Routing.ScheduleConstraints
import OpenMapX.Routing.ScheduleOptimality

/-!
# The order scan against the composed schedule

The scan asks, for every pair of stops, whether leaving the first at its bound
and dwelling in between already misses the deadline of the second. Forward, the
bounds of all earlier stops meet in one maximum along the chain; backward, the
deadlines of all later stops meet in one minimum. The two inductions below are
over the stops in these orders.
-/

namespace OpenMapX.Routing.OrderScan

open TimedChain TripSchedule ScheduleConstraints ScheduleOptimality List

/-- Leaving at `departure`, and after each stop's dwell, meets every deadline. -/
def ClearOf (pinnedArrivalMs : Option ℚ) : ℚ → List ResolvedStopConstraint → Prop
  | _, [] => True
  | departure, there :: later =>
    (∀ deadline ∈ deadlineAt pinnedArrivalMs there later, departure ≤ deadline) ∧
      ClearOf pinnedArrivalMs (departure + there.dwellSeconds * 1000) later

theorem scan_later_eq_nil (boundByAnchor : Bool) (here) (departure : ℚ) (pinnedArrivalMs : Option ℚ)
    (dwellBetween : ℚ) (later) :
    scanLater boundByAnchor here departure pinnedArrivalMs dwellBetween later = [] ↔
      ClearOf pinnedArrivalMs (departure + dwellBetween) later := by
  induction later generalizing dwellBetween with
  | nil => simp [scanLater, ClearOf]
  | cons there later ih =>
    rw [scanLater, append_eq_nil_iff, ih, ClearOf, add_assoc]
    apply and_congr_left'
    cases deadlineAt pinnedArrivalMs there later with
    | none => simp
    | some deadline => simp

theorem scan_from_cons_eq_nil (pinned pinnedArrivalMs : Option ℚ) (here later) :
    scanFrom pinned pinnedArrivalMs (here :: later) = [] ↔
      (∀ departure ∈ combineBounds max here.earliestDepartureMs pinned,
        ClearOf pinnedArrivalMs departure later) ∧ scanFrom none pinnedArrivalMs later = [] := by
  rw [scanFrom, append_eq_nil_iff]
  apply and_congr_left'
  cases combineBounds max here.earliestDepartureMs pinned with
  | none => simp
  | some departure => simp [scan_later_eq_nil]

theorem combine_none (combine : ℚ → ℚ → ℚ) (own : Option ℚ) :
    combineBounds combine own none = own := by
  cases own <;> rfl

theorem scan_later_kinds {boundByAnchor : Bool} {here} {departure : ℚ} {pinnedArrivalMs}
    {dwellBetween : ℚ} {later violation}
    (member : violation ∈ scanLater boundByAnchor here departure pinnedArrivalMs
      dwellBetween later) : isOrderViolation violation := by
  induction later generalizing dwellBetween with
  | nil => simp [scanLater] at member
  | cons there later ih =>
    rw [scanLater, mem_append] at member
    rcases member with reported | deeper
    · cases deadlineEq : deadlineAt pinnedArrivalMs there later with
      | none => simp [deadlineEq] at reported
      | some deadline =>
        simp only [deadlineEq, mem_ite_nil_right, mem_singleton] at reported
        rw [reported.2]
        cases boundByAnchor <;> rfl
    · exact ih deeper

theorem scan_from_kinds {pinned pinnedArrivalMs stops violation}
    (member : violation ∈ scanFrom pinned pinnedArrivalMs stops) : isOrderViolation violation := by
  induction stops generalizing pinned with
  | nil => simp [scanFrom] at member
  | cons here later ih =>
    rw [scanFrom, mem_append] at member
    rcases member with reported | deeper
    · cases departureEq : combineBounds max here.earliestDepartureMs pinned with
      | none => simp [departureEq] at reported
      | some departure =>
        simp only [departureEq] at reported
        exact scan_later_kinds reported
    · exact ih deeper

def RowsClear (rows : List TimelineRow) : Prop := ∀ row ∈ rows, row.violation = none

theorem forward_rows_clear_cons (departure seconds : ℚ) (stop rest) :
    RowsClear (forwardRows departure ((seconds, stop) :: rest)) ↔
      (∀ deadline ∈ stop.latestArrivalMs, departure + seconds * 1000 ≤ deadline) ∧
        RowsClear (forwardRows (departureAfter stop (departure + seconds * 1000)) rest) := by
  simp [RowsClear, forwardRows, lateArrival_eq_none]

theorem clear_of_mono {pinnedArrivalMs} {departure later : ℚ} {stops} (le : departure ≤ later)
    (clear : ClearOf pinnedArrivalMs later stops) : ClearOf pinnedArrivalMs departure stops := by
  induction stops generalizing departure later with
  | nil => trivial
  | cons stop stops ih =>
    exact ⟨fun deadline member => le.trans (clear.1 deadline member),
      ih (by linarith) clear.2⟩

theorem clear_of_max (pinnedArrivalMs : Option ℚ) (left right : ℚ) (stops) :
    ClearOf pinnedArrivalMs (max left right) stops ↔
      ClearOf pinnedArrivalMs left stops ∧ ClearOf pinnedArrivalMs right stops := by
  constructor
  · intro clear
    exact ⟨clear_of_mono (le_max_left left right) clear,
      clear_of_mono (le_max_right left right) clear⟩
  · rintro ⟨leftClear, rightClear⟩
    rcases max_choice left right with same | same <;> rw [same] <;> assumption

theorem deadline_unpinned (there later) : deadlineAt none there later = there.latestArrivalMs := by
  rw [deadlineAt, ite_self, combine_none]

def standingStill (stops : List ResolvedStopConstraint) : List (ℚ × ResolvedStopConstraint) :=
  stops.map fun stop => (0, stop)

/-- Without travel the forward loop stays clear exactly when the arriving
departure and the bound of every later stop are clear of all deadlines. -/
theorem forward_standing_still (departure : ℚ) (stops) :
    RowsClear (forwardRows departure (standingStill stops)) ↔
      ClearOf none departure stops ∧ scanFrom none none stops = [] := by
  induction stops generalizing departure with
  | nil => simp [standingStill, forwardRows, RowsClear, ClearOf, scanFrom]
  | cons stop stops ih =>
    have hop : standingStill (stop :: stops) = (0, stop) :: standingStill stops := rfl
    rw [hop, forward_rows_clear_cons, ih, scan_from_cons_eq_nil, combine_none, ClearOf,
      deadline_unpinned, zero_mul, add_zero, departureAfter_eq_holdUntil]
    cases window : stop.earliestDepartureMs with
    | none => simp [holdUntil, and_assoc]
    | some earliest =>
      simp only [holdUntil, Option.elim_some, clear_of_max, Option.mem_def,
        Option.some.injEq, forall_eq']
      tauto

theorem backward_rows_clear_cons (finalArrival : ℚ) (leg : Nat) (seconds : ℚ) (stop rest) :
    RowsClear (backwardRows finalArrival leg ((seconds, stop) :: rest)) ↔
      (∀ allowed ∈ stop.earliestDepartureMs,
        allowed ≤ backwardArrival finalArrival rest - seconds * 1000) ∧
        RowsClear (backwardRows finalArrival (leg + 1) rest) := by
  simp [RowsClear, backwardRows, earlyDeparture_eq_none]

theorem pinned_deadline (anchorMs : ℚ) (last) :
    deadlineAt (some anchorMs) last [] = some (lastArrival last anchorMs) := by
  cases window : last.latestArrivalMs <;>
    simp [deadlineAt, combineBounds, lastArrival, window, min_comm]

/-- Without travel a departure is clear of all later deadlines exactly when it is
no later than the backward loop's arrival at the next stop. -/
theorem clear_of_iff_backward_arrival (anchorMs : ℚ) (first others) (departure : ℚ) :
    ClearOf (some anchorMs) departure (first :: others) ↔
      departure ≤ backwardArrival (lastArrival (others.getLastD first) anchorMs)
        (standingStill (first :: others).dropLast) := by
  induction others generalizing first departure with
  | nil =>
    rw [ClearOf, pinned_deadline]
    simp [ClearOf, standingStill, backwardArrival]
  | cons next others ih =>
    have hop : standingStill (first :: next :: others).dropLast =
        (0, first) :: standingStill (next :: others).dropLast := rfl
    rw [ClearOf, ih, hop, backwardArrival, getLastD_cons, zero_mul, sub_zero,
      arrivalBefore_eq_capAt]
    simp only [deadlineAt, isEmpty_cons, Bool.false_eq_true, if_false, combine_none]
    cases window : first.latestArrivalMs with
    | none => simp [capAt, le_sub_iff_add_le]
    | some latest =>
      simp only [capAt, Option.elim_some, Option.mem_def, Option.some.injEq, forall_eq',
        le_min_iff, le_sub_iff_add_le]
      exact and_comm

theorem backward_standing_still (anchorMs : ℚ) (leg : Nat) (first others) :
    RowsClear (backwardRows (lastArrival (others.getLastD first) anchorMs) leg
        (standingStill (first :: others).dropLast)) ↔
      scanFrom none (some anchorMs) (first :: others) = [] := by
  induction others generalizing first leg with
  | nil =>
    rw [scan_from_cons_eq_nil]
    simp [standingStill, backwardRows, RowsClear, ClearOf, scanFrom]
  | cons next others ih =>
    have hop : standingStill (first :: next :: others).dropLast =
        (0, first) :: standingStill (next :: others).dropLast := rfl
    rw [hop, getLastD_cons, backward_rows_clear_cons, ih,
      scan_from_cons_eq_nil none (some anchorMs) first, combine_none]
    simp only [clear_of_iff_backward_arrival, zero_mul, sub_zero]

theorem departureAfter_mono (stop) {arrival later : ℚ}
    (le : arrival ≤ later) : departureAfter stop arrival ≤ departureAfter stop later := by
  rw [departureAfter_eq_holdUntil, departureAfter_eq_holdUntil]
  exact holdUntil_mono _ (by linarith)

theorem arrivalBefore_mono (stop) {departure later : ℚ}
    (le : departure ≤ later) : arrivalBefore stop departure ≤ arrivalBefore stop later := by
  unfold arrivalBefore
  cases stop.latestArrivalMs with
  | none => simpa using le
  | some latest => exact min_le_min_right latest (by linarith)

theorem forward_clear_without_travel {departure later : ℚ} (le : departure ≤ later)
    (legSeconds : List ℚ) (nonneg : ∀ seconds ∈ legSeconds, 0 ≤ seconds)
    (stops) (lengths : stops.length = legSeconds.length)
    (clear : RowsClear (forwardRows later (legSeconds.zip stops))) :
    RowsClear (forwardRows departure (standingStill stops)) := by
  induction stops generalizing departure later legSeconds with
  | nil => simp [standingStill, forwardRows, RowsClear]
  | cons stop stops ih =>
    cases legSeconds with
    | nil => simp at lengths
    | cons seconds rest =>
      have travel : 0 ≤ seconds := nonneg seconds (by simp)
      rw [zip_cons_cons, forward_rows_clear_cons] at clear
      have hop : standingStill (stop :: stops) = (0, stop) :: standingStill stops := rfl
      rw [hop, forward_rows_clear_cons]
      have sooner : departure + 0 * 1000 ≤ later + seconds * 1000 := by linarith
      exact ⟨fun deadline member => sooner.trans (clear.1 deadline member),
        ih (departureAfter_mono stop sooner) rest
          (fun value member => nonneg value (by simp [member]))
          (by simpa using lengths) clear.2⟩

theorem backward_arrival_without_travel (finalArrival : ℚ) (legSeconds : List ℚ)
    (nonneg : ∀ seconds ∈ legSeconds, 0 ≤ seconds) (stops)
    (lengths : stops.length = legSeconds.length) :
    backwardArrival finalArrival (legSeconds.zip stops) ≤
      backwardArrival finalArrival (standingStill stops) := by
  induction stops generalizing legSeconds with
  | nil =>
    obtain rfl : legSeconds = [] := length_eq_zero_iff.mp lengths.symm
    exact le_rfl
  | cons stop stops ih =>
    cases legSeconds with
    | nil => simp at lengths
    | cons seconds rest =>
      have travel : 0 ≤ seconds := nonneg seconds (by simp)
      have tail := ih rest (fun value member => nonneg value (by simp [member]))
        (by simpa using lengths)
      exact arrivalBefore_mono stop (sub_le_sub tail (by linarith))

theorem backward_clear_without_travel (finalArrival : ℚ) (leg : Nat) (legSeconds : List ℚ)
    (nonneg : ∀ seconds ∈ legSeconds, 0 ≤ seconds) (stops)
    (lengths : stops.length = legSeconds.length)
    (clear : RowsClear (backwardRows finalArrival leg (legSeconds.zip stops))) :
    RowsClear (backwardRows finalArrival leg (standingStill stops)) := by
  induction stops generalizing leg legSeconds with
  | nil => simp [standingStill, backwardRows, RowsClear]
  | cons stop stops ih =>
    cases legSeconds with
    | nil => simp at lengths
    | cons seconds rest =>
      have travel : 0 ≤ seconds := nonneg seconds (by simp)
      have others : ∀ value ∈ rest, 0 ≤ value := fun value member =>
        nonneg value (by simp [member])
      have shorter : stops.length = rest.length := by simpa using lengths
      rw [zip_cons_cons, backward_rows_clear_cons] at clear
      have hop : standingStill (stop :: stops) = (0, stop) :: standingStill stops := rfl
      rw [hop, backward_rows_clear_cons]
      have earlier := backward_arrival_without_travel finalArrival rest others stops shorter
      refine ⟨fun allowed member => ?_, ih (leg + 1) rest others shorter clear.2⟩
      have left := clear.1 allowed member
      linarith

def ReportsViolation (platform : ZonePlatform) (input : ComposeScheduleInput) : Prop :=
  ∃ schedule, composeSchedule platform input = .ok schedule ∧ schedule.violations ≠ []

theorem reports_violation_iff (platform : ZonePlatform) (input)
    (lengths : input.stops.length = input.legSeconds.length + 1) :
    ReportsViolation platform input ↔ ¬RowsClear (composeTimeline input) := by
  obtain ⟨first, last, _, _, composed⟩ := compose_schedule_ok platform input lengths
  have violations : (tripScheduleOf platform input first last).violations = [] ↔
      RowsClear (composeTimeline input) := timeline_violations_eq_nil _ _
  rw [← violations]
  constructor
  · rintro ⟨schedule, ok, reported⟩
    rw [composed] at ok
    obtain rfl := Except.ok.inj ok
    exact reported
  · intro reported
    exact ⟨_, composed, reported⟩

section

variable (row : TimelineRow) (rows : List TimelineRow) (clear : row.violation = none)
include clear

theorem rows_clear_cons : RowsClear (row :: rows) ↔ RowsClear rows := by
  simp [RowsClear, clear]

theorem rows_clear_snoc : RowsClear (rows ++ [row]) ↔ RowsClear rows := by
  simp only [RowsClear, mem_append, mem_singleton, or_imp, forall_and, forall_eq, clear,
    and_true]

end

variable (stops : List ResolvedStopConstraint) (first : ResolvedStopConstraint)

section

variable (others : List ResolvedStopConstraint) (legSeconds : List ℚ) (anchorMs : ℚ)

theorem forward_timeline_clear :
    RowsClear (composeTimeline ⟨first :: others, legSeconds, anchorMs, .forward⟩) ↔
      RowsClear (forwardRows (firstDeparture first anchorMs) (legSeconds.zip others)) :=
  rows_clear_cons _ _ rfl

theorem backward_timeline_clear (lengths : others.length = legSeconds.length) :
    RowsClear (composeTimeline ⟨first :: others, legSeconds, anchorMs, .backward⟩) ↔
      RowsClear (backwardRows (lastArrival (others.getLastD first) anchorMs) 0
        (legSeconds.zip (first :: others).dropLast)) := by
  have unread : legSeconds.zip (first :: others) = legSeconds.zip (first :: others).dropLast := by
    rw [dropLast_eq_take, zip_eq_zip_take_min]
    simp [lengths]
  rw [← unread]
  exact rows_clear_snoc _ _ rfl

end

theorem zip_replicate : (replicate stops.length (0 : ℚ)).zip stops = standingStill stops := by
  induction stops with
  | nil => rfl
  | cons stop stops ih => simpa [standingStill, replicate_succ] using ih

theorem first_bound (anchorMs : ℚ) : combineBounds max first.earliestDepartureMs (some anchorMs) =
      some (firstDeparture first anchorMs) := by
  rw [firstDeparture_eq_holdUntil]
  cases first.earliestDepartureMs <;> simp [combineBounds, holdUntil, max_comm]

theorem scan_order_eq_nil (nonempty : stops ≠ [])
    (anchor : ScheduleAnchor) (pinned : anchor ≠ .now) (anchorMs : ℚ) :
    scanOrder stops (departurePin anchor anchorMs) (arrivalPin anchor anchorMs) = [] ↔
      RowsClear (composeTimeline
        ⟨stops, replicate (stops.length - 1) 0, anchorMs, directionOf anchor⟩) := by
  cases stops with
  | nil => exact absurd rfl nonempty
  | cons first others =>
    rw [length_cons, Nat.add_sub_cancel]
    cases anchor with
    | now => exact absurd rfl pinned
    | departAt wallClock =>
      simp only [directionOf, departurePin, arrivalPin, scanOrder]
      rw [forward_timeline_clear, zip_replicate, forward_standing_still,
        scan_from_cons_eq_nil, first_bound]
      simp only [Option.mem_def, Option.some.injEq, forall_eq']
    | arriveBy wallClock =>
      simp only [directionOf, departurePin, arrivalPin, scanOrder]
      rw [backward_timeline_clear _ _ _ _ (by simp), ← backward_standing_still anchorMs 0]
      have shorter : (first :: others).dropLast.length = others.length := by simp
      rw [← shorter, zip_replicate]

theorem clear_without_travel (legSeconds : List ℚ) (lengths : stops.length = legSeconds.length + 1)
    (nonneg : ∀ seconds ∈ legSeconds, 0 ≤ seconds) (anchorMs : ℚ) (direction : Direction)
    (clear : RowsClear (composeTimeline ⟨stops, legSeconds, anchorMs, direction⟩)) :
    RowsClear (composeTimeline ⟨stops, replicate (stops.length - 1) 0, anchorMs, direction⟩) := by
  cases stops with
  | nil => simp at lengths
  | cons first others =>
    rw [length_cons, Nat.add_sub_cancel]
    have shorter : others.length = legSeconds.length := by simpa using lengths
    cases direction with
    | forward =>
      rw [forward_timeline_clear] at clear ⊢
      rw [zip_replicate]
      exact forward_clear_without_travel le_rfl legSeconds nonneg others shorter clear
    | backward =>
      rw [backward_timeline_clear _ _ _ _ shorter] at clear
      rw [backward_timeline_clear _ _ _ _ (by simp)]
      have dropped : (first :: others).dropLast.length = others.length := by simp
      rw [← dropped, zip_replicate]
      exact backward_clear_without_travel _ 0 legSeconds nonneg _
        (dropped.trans shorter) clear

/-- The order scan is exact for zero travel time, and what it reports no travel
time can mend. -/
theorem scan_order_exact (platform : ZonePlatform) (stops : List ResolvedStopConstraint)
    (twoStops : 2 ≤ stops.length) (anchor : ScheduleAnchor) (pinned : anchor ≠ .now) (anchorMs : ℚ)
    : ((∃ violation ∈ scanOrder stops (departurePin anchor anchorMs) (arrivalPin anchor anchorMs),
        isOrderViolation violation) ↔ ReportsViolation platform
        ⟨stops, replicate (stops.length - 1) 0, anchorMs, directionOf anchor⟩) ∧
    ((∃ violation ∈ scanOrder stops (departurePin anchor anchorMs) (arrivalPin anchor anchorMs),
        isOrderViolation violation) → ∀ legSeconds : List ℚ, stops.length = legSeconds.length + 1 →
        (∀ seconds ∈ legSeconds, 0 ≤ seconds) →
        ReportsViolation platform ⟨stops, legSeconds, anchorMs, directionOf anchor⟩) := by
  have nonempty : stops ≠ [] := by
    rintro rfl
    simp at twoStops
  have lengths : stops.length = (replicate (stops.length - 1) (0 : ℚ)).length + 1 := by
    rw [length_replicate]
    omega
  have reported : (∃ violation ∈ scanOrder stops (departurePin anchor anchorMs)
      (arrivalPin anchor anchorMs), isOrderViolation violation) ↔
      scanOrder stops (departurePin anchor anchorMs) (arrivalPin anchor anchorMs) ≠ [] := by
    constructor
    · rintro ⟨violation, member, _⟩
      exact ne_nil_of_mem member
    · intro some_violation
      obtain ⟨violation, member⟩ := exists_mem_of_ne_nil _ some_violation
      exact ⟨violation, member, scan_from_kinds member⟩
  have exactly := scan_order_eq_nil stops nonempty anchor pinned anchorMs
  rw [reported]
  constructor
  · rw [reports_violation_iff platform _ lengths]
    exact not_congr exactly
  · intro scanned legSeconds legCount nonneg
    rw [reports_violation_iff platform _ legCount]
    intro clear
    exact scanned (exactly.mpr
      (clear_without_travel stops legSeconds legCount nonneg anchorMs _ clear))

theorem scan_order_exact_capped_trip :
    ReportsViolation utcPlatform ⟨cappedTrip, [0], 10, .forward⟩ :=
  (scan_order_exact utcPlatform cappedTrip (by decide) (.departAt "") (by decide) 10).2
    (by decide +kernel) [0] rfl (by decide +kernel)

end OpenMapX.Routing.OrderScan
