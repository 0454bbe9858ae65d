import OpenMapX.Routing.TripSchedule

/-!
# The composed timeline is optimal

Among all timelines that respect travel, dwell and the anchor, the forward pass
is earliest for the departure windows and the backward pass is latest for the
arrival windows. A schedule without a violation exists exactly when some such
timeline respects the windows of the other kind as well.
-/

namespace OpenMapX.Routing.ScheduleOptimality

open TimedChain TripSchedule List
open Option (bind_eq_some_iff getD_some map_some)

structure TripTimeline where
  arrival : Nat → ℚ
  departure : Nat → ℚ

structure Travels (stops : List ResolvedStopConstraint) (legSeconds : List ℚ)
    (timeline : TripTimeline) : Prop where
  travel : ∀ leg seconds, legSeconds[leg]? = some seconds →
    timeline.arrival (leg + 1) = timeline.departure leg + seconds * 1000
  dwell : ∀ index stop, stops[index]? = some stop → 0 < index → index < legSeconds.length →
    timeline.arrival index + stop.dwellSeconds * 1000 ≤ timeline.departure index

def LeavesWithinWindows (stops : List ResolvedStopConstraint) (timeline : TripTimeline) : Prop :=
  ∀ index stop, stops[index]? = some stop → index + 1 < stops.length →
    ∀ earliest ∈ stop.earliestDepartureMs, earliest ≤ timeline.departure index

def ArrivesWithinWindows (stops : List ResolvedStopConstraint) (timeline : TripTimeline) : Prop :=
  ∀ index stop, stops[index]? = some stop → 0 < index →
    ∀ latest ∈ stop.latestArrivalMs, timeline.arrival index ≤ latest

structure ForwardTimeline (stops : List ResolvedStopConstraint) (legSeconds : List ℚ)
    (anchorMs : ℚ) (timeline : TripTimeline) : Prop
    extends Travels stops legSeconds timeline where
  leaves : LeavesWithinWindows stops timeline
  anchored : anchorMs ≤ timeline.departure 0

structure BackwardTimeline (stops : List ResolvedStopConstraint) (legSeconds : List ℚ)
    (anchorMs : ℚ) (timeline : TripTimeline) : Prop
    extends Travels stops legSeconds timeline where
  arrives : ArrivesWithinWindows stops timeline
  anchored : timeline.arrival legSeconds.length ≤ anchorMs

def departureMs (schedule : TripSchedule) (index : Nat) : Option ℚ :=
  (schedule.stops[index]?).bind fun stop => stop.departure.map (·.ms)

def arrivalMs (schedule : TripSchedule) (index : Nat) : Option ℚ :=
  (schedule.stops[index]?).bind fun stop => stop.arrival.map (·.ms)

def Shows (schedule : TripSchedule) (legs : Nat) (timeline : TripTimeline) : Prop :=
  ∀ leg < legs, departureMs schedule leg = some (timeline.departure leg) ∧
    arrivalMs schedule (leg + 1) = some (timeline.arrival (leg + 1))

theorem forward_rows_length (departure : ℚ) (hops) :
    (forwardRows departure hops).length = hops.length := by
  induction hops generalizing departure with
  | nil => rfl
  | cons hop rest ih => simp only [forwardRows, length_cons, ih]

theorem backward_rows_length (arrival : ℚ) (leg : Nat) (hops) :
    (backwardRows arrival leg hops).length = hops.length := by
  induction hops generalizing leg with
  | nil => rfl
  | cons hop rest ih => simp only [backwardRows, length_cons, ih]

theorem compose_timeline_length (input) (lengths : input.stops.length = input.legSeconds.length + 1)
    : (composeTimeline input).length = input.stops.length := by
  obtain ⟨stops, legSeconds, anchorMs, direction⟩ := input
  cases stops with
  | nil => simp at lengths
  | cons first others =>
    simp only [length_cons, Nat.add_right_cancel_iff] at lengths
    cases direction <;>
      simp [composeTimeline, forward_rows_length, backward_rows_length, lengths]

theorem stop_times_cell (input) (index : Nat) : (stopTimes input)[index]? =
      (input.stops[index]?).bind fun stop =>
        ((composeTimeline input)[index]?).map fun row => (stop, row.times) := by
  simp only [stopTimes, List.zip, getElem?_zipWith, getElem?_map]
  cases input.stops[index]? <;> cases (composeTimeline input)[index]? <;> rfl

section

variable (platform : ZonePlatform) (input : ComposeScheduleInput)
  (lengths : input.stops.length = input.legSeconds.length + 1)
include lengths

theorem compose_schedule_ok : ∃ first last, (stopTimes input).head? = some first ∧
      (stopTimes input).getLast? = some last ∧
      composeSchedule platform input = .ok (tripScheduleOf platform input first last) := by
  have rowsLength := compose_timeline_length input lengths
  have pairedLength : (stopTimes input).length = input.stops.length := by
    simp [stopTimes, rowsLength]
  have nonempty : stopTimes input ≠ [] := by
    intro empty
    rw [empty, length_nil] at pairedLength
    omega
  have headSome := head?_eq_some_head nonempty
  have lastSome := getLast?_eq_some_getLast nonempty
  exact ⟨_, _, headSome, lastSome, by rw [composeSchedule, headSome, lastSome]⟩

theorem schedule_shows_rows (first last) (index : Nat) :
    departureMs (tripScheduleOf platform input first last) index =
        ((composeTimeline input)[index]?).bind (·.times.departureMs) ∧
      arrivalMs (tripScheduleOf platform input first last) index =
        ((composeTimeline input)[index]?).bind (·.times.arrivalMs) := by
  have rowsLength := compose_timeline_length input lengths
  simp only [departureMs, arrivalMs, tripScheduleOf, getElem?_map, stop_times_cell]
  cases rowEq : (composeTimeline input)[index]? with
  | none => cases input.stops[index]? <;> simp
  | some row =>
    have bound := (List.getElem?_eq_some_iff.mp rowEq).1
    rw [getElem?_eq_getElem (show index < input.stops.length by omega)]
    simp [scheduledStop, render, Function.comp_def]

end

theorem timeline_violations_eq_nil (direction : Direction) (rows : List TimelineRow) :
    timelineViolations direction rows = [] ↔ ∀ row ∈ rows, row.violation = none := by
  cases direction <;> simp [timelineViolations]

section

variable (stops : List ResolvedStopConstraint) (legSeconds : List ℚ) (anchorMs : ℚ)

def chainDeparture : Nat → ℚ := earliestDeparture (tripChain stops legSeconds) anchorMs

def chainArrival : Nat → ℚ := latestArrival (tripChain stops legSeconds) legSeconds.length anchorMs

end

section

variable {stops : List ResolvedStopConstraint} {legSeconds : List ℚ} {anchorMs : ℚ}

section

variable (leg : Nat) (seconds : ℚ) (stop : ResolvedStopConstraint)
  (legAt : legSeconds[leg]? = some seconds)
include legAt

theorem chain_departure_step (stopAt : stops[leg + 1]? = some stop) :
    chainDeparture stops legSeconds anchorMs (leg + 1) = departureAfter stop
        (chainDeparture stops legSeconds anchorMs leg + seconds * 1000) := by
  rw [departureAfter_eq_holdUntil]
  simp [chainDeparture, earliestDeparture, tripChain, legAt, stopAt]

theorem chain_arrival_step (stopAt : stops[leg]? = some stop) :
    chainArrival stops legSeconds anchorMs leg = arrivalBefore stop
        (chainArrival stops legSeconds anchorMs (leg + 1) - seconds * 1000) := by
  have bound := (List.getElem?_eq_some_iff.mp legAt).1
  rw [arrivalBefore_eq_capAt, chainArrival, latest_arrival_step _ _ _ _ bound]
  simp [tripChain, legAt, stopAt]

end

variable (anchorMs) in
theorem forward_timeline_cell (lengths : stops.length = legSeconds.length + 1)
    (leg : Nat) (seconds : ℚ) (stop)
    (legAt : legSeconds[leg]? = some seconds) (stopAt : stops[leg + 1]? = some stop) :
    (composeTimeline ⟨stops, legSeconds, anchorMs, .forward⟩)[leg + 1]? =
      some (forwardRow (chainDeparture stops legSeconds anchorMs) legSeconds.length leg
        seconds stop) := by
  cases stops with
  | nil => simp at lengths
  | cons first others =>
    have start : firstDeparture first anchorMs =
        chainDeparture (first :: others) legSeconds anchorMs 0 := by
      rw [firstDeparture_eq_holdUntil]
      simp [chainDeparture, earliestDeparture, tripChain]
    have hopCount : (legSeconds.zip others).length = legSeconds.length := by
      simp only [length_cons, Nat.add_right_cancel_iff] at lengths
      simp [lengths]
    have rows := forward_rows_follow (chainDeparture (first :: others) legSeconds anchorMs)
      (legSeconds.zip others) 0
      (fun leg hop found => by
        obtain ⟨legFound, stopFound⟩ := getElem?_zip_eq_some.mp found
        rw [Nat.zero_add]
        exact chain_departure_step leg hop.1 hop.2 legFound (by simpa using stopFound))
      leg (seconds, stop) (getElem?_zip_eq_some.mpr ⟨legAt, by simpa using stopAt⟩)
    simp only [Nat.zero_add, hopCount] at rows
    simpa only [composeTimeline, start, getElem?_cons_succ] using rows

theorem forward_timeline_first (lengths : stops.length = legSeconds.length + 1) :
    (composeTimeline ⟨stops, legSeconds, anchorMs, .forward⟩)[0]? =
      some ⟨⟨none, some (chainDeparture stops legSeconds anchorMs 0), 0⟩, none⟩ := by
  cases stops with
  | nil => simp at lengths
  | cons first others =>
    simp [composeTimeline, firstDeparture_eq_holdUntil, chainDeparture, earliestDeparture,
      tripChain]

section

variable (first : ResolvedStopConstraint) (others : List ResolvedStopConstraint)

theorem last_stop : (first :: others)[others.length]? = some (others.getLastD first) := by
  have lastEq := getLast?_eq_getElem? (l := first :: others)
  simp only [length_cons, Nat.add_sub_cancel] at lastEq
  rw [← lastEq, getLast?_cons, getLastD_eq_getLast?]

theorem final_arrival (lengths : (first :: others).length = legSeconds.length + 1) :
    lastArrival (others.getLastD first) anchorMs =
      chainArrival (first :: others) legSeconds anchorMs legSeconds.length := by
  have others_length : others.length = legSeconds.length := by simpa using lengths
  rw [lastArrival_eq_capAt, chainArrival, latest_arrival_last]
  simp only [tripChain, ← others_length, last_stop, Option.bind_some]

end

variable (anchorMs) in
theorem backward_timeline_cell (lengths : stops.length = legSeconds.length + 1)
    (leg : Nat) (seconds : ℚ) (stop)
    (legAt : legSeconds[leg]? = some seconds) (stopAt : stops[leg]? = some stop) :
    (composeTimeline ⟨stops, legSeconds, anchorMs, .backward⟩)[leg]? =
      some (backwardRow (chainArrival stops legSeconds anchorMs) leg seconds stop) := by
  cases stops with
  | nil => simp at lengths
  | cons first others =>
    have hopCount : (legSeconds.zip (first :: others)).length = legSeconds.length := by
      simp [lengths]
    have bound := (List.getElem?_eq_some_iff.mp legAt).1
    have rows := backward_rows_follow (chainArrival (first :: others) legSeconds anchorMs)
      (legSeconds.zip (first :: others)) 0
      (fun leg hop found => by
        obtain ⟨legFound, stopFound⟩ := getElem?_zip_eq_some.mp found
        rw [Nat.zero_add]
        exact chain_arrival_step leg hop.1 hop.2 legFound stopFound)
      leg (seconds, stop) (getElem?_zip_eq_some.mpr ⟨legAt, stopAt⟩)
    simp only [Nat.zero_add, hopCount] at rows
    simp only [composeTimeline, final_arrival first others lengths]
    rw [getElem?_append_left (by rw [backward_rows_length, hopCount]; exact bound)]
    exact rows

theorem backward_timeline_last (lengths : stops.length = legSeconds.length + 1) :
    (composeTimeline ⟨stops, legSeconds, anchorMs, .backward⟩)[legSeconds.length]? =
      some ⟨⟨some (chainArrival stops legSeconds anchorMs legSeconds.length), none, 0⟩, none⟩ := by
  cases stops with
  | nil => simp at lengths
  | cons first others =>
    have rowCount : (backwardRows (lastArrival (others.getLastD first) anchorMs) 0
        (legSeconds.zip (first :: others))).length = legSeconds.length := by
      rw [backward_rows_length]
      simp [lengths]
    simp only [composeTimeline]
    rw [getElem?_append_right (by rw [rowCount]), rowCount, Nat.sub_self]
    simp only [getElem?_cons_zero, final_arrival first others lengths]

def forwardShown (stops : List ResolvedStopConstraint) (legSeconds : List ℚ) (anchorMs : ℚ) :
    TripTimeline where
  arrival
    | 0 => anchorMs
    | leg + 1 => earliestArrival (tripChain stops legSeconds) anchorMs leg
  departure := chainDeparture stops legSeconds anchorMs

variable {timeline : TripTimeline}

theorem forward_timeline_admissible (lengths : stops.length = legSeconds.length + 1)
    (forward : ForwardTimeline stops legSeconds anchorMs timeline) :
    Admissible (tripChain stops legSeconds) legSeconds.length anchorMs timeline.departure where
  start_le := forward.anchored
  release_le index bound release member := by
    obtain ⟨stop, stopAt, window⟩ := bind_eq_some_iff.mp member
    exact forward.leaves index stop stopAt (by omega) release window
  dwell_le index bound := by
    have legAt := getElem?_eq_getElem (l := legSeconds) (show index < _ by omega)
    have stopAt := getElem?_eq_getElem (l := stops) (show index + 1 < _ by omega)
    have travelled := forward.travel index _ legAt
    have dwelt := forward.dwell (index + 1) _ stopAt (by omega) bound
    rw [travelled] at dwelt
    simpa [tripChain, legAt, stopAt] using dwelt

section

variable (lengths : stops.length = legSeconds.length + 1)
include lengths

variable (anchorMs) in
theorem forward_shown_is_forward :
    ForwardTimeline stops legSeconds anchorMs (forwardShown stops legSeconds anchorMs) := by
  have admissible := earliest_is_admissible (tripChain stops legSeconds) legSeconds.length anchorMs
  refine ⟨⟨?_, ?_⟩, ?_, admissible.start_le⟩
  · intro leg seconds legAt
    simp [forwardShown, earliestArrival, chainDeparture, tripChain, legAt]
  · intro index stop stopAt positive bound
    obtain ⟨leg, rfl⟩ : ∃ leg, index = leg + 1 := ⟨index - 1, by omega⟩
    simpa [forwardShown, earliestArrival, chainDeparture, tripChain, stopAt] using
      admissible.dwell_le leg bound
  · intro index stop stopAt bound earliest window
    exact admissible.release_le index (by omega) earliest (by simpa [tripChain, stopAt] using window)

theorem forward_optimal
    (other : TripTimeline) (forward : ForwardTimeline stops legSeconds anchorMs other)
    (leg : Nat) (bound : leg < legSeconds.length) :
    (forwardShown stops legSeconds anchorMs).departure leg ≤ other.departure leg ∧
      (forwardShown stops legSeconds anchorMs).arrival (leg + 1) ≤ other.arrival (leg + 1) := by
  have least := earliest_departure_least (forward_timeline_admissible lengths forward) leg bound
  have legAt := getElem?_eq_getElem (l := legSeconds) bound
  refine ⟨least, ?_⟩
  have travelled := forward.travel leg _ legAt
  have shown := (forward_shown_is_forward anchorMs lengths).travel leg _ legAt
  rw [travelled, shown]
  exact add_le_add_left least _

theorem arrives_iff_on_time (travels : Travels stops legSeconds timeline) :
    ArrivesWithinWindows stops timeline ↔
      OnTime (tripChain stops legSeconds) legSeconds.length timeline.departure := by
  constructor
  · intro arrives leg bound deadline member
    obtain ⟨stop, stopAt, window⟩ := bind_eq_some_iff.mp member
    have legAt := getElem?_eq_getElem (l := legSeconds) bound
    have arrived := arrives (leg + 1) stop stopAt (by omega) deadline window
    rw [travels.travel leg _ legAt] at arrived
    simpa [tripChain, legAt] using arrived
  · intro onTime index stop stopAt positive latest window
    obtain ⟨leg, rfl⟩ : ∃ leg, index = leg + 1 := ⟨index - 1, by omega⟩
    have stopBound := (List.getElem?_eq_some_iff.mp stopAt).1
    have bound : leg < legSeconds.length := by omega
    have legAt := getElem?_eq_getElem (l := legSeconds) bound
    rw [travels.travel leg _ legAt]
    have arrived := onTime leg bound latest (by simpa [tripChain, stopAt] using window)
    simpa [tripChain, legAt] using arrived

theorem leaves_iff_released (travels : Travels stops legSeconds timeline) :
    LeavesWithinWindows stops timeline ↔
      Released (tripChain stops legSeconds) legSeconds.length timeline.arrival := by
  have left : ∀ leg < legSeconds.length, timeline.departure leg =
      timeline.arrival (leg + 1) - (tripChain stops legSeconds).travel leg := by
    intro leg bound
    have legAt := getElem?_eq_getElem (l := legSeconds) bound
    rw [travels.travel leg _ legAt]
    simp [tripChain, legAt]
  constructor
  · intro leaves leg bound release member
    obtain ⟨stop, stopAt, window⟩ := bind_eq_some_iff.mp member
    rw [← left leg bound]
    exact leaves leg stop stopAt (by omega) release window
  · intro released index stop stopAt bound earliest window
    rw [left index (by omega)]
    exact released index (by omega) earliest (by simpa [tripChain, stopAt] using window)

theorem forward_violation_free :
    timelineViolations .forward (composeTimeline ⟨stops, legSeconds, anchorMs, .forward⟩) = [] ↔
      ∃ other, ForwardTimeline stops legSeconds anchorMs other ∧
        ArrivesWithinWindows stops other := by
  have shown := forward_shown_is_forward anchorMs lengths
  have rowCount := compose_timeline_length ⟨stops, legSeconds, anchorMs, .forward⟩ lengths
  have free : timelineViolations .forward
      (composeTimeline ⟨stops, legSeconds, anchorMs, .forward⟩) = [] ↔
        OnTime (tripChain stops legSeconds) legSeconds.length
          (earliestDeparture (tripChain stops legSeconds) anchorMs) := by
    rw [timeline_violations_eq_nil]
    constructor
    · intro clean leg bound deadline member
      obtain ⟨stop, stopAt, window⟩ := bind_eq_some_iff.mp member
      have legAt := getElem?_eq_getElem (l := legSeconds) bound
      have row := forward_timeline_cell anchorMs lengths leg _ stop legAt stopAt
      have inTime := (lateArrival_eq_none _ _).mp (clean _ (mem_of_getElem? row)) deadline
        window
      simpa [tripChain, legAt, chainDeparture] using inTime
    · intro onTime row member
      obtain ⟨index, rowAt⟩ := mem_iff_getElem?.mp member
      cases index with
      | zero =>
        rw [forward_timeline_first lengths] at rowAt
        obtain rfl := Option.some.inj rowAt
        rfl
      | succ leg =>
        have rowBound := (List.getElem?_eq_some_iff.mp rowAt).1
        have bound : leg < legSeconds.length := by
          rw [rowCount] at rowBound
          simp only [lengths] at rowBound
          omega
        have legAt := getElem?_eq_getElem (l := legSeconds) bound
        have stopAt := getElem?_eq_getElem (l := stops) (show leg + 1 < _ by omega)
        rw [forward_timeline_cell _ lengths leg _ _ legAt stopAt] at rowAt
        obtain rfl := Option.some.inj rowAt
        refine (lateArrival_eq_none _ _).mpr fun deadline window => ?_
        have inTime := onTime leg bound deadline (by simpa [tripChain, stopAt] using window)
        simpa [tripChain, legAt, chainDeparture] using inTime
  rw [free, ← on_time_iff_earliest]
  constructor
  · intro feasible
    have onTime := (on_time_iff_earliest _ _ _).mp feasible
    exact ⟨_, shown, (arrives_iff_on_time lengths shown.toTravels).mpr onTime⟩
  · rintro ⟨other, forward, arrives⟩
    exact ⟨other.departure, forward_timeline_admissible lengths forward,
      (arrives_iff_on_time lengths forward.toTravels).mp arrives⟩

def backwardShown (stops : List ResolvedStopConstraint) (legSeconds : List ℚ) (anchorMs : ℚ) :
    TripTimeline where
  arrival := chainArrival stops legSeconds anchorMs
  departure leg := chainArrival stops legSeconds anchorMs (leg + 1) -
    (tripChain stops legSeconds).travel leg

theorem backward_timeline_punctual
    (backward : BackwardTimeline stops legSeconds anchorMs timeline) :
    Punctual (tripChain stops legSeconds) legSeconds.length anchorMs timeline.arrival where
  le_finish := backward.anchored
  le_deadline index positive _ deadline member := by
    obtain ⟨stop, stopAt, window⟩ := bind_eq_some_iff.mp member
    exact backward.arrives index stop stopAt positive deadline window
  dwell_le index positive bound := by
    have legAt := getElem?_eq_getElem (l := legSeconds) bound
    have stopAt := getElem?_eq_getElem (l := stops) (show index < _ by omega)
    have travelled := backward.travel index _ legAt
    have dwelt := backward.dwell index _ stopAt positive bound
    rw [travelled]
    simp only [tripChain, legAt, stopAt, getD_some, map_some]
    linarith

end

section

variable (lengths : stops.length = legSeconds.length + 1)
include lengths

variable (anchorMs) in
theorem backward_shown_is_backward :
    BackwardTimeline stops legSeconds anchorMs (backwardShown stops legSeconds anchorMs) := by
  have punctual := latest_is_punctual (tripChain stops legSeconds) legSeconds.length anchorMs
  refine ⟨⟨?_, ?_⟩, ?_, punctual.le_finish⟩
  · intro leg seconds legAt
    simp [backwardShown, tripChain, legAt]
  · intro index stop stopAt positive bound
    have dwelt := punctual.dwell_le index positive bound
    simp only [backwardShown, chainArrival, tripChain, stopAt, getD_some,
      map_some] at dwelt ⊢
    linarith
  · intro index stop stopAt positive latest window
    have stopBound := (List.getElem?_eq_some_iff.mp stopAt).1
    exact punctual.le_deadline index positive (by omega) latest
      (by simpa [tripChain, stopAt] using window)

theorem backward_optimal
    (other : TripTimeline) (backward : BackwardTimeline stops legSeconds anchorMs other)
    (leg : Nat) (bound : leg < legSeconds.length) :
    other.departure leg ≤ (backwardShown stops legSeconds anchorMs).departure leg ∧
      other.arrival (leg + 1) ≤ (backwardShown stops legSeconds anchorMs).arrival (leg + 1) := by
  have greatest := latest_arrival_greatest (backward_timeline_punctual lengths backward)
    (leg + 1) (by omega) bound
  have legAt := getElem?_eq_getElem (l := legSeconds) bound
  have travelled := backward.travel leg _ legAt
  have shown := (backward_shown_is_backward anchorMs lengths).travel leg _ legAt
  refine ⟨?_, greatest⟩
  have arrived : other.arrival (leg + 1) ≤
      (backwardShown stops legSeconds anchorMs).arrival (leg + 1) := greatest
  linarith

theorem backward_violation_free : timelineViolations .backward
        (composeTimeline ⟨stops, legSeconds, anchorMs, .backward⟩) = [] ↔
      ∃ other, BackwardTimeline stops legSeconds anchorMs other ∧
        LeavesWithinWindows stops other := by
  have shown := backward_shown_is_backward anchorMs lengths
  have rowCount := compose_timeline_length ⟨stops, legSeconds, anchorMs, .backward⟩ lengths
  have free : timelineViolations .backward
      (composeTimeline ⟨stops, legSeconds, anchorMs, .backward⟩) = [] ↔
        Released (tripChain stops legSeconds) legSeconds.length
          (latestArrival (tripChain stops legSeconds) legSeconds.length anchorMs) := by
    rw [timeline_violations_eq_nil]
    constructor
    · intro clean leg bound release member
      obtain ⟨stop, stopAt, window⟩ := bind_eq_some_iff.mp member
      have legAt := getElem?_eq_getElem (l := legSeconds) bound
      have row := backward_timeline_cell anchorMs lengths leg _ stop legAt stopAt
      have allowed := (earlyDeparture_eq_none _ _).mp (clean _ (mem_of_getElem? row)) release
        window
      simpa [tripChain, legAt, chainArrival] using allowed
    · intro released row member
      obtain ⟨leg, rowAt⟩ := mem_iff_getElem?.mp member
      have rowBound := (List.getElem?_eq_some_iff.mp rowAt).1
      rw [rowCount] at rowBound
      simp only [lengths] at rowBound
      rcases Nat.lt_or_eq_of_le (Nat.lt_succ_iff.mp rowBound) with bound | rfl
      · have legAt := getElem?_eq_getElem (l := legSeconds) bound
        have stopAt := getElem?_eq_getElem (l := stops) (show leg < _ by omega)
        rw [backward_timeline_cell _ lengths leg _ _ legAt stopAt] at rowAt
        obtain rfl := Option.some.inj rowAt
        refine (earlyDeparture_eq_none _ _).mpr fun allowed window => ?_
        have held := released leg bound allowed (by simpa [tripChain, stopAt] using window)
        simpa [tripChain, legAt, chainArrival] using held
      · rw [backward_timeline_last lengths] at rowAt
        obtain rfl := Option.some.inj rowAt
        rfl
  rw [free, ← released_iff_latest]
  constructor
  · intro feasible
    have released := (released_iff_latest _ _ _).mp feasible
    exact ⟨_, shown, (leaves_iff_released lengths shown.toTravels).mpr released⟩
  · rintro ⟨other, backward, leaves⟩
    exact ⟨other.arrival, backward_timeline_punctual lengths backward,
      (leaves_iff_released lengths backward.toTravels).mp leaves⟩

end

section

variable (platform : ZonePlatform) (lengths : stops.length = legSeconds.length + 1)
  (first last : ResolvedStopConstraint × StopTimes)
include lengths

theorem schedule_shows_forward :
    Shows (tripScheduleOf platform ⟨stops, legSeconds, anchorMs, .forward⟩ first last)
      legSeconds.length (forwardShown stops legSeconds anchorMs) := by
  intro leg bound
  have legAt := getElem?_eq_getElem (l := legSeconds) bound
  have stopAt := getElem?_eq_getElem (l := stops) (show leg + 1 < _ by omega)
  constructor
  · rw [(schedule_shows_rows platform _ lengths first last leg).1]
    cases leg with
    | zero => rw [forward_timeline_first lengths]; rfl
    | succ leg =>
      have legBefore := getElem?_eq_getElem (l := legSeconds) (show leg < _ by omega)
      have stopHere := getElem?_eq_getElem (l := stops) (show leg + 1 < _ by omega)
      rw [forward_timeline_cell _ lengths leg _ _ legBefore stopHere]
      simp [forwardRow, bound, forwardShown]
  · rw [(schedule_shows_rows platform _ lengths first last (leg + 1)).2,
      forward_timeline_cell _ lengths leg _ _ legAt stopAt]
    have arrived : chainDeparture stops legSeconds anchorMs leg + legSeconds[leg] * 1000 =
        (forwardShown stops legSeconds anchorMs).arrival (leg + 1) := by
      simp [forwardShown, earliestArrival, chainDeparture, tripChain, bound]
    by_cases inner : leg + 1 < legSeconds.length <;> simp [forwardRow, inner, arrived]

theorem schedule_shows_backward :
    Shows (tripScheduleOf platform ⟨stops, legSeconds, anchorMs, .backward⟩ first last)
      legSeconds.length (backwardShown stops legSeconds anchorMs) := by
  intro leg bound
  have legAt := getElem?_eq_getElem (l := legSeconds) bound
  have stopAt := getElem?_eq_getElem (l := stops) (show leg < _ by omega)
  constructor
  · rw [(schedule_shows_rows platform _ lengths first last leg).1,
      backward_timeline_cell _ lengths leg _ _ legAt stopAt]
    have left : chainArrival stops legSeconds anchorMs (leg + 1) - legSeconds[leg] * 1000 =
        (backwardShown stops legSeconds anchorMs).departure leg := by
      simp [backwardShown, tripChain, bound]
    rw [← left]
    by_cases origin : leg = 0
    · simp [backwardRow, origin]
    · simp [backwardRow, origin]
  · rw [(schedule_shows_rows platform _ lengths first last (leg + 1)).2]
    rcases Nat.lt_or_eq_of_le bound with inner | final
    · have legNext := getElem?_eq_getElem (l := legSeconds) inner
      have stopNext := getElem?_eq_getElem (l := stops) (show leg + 1 < _ by omega)
      rw [backward_timeline_cell _ lengths (leg + 1) _ _ legNext stopNext]
      simp [backwardRow, backwardShown, ← chain_arrival_step (leg + 1) _ _ legNext stopNext]
    · rw [show leg + 1 = legSeconds.length from final, backward_timeline_last lengths]
      rfl

end

end

/-- Forward, the schedule is earliest for the departure windows and free of
violations exactly when some such timeline also meets the arrival windows.
Backward, it is latest for the arrival windows, and free of violations exactly
when some such timeline also meets the departure windows. -/
theorem compose_schedule_optimal (platform : ZonePlatform) (stops : List ResolvedStopConstraint)
    (legSeconds : List ℚ) (anchorMs : ℚ) (lengths : stops.length = legSeconds.length + 1) :
    (∃ schedule timeline,
      composeSchedule platform ⟨stops, legSeconds, anchorMs, .forward⟩ = .ok schedule ∧
      Shows schedule legSeconds.length timeline ∧
      ForwardTimeline stops legSeconds anchorMs timeline ∧
      (∀ other, ForwardTimeline stops legSeconds anchorMs other →
        ∀ leg < legSeconds.length, timeline.departure leg ≤ other.departure leg ∧
          timeline.arrival (leg + 1) ≤ other.arrival (leg + 1)) ∧ (schedule.violations = [] ↔
        ∃ other, ForwardTimeline stops legSeconds anchorMs other ∧
          ArrivesWithinWindows stops other)) ∧ (∃ schedule timeline,
      composeSchedule platform ⟨stops, legSeconds, anchorMs, .backward⟩ = .ok schedule ∧
      Shows schedule legSeconds.length timeline ∧
      BackwardTimeline stops legSeconds anchorMs timeline ∧
      (∀ other, BackwardTimeline stops legSeconds anchorMs other →
        ∀ leg < legSeconds.length, other.departure leg ≤ timeline.departure leg ∧
          other.arrival (leg + 1) ≤ timeline.arrival (leg + 1)) ∧ (schedule.violations = [] ↔
        ∃ other, BackwardTimeline stops legSeconds anchorMs other ∧
          LeavesWithinWindows stops other)) := by
  constructor
  · obtain ⟨first, last, _, _, composed⟩ := compose_schedule_ok platform
      ⟨stops, legSeconds, anchorMs, .forward⟩ lengths
    exact ⟨_, _, composed, schedule_shows_forward platform lengths first last,
      forward_shown_is_forward _ lengths, forward_optimal lengths,
      forward_violation_free lengths⟩
  · obtain ⟨first, last, _, _, composed⟩ := compose_schedule_ok platform
      ⟨stops, legSeconds, anchorMs, .backward⟩ lengths
    exact ⟨_, _, composed, schedule_shows_backward platform lengths first last,
      backward_shown_is_backward _ lengths, backward_optimal lengths,
      backward_violation_free lengths⟩

def cappedTrip : List ResolvedStopConstraint :=
  [⟨0, "UTC", none, none, 0, false⟩, ⟨1, "UTC", none, some 5, 0, false⟩]

theorem capped_trip_optimal :
    ∃ schedule, composeSchedule utcPlatform ⟨cappedTrip, [0], 10, .forward⟩ = .ok schedule ∧
      (schedule.violations = [] ↔ ∃ other, ForwardTimeline cappedTrip [0] 10 other ∧
          ArrivesWithinWindows cappedTrip other) := by
  obtain ⟨schedule, _, composed, _, _, _, violations⟩ :=
    (compose_schedule_optimal utcPlatform cappedTrip [0] 10 rfl).1
  exact ⟨schedule, composed, violations⟩

/-- The arrival window is what the backward pass is latest for. A timeline that
only keeps the departure windows and the anchor ten lands later than the
schedule does. -/
theorem backward_pass_keeps_arrival_windows :
    ∃ other schedule, Travels cappedTrip [0] other ∧ LeavesWithinWindows cappedTrip other ∧
      other.arrival 1 ≤ 10 ∧
      composeSchedule utcPlatform ⟨cappedTrip, [0], 10, .backward⟩ = .ok schedule ∧
      arrivalMs schedule 1 = some 5 ∧ 5 < other.arrival 1 := by
  refine ⟨⟨fun _ => 10, fun _ => 10⟩, _, ⟨?_, ?_⟩, ?_, le_rfl, rfl, ?_, by norm_num⟩
  · intro leg seconds legAt
    cases leg with
    | zero =>
      obtain rfl : (0 : ℚ) = seconds := by simpa using legAt
      norm_num
    | succ leg => simp at legAt
  · intro index stop _ positive bound
    simp only [length_cons, length_nil] at bound
    omega
  · intro index stop stopAt bound earliest window
    simp only [cappedTrip, length_cons, length_nil] at bound
    obtain rfl : index = 0 := by omega
    obtain rfl : (⟨0, "UTC", none, none, 0, false⟩ : ResolvedStopConstraint) = stop := by
      simpa [cappedTrip] using stopAt
    simp at window
  · simp only [arrivalMs, tripScheduleOf, stopTimes, composeTimeline, cappedTrip,
      getLastD_cons]
    rfl

/-- Composed backwards from its arrival, a trip without a violation stays without one, arrives
when it did and leaves no stop earlier. -/
theorem forward_then_backward (platform : ZonePlatform) (stops : List ResolvedStopConstraint)
    (legSeconds : List ℚ) (anchorMs : ℚ) (lengths : stops.length = legSeconds.length + 1)
    {last} (count : legSeconds.length = last + 1) {there}
    (composed : composeSchedule platform ⟨stops, legSeconds, anchorMs, .forward⟩ = .ok there)
    (clear : there.violations = []) :
    ∃ arrival back, arrivalMs there (last + 1) = some arrival ∧
      composeSchedule platform ⟨stops, legSeconds, arrival, .backward⟩ = .ok back ∧
      back.violations = [] ∧ arrivalMs back (last + 1) = some arrival ∧
      ∀ leg ≤ last, ∃ left ∈ departureMs there leg, ∃ later ∈ departureMs back leg,
        left ≤ later := by
  let shown := forwardShown stops legSeconds anchorMs
  let arrival := shown.arrival (last + 1)
  obtain ⟨first, final, -, -, forward⟩ := compose_schedule_ok platform
    ⟨stops, legSeconds, anchorMs, .forward⟩ lengths
  obtain ⟨origin, goal, -, -, backward⟩ := compose_schedule_ok platform
    ⟨stops, legSeconds, arrival, .backward⟩ lengths
  obtain rfl := Except.ok.inj (composed.symm.trans forward)
  have shows_there := @schedule_shows_forward _ _ anchorMs platform lengths first final
  have shows_back := @schedule_shows_backward _ _ arrival platform lengths origin goal
  have leaves := forward_shown_is_forward anchorMs lengths
  obtain ⟨other, earlier, arrives⟩ := (forward_violation_free lengths).mp clear
  -- The forward timeline is one of those among which the backward one is latest.
  have back : BackwardTimeline stops legSeconds arrival shown := by
    refine ⟨leaves.toTravels, fun index stop stopAt positive latest window => ?_, by rw [count]⟩
    obtain ⟨leg, rfl⟩ := Nat.exists_eq_succ_of_ne_zero positive.ne'
    have inside := (List.getElem?_eq_some_iff.mp stopAt).1
    exact (forward_optimal lengths other earlier leg (by omega)).2.trans
      (arrives _ stop stopAt positive latest window)
  have latest := backward_optimal lengths shown back
  have anchored := (backward_shown_is_backward arrival lengths).anchored
  rw [count] at anchored
  refine ⟨arrival, _, (shows_there last (by omega)).2, backward,
    (backward_violation_free lengths).mpr ⟨shown, back, leaves.leaves⟩, ?_, fun leg bound => ?_⟩
  · rw [(shows_back last (by omega)).2, le_antisymm anchored (latest last (by omega)).2]
  · exact ⟨_, (shows_there leg (by omega)).1, _, (shows_back leg (by omega)).1,
      (latest leg (by omega)).1⟩

theorem capped_trip_there_and_back : ∃ arrival back,
    composeSchedule utcPlatform ⟨cappedTrip, [0], arrival, .backward⟩ = .ok back ∧
      back.violations = [] := by
  obtain ⟨arrival, back, -, composed, clear, -⟩ := forward_then_backward utcPlatform cappedTrip [0] 0
    rfl rfl rfl (by decide +kernel)
  exact ⟨arrival, back, composed, clear⟩

end OpenMapX.Routing.ScheduleOptimality
