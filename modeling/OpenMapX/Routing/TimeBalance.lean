import OpenMapX.Routing.TripTruncation

/-!
# Where the time of a trip goes

Between departure and arrival every second is travelled, dwelt or waited. The
totals count the dwell of every kept stop, so they balance exactly when the trip
does not break off at a stop with a dwell.
-/

namespace OpenMapX.Routing.TimeBalance

open TripSchedule ScheduleConstraints ScheduledTrip ScheduleOptimality TripTruncation List Option
  Prod

variable {Payload : Type}

def WholeInstant (ms : ℚ) : Prop := ∃ seconds : ℤ, ms = seconds * 1000

def WholeSeconds (seconds : ℚ) : Prop := ∃ whole : ℤ, seconds = whole

structure WholeWindows (stop : ResolvedStopConstraint) : Prop where
  earliest : ∀ ms ∈ stop.earliestDepartureMs, WholeInstant ms
  latest : ∀ ms ∈ stop.latestArrivalMs, WholeInstant ms
  dwell : WholeSeconds stop.dwellSeconds

section

section

variable {ms seconds : ℚ} (instant : WholeInstant ms) (whole : WholeSeconds seconds)
include instant whole

theorem whole_later : WholeInstant (ms + seconds * 1000) := by
  obtain ⟨start, rfl⟩ := instant
  obtain ⟨length, rfl⟩ := whole
  exact ⟨start + length, by push_cast; ring⟩

theorem whole_earlier : WholeInstant (ms - seconds * 1000) := by
  obtain ⟨start, rfl⟩ := instant
  obtain ⟨length, rfl⟩ := whole
  exact ⟨start - length, by push_cast; ring⟩

end

theorem departure_after_whole {stop} (windows : WholeWindows stop) {arrival : ℚ}
    (instant : WholeInstant arrival) : WholeInstant (departureAfter stop arrival) := by
  have ready := whole_later instant windows.dwell
  unfold departureAfter
  cases window : stop.earliestDepartureMs with
  | none => exact ready
  | some earliest =>
    rcases max_choice (arrival + stop.dwellSeconds * 1000) earliest with left | right
    · simpa only [left] using ready
    · simpa only [right] using windows.earliest earliest window

theorem arrival_before_whole {stop} (windows : WholeWindows stop) {departure : ℚ}
    (instant : WholeInstant departure) : WholeInstant (arrivalBefore stop departure) := by
  have latest := whole_earlier instant windows.dwell
  unfold arrivalBefore
  cases window : stop.latestArrivalMs with
  | none => exact latest
  | some deadline =>
    rcases min_choice (departure - stop.dwellSeconds * 1000) deadline with left | right
    · simpa only [left] using latest
    · simpa only [right] using windows.latest deadline window

variable (stop : ResolvedStopConstraint)

theorem departure_after_ready (arrival : ℚ) :
    arrival + stop.dwellSeconds * 1000 ≤ departureAfter stop arrival := by
  unfold departureAfter
  cases stop.earliestDepartureMs with
  | none => exact le_rfl
  | some earliest => exact le_max_left _ _

theorem arrival_before_ready (departure : ℚ) :
    arrivalBefore stop departure ≤ departure - stop.dwellSeconds * 1000 := by
  unfold arrivalBefore
  cases stop.latestArrivalMs with
  | none => exact le_rfl
  | some latest => exact min_le_left _ _

theorem wait_at_exact {stop} (windows : WholeWindows stop)
    {arrival departure : ℚ} (arrived : WholeInstant arrival) (left : WholeInstant departure) :
    departure = arrival + stop.dwellSeconds * 1000 + (waitAt stop arrival departure : ℚ) * 1000 := by
  obtain ⟨arrivalSecond, rfl⟩ := arrived
  obtain ⟨departureSecond, rfl⟩ := left
  obtain ⟨dwell, whole⟩ := windows.dwell
  have exact_ : ((departureSecond : ℚ) * 1000 - arrivalSecond * 1000 -
      stop.dwellSeconds * 1000) / 1000 = ((departureSecond - arrivalSecond - dwell : ℤ) : ℚ) := by
    rw [whole]
    push_cast
    ring
  rw [waitAt, exact_, mathRound_intCast, whole]
  push_cast
  ring

theorem wait_at_nonneg {arrival departure : ℚ}
    (ready : arrival + stop.dwellSeconds * 1000 ≤ departure) :
    0 ≤ waitAt stop arrival departure := by
  apply mathRound_nonneg
  apply div_nonneg
  · linarith
  · norm_num

end

def totalWait (rows : List TimelineRow) : ℤ := (rows.map (·.times.waitSeconds)).sum

def totalDwell (stops : List ResolvedStopConstraint) : ℚ := (stops.map (·.dwellSeconds)).sum

theorem forward_rows_wait_nonneg (departure : ℚ) (hops) :
    ∀ row ∈ forwardRows departure hops, 0 ≤ row.times.waitSeconds := by
  induction hops generalizing departure with
  | nil => simp [forwardRows]
  | cons hop rest ih =>
    obtain ⟨seconds, stop⟩ := hop
    intro row member
    rw [forwardRows] at member
    rcases mem_cons.mp member with rfl | later
    · by_cases final : rest.isEmpty
      · simp [final]
      · simp only [final]
        exact wait_at_nonneg stop (departure_after_ready stop _)
    · exact ih _ row later

theorem backward_rows_wait_nonneg (arrival : ℚ) (leg : Nat) (hops) :
    ∀ row ∈ backwardRows arrival leg hops, 0 ≤ row.times.waitSeconds := by
  induction hops generalizing leg with
  | nil => simp [backwardRows]
  | cons hop rest ih =>
    obtain ⟨seconds, stop⟩ := hop
    intro row member
    rw [backwardRows] at member
    rcases mem_cons.mp member with rfl | later
    · by_cases origin : leg = 0
      · simp [origin]
      · simp only [if_neg origin]
        apply wait_at_nonneg
        have ready := arrival_before_ready stop (backwardArrival arrival rest - seconds * 1000)
        linarith
    · exact ih _ row later

/-- Induction along the forward loop: the last arrival is the departure plus all
travel, plus dwell and wait of every stop but the last. -/
theorem forward_rows_balance (departure : ℚ) (hops) (start : WholeInstant departure)
    (whole : ∀ hop ∈ hops, WholeSeconds hop.1 ∧ WholeWindows hop.2) (row : TimelineRow)
    (final : (forwardRows departure hops).getLast? = some row) :
    row.times.arrivalMs = some (departure + 1000 * ((hops.map (·.1)).sum +
      totalDwell (hops.dropLast.map (·.2)) + totalWait (forwardRows departure hops))) := by
  induction hops generalizing departure with
  | nil => simp [forwardRows] at final
  | cons hop rest ih =>
    obtain ⟨seconds, stop⟩ := hop
    obtain ⟨wholeLeg, windows⟩ := whole _ mem_cons_self
    have arrived := whole_later start wholeLeg
    cases rest with
    | nil =>
      obtain rfl := Option.some.inj final
      simp [forwardRows, totalWait, totalDwell]
      ring
    | cons next rest =>
      have left := departure_after_whole windows arrived
      have exact_ := wait_at_exact windows arrived left
      rw [forwardRows] at final ⊢
      have tailLast : (forwardRows (departureAfter stop (departure + seconds * 1000))
          (next :: rest)).getLast? = some row := by
        rw [← final]
        exact (getLast?_cons_cons).symm
      rw [ih _ left (fun hop member => whole hop (mem_cons_of_mem _ member)) tailLast]
      simp only [totalWait, totalDwell, map_cons, sum_cons, dropLast_cons_cons,
        isEmpty_cons, Bool.false_eq_true, if_false, Option.some.injEq]
      push_cast
      linarith [exact_]

theorem backward_rows_balance (finalArrival : ℚ) (leg : Nat) (hops) (inner : leg ≠ 0)
    (final : WholeInstant finalArrival)
    (whole : ∀ hop ∈ hops, WholeSeconds hop.1 ∧ WholeWindows hop.2) :
    WholeInstant (backwardArrival finalArrival hops) ∧
      finalArrival = backwardArrival finalArrival hops + 1000 * ((hops.map (·.1)).sum +
        totalDwell (hops.map (·.2)) + totalWait (backwardRows finalArrival leg hops)) := by
  induction hops generalizing leg with
  | nil => exact ⟨final, by simp [backwardArrival, backwardRows, totalDwell, totalWait]⟩
  | cons hop rest ih =>
    obtain ⟨seconds, stop⟩ := hop
    obtain ⟨wholeLeg, windows⟩ := whole _ mem_cons_self
    obtain ⟨reached, balance⟩ := ih (leg + 1) (Nat.succ_ne_zero leg)
      (fun hop member => whole hop (mem_cons_of_mem _ member))
    have left := whole_earlier reached wholeLeg
    have arrived := arrival_before_whole windows left
    have exact_ := wait_at_exact windows arrived left
    have dwells : totalDwell (((seconds, stop) :: rest).map (·.2)) =
        stop.dwellSeconds + totalDwell (rest.map (·.2)) := by
      simp [totalDwell]
    have waits : totalWait (backwardRows finalArrival leg ((seconds, stop) :: rest)) =
        waitAt stop
            (arrivalBefore stop (backwardArrival finalArrival rest - seconds * 1000))
            (backwardArrival finalArrival rest - seconds * 1000) +
          totalWait (backwardRows finalArrival (leg + 1) rest) := by
      simp [totalWait, backwardRows, inner]
    refine ⟨arrived, ?_⟩
    rw [dwells, waits, Int.cast_add]
    simp only [backwardArrival, map_cons, sum_cons]
    linarith [exact_, balance]

def innerStops (stops : List ResolvedStopConstraint) : List ResolvedStopConstraint :=
  stops.tail.dropLast

structure WholeInput (input : ComposeScheduleInput) : Prop where
  lengths : input.stops.length = input.legSeconds.length + 1
  anchor : WholeInstant input.anchorMs
  legs : ∀ seconds ∈ input.legSeconds, WholeSeconds seconds
  windows : ∀ stop ∈ input.stops, WholeWindows stop

theorem first_departure_whole {first} (windows : WholeWindows first) {anchorMs : ℚ}
    (anchor : WholeInstant anchorMs) : WholeInstant (firstDeparture first anchorMs) := by
  apply departure_after_whole _ anchor
  exact ⟨windows.earliest, windows.latest, ⟨0, by simp⟩⟩

theorem last_arrival_whole {last} (windows : WholeWindows last) {anchorMs : ℚ}
    (anchor : WholeInstant anchorMs) : WholeInstant (lastArrival last anchorMs) := by
  unfold lastArrival
  cases window : last.latestArrivalMs with
  | none => exact anchor
  | some latest =>
    rcases min_choice anchorMs latest with left | right
    · simpa only [left] using anchor
    · simpa only [right] using windows.latest latest window

theorem zipped_whole {legSeconds : List ℚ} {stops : List ResolvedStopConstraint}
    (legs : ∀ seconds ∈ legSeconds, WholeSeconds seconds)
    (windows : ∀ stop ∈ stops, WholeWindows stop) :
    ∀ hop ∈ legSeconds.zip stops, WholeSeconds hop.1 ∧ WholeWindows hop.2 := by
  rintro ⟨seconds, stop⟩ member
  obtain ⟨leg, there⟩ := of_mem_zip member
  exact ⟨legs seconds leg, windows stop there⟩

theorem zipped_stops_left (legSeconds : List ℚ) (stops : List ResolvedStopConstraint)
    (lengths : stops.length = legSeconds.length + 1) :
    (legSeconds.zip stops).map (·.2) = stops.dropLast := by
  induction legSeconds generalizing stops with
  | nil =>
    obtain ⟨stop, rfl⟩ := length_eq_one_iff.mp lengths
    rfl
  | cons seconds rest ih =>
    match stops with
    | [] => simp at lengths
    | [stop] => simp at lengths
    | stop :: next :: others =>
      rw [zip_cons_cons, map_cons, dropLast_cons_cons,
        ih (next :: others) (by simpa using lengths)]

variable (stops : List ResolvedStopConstraint) (oracle : LegOracle Payload)

theorem forward_schedule_balance (legSeconds : List ℚ) (anchorMs : ℚ)
    (whole : WholeInput ⟨stops, legSeconds, anchorMs, .forward⟩) (firstRow lastRow : TimelineRow)
    (head : (composeTimeline ⟨stops, legSeconds, anchorMs, .forward⟩).head? = some firstRow)
    (final : (composeTimeline ⟨stops, legSeconds, anchorMs, .forward⟩).getLast? = some lastRow) :
    tripArrivalMs firstRow.times lastRow.times anchorMs =
      tripDepartureMs firstRow.times anchorMs + 1000 * (legSeconds.sum +
        totalDwell (innerStops stops) +
          totalWait (composeTimeline ⟨stops, legSeconds, anchorMs, .forward⟩)) := by
  obtain ⟨lengths, anchor, legs, windows⟩ := whole
  cases stops with
  | nil => simp at lengths
  | cons first others =>
    simp only [length_cons, Nat.add_right_cancel_iff] at lengths
    simp only [composeTimeline, head?_cons, Option.some.injEq] at head
    cases hops : legSeconds.zip others with
    | nil =>
      have noLeg : legSeconds = [] := by
        have count := congrArg List.length hops
        simp only [length_zip, lengths, min_self, length_nil] at count
        exact length_eq_zero_iff.mp count
      have noStop : others = [] := by
        rw [noLeg] at lengths
        exact length_eq_zero_iff.mp lengths
      subst noLeg noStop
      simp only [composeTimeline, zip_nil_right, forwardRows, getLast?_singleton,
        Option.some.injEq] at final
      obtain rfl := head
      obtain rfl := final
      simp [tripArrivalMs, tripDepartureMs, innerStops, totalDwell, totalWait, composeTimeline,
        forwardRows]
    | cons hop rest =>
      have start := first_departure_whole (windows first mem_cons_self) anchor
      have rowsLast : (forwardRows (firstDeparture first anchorMs)
          (legSeconds.zip others)).getLast? = some lastRow := by
        obtain ⟨seconds, stop⟩ := hop
        rw [← final]
        simp only [composeTimeline, hops, forwardRows, getLast?_cons_cons]
      have balance := forward_rows_balance _ _ start
        (zipped_whole legs fun stop member => windows stop (mem_cons_of_mem _ member))
        lastRow rowsLast
      rw [map_fst_zip (by rw [lengths]), map_dropLast,
        map_snd_zip (by rw [lengths])] at balance
      obtain rfl := head
      simp only [tripArrivalMs, tripDepartureMs, balance, composeTimeline, innerStops,
        tail_cons, totalWait, map_cons, sum_cons, zero_add, some_or,
        getD_some]

theorem backward_schedule_balance (legSeconds : List ℚ) (anchorMs : ℚ)
    (whole : WholeInput ⟨stops, legSeconds, anchorMs, .backward⟩) (firstRow lastRow : TimelineRow)
    (head : (composeTimeline ⟨stops, legSeconds, anchorMs, .backward⟩).head? = some firstRow)
    (final : (composeTimeline ⟨stops, legSeconds, anchorMs, .backward⟩).getLast? = some lastRow) :
    tripArrivalMs firstRow.times lastRow.times anchorMs =
      tripDepartureMs firstRow.times anchorMs + 1000 * (legSeconds.sum +
        totalDwell (innerStops stops) +
          totalWait (composeTimeline ⟨stops, legSeconds, anchorMs, .backward⟩)) := by
  obtain ⟨lengths, anchor, legs, windows⟩ := whole
  cases stops with
  | nil => simp at lengths
  | cons first others =>
    simp only [composeTimeline, getLast?_append, getLast?_singleton, some_or,
      Option.some.injEq] at final
    obtain rfl := final
    cases legSeconds with
    | nil =>
      obtain rfl : others = [] := by simpa using lengths
      simp only [composeTimeline, zip_nil_left, backwardRows, nil_append,
        head?_cons, Option.some.injEq] at head
      obtain rfl := head
      simp [tripArrivalMs, tripDepartureMs, innerStops, totalDwell, totalWait, composeTimeline,
        backwardRows]
    | cons seconds laterSeconds =>
      have lastMember : others.getLastD first ∈ first :: others := by
        rw [getLastD_eq_getLast?]
        cases ending : others.getLast? with
        | none => simp
        | some last => simp [mem_of_getLast? ending]
      have reached := last_arrival_whole (windows _ lastMember) anchor
      obtain ⟨_, balance⟩ := backward_rows_balance _ 1 (laterSeconds.zip others)
        Nat.one_ne_zero reached
        (zipped_whole (fun leg member => legs leg (mem_cons_of_mem _ member))
          fun stop member => windows stop (mem_cons_of_mem _ member))
      simp only [composeTimeline, zip_cons_cons, backwardRows, cons_append,
        head?_cons, Option.some.injEq] at head
      obtain rfl := head
      simp only [length_cons, Nat.add_right_cancel_iff] at lengths
      rw [map_fst_zip (by omega), zipped_stops_left laterSeconds others lengths] at balance
      simp only [tripArrivalMs, tripDepartureMs, composeTimeline, innerStops, tail_cons,
        totalWait, zip_cons_cons, backwardRows, cons_append, map_cons,
        map_append, sum_append, sum_cons, map_nil, sum_nil, add_zero,
        if_true, zero_add, some_or, getD_some] at balance ⊢
      linarith [balance]

section

variable (platform : ZonePlatform) (input : ComposeScheduleInput)

theorem schedule_balance (whole : WholeInput input) (here there)
    (headRow : (stopTimes input).head? = some here)
    (lastRow : (stopTimes input).getLast? = some there) :
    (tripScheduleOf platform input here there).arrival.ms =
      (tripScheduleOf platform input here there).departure.ms + 1000 * (input.legSeconds.sum +
        totalDwell (innerStops input.stops) + totalWait (composeTimeline input)) := by
  have rowsLength := compose_timeline_length input whole.lengths
  have pairs : (stopTimes input).map (·.2) = (composeTimeline input).map (·.times) := by
    rw [stopTimes, map_snd_zip (by rw [length_map, rowsLength])]
  have headTimes : (composeTimeline input).head?.map (·.times) = some here.2 := by
    rw [← head?_map, ← pairs, head?_map, headRow]
    rfl
  have lastTimes : (composeTimeline input).getLast?.map (·.times) = some there.2 := by
    rw [← getLast?_map, ← pairs, getLast?_map, lastRow]
    rfl
  obtain ⟨firstRow, head, firstTimes⟩ := map_eq_some_iff.mp headTimes
  obtain ⟨finalRow, final, finalTimes⟩ := map_eq_some_iff.mp lastTimes
  simp only [tripScheduleOf, render, ← firstTimes, ← finalTimes]
  obtain ⟨stops, legSeconds, anchorMs, direction⟩ := input
  cases direction with
  | forward => exact forward_schedule_balance stops legSeconds anchorMs whole _ _ head final
  | backward => exact backward_schedule_balance stops legSeconds anchorMs whole _ _ head final

theorem schedule_waits_nonneg (here there) :
    ∀ stop ∈ (tripScheduleOf platform input here there).stops, 0 ≤ stop.waitSeconds := by
  have rows : ∀ row ∈ composeTimeline input, 0 ≤ row.times.waitSeconds := by
    obtain ⟨stops, legSeconds, anchorMs, direction⟩ := input
    unfold composeTimeline
    cases stops with
    | nil => simp
    | cons first others =>
      cases direction with
      | forward =>
        intro row member
        rcases mem_cons.mp member with rfl | later
        · exact le_rfl
        · exact forward_rows_wait_nonneg _ _ row later
      | backward =>
        intro row member
        rcases mem_append.mp member with earlier | final
        · exact backward_rows_wait_nonneg _ _ _ row earlier
        · obtain rfl := mem_singleton.mp final
          exact le_rfl
  intro stop member
  obtain ⟨pair, paired, rfl⟩ := mem_map.mp member
  obtain ⟨_, timesMember⟩ := of_mem_zip (show (pair.1, pair.2) ∈ _ from paired)
  obtain ⟨row, rowMember, same⟩ := mem_map.mp timesMember
  simp only [scheduledStop, ← same]
  exact rows row rowMember

end

theorem total_dwell_ends (first last between) : totalDwell (first :: between ++ [last]) =
      first.dwellSeconds + totalDwell (innerStops (first :: between ++ [last])) +
        last.dwellSeconds := by
  simp only [totalDwell, innerStops, cons_append, tail_cons, dropLast_concat,
    map_cons, map_append, map_nil, sum_cons, sum_append, sum_nil,
    add_zero]
  ring

theorem dwell_inside_iff (first last) (head : stops.head? = some first)
    (final : stops.getLast? = some last) (settled : first.dwellSeconds = 0 ∨ last.dwellSeconds = 0)
    : totalDwell stops = totalDwell (innerStops stops) ↔
      first.dwellSeconds = 0 ∧ last.dwellSeconds = 0 := by
  obtain ⟨others, rfl⟩ := head?_eq_some_iff.mp head
  rcases eq_nil_or_concat others with rfl | ⟨between, final_, rfl⟩
  · obtain rfl : first = last := by simpa using final
    have dwell : totalDwell [first] = first.dwellSeconds := by simp [totalDwell]
    have inner : totalDwell (innerStops [first]) = 0 := by simp [totalDwell, innerStops]
    rw [dwell, inner]
    exact ⟨fun zero => ⟨zero, zero⟩, fun zero => zero.1⟩
  · rw [concat_eq_append, ← cons_append, getLast?_concat] at final
    obtain rfl := Option.some.inj final
    have ends := total_dwell_ends first final_ between
    rw [cons_append] at ends
    rw [concat_eq_append, ends]
    constructor
    · intro balanced
      rcases settled with zero | zero
      · exact ⟨zero, by linarith⟩
      · exact ⟨by linarith, zero⟩
    · rintro ⟨origin, destination⟩
      rw [origin, destination]
      ring

def breaksOffAt (direction : Direction) (leg : Nat) : Nat :=
  match direction with
  | .forward => leg
  | .backward => leg + 1

theorem asks_refused_leg (advance : ResolvedStopConstraint → ℚ → ℚ → ℚ) (instant : ℚ)
    (hops) (leg : Nat) (asked : ℚ)
    (asks : Asks oracle advance instant hops leg asked) (refused : oracle leg asked = none) :
    ∃ stop, hops[(answers oracle advance instant hops).length]? = some (leg, stop) := by
  induction asks with
  | here instant leg stop rest =>
    refine ⟨stop, ?_⟩
    rw [answers, refused]
    rfl
  | later answered asks ih =>
    obtain ⟨stop, found⟩ := ih refused
    refine ⟨stop, ?_⟩
    rw [answers, answered]
    exact found

def BreaksOffWithoutDwell (oracle : LegOracle Payload) (resolved : ResolvedSchedule)
    (first last : ResolvedStopConstraint) : Prop :=
  ∀ leg asked stop,
    Asks oracle (advanceOf resolved.direction) (startInstant resolved first last)
      (hopsOf resolved.direction resolved.stops) leg asked →
    oracle leg asked = none →
    resolved.stops[breaksOffAt resolved.direction leg]? = some stop → stop.dwellSeconds = 0

theorem breaks_off_iff (resolved : ResolvedSchedule) (first last) :
    BreaksOffWithoutDwell oracle resolved first last ↔ ∀ leg hopStop stop,
        (hopsOf resolved.direction resolved.stops)[
          (answeredCalls oracle resolved first last).length]? = some (leg, hopStop) →
        resolved.stops[breaksOffAt resolved.direction leg]? = some stop →
          stop.dwellSeconds = 0 := by
  constructor
  · intro without leg hopStop stop found there
    rcases walk_legs_refused oracle (advanceOf resolved.direction)
        (startInstant resolved first last) (hopsOf resolved.direction resolved.stops) with
      ⟨refused, other, foundRefused, _, asked, asks, none_⟩ | ⟨all, _⟩
    · have same := found.symm.trans foundRefused
      obtain rfl : leg = refused := congrArg fst (Option.some.inj same)
      exact without leg asked stop asks none_ there
    · rw [answeredCalls, all, getElem?_eq_none le_rfl] at found
      cases found
  · intro without leg asked stop asks refused there
    obtain ⟨hopStop, found⟩ := asks_refused_leg _ _ _ _ leg asked asks refused
    exact without leg hopStop stop found there

theorem kept_ends_without_dwell (oracle : LegOracle Payload) (resolved : ResolvedSchedule)
    (prepared : Prepared resolved.stops) (first last)
    (origin : resolved.stops.head? = some first)
    (destination : resolved.stops.getLast? = some last) :
    let stops := (retainedInput resolved (answeredCalls oracle resolved first last)).stops
    totalDwell stops = totalDwell (innerStops stops) ↔
      BreaksOffWithoutDwell oracle resolved first last := by
  intro stops
  have within := answered_calls_length_le oracle resolved first last
  have nonempty : 0 < resolved.stops.length := by
    apply length_pos_of_ne_nil
    intro empty
    simp [empty] at origin
  have lengths := retained_input_lengths resolved _ nonempty within
  have hopCount := hops_length resolved.direction resolved.stops
  have kept := kept_from_le resolved.direction _ _ within
  have firstDwell := prepared.originWithoutDwell first origin
  have lastDwell := prepared.destinationWithoutDwell last destination
  rw [head?_eq_getElem?] at origin
  rw [getLast?_eq_getElem?] at destination
  rw [breaks_off_iff]
  have headKept := retained_stop resolved (answeredCalls oracle resolved first last) 0
    (Nat.zero_le _)
  have lastKept := retained_stop resolved (answeredCalls oracle resolved first last) _ le_rfl
  have stopCount : stops.length = (answeredCalls oracle resolved first last).length + 1 := by
    simp only [stops, lengths]
    simp only [retainedInput, length_map, in_leg_order_length]
  obtain ⟨keptFirst, keptFirstAt⟩ : ∃ stop, stops[0]? = some stop :=
    ⟨_, getElem?_eq_getElem (by omega)⟩
  obtain ⟨keptLast, keptLastAt⟩ : ∃ stop,
      stops[(answeredCalls oracle resolved first last).length]? = some stop :=
    ⟨_, getElem?_eq_getElem (by omega)⟩
  have head : stops.head? = some keptFirst := by rw [head?_eq_getElem?, keptFirstAt]
  have final : stops.getLast? = some keptLast := by
    rw [getLast?_eq_getElem?, stopCount, Nat.add_sub_cancel, keptLastAt]
  rw [keptFirstAt] at headKept
  rw [keptLastAt] at lastKept
  clear_value stops
  generalize (answeredCalls oracle resolved first last).length = solved at *
  obtain direction | direction : resolved.direction = .forward ∨
      resolved.direction = .backward := by
    cases resolved.direction
    · exact .inl rfl
    · exact .inr rfl
  · simp only [direction, keptFrom, Nat.zero_add] at headKept lastKept hopCount ⊢
    obtain rfl : keptFirst = first := Option.some.inj (headKept.trans origin)
    rw [dwell_inside_iff stops _ _ head final (.inl firstDwell)]
    constructor
    · rintro ⟨_, settled⟩ leg hopStop stop found there
      have bound := (List.getElem?_eq_some_iff.mp found).1
      rw [forward_hop resolved.stops solved (by omega)] at found
      obtain rfl : solved = leg := congrArg fst (Option.some.inj found)
      obtain rfl : keptLast = stop := Option.some.inj (lastKept.trans there)
      exact settled
    · intro without
      refine ⟨firstDwell, ?_⟩
      by_cases complete : solved = resolved.stops.length - 1
      · rw [complete, destination] at lastKept
        obtain rfl := Option.some.inj lastKept
        exact lastDwell
      · have hop := forward_hop resolved.stops solved (by omega)
        exact without solved _ keptLast hop lastKept.symm
  · simp only [direction, keptFrom] at headKept lastKept hopCount ⊢
    by_cases none_ : solved = 0
    · simp only [none_, if_true, Nat.add_zero] at headKept lastKept ⊢
      obtain rfl : keptFirst = first := Option.some.inj (headKept.trans origin)
      obtain rfl : keptLast = keptFirst := Option.some.inj (lastKept.trans headKept.symm)
      rw [dwell_inside_iff stops _ _ head final (.inl firstDwell)]
      constructor
      · intro _ leg hopStop stop found there
        have bound := (List.getElem?_eq_some_iff.mp found).1
        rw [backward_hop resolved.stops 0 (by omega)] at found
        obtain rfl : resolved.stops.length - 2 - 0 = leg := congrArg fst (Option.some.inj found)
        rw [breaksOffAt, show resolved.stops.length - 2 - 0 + 1 = resolved.stops.length - 1 by omega,
          destination] at there
        obtain rfl := Option.some.inj there
        exact lastDwell
      · intro _
        exact ⟨firstDwell, firstDwell⟩
    · simp only [if_neg none_] at headKept lastKept kept
      rw [direction] at kept
      simp only [keptFrom, if_neg none_] at kept
      rw [show resolved.stops.length - 1 - solved + solved = resolved.stops.length - 1 by omega,
        destination] at lastKept
      obtain rfl := Option.some.inj lastKept
      rw [dwell_inside_iff stops _ _ head final (.inr lastDwell)]
      constructor
      · rintro ⟨settled, _⟩ leg hopStop stop found there
        have bound := (List.getElem?_eq_some_iff.mp found).1
        rw [backward_hop resolved.stops solved (by omega)] at found
        obtain rfl : resolved.stops.length - 2 - solved = leg :=
          congrArg fst (Option.some.inj found)
        rw [breaksOffAt, show resolved.stops.length - 2 - solved + 1 =
          resolved.stops.length - 1 - solved + 0 by omega] at there
        obtain rfl : keptFirst = stop := Option.some.inj (headKept.trans there)
        exact settled
      · intro without
        refine ⟨?_, lastDwell⟩
        by_cases complete : solved = resolved.stops.length - 1
        · rw [complete, Nat.sub_self, Nat.add_zero, origin] at headKept
          obtain rfl := Option.some.inj headKept
          exact firstDwell
        · have hop := backward_hop resolved.stops solved (by omega)
          refine without _ _ keptFirst hop ?_
          rw [breaksOffAt, headKept]
          congr 1
          omega

structure WholeSchedule (resolved : ResolvedSchedule) : Prop where
  anchor : WholeInstant resolved.anchorMs
  earliest : ∀ stop ∈ resolved.stops, ∀ ms ∈ stop.earliestDepartureMs, WholeInstant ms
  latest : ∀ stop ∈ resolved.stops, ∀ ms ∈ stop.latestArrivalMs, WholeInstant ms

structure TimeConserved (schedule : TripSchedule) : Prop where
  balance : schedule.arrival.ms - schedule.departure.ms = 1000 *
    (schedule.totalTravelSeconds + schedule.totalDwellSeconds + schedule.totalWaitSeconds)
  waits : ∀ stop ∈ schedule.stops, 0 ≤ stop.waitSeconds

theorem mem_in_leg_order (direction : Direction) (calls)
    (call : AskedLeg Payload) : call ∈ inLegOrder direction calls ↔ call ∈ calls := by
  cases direction <;> simp [inLegOrder]

theorem retained_input_whole (resolved : ResolvedSchedule)
    (prepared : Prepared resolved.stops) (whole : WholeSchedule resolved)
    (wholeLegs : ∀ leg instant travel, oracle leg instant = some travel →
      WholeSeconds travel.seconds)
    (first last) (nonempty : 0 < resolved.stops.length) :
    WholeInput (retainedInput resolved (answeredCalls oracle resolved first last)) where
  lengths := retained_input_lengths resolved _ nonempty
    (answered_calls_length_le oracle resolved first last)
  anchor := whole.anchor
  legs seconds member := by
    obtain ⟨call, calledIn, rfl⟩ := mem_map.mp member
    have called := (mem_in_leg_order _ _ call).mp calledIn
    exact wholeLegs _ _ _ (answer_replied _ _ _ _ call called)
  windows stop member := by
    have there := mem_of_mem_drop (mem_of_mem_take member)
    obtain ⟨dwell, isDwell⟩ := prepared.wholeDwell stop there
    exact ⟨whole.earliest stop there, whole.latest stop there, ⟨dwell, by rw [isDwell]; simp⟩⟩

/-- The totals of a planned trip balance exactly when no call is refused at a stop
with a dwell. -/
theorem planned_time_conserved_iff (platform : ZonePlatform) (resolved : ResolvedSchedule)
    (forward backward : Option (LegOracle Payload)) (providerId : Option String)
    (oracle : LegOracle Payload)
    (supplied : oracleFor resolved.direction forward backward = some oracle)
    (prepared : Prepared resolved.stops) (whole : WholeSchedule resolved)
    (wholeLegs : ∀ leg instant travel, oracle leg instant = some travel →
      WholeSeconds travel.seconds) (nonempty : 0 < resolved.stops.length) :
    ∃ first last result, resolved.stops.head? = some first ∧ resolved.stops.getLast? = some last ∧
      planScheduledTrip platform resolved forward backward providerId = .ok result ∧
      (TimeConserved result.schedule ↔ BreaksOffWithoutDwell oracle resolved first last) := by
  have present : resolved.stops ≠ [] := ne_nil_of_length_pos nonempty
  have origin := head?_eq_some_head present
  have destination := getLast?_eq_some_getLast present
  obtain ⟨here, there, headRow, lastRow, planned⟩ := plan_scheduled_trip_ok platform
    resolved forward backward providerId oracle supplied _ _ origin destination
  have wholeInput := retained_input_whole oracle resolved prepared whole wholeLegs
    (resolved.stops.head present) (resolved.stops.getLast present) nonempty
  have balance := schedule_balance platform _ wholeInput here there headRow lastRow
  refine ⟨_, _, _, origin, destination, planned, ?_⟩
  apply Iff.trans _ (kept_ends_without_dwell oracle resolved prepared _ _ origin destination)
  constructor
  · intro conserved
    have sum := conserved.balance
    simp only [balance] at sum
    change _ = 1000 * (_ + totalDwell _ + _) at sum
    change _ = 1000 * ((retainedInput resolved _).legSeconds.sum + _ +
      (totalWait (composeTimeline _) : ℚ)) at sum
    linarith
  · intro inside
    refine ⟨?_, schedule_waits_nonneg platform _ here there⟩
    simp only [balance]
    change _ = 1000 * ((retainedInput resolved _).legSeconds.sum + totalDwell _ +
      (totalWait (composeTimeline _) : ℚ))
    rw [inside]
    ring

def minuteStop : ResolvedSchedule where
  stops := [⟨0, "UTC", none, none, 0, false⟩, ⟨1, "UTC", none, none, 60, false⟩,
    ⟨2, "UTC", none, none, 0, false⟩]
  anchorMs := 0
  anchor := .now
  direction := .forward
  violations := []

theorem minute_stop_prepared : Prepared minuteStop.stops where
  numbered index stop found := by
    match index with
    | 0 => obtain rfl := Option.some.inj found; rfl
    | 1 => obtain rfl := Option.some.inj found; rfl
    | 2 => obtain rfl := Option.some.inj found; rfl
    | _ + 3 => simp [minuteStop] at found
  originWithoutDwell stop found := by obtain rfl := Option.some.inj found; rfl
  destinationWithoutDwell stop found := by obtain rfl := Option.some.inj found; rfl
  wholeDwell stop member := by
    simp only [minuteStop, mem_cons, not_mem_nil, or_false] at member
    rcases member with rfl | rfl | rfl
    · exact ⟨0, by simp⟩
    · exact ⟨60, by simp⟩
    · exact ⟨0, by simp⟩

theorem minute_stop_whole : WholeSchedule minuteStop where
  anchor := ⟨0, by simp [minuteStop]⟩
  earliest stop member ms window := by
    simp only [minuteStop, mem_cons, not_mem_nil, or_false] at member
    rcases member with rfl | rfl | rfl <;> cases window
  latest stop member ms window := by
    simp only [minuteStop, mem_cons, not_mem_nil, or_false] at member
    rcases member with rfl | rfl | rfl <;> cases window

theorem minute_stop_conserved :
    ∃ result, planScheduledTrip utcPlatform minuteStop (some fiveSecondLegs) none none =
      .ok result ∧ TimeConserved result.schedule := by
  obtain ⟨first, last, result, _, _, planned, conserved⟩ :=
    planned_time_conserved_iff utcPlatform minuteStop (some fiveSecondLegs) none none
      fiveSecondLegs rfl minute_stop_prepared minute_stop_whole
      (fun _ _ travel reply => by
        obtain rfl := Option.some.inj reply
        exact ⟨5, by simp⟩)
      (by decide)
  refine ⟨result, planned, conserved.mpr ?_⟩
  intro leg asked stop _ refused
  cases refused

def firstLegOnly : LegOracle Unit := fun leg _ => if leg = 0 then some ⟨5, none⟩ else none

/-- The trip ends on arrival at the second stop after five seconds, but its totals
count the minute that would have been spent there. -/
theorem cut_trip_counts_unspent_dwell :
    ∃ result, planScheduledTrip utcPlatform minuteStop (some firstLegOnly) none none =
      .ok result ∧ result.schedule.arrival.ms - result.schedule.departure.ms = 5000 ∧
      result.schedule.totalTravelSeconds = 5 ∧ result.schedule.totalDwellSeconds = 60 ∧
      result.schedule.totalWaitSeconds = 0 ∧ ¬ TimeConserved result.schedule := by
  refine ⟨_, rfl, by decide +kernel, by decide +kernel, by decide +kernel, by decide +kernel, ?_⟩
  intro conserved
  have balance := conserved.balance
  revert balance
  decide +kernel

end OpenMapX.Routing.TimeBalance
