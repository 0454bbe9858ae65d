import OpenMapX.Routing.ScheduledTrip

/-!
# What a truncated walk keeps

The walk and `composeSchedule` compute the pinned instants independently. Every
answered leg appears in the timeline at the instant it was asked for. A backward
walk whose first call is refused keeps the origin instead of the anchored stop.
-/

namespace OpenMapX.Routing.TripTruncation

open TimedChain TripSchedule ScheduleConstraints ScheduledTrip ScheduleOptimality List Function

variable {Payload : Type}

/-- What `resolveScheduleConstraints` promises the planner about its stops. -/
structure Prepared (stops : List ResolvedStopConstraint) : Prop where
  numbered : ∀ (index : Nat) (stop : ResolvedStopConstraint),
    stops[index]? = some stop → stop.index = index
  originWithoutDwell : ∀ stop, stops.head? = some stop → stop.dwellSeconds = 0
  destinationWithoutDwell : ∀ stop, stops.getLast? = some stop → stop.dwellSeconds = 0
  wholeDwell : ∀ stop ∈ stops, ∃ seconds : ℕ, stop.dwellSeconds = seconds

theorem read_dwell_whole (index : Nat) (rawDwell : Option ℚ) :
    ∃ seconds : ℕ, (readDwell index rawDwell).1 = seconds := by
  cases rawDwell with
  | none => exact ⟨0, by simp [readDwell]⟩
  | some rawDwell =>
    unfold readDwell
    by_cases invalid : rawDwell.den ≠ 1 ∨ rawDwell < 0 ∨ rawDwell > MAX_DWELL_SECONDS
    · exact ⟨0, by simp [invalid]⟩
    · have kept := not_or.mp invalid
      have whole : (rawDwell.num : ℚ) = rawDwell :=
        Rat.coe_int_num_of_den_eq_one (not_not.mp kept.1)
      have nonneg : 0 ≤ rawDwell.num := Rat.num_nonneg.mpr (not_lt.mp (not_or.mp kept.2).1)
      refine ⟨rawDwell.num.toNat, ?_⟩
      have cast : ((rawDwell.num.toNat : ℤ) : ℚ) = rawDwell := by
        rw [Int.toNat_of_nonneg nonneg, whole]
      simp only [if_neg invalid]
      rw [Int.cast_natCast] at cast
      exact cast.symm

variable (platform : ZonePlatform)

theorem resolve_stop_dwell (waypointCount index : Nat) (waypoint : ScheduleWaypoint) :
    (resolveStop platform waypointCount index waypoint).1.index = index ∧ (∃ seconds : ℕ,
        (resolveStop platform waypointCount index waypoint).1.dwellSeconds = seconds) ∧
      (index = 0 ∨ index + 1 = waypointCount →
        (resolveStop platform waypointCount index waypoint).1.dwellSeconds = 0) := by
  obtain ⟨seconds, whole⟩ := read_dwell_whole index (waypoint.schedule.bind (·.dwellSeconds))
  simp only [resolveStop, whole]
  split
  · exact ⟨rfl, ⟨0, by simp⟩, fun _ => rfl⟩
  · refine ⟨rfl, ?_, ?_⟩
    · split
      · exact ⟨0, by simp⟩
      · exact ⟨seconds, rfl⟩
    · intro endpoint
      rcases Nat.eq_zero_or_pos seconds with rfl | positive
      · simp
      · simp [endpoint, positive]

theorem resolve_schedule_prepared (input) :
    Prepared (resolveScheduleConstraints platform input).stops := by
  have cell : ∀ index stop, (resolveScheduleConstraints platform input).stops[index]? = some stop →
      ∃ waypoint, index < input.waypoints.length ∧
        stop = (resolveStop platform input.waypoints.length index waypoint).1 := by
    intro index stop found
    simp only [resolveScheduleConstraints, getElem?_map, getElem?_mapIdx,
      Option.map_map, Option.map_eq_some_iff] at found
    obtain ⟨waypoint, waypointAt, rfl⟩ := found
    exact ⟨waypoint, (List.getElem?_eq_some_iff.mp waypointAt).1, rfl⟩
  have count : (resolveScheduleConstraints platform input).stops.length =
      input.waypoints.length := by
    simp [resolveScheduleConstraints]
  refine ⟨?_, ?_, ?_, ?_⟩
  · intro index stop found
    obtain ⟨waypoint, _, rfl⟩ := cell index stop found
    exact (resolve_stop_dwell platform _ index waypoint).1
  · intro stop found
    rw [head?_eq_getElem?] at found
    obtain ⟨waypoint, _, rfl⟩ := cell 0 stop found
    exact (resolve_stop_dwell platform _ 0 waypoint).2.2 (.inl rfl)
  · intro stop found
    rw [getLast?_eq_getElem?, count] at found
    obtain ⟨waypoint, bound, rfl⟩ := cell _ stop found
    exact (resolve_stop_dwell platform _ _ waypoint).2.2 (.inr (by omega))
  · intro stop member
    obtain ⟨index, found⟩ := mem_iff_getElem?.mp member
    obtain ⟨waypoint, _, rfl⟩ := cell index stop found
    exact (resolve_stop_dwell platform _ index waypoint).2.1

def startInstant (resolved : ResolvedSchedule) (first last : ResolvedStopConstraint) : ℚ :=
  match resolved.direction with
  | .forward => firstDeparture first resolved.anchorMs
  | .backward => lastArrival last resolved.anchorMs

def hopsOf (direction : Direction) (stops : List ResolvedStopConstraint) :
    List (Nat × ResolvedStopConstraint) :=
  match direction with
  | .forward => forwardHops stops
  | .backward => backwardHops stops

def advanceOf : Direction → ResolvedStopConstraint → ℚ → ℚ → ℚ
  | .forward => forwardAdvance
  | .backward => backwardAdvance

def answeredCalls (oracle : LegOracle Payload) (resolved : ResolvedSchedule)
    (first last : ResolvedStopConstraint) : List (AskedLeg Payload) :=
  answers oracle (advanceOf resolved.direction) (startInstant resolved first last)
    (hopsOf resolved.direction resolved.stops)

def inLegOrder (direction : Direction) (calls : List (AskedLeg Payload)) :
    List (AskedLeg Payload) :=
  match direction with
  | .forward => calls
  | .backward => calls.reverse

/-- The first stop a trip with `solved` answered legs keeps. -/
def keptFrom (direction : Direction) (legCount solved : Nat) : Nat :=
  match direction with
  | .forward => 0
  | .backward => if solved = 0 then 0 else legCount - solved

theorem hops_length (direction : Direction) (stops) :
    (hopsOf direction stops).length = stops.length - 1 := by
  cases direction <;> simp [hopsOf, forwardHops, backwardHops]

theorem forward_hop (stops) (leg : Nat) (bound : leg + 1 < stops.length) :
    (hopsOf .forward stops)[leg]? = some (leg, stops[leg + 1]) := by
  have range : (List.range (stops.length - 1))[leg]? = some leg := by
    rw [getElem?_range (by omega)]
  refine getElem?_zip_eq_some.mpr ⟨range, ?_⟩
  simp [getElem?_tail, bound]

theorem backward_hop (stops) (position : Nat) (bound : position + 1 < stops.length) :
    (hopsOf .backward stops)[position]? =
      some (stops.length - 2 - position, stops[stops.length - 2 - position]) := by
  have zipped : ((List.range (stops.length - 1)).zip stops).length = stops.length - 1 := by
    simp
  rw [hopsOf, backwardHops, getElem?_reverse (by omega), zipped,
    show stops.length - 1 - 1 - position = stops.length - 2 - position by omega]
  refine getElem?_zip_eq_some.mpr ⟨?_, ?_⟩
  · rw [getElem?_range (by omega)]
  · rw [getElem?_eq_getElem]

section

variable (oracle : LegOracle Payload) (resolved : ResolvedSchedule)
  (first last : ResolvedStopConstraint)
include oracle resolved first last

theorem leg_cells_eq :
    legCells oracle resolved first last =
      let walked := walkLegs oracle (advanceOf resolved.direction)
        (startInstant resolved first last) (hopsOf resolved.direction resolved.stops)
      (match resolved.direction with
        | .forward => walked.1
        | .backward => walked.1.reverse, walked.2) := by
  unfold legCells startInstant advanceOf hopsOf
  cases resolved.direction <;> rfl

theorem answered_calls_length_le :
    (answeredCalls oracle resolved first last).length ≤ resolved.stops.length - 1 := by
  have bound := answers_length_le oracle (advanceOf resolved.direction)
    (startInstant resolved first last) (hopsOf resolved.direction resolved.stops)
  rwa [hops_length] at bound

theorem leg_cells_split :
    let calls := answeredCalls oracle resolved first last
    let gap := replicate (resolved.stops.length - 1 - calls.length) none
    (legCells oracle resolved first last).1 =
      match resolved.direction with
      | .forward => calls.map some ++ gap
      | .backward => gap ++ calls.reverse.map some := by
  intro calls gap
  have cells : (walkLegs oracle (advanceOf resolved.direction)
      (startInstant resolved first last) (hopsOf resolved.direction resolved.stops)).1 =
        calls.map some ++ gap := by
    have walked := walk_legs_cells oracle (advanceOf resolved.direction)
      (startInstant resolved first last) (hopsOf resolved.direction resolved.stops)
    rw [hops_length] at walked
    exact walked
  have symmetric : gap.reverse = gap := reverse_replicate
  rw [leg_cells_eq]
  simp only [cells]
  clear_value gap calls
  cases resolved.direction with
  | forward => rfl
  | backward => simp only [reverse_append, symmetric, map_reverse]

theorem solved_legs : (legCells oracle resolved first last).1.filterMap id =
      inLegOrder resolved.direction (answeredCalls oracle resolved first last) := by
  rw [leg_cells_split]
  unfold inLegOrder
  cases resolved.direction <;> simp [filterMap_append, filterMap_map]

end

theorem in_leg_order_length (direction : Direction) (calls : List (AskedLeg Payload)) :
    (inLegOrder direction calls).length = calls.length := by
  cases direction <;> simp [inLegOrder]

section

variable (oracle : LegOracle Payload) (resolved : ResolvedSchedule)
  (first last : ResolvedStopConstraint)

theorem cells_length :
    (legCells oracle resolved first last).1.length = resolved.stops.length - 1 := by
  have bound := answered_calls_length_le oracle resolved first last
  rw [leg_cells_split]
  cases resolved.direction <;>
    simp only [length_append, length_map, length_replicate, length_reverse] <;>
    omega

theorem retained_start_eq :
    retainedStart resolved.direction (legCells oracle resolved first last).1 =
      keptFrom resolved.direction (resolved.stops.length - 1)
        (answeredCalls oracle resolved first last).length := by
  have bound := answered_calls_length_le oracle resolved first last
  unfold retainedStart
  simp only [solved_legs, in_leg_order_length, cells_length]
  rw [leg_cells_split]
  generalize answeredCalls oracle resolved first last = calls at *
  cases resolved.direction with
  | forward => simp [keptFrom]
  | backward =>
    simp only [keptFrom, reduceCtorEq, or_false]
    by_cases complete : calls.length = resolved.stops.length - 1
    · simp [complete]
    · rw [if_neg complete]
      by_cases empty : calls.length = 0
      · obtain rfl := length_eq_zero_iff.mp empty
        simp
      · rw [if_neg empty, findIdx?_append]
        obtain ⟨head, tail, shape⟩ : ∃ head tail, calls.reverse = head :: tail := by
          apply exists_cons_of_ne_nil
          intro reversed
          exact empty (by simpa using congrArg length reversed)
        simp [shape, findIdx?_cons]

end

/-- The input the planner hands to `composeSchedule`. -/
def retainedInput (resolved : ResolvedSchedule) (calls : List (AskedLeg Payload)) :
    ComposeScheduleInput where
  stops := (resolved.stops.drop
    (keptFrom resolved.direction (resolved.stops.length - 1) calls.length)).take (calls.length + 1)
  legSeconds := (inLegOrder resolved.direction calls).map (·.travel.seconds)
  anchorMs := resolved.anchorMs
  direction := resolved.direction

theorem kept_from_le (direction : Direction) (legCount solved : Nat) (bound : solved ≤ legCount) :
    keptFrom direction legCount solved + solved ≤ legCount := by
  unfold keptFrom
  cases direction with
  | forward => simpa using bound
  | backward =>
    by_cases none_ : solved = 0
    · simp [none_]
    · simp only [if_neg none_]
      omega

section

variable (resolved : ResolvedSchedule) (calls : List (AskedLeg Payload))

theorem retained_input_lengths (nonempty : 0 < resolved.stops.length)
    (bound : calls.length ≤ resolved.stops.length - 1) :
    (retainedInput resolved calls).stops.length =
      (retainedInput resolved calls).legSeconds.length + 1 := by
  have kept := kept_from_le resolved.direction _ _ bound
  simp only [retainedInput, length_take, length_drop, length_map,
    in_leg_order_length]
  omega

theorem retained_stop (index : Nat) (bound : index ≤ calls.length) :
    (retainedInput resolved calls).stops[index]? =
      resolved.stops[keptFrom resolved.direction (resolved.stops.length - 1) calls.length +
        index]? := by
  rw [retainedInput, getElem?_take_of_lt (by omega), getElem?_drop]

end

theorem retained_payloads (oracle : LegOracle Payload) (resolved : ResolvedSchedule)
    (first last : ResolvedStopConstraint) :
    let calls := answeredCalls oracle resolved first last
    ((((legCells oracle resolved first last).1.map fun cell => cell.bind (·.travel.payload)).drop
        (keptFrom resolved.direction (resolved.stops.length - 1) calls.length)).take calls.length) =
      (inLegOrder resolved.direction calls).map (·.travel.payload) := by
  intro calls
  have bound : calls.length ≤ resolved.stops.length - 1 :=
    answered_calls_length_le oracle resolved first last
  rw [leg_cells_split]
  change take _ (drop _ (List.map _ (match resolved.direction with
    | .forward => calls.map some ++ replicate (resolved.stops.length - 1 - calls.length) none
    | .backward =>
      replicate (resolved.stops.length - 1 - calls.length) none ++
        calls.reverse.map some))) = _
  clear_value calls
  cases resolved.direction with
  | forward => simp [keptFrom, inLegOrder, comp_def]
  | backward =>
    by_cases empty : calls.length = 0
    · obtain rfl := length_eq_zero_iff.mp empty
      rfl
    · simp only [keptFrom, if_neg empty, inLegOrder, map_append, map_map,
        map_replicate]
      rw [drop_left' (by simp)]
      simp [comp_def]

theorem plan_scheduled_trip_ok (platform : ZonePlatform) (resolved : ResolvedSchedule)
    (forward backward : Option (LegOracle Payload)) (providerId : Option String)
    (oracle : LegOracle Payload)
    (supplied : oracleFor resolved.direction forward backward = some oracle)
    (first last : ResolvedStopConstraint) (origin : resolved.stops.head? = some first)
    (destination : resolved.stops.getLast? = some last) :
    let calls := answeredCalls oracle resolved first last
    let input := retainedInput resolved calls
    ∃ here there, (stopTimes input).head? = some here ∧
      (stopTimes input).getLast? = some there ∧
      planScheduledTrip platform resolved forward backward providerId =
        .ok ⟨{ tripScheduleOf platform input here there with
            violations := resolved.violations ++
              unreachable resolved.stops (legCells oracle resolved first last).2 ++
                (tripScheduleOf platform input here there).violations },
          (inLegOrder resolved.direction calls).map (·.travel.payload)⟩ := by
  intro calls input
  have nonempty : 0 < resolved.stops.length := by
    apply length_pos_of_ne_nil
    intro empty
    simp [empty] at origin
  obtain ⟨here, there, headRow, lastRow, composed⟩ := compose_schedule_ok platform input
    (retained_input_lengths resolved _ nonempty (answered_calls_length_le oracle resolved _ _))
  have planned : planScheduledTrip platform resolved forward backward providerId =
      finishTrip platform resolved (legCells oracle resolved first last) := by
    rw [planScheduledTrip, supplied]
    simp only [origin, destination]
  refine ⟨here, there, headRow, lastRow, ?_⟩
  rw [planned, ← retained_payloads oracle resolved first last]
  unfold finishTrip
  simp only [retained_start_eq, solved_legs, in_leg_order_length]
  have same : composeSchedule platform
      ⟨(resolved.stops.drop (keptFrom resolved.direction (resolved.stops.length - 1)
          calls.length)).take (calls.length + 1),
        (inLegOrder resolved.direction calls).map (·.travel.seconds),
        resolved.anchorMs, resolved.direction⟩ = .ok (tripScheduleOf platform input here there) :=
    composed
  rw [same]

def shownTimeline (input : ComposeScheduleInput) : TripTimeline :=
  match input.direction with
  | .forward => forwardShown input.stops input.legSeconds input.anchorMs
  | .backward => backwardShown input.stops input.legSeconds input.anchorMs

theorem scheduled_leg_cell (input)
    (lengths : input.stops.length = input.legSeconds.length + 1)
    (first last) (leg : Nat) (seconds : ℚ)
    (here next) (legAt : input.legSeconds[leg]? = some seconds)
    (hereAt : input.stops[leg]? = some here) (nextAt : input.stops[leg + 1]? = some next) :
    (tripScheduleOf platform input first last).legs[leg]? =
      some {
        fromIndex := here.index
        toIndex := next.index
        departure := render here ((shownTimeline input).departure leg)
        arrival := render next ((shownTimeline input).arrival (leg + 1))
        travelSeconds := seconds } := by
  have rowsLength := compose_timeline_length input lengths
  have legBound := (List.getElem?_eq_some_iff.mp legAt).1
  have shown : Shows (tripScheduleOf platform input first last) input.legSeconds.length
      (shownTimeline input) := by
    obtain ⟨stops, legSeconds, anchorMs, direction⟩ := input
    cases direction with
    | forward => exact schedule_shows_forward platform lengths first last
    | backward => exact schedule_shows_backward platform lengths first last
  obtain ⟨left, reached⟩ := shown leg legBound
  rw [(schedule_shows_rows platform input lengths first last leg).1] at left
  rw [(schedule_shows_rows platform input lengths first last (leg + 1)).2] at reached
  obtain ⟨hereRow, hereRowAt, hereLeft⟩ := Option.bind_eq_some_iff.mp left
  obtain ⟨nextRow, nextRowAt, nextReached⟩ := Option.bind_eq_some_iff.mp reached
  have hereCell : (stopTimes input)[leg]? = some (here, hereRow.times) := by
    rw [stop_times_cell, hereAt, hereRowAt]
    rfl
  have nextCell : (stopTimes input)[leg + 1]? = some (next, nextRow.times) := by
    rw [stop_times_cell, nextAt, nextRowAt]
    rfl
  have pairs : ((stopTimes input).zip (stopTimes input).tail)[leg]? =
      some ((here, hereRow.times), (next, nextRow.times)) := by
    apply getElem?_zip_eq_some.mpr
    exact ⟨hereCell, by rw [getElem?_tail]; exact nextCell⟩
  simp only [tripScheduleOf, scheduledLegs, getElem?_zipWith, legAt, pairs]
  simp only [scheduledLeg, hereLeft, nextReached, Option.getD_some]

section

variable (oracle : LegOracle Payload) (resolved : ResolvedSchedule)
  (first last : ResolvedStopConstraint)

theorem forward_call_leg (forward : resolved.direction = .forward) (index : Nat)
    (call : AskedLeg Payload)
    (found : (answeredCalls oracle resolved first last)[index]? = some call) :
    call.leg = index := by
  have callBound := (List.getElem?_eq_some_iff.mp found).1
  have within := answered_calls_length_le oracle resolved first last
  obtain ⟨stop, hopAt⟩ := answer_leg _ _ _ _ index call found
  rw [forward, forward_hop resolved.stops index (by omega)] at hopAt
  exact (congrArg Prod.fst (Option.some.inj hopAt)).symm

theorem backward_call_leg (backward : resolved.direction = .backward) (position : Nat)
    (call : AskedLeg Payload)
    (found : (answeredCalls oracle resolved first last)[position]? = some call) :
    call.leg = resolved.stops.length - 2 - position := by
  have callBound := (List.getElem?_eq_some_iff.mp found).1
  have within := answered_calls_length_le oracle resolved first last
  obtain ⟨stop, hopAt⟩ := answer_leg _ _ _ _ position call found
  rw [backward, backward_hop resolved.stops position (by omega)] at hopAt
  exact (congrArg Prod.fst (Option.some.inj hopAt)).symm

theorem retained_leg (calls) (leg : Nat) (call : AskedLeg Payload)
    (found : (inLegOrder resolved.direction calls)[leg]? = some call) :
    (retainedInput resolved calls).legSeconds[leg]? = some call.travel.seconds := by
  simp only [retainedInput, getElem?_map, found, Option.map_some]

theorem forward_call_instant (origin : resolved.stops.head? = some first)
    (forward : resolved.direction = .forward) (index : Nat) (call : AskedLeg Payload)
    (found : (answeredCalls oracle resolved first last)[index]? = some call) : call.instantMs =
      (shownTimeline (retainedInput resolved (answeredCalls oracle resolved first last))).departure
        index := by
  have within := answered_calls_length_le oracle resolved first last
  have kept : ∀ index ≤ (answeredCalls oracle resolved first last).length,
      (retainedInput resolved (answeredCalls oracle resolved first last)).stops[index]? =
        resolved.stops[index]? := by
    intro index bound
    rw [retained_stop resolved _ index bound, forward]
    simp [keptFrom]
  have timeline : shownTimeline
      (retainedInput resolved (answeredCalls oracle resolved first last)) =
        forwardShown (retainedInput resolved (answeredCalls oracle resolved first last)).stops
          (retainedInput resolved (answeredCalls oracle resolved first last)).legSeconds
          resolved.anchorMs := by
    simp only [shownTimeline, retainedInput, forward]
  rw [timeline]
  change _ = chainDeparture _ _ _ index
  induction index generalizing call with
  | zero =>
    have asked := answer_first _ _ _ _ call found
    have firstKept := kept 0 (Nat.zero_le _)
    rw [← head?_eq_getElem? (l := resolved.stops), origin] at firstKept
    rw [asked]
    simp only [startInstant, forward, firstDeparture_eq_holdUntil, chainDeparture,
      earliestDeparture, tripChain, firstKept, Option.bind_some]
  | succ index ih =>
    have callBound := (List.getElem?_eq_some_iff.mp found).1
    have before := getElem?_eq_getElem
      (l := answeredCalls oracle resolved first last) (show index < _ by omega)
    have hopAt := forward_hop resolved.stops index (by omega)
    have stopAt := getElem?_eq_getElem (l := resolved.stops) (show index + 1 < _ by omega)
    have moved := answer_step _ _ _ _ index _ call before found index _
      (by rw [forward]; exact hopAt)
    have legAt := retained_leg resolved (answeredCalls oracle resolved first last) index _
      (by rw [forward]; exact before)
    rw [moved, chain_departure_step index _ _ legAt
      ((kept (index + 1) (by omega)).trans stopAt), ← ih _ before, forward]
    rfl

theorem backward_call_instant (destination : resolved.stops.getLast? = some last)
    (backward : resolved.direction = .backward) (position : Nat) (call : AskedLeg Payload)
    (found : (answeredCalls oracle resolved first last)[position]? = some call) : call.instantMs =
      (shownTimeline (retainedInput resolved (answeredCalls oracle resolved first last))).arrival
        ((answeredCalls oracle resolved first last).length - position) := by
  have within := answered_calls_length_le oracle resolved first last
  have callBound := (List.getElem?_eq_some_iff.mp found).1
  have nonempty : (answeredCalls oracle resolved first last).length ≠ 0 := by omega
  have kept : ∀ index ≤ (answeredCalls oracle resolved first last).length,
      (retainedInput resolved (answeredCalls oracle resolved first last)).stops[index]? =
        resolved.stops[resolved.stops.length - 1 -
          (answeredCalls oracle resolved first last).length + index]? := by
    intro index bound
    rw [retained_stop resolved _ index bound, backward]
    simp only [keptFrom, if_neg nonempty]
  have legCount : (retainedInput resolved
      (answeredCalls oracle resolved first last)).legSeconds.length =
        (answeredCalls oracle resolved first last).length := by
    simp only [retainedInput, length_map, in_leg_order_length]
  have timeline : shownTimeline
      (retainedInput resolved (answeredCalls oracle resolved first last)) =
        backwardShown (retainedInput resolved (answeredCalls oracle resolved first last)).stops
          (retainedInput resolved (answeredCalls oracle resolved first last)).legSeconds
          resolved.anchorMs := by
    simp only [shownTimeline, retainedInput, backward]
  rw [timeline]
  change _ = chainArrival _ _ _ _
  clear callBound
  induction position generalizing call with
  | zero =>
    have asked := answer_first _ _ _ _ call found
    have lastKept := kept _ le_rfl
    rw [show resolved.stops.length - 1 - (answeredCalls oracle resolved first last).length +
        (answeredCalls oracle resolved first last).length = resolved.stops.length - 1 by omega,
      ← getLast?_eq_getElem?, destination] at lastKept
    rw [asked, Nat.sub_zero, ← legCount, chainArrival, latest_arrival_last]
    simp only [startInstant, backward, lastArrival_eq_capAt, tripChain, legCount, lastKept,
      Option.bind_some]
  | succ position ih =>
    have callBound := (List.getElem?_eq_some_iff.mp found).1
    have before := getElem?_eq_getElem
      (l := answeredCalls oracle resolved first last) (show position < _ by omega)
    have hopAt := backward_hop resolved.stops position (by omega)
    have moved := answer_step _ _ _ _ position _ call before found _ _
      (by rw [backward]; exact hopAt)
    have reversedAt : (inLegOrder resolved.direction
        (answeredCalls oracle resolved first last))[
          (answeredCalls oracle resolved first last).length - (position + 1)]? =
        some (answeredCalls oracle resolved first last)[position] := by
      rw [backward, inLegOrder, getElem?_reverse (by omega)]
      rw [show (answeredCalls oracle resolved first last).length - 1 -
        ((answeredCalls oracle resolved first last).length - (position + 1)) = position by omega]
      exact before
    have legAt := retained_leg resolved _ _ _ reversedAt
    have stopAt := getElem?_eq_getElem (l := resolved.stops)
      (show resolved.stops.length - 2 - position < _ by omega)
    have keptStop := kept ((answeredCalls oracle resolved first last).length - (position + 1))
      (by omega)
    rw [show resolved.stops.length - 1 - (answeredCalls oracle resolved first last).length +
      ((answeredCalls oracle resolved first last).length - (position + 1)) =
        resolved.stops.length - 2 - position by omega, stopAt] at keptStop
    have previous := ih _ before
    rw [show (answeredCalls oracle resolved first last).length - position =
      (answeredCalls oracle resolved first last).length - (position + 1) + 1 by omega] at previous
    rw [moved, chain_arrival_step _ _ _ legAt keptStop, ← previous, backward]
    rfl

end

def pinnedInstant (direction : Direction) (leg : ScheduledLeg) : ℚ :=
  match direction with
  | .forward => leg.departure.ms
  | .backward => leg.arrival.ms

def anchoredStop (direction : Direction) (stops : List ResolvedStopConstraint) : Nat :=
  match direction with
  | .forward => 0
  | .backward => stops.length - 1

structure ShowsCall (direction : Direction) (call : AskedLeg Payload) (leg : ScheduledLeg) :
    Prop where
  fromIndex : leg.fromIndex = call.leg
  toIndex : leg.toIndex = call.leg + 1
  seconds : leg.travelSeconds = call.travel.seconds
  instant : pinnedInstant direction leg = call.instantMs

structure AgreesWithWalk (resolved : ResolvedSchedule) (calls : List (AskedLeg Payload))
    (result : ScheduledTripResult Payload) : Prop where
  legs : List.Forall₂ (ShowsCall resolved.direction) (inLegOrder resolved.direction calls)
    result.schedule.legs
  payloads : result.legPayloads = (inLegOrder resolved.direction calls).map (·.travel.payload)
  contiguous : ∃ start, result.schedule.stops.map (·.waypointIndex) =
      range' start (calls.length + 1) ∧
    start ≤ anchoredStop resolved.direction resolved.stops ∧
    anchoredStop resolved.direction resolved.stops ≤ start + calls.length

variable (platform : ZonePlatform)

section

variable (input : ComposeScheduleInput) (lengths : input.stops.length = input.legSeconds.length + 1)
  (first last : ResolvedStopConstraint × StopTimes)
include lengths

theorem scheduled_legs_length :
    (tripScheduleOf platform input first last).legs.length = input.legSeconds.length := by
  have rowsLength := compose_timeline_length input lengths
  simp [tripScheduleOf, scheduledLegs, stopTimes, rowsLength, lengths]

theorem scheduled_stops_indices :
    (tripScheduleOf platform input first last).stops.map (·.waypointIndex) =
      input.stops.map (·.index) := by
  have rowsLength := compose_timeline_length input lengths
  have stopsFirst : (input.stops.zip ((composeTimeline input).map (·.times))).map Prod.fst =
      input.stops := map_fst_zip (by rw [length_map, rowsLength])
  simp only [tripScheduleOf, map_map, comp_def, scheduledStop]
  rw [← stopsFirst, map_map]
  rfl

end

theorem retained_indices (resolved : ResolvedSchedule) (calls : List (AskedLeg Payload))
    (prepared : Prepared resolved.stops) (nonempty : 0 < resolved.stops.length)
    (bound : calls.length ≤ resolved.stops.length - 1) :
    (retainedInput resolved calls).stops.map (·.index) =
      range' (keptFrom resolved.direction (resolved.stops.length - 1) calls.length)
        (calls.length + 1) := by
  have lengths := retained_input_lengths resolved calls nonempty bound
  have legCount : (retainedInput resolved calls).legSeconds.length = calls.length := by
    simp only [retainedInput, length_map, in_leg_order_length]
  have kept := kept_from_le resolved.direction _ _ bound
  apply ext_getElem?
  intro index
  by_cases within : index < calls.length + 1
  · have stopAt := retained_stop resolved calls index (by omega)
    have present := getElem?_eq_getElem (l := resolved.stops)
      (show keptFrom resolved.direction (resolved.stops.length - 1) calls.length + index < _
        by omega)
    rw [getElem?_map, stopAt, present, getElem?_range' within, Option.map_some,
      prepared.numbered _ _ present, one_mul]
  · rw [getElem?_eq_none (by rw [length_map]; omega),
      getElem?_eq_none (by rw [length_range']; omega)]

theorem call_shown (resolved : ResolvedSchedule) (oracle : LegOracle Payload)
    (prepared : Prepared resolved.stops) (first last : ResolvedStopConstraint)
    (origin : resolved.stops.head? = some first) (destination : resolved.stops.getLast? = some last)
    (here there : ResolvedStopConstraint × StopTimes) (index : Nat) (call : AskedLeg Payload)
    (found : (inLegOrder resolved.direction
      (answeredCalls oracle resolved first last))[index]? = some call) :
    ∃ leg, (tripScheduleOf platform
        (retainedInput resolved (answeredCalls oracle resolved first last)) here there).legs[
          index]? = some leg ∧ ShowsCall resolved.direction call leg := by
  have within := answered_calls_length_le oracle resolved first last
  have callBound := (List.getElem?_eq_some_iff.mp found).1
  rw [in_leg_order_length] at callBound
  have kept := kept_from_le resolved.direction _ _ within
  have lengths := retained_input_lengths resolved (answeredCalls oracle resolved first last)
    (by omega) within
  have hereKept := retained_stop resolved (answeredCalls oracle resolved first last) index
    (by omega)
  have nextKept := retained_stop resolved (answeredCalls oracle resolved first last) (index + 1)
    (by omega)
  obtain ⟨hereStop, hereAt⟩ : ∃ stop, resolved.stops[keptFrom resolved.direction
      (resolved.stops.length - 1) (answeredCalls oracle resolved first last).length +
        index]? = some stop := ⟨_, getElem?_eq_getElem (by omega)⟩
  obtain ⟨nextStop, nextAt⟩ : ∃ stop, resolved.stops[keptFrom resolved.direction
      (resolved.stops.length - 1) (answeredCalls oracle resolved first last).length +
        (index + 1)]? = some stop := ⟨_, getElem?_eq_getElem (by omega)⟩
  have legAt := retained_leg resolved (answeredCalls oracle resolved first last) index call found
  refine ⟨_, scheduled_leg_cell platform _ lengths here there index _ _ _ legAt
    (hereKept.trans hereAt) (nextKept.trans nextAt), ?_⟩
  have fromNumber := prepared.numbered _ _ hereAt
  have toNumber := prepared.numbered _ _ nextAt
  obtain direction | direction : resolved.direction = .forward ∨
      resolved.direction = .backward := by
    cases resolved.direction
    · exact .inl rfl
    · exact .inr rfl
  · have calledAt : (answeredCalls oracle resolved first last)[index]? = some call := by
      rw [direction] at found
      exact found
    have legNumber := forward_call_leg oracle resolved first last direction index call calledAt
    have instant := forward_call_instant oracle resolved first last origin direction index call
      calledAt
    refine ⟨?_, ?_, rfl, ?_⟩
    · simp only [fromNumber, legNumber, direction, keptFrom, Nat.zero_add]
    · simp only [toNumber, legNumber, direction, keptFrom, Nat.zero_add]
    · rw [instant, direction]
      rfl
  · have calledAt : (answeredCalls oracle resolved first last)[
        (answeredCalls oracle resolved first last).length - 1 - index]? = some call := by
      rw [direction, inLegOrder, getElem?_reverse callBound] at found
      exact found
    have legNumber := backward_call_leg oracle resolved first last direction _ call calledAt
    have instant := backward_call_instant oracle resolved first last destination direction _ call
      calledAt
    rw [show (answeredCalls oracle resolved first last).length -
      ((answeredCalls oracle resolved first last).length - 1 - index) = index + 1 by omega]
      at instant
    have some_ : (answeredCalls oracle resolved first last).length ≠ 0 := by omega
    refine ⟨?_, ?_, rfl, ?_⟩
    · simp only [fromNumber, legNumber, direction, keptFrom, if_neg some_]
      omega
    · simp only [toNumber, legNumber, direction, keptFrom, if_neg some_]
      omega
    · rw [instant, direction]
      rfl

theorem backward_first_call (oracle : LegOracle Payload) (resolved : ResolvedSchedule) (first last)
    (backward : resolved.direction = .backward) (two : 2 ≤ resolved.stops.length) :
    0 < (answeredCalls oracle resolved first last).length ↔
      oracle (resolved.stops.length - 2) (lastArrival last resolved.anchorMs) ≠ none := by
  have hopAt := backward_hop resolved.stops 0 (by omega)
  rw [answeredCalls, startInstant, backward]
  cases hops : hopsOf .backward resolved.stops with
  | nil => simp [hops] at hopAt
  | cons hop rest =>
    obtain ⟨leg, stop⟩ := hop
    rw [hops] at hopAt
    obtain rfl : leg = resolved.stops.length - 2 := congrArg Prod.fst (Option.some.inj hopAt)
    rw [answers]
    cases oracle (resolved.stops.length - 2) (lastArrival last resolved.anchorMs) <;> simp

theorem kept_run_holds_anchor (direction : Direction) (stops)
    (solved : Nat) (two : 2 ≤ stops.length) (bound : solved ≤ stops.length - 1) :
    (keptFrom direction (stops.length - 1) solved ≤ anchoredStop direction stops ∧
        anchoredStop direction stops ≤ keptFrom direction (stops.length - 1) solved + solved) ↔
      (direction = .forward ∨ 0 < solved) := by
  cases direction with
  | forward => simp [keptFrom, anchoredStop]
  | backward =>
    by_cases none_ : solved = 0
    · simp only [keptFrom, anchoredStop, none_]
      constructor
      · intro held
        have reached := held.2
        simp only [if_true] at reached
        omega
      · rintro (forward | positive)
        · cases forward
        · omega
    · simp only [keptFrom, anchoredStop, if_neg none_]
      constructor
      · intro _
        exact .inr (by omega)
      · intro _
        omega

/-- The planner always agrees with its walk except that a backward trip whose
first call is refused keeps the origin and not the anchored destination. -/
theorem plan_agrees_with_walk (platform : ZonePlatform) (resolved : ResolvedSchedule)
    (forward backward : Option (LegOracle Payload)) (providerId : Option String)
    (oracle : LegOracle Payload)
    (supplied : oracleFor resolved.direction forward backward = some oracle)
    (prepared : Prepared resolved.stops) (two : 2 ≤ resolved.stops.length) :
    ∃ first last result, resolved.stops.head? = some first ∧ resolved.stops.getLast? = some last ∧
      planScheduledTrip platform resolved forward backward providerId = .ok result ∧
      (AgreesWithWalk resolved (answeredCalls oracle resolved first last) result ↔
        resolved.direction = .forward ∨
          oracle (resolved.stops.length - 2) (lastArrival last resolved.anchorMs) ≠ none) := by
  have present : resolved.stops ≠ [] := ne_nil_of_length_pos (by omega)
  have origin := head?_eq_some_head present
  have destination := getLast?_eq_some_getLast present
  have within := answered_calls_length_le oracle resolved (resolved.stops.head present)
    (resolved.stops.getLast present)
  obtain ⟨here, there, _, _, planned⟩ := plan_scheduled_trip_ok platform resolved
    forward backward providerId oracle supplied _ _ origin destination
  have lengths := retained_input_lengths resolved (answeredCalls oracle resolved
    (resolved.stops.head present) (resolved.stops.getLast present)) (by omega) within
  have indices := scheduled_stops_indices platform _ lengths here there
  rw [retained_indices resolved _ prepared (by omega) within] at indices
  have anchored := kept_run_holds_anchor resolved.direction resolved.stops _ two within
  have answered : resolved.direction = .forward ∨
      0 < (answeredCalls oracle resolved (resolved.stops.head present)
        (resolved.stops.getLast present)).length ↔
      resolved.direction = .forward ∨ oracle (resolved.stops.length - 2)
        (lastArrival (resolved.stops.getLast present) resolved.anchorMs) ≠ none := by
    cases direction : resolved.direction with
    | forward => simp
    | backward =>
      rw [backward_first_call oracle resolved _ _ direction two]
  refine ⟨_, _, _, origin, destination, planned, ?_⟩
  rw [← answered, ← anchored]
  constructor
  · intro agrees
    obtain ⟨start, run, low, high⟩ := agrees.contiguous
    have sameStart : start = keptFrom resolved.direction (resolved.stops.length - 1)
        (answeredCalls oracle resolved (resolved.stops.head present)
          (resolved.stops.getLast present)).length := by
      have heads := congrArg List.head? (run.symm.trans indices)
      simpa [head?_range'] using heads
    rw [← sameStart]
    exact ⟨low, high⟩
  · intro held
    refine ⟨?_, rfl, _, indices, held.1, held.2⟩
    apply forall₂_iff_get.mpr
    refine ⟨?_, ?_⟩
    · rw [scheduled_legs_length platform _ lengths here there, retainedInput, length_map]
    · intro index callBound legBound
      obtain ⟨leg, legAt, shows_⟩ := call_shown platform resolved oracle prepared _ _ origin
        destination here there index _ (getElem?_eq_getElem callBound)
      have same := (List.getElem?_eq_some_iff.mp legAt).2
      rw [← same] at shows_
      exact shows_

def arriveByTen : ResolvedSchedule where
  stops := [⟨0, "UTC", none, none, 0, false⟩, ⟨1, "UTC", none, none, 0, false⟩]
  anchorMs := 10
  anchor := .arriveBy "2026-07-01T08:00"
  direction := .backward
  violations := []

def refuseAll : LegOracle Unit := fun _ _ => none

def fiveSecondLegs : LegOracle Unit := fun _ _ => some ⟨5, none⟩

theorem arrive_by_ten_prepared : Prepared arriveByTen.stops where
  numbered index stop found := by
    match index with
    | 0 => obtain rfl := Option.some.inj found; rfl
    | 1 => obtain rfl := Option.some.inj found; rfl
    | _ + 2 => simp [arriveByTen] at found
  originWithoutDwell stop found := by obtain rfl := Option.some.inj found; rfl
  destinationWithoutDwell stop found := by obtain rfl := Option.some.inj found; rfl
  wholeDwell stop member := by
    simp only [arriveByTen, mem_cons, not_mem_nil, or_false] at member
    rcases member with rfl | rfl
    · exact ⟨0, by simp⟩
    · exact ⟨0, by simp⟩

theorem arrive_by_ten_agrees : ∃ first last result, arriveByTen.stops.head? = some first ∧
      arriveByTen.stops.getLast? = some last ∧
      planScheduledTrip utcPlatform arriveByTen none (some fiveSecondLegs) none = .ok result ∧
      AgreesWithWalk arriveByTen (answeredCalls fiveSecondLegs arriveByTen first last) result := by
  obtain ⟨first, last, result, origin, destination, planned, agrees⟩ :=
    plan_agrees_with_walk utcPlatform arriveByTen none (some fiveSecondLegs) none fiveSecondLegs
      rfl arrive_by_ten_prepared (by decide)
  exact ⟨first, last, result, origin, destination, planned,
    agrees.mpr (.inr (by simp [fiveSecondLegs]))⟩

/-- The trip must end at stop one at instant ten. When no leg is answered the
schedule keeps stop zero alone. -/
theorem refused_first_call_keeps_origin :
    ∃ result, planScheduledTrip utcPlatform arriveByTen none (some refuseAll) none = .ok result ∧
      result.schedule.stops.map (·.waypointIndex) = [0] ∧
      anchoredStop arriveByTen.direction arriveByTen.stops = 1 ∧
      ∀ first last, ¬ AgreesWithWalk arriveByTen
        (answeredCalls refuseAll arriveByTen first last) result := by
  refine ⟨_, rfl, rfl, rfl, ?_⟩
  intro first last agrees
  obtain ⟨start, run, _, reached⟩ := agrees.contiguous
  have noCalls : (answeredCalls refuseAll arriveByTen first last).length = 0 := rfl
  rw [noCalls] at run reached
  have startsAtOrigin : [0] = range' start 1 := run
  have zero : 0 = start := by simpa using startsAtOrigin
  have anchored : anchoredStop arriveByTen.direction arriveByTen.stops = 1 := rfl
  omega

end OpenMapX.Routing.TripTruncation
