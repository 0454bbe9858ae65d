import OpenMapX.Transit.ChainPlan

/-!
# Chains that can be ridden

A backward chain is checked against the services it picked, so a plan without
complaints can be ridden. A forward chain is checked against the departures it
asked for: a service that leaves during the dwell of its stop goes unnoticed.
-/

namespace OpenMapX.Transit.RideableChain

open Routing Routing.TripSchedule Routing.ScheduleConstraints Routing.ScheduledTrip
  Routing.ScheduleOptimality Routing.TripTruncation BackwardChainSchedule ChainPlan List Option

structure Rideable (resolved : ResolvedSchedule) (segments : List ChainedTripSegment) : Prop where
  connects : ∀ (index : Nat) (before after : ChainedTripSegment) (stop : ResolvedStopConstraint),
    segments[index]? = some before → segments[index + 1]? = some after →
    resolved.stops[index + 1]? = some stop →
      before.itinerary.endTime + stop.dwellSeconds * 1000 ≤ after.itinerary.startTime ∧
        ∀ earliest ∈ stop.earliestDepartureMs, earliest ≤ after.itinerary.startTime
  inTime : ∀ (index : Nat) (segment : ChainedTripSegment) (stop : ResolvedStopConstraint),
    segments[index]? = some segment → resolved.stops[index + 1]? = some stop →
      ∀ latest ∈ stop.latestArrivalMs, segment.itinerary.endTime ≤ latest
  anchored : resolved.direction = .backward → ∀ segment, segments.getLast? = some segment →
    segment.itinerary.endTime ≤ resolved.anchorMs

structure WithoutComplaint (resolved : ResolvedSchedule) (plan : ChainedTripPlan) : Prop where
  complete : plan.segments.length + 1 = resolved.stops.length
  violations : plan.schedule.violations = []
  connected : ∀ afterSegment overlap,
    ChainPlanWarning.missedConnection afterSegment overlap ∉ plan.warnings

section

variable {segments : List ChainedTripSegment}

theorem last_with_key (key : ChainedTripSegment → Nat) (offset : Nat)
    (numbered : ∀ (index : Nat) (segment : ChainedTripSegment), segments[index]? = some segment →
      key segment = index + offset)
    (index : Nat) (segment) (found : segments[index]? = some segment) :
    (segments.filter fun segment => key segment = index + offset).getLast? = some segment := by
  have member : segment ∈ segments.filter fun segment => key segment = index + offset := by
    apply mem_filter.mpr
    exact ⟨mem_of_getElem? found, by simp [numbered index segment found]⟩
  obtain ⟨last, isLast⟩ : ∃ last,
      (segments.filter fun segment => key segment = index + offset).getLast? = some last := by
    apply ne_none_iff_exists'.mp
    intro empty
    rw [getLast?_eq_none_iff.mp empty] at member
    simp at member
  obtain ⟨lastMember, lastKey⟩ := mem_filter.mp (mem_of_getLast? isLast)
  obtain ⟨position, lastAt⟩ := mem_iff_getElem?.mp lastMember
  have samePosition : position = index := by
    have here := numbered position last lastAt
    simp only [decide_eq_true_eq] at lastKey
    omega
  rw [samePosition, found] at lastAt
  rw [isLast, lastAt]

/-- Segment `index` leads from stop `index` to the next one. -/
structure Numbered (segments : List ChainedTripSegment) : Prop where
  from_ : ∀ (index : Nat) (segment : ChainedTripSegment), segments[index]? = some segment →
    segment.fromIndex = index
  to_ : ∀ (index : Nat) (segment : ChainedTripSegment), segments[index]? = some segment →
    segment.toIndex = index + 1

section

variable (numbered : Numbered segments) (index : Nat) (segment : ChainedTripSegment)
  (found : segments[index]? = some segment)
include numbered found

theorem arrival_at_segment : arrivalAt segments (index + 1) = some segment.itinerary.endTime := by
  rw [arrivalAt, last_with_key (·.toIndex) 1 numbered.to_ index segment found]
  rfl

theorem departure_at_segment : departureAt segments index = some segment.itinerary.startTime := by
  have last := last_with_key (·.fromIndex) 0 numbered.from_ index segment found
  rw [Nat.add_zero] at last
  rw [departureAt, last]
  rfl

end

end

theorem backward_schedule_rideable (platform : ZonePlatform) (resolved : ResolvedSchedule)
    (prepared : Prepared resolved.stops) (finalStop)
    (destination : resolved.stops.getLast? = some finalStop) (segments)
    (numbered : Numbered segments) (complete : segments.length + 1 = resolved.stops.length)
    (some_ : 0 < segments.length) (violations)
    (clean : (composeBackwardTransitSchedule platform resolved finalStop segments
      violations).violations = []) : Rideable resolved segments := by
  have firstAt := getElem?_eq_getElem some_
  have firstIndex : segments.head?.map (·.fromIndex) = some 0 := by
    rw [head?_eq_getElem?, firstAt, map_some, numbered.from_ 0 _ firstAt]
  have finalIndex : finalStop.index = segments.length := by
    rw [getLast?_eq_getElem?] at destination
    have number := prepared.numbered _ _ destination
    omega
  simp only [composeBackwardTransitSchedule, firstIndex, getD_some, Nat.zero_le,
    decide_true, filter_true, append_eq_nil_iff, flatMap_eq_nil_iff] at clean
  have certified : ∀ (index : Nat) (segment : ChainedTripSegment) (stop : ResolvedStopConstraint),
      segments[index]? = some segment → resolved.stops[index + 1]? = some stop →
      ∀ deadline ∈ deadlineOf resolved finalStop.index stop,
        segment.itinerary.endTime ≤ deadline := by
    intro index segment stop found stopAt
    have stopClean := clean.2 stop (mem_of_getElem? stopAt)
    rw [stopViolations, prepared.numbered _ _ stopAt,
      arrival_at_segment numbered index segment found, append_eq_nil_iff] at stopClean
    exact (late_at_eq_nil resolved finalStop.index stop _).mp stopClean.1
  refine ⟨?_, ?_, ?_⟩
  · intro index before after stop beforeAt afterAt stopAt
    have stopClean := clean.2 stop (mem_of_getElem? stopAt)
    rw [stopViolations, prepared.numbered _ _ stopAt,
      arrival_at_segment numbered index before beforeAt,
      departure_at_segment numbered (index + 1) after afterAt,
      append_eq_nil_iff] at stopClean
    exact (departure_after_le_iff _ _ _).mp ((early_at_eq_nil _ _ _ _).mp stopClean.2)
  · intro index segment stop found stopAt latest window
    have bound := certified index segment stop found stopAt
    unfold deadlineOf at bound
    by_cases last : stop.index = finalStop.index
    · rw [if_pos last, mem_def.mp window] at bound
      exact (bound _ rfl).trans (min_le_right _ _)
    · rw [if_neg last] at bound
      exact bound latest window
  · intro _ segment isLast
    rw [getLast?_eq_getElem?] at isLast destination
    have stopAt : resolved.stops[segments.length - 1 + 1]? = some finalStop := by
      rw [← destination]
      congr 1
      omega
    have bound := certified _ segment finalStop isLast stopAt
    unfold deadlineOf at bound
    rw [if_pos rfl] at bound
    exact (bound _ rfl).trans (min_le_left _ _)

section

variable (stops : List ResolvedStopConstraint) (segments : List ChainedTripSegment)

theorem with_boarding_waits_cell (index : Nat) : ((withBoardingWaits stops segments)[index]?).map
        (fun segment => (segment.fromIndex, segment.toIndex, segment.itinerary)) =
      (segments[index]?).map
        (fun segment => (segment.fromIndex, segment.toIndex, segment.itinerary)) := by
  cases segments with
  | nil => rfl
  | cons first rest =>
    cases index with
    | zero => rfl
    | succ index =>
      simp only [withBoardingWaits, take_succ_cons, take_zero, tail_cons,
        cons_append, nil_append, getElem?_cons_succ, getElem?_zipWith]
      cases restAt : rest[index]? with
      | none => simp
      | some segment =>
        have bound := (List.getElem?_eq_some_iff.mp restAt).1
        rw [getElem?_eq_getElem (show index < (first :: rest).length by
          rw [length_cons]; omega)]
        rfl

theorem with_boarding_waits_length :
    (withBoardingWaits stops segments).length = segments.length := by
  cases segments with
  | nil => rfl
  | cons first rest => simp [withBoardingWaits]

end

def pickedItinerary (args : PlanTransitChainArgs) (stops : List ResolvedStopConstraint)
    (planTrip : PlanTrip) (pinArrival : Bool) (segmentIndex : Nat) (instantMs : ℚ) :
    Option TripItinerary :=
  (planTrip segmentIndex (segmentRequest args segmentIndex instantMs pinArrival)).bind fun result =>
    selectItinerary (usableItineraries pinArrival result.itineraries)
      (segmentDeadline stops segmentIndex instantMs pinArrival)

section

variable (args : PlanTransitChainArgs) (stops : List ResolvedStopConstraint) (planTrip : PlanTrip)

theorem run_segment_pick (pinArrival : Bool) (segmentIndex : Nat) (instantMs : ℚ) :
    ((runSegment args stops planTrip pinArrival segmentIndex instantMs).segment).map
        (fun segment => (segment.fromIndex, segment.toIndex, segment.itinerary)) =
      (pickedItinerary args stops planTrip pinArrival segmentIndex instantMs).map
        fun chosen => (segmentIndex, segmentIndex + 1, chosen) := by
  unfold runSegment pickedItinerary
  cases planTrip segmentIndex (segmentRequest args segmentIndex instantMs pinArrival) with
  | none => rfl
  | some result =>
    simp only [bind_some]
    cases selectItinerary (usableItineraries pinArrival result.itineraries)
        (segmentDeadline stops segmentIndex instantMs pinArrival) with
    | none => rfl
    | some chosen => rfl

theorem run_segment_ran (pinArrival : Bool) (segmentIndex : Nat) (instantMs : ℚ) (segment)
    (ran : (runSegment args stops planTrip pinArrival segmentIndex instantMs).segment =
      some segment) : segment.fromIndex = segmentIndex ∧ segment.toIndex = segmentIndex + 1 ∧
      pickedItinerary args stops planTrip pinArrival segmentIndex instantMs =
        some segment.itinerary := by
  have pick := run_segment_pick args stops planTrip pinArrival segmentIndex instantMs
  rw [ran, map_some] at pick
  obtain ⟨chosen, picked, fields⟩ := map_eq_some_iff.mp pick.symm
  simp only [Prod.mk.injEq] at fields
  obtain ⟨from_, to_, rfl⟩ := fields
  exact ⟨from_.symm, to_.symm, picked⟩

theorem backward_runs_hop (deadline : ℚ) (hops) (position : Nat) (segment)
    (found : ((backwardRuns (runSegment args stops planTrip true) deadline hops).filterMap
      (·.segment))[position]? = some segment) :
    ∃ hop, hops[position]? = some hop ∧ segment.fromIndex = hop.1 ∧
      segment.toIndex = hop.1 + 1 := by
  induction hops generalizing deadline position with
  | nil => simp [backwardRuns] at found
  | cons hop rest ih =>
    obtain ⟨index, stop⟩ := hop
    rw [backwardRuns] at found
    cases ran : (runSegment args stops planTrip true index deadline).segment with
    | none => simp [ran] at found
    | some here =>
      rw [ran, filterMap_cons_some ran] at found
      cases position with
      | zero =>
        obtain rfl := Option.some.inj found
        obtain ⟨from_, to_, _⟩ := run_segment_ran args stops planTrip true index deadline
          here ran
        exact ⟨_, rfl, from_, to_⟩
      | succ position => exact ih _ position found

end

theorem backward_chain_rideable (args) (platform : ZonePlatform) (planTrip : PlanTrip)
    (resolved : ResolvedSchedule) (prepared : Prepared resolved.stops) (finalStop)
    (destination : resolved.stops.getLast? = some finalStop) (two : 2 ≤ resolved.stops.length)
    (clean : WithoutComplaint resolved
      (planBackwardChain args platform planTrip resolved finalStop)) :
    Rideable resolved (planBackwardChain args platform planTrip resolved finalStop).segments := by
  have complete := clean.complete
  have violations := clean.violations
  simp only [planBackwardChain, chainPlan] at complete violations ⊢
  have count := complete
  rw [with_boarding_waits_length, length_reverse] at count
  have numbered : Numbered (withBoardingWaits resolved.stops
      ((backwardRuns (runSegment args resolved.stops planTrip true)
        (min resolved.anchorMs (finalStop.latestArrivalMs.getD resolved.anchorMs))
        (backwardHops resolved.stops)).filterMap (·.segment)).reverse) := by
    have cell : ∀ (index : Nat) (segment : ChainedTripSegment),
        (withBoardingWaits resolved.stops
          ((backwardRuns (runSegment args resolved.stops planTrip true)
            (min resolved.anchorMs (finalStop.latestArrivalMs.getD resolved.anchorMs))
            (backwardHops resolved.stops)).filterMap (·.segment)).reverse)[index]? = some segment →
          segment.fromIndex = index ∧ segment.toIndex = index + 1 := by
      intro index segment found
      have bound := (List.getElem?_eq_some_iff.mp found).1
      rw [with_boarding_waits_length, length_reverse] at bound
      have same := with_boarding_waits_cell resolved.stops
        ((backwardRuns (runSegment args resolved.stops planTrip true)
          (min resolved.anchorMs (finalStop.latestArrivalMs.getD resolved.anchorMs))
          (backwardHops resolved.stops)).filterMap (·.segment)).reverse index
      rw [found, getElem?_reverse bound] at same
      obtain ⟨original, originalAt, fields⟩ := map_eq_some_iff.mp same.symm
      obtain ⟨hop, hopAt, from_, to_⟩ := backward_runs_hop args resolved.stops planTrip _ _ _
        original originalAt
      have expected := backward_hop resolved.stops _ (show
        (List.filterMap (·.segment) (backwardRuns (runSegment args resolved.stops planTrip true)
          (min resolved.anchorMs (finalStop.latestArrivalMs.getD resolved.anchorMs))
          (backwardHops resolved.stops))).length - 1 - index + 1 < resolved.stops.length by omega)
      have sameHop := hopAt.symm.trans expected
      have leg : hop.1 = index := by
        rw [Option.some.inj sameHop]
        simp only
        omega
      simp only [Prod.mk.injEq] at fields
      rw [← fields.1, ← fields.2.1, from_, to_, leg]
      exact ⟨rfl, rfl⟩
    exact ⟨fun index segment found => (cell index segment found).1,
      fun index segment found => (cell index segment found).2⟩
  exact backward_schedule_rideable platform resolved prepared finalStop destination _ numbered
    complete (by omega) _ violations

/-- The provider's picks along a forward chain: asked for segment `leg` at the
given instant, it answered and this itinerary is the one to ride. -/
inductive ForwardPick (args : PlanTransitChainArgs) (resolved : ResolvedSchedule)
    (planTrip : PlanTrip) : Nat → ℚ → TripItinerary → Prop where
  | first {first : ResolvedStopConstraint} {chosen : TripItinerary}
      (origin : resolved.stops.head? = some first)
      (picked : pickedItinerary args resolved.stops planTrip false 0
        (firstDeparture first resolved.anchorMs) = some chosen) :
      ForwardPick args resolved planTrip 0 (firstDeparture first resolved.anchorMs) chosen
  | next {leg : Nat} {instant : ℚ} {chosen later : TripItinerary} {stop : ResolvedStopConstraint}
      (before : ForwardPick args resolved planTrip leg instant chosen)
      (stopAt : resolved.stops[leg + 1]? = some stop) (inner : leg + 2 < resolved.stops.length)
      (picked : pickedItinerary args resolved.stops planTrip false (leg + 1)
        (forwardAdvance stop instant (forwardSeconds chosen instant)) = some later) :
      ForwardPick args resolved planTrip (leg + 1)
        (forwardAdvance stop instant (forwardSeconds chosen instant)) later

/-- No pick leaves a stop after the previous one lands but before its dwell and
window allow, and none lands past a deadline by less than the rounding hides. -/
structure KeepsStops (args : PlanTransitChainArgs) (resolved : ResolvedSchedule)
    (planTrip : PlanTrip) : Prop where
  outsideDwell : ∀ leg instant before asked after stop,
    ForwardPick args resolved planTrip leg instant before →
    ForwardPick args resolved planTrip (leg + 1) asked after →
    resolved.stops[leg + 1]? = some stop →
      ¬ (before.endTime ≤ after.startTime ∧ after.startTime < departureAfter stop before.endTime)
  outsideRounding : ∀ leg instant chosen stop,
    ForwardPick args resolved planTrip leg instant chosen →
    resolved.stops[leg + 1]? = some stop → ∀ latest ∈ stop.latestArrivalMs,
      ¬ (latest < chosen.endTime ∧ instant + forwardSeconds chosen instant * 1000 ≤ latest)

theorem segment_oracle_reply (run : Nat → ℚ → SegmentRun) (leg : Nat) (instant : ℚ) (travel)
    (reply : segmentOracle run leg instant = some travel) :
    ∃ segment, (run leg instant).segment = some segment ∧
      travel = ⟨forwardSeconds segment.itinerary instant, some segment⟩ := by
  obtain ⟨segment, ran, rfl⟩ := map_eq_some_iff.mp reply
  exact ⟨segment, ran, rfl⟩

theorem segment_oracle_pick (args stops) (planTrip : PlanTrip) (leg : Nat) (instant : ℚ)
    (chosen : TripItinerary)
    (picked : pickedItinerary args stops planTrip false leg instant = some chosen) :
    ∃ segment, segment.itinerary = chosen ∧
      segmentOracle (runSegment args stops planTrip false) leg instant =
        some ⟨forwardSeconds chosen instant, some segment⟩ := by
  have pick := run_segment_pick args stops planTrip false leg instant
  rw [picked, map_some] at pick
  obtain ⟨segment, ran, fields⟩ := map_eq_some_iff.mp pick
  simp only [Prod.mk.injEq] at fields
  obtain ⟨_, _, rfl⟩ := fields
  refine ⟨segment, rfl, ?_⟩
  rw [segmentOracle, ran]
  rfl

theorem forward_runs_answers (run : Nat → ℚ → SegmentRun) (instant : ℚ) (hops) :
    ((forwardRuns run instant hops).filterMap (·.segment)).map some =
      (answers (segmentOracle run) forwardAdvance instant hops).map (·.travel.payload) := by
  induction hops generalizing instant with
  | nil => rfl
  | cons hop rest ih =>
    obtain ⟨leg, stop⟩ := hop
    rw [forwardRuns, answers, segmentOracle]
    cases ran : (run leg instant).segment with
    | none => simp [ran]
    | some segment =>
      rw [filterMap_cons_some ran, map_cons, ih]
      rfl

section

variable (args : PlanTransitChainArgs) (planTrip : PlanTrip) (resolved : ResolvedSchedule)
  (first last : ResolvedStopConstraint)

def forwardCalls : List (AskedLeg ChainedTripSegment) :=
  answeredCalls (segmentOracle (runSegment args resolved.stops planTrip false)) resolved first last

def forwardSegments : List ChainedTripSegment :=
  (forwardRuns (runSegment args resolved.stops planTrip false)
    (firstDeparture first resolved.anchorMs) (forwardHops resolved.stops)).filterMap (·.segment)

variable (forward : resolved.direction = .forward)

include forward

theorem forward_calls_eq : forwardCalls args planTrip resolved first last =
      answers (segmentOracle (runSegment args resolved.stops planTrip false)) forwardAdvance
        (firstDeparture first resolved.anchorMs) (forwardHops resolved.stops) := by
  rw [forwardCalls, answeredCalls, startInstant, forward]
  rfl

theorem forward_segments_calls : (forwardSegments args planTrip resolved first).map some =
      (forwardCalls args planTrip resolved first last).map (·.travel.payload) := by
  rw [forward_calls_eq _ _ _ _ _ forward]
  exact forward_runs_answers _ _ _

theorem forward_segment_call (index : Nat) (segment)
    (found : (forwardSegments args planTrip resolved first)[index]? = some segment) :
    ∃ instant, (forwardCalls args planTrip resolved first last)[index]? =
        some ⟨index, instant, ⟨forwardSeconds segment.itinerary instant, some segment⟩⟩ ∧
      pickedItinerary args resolved.stops planTrip false index instant =
        some segment.itinerary := by
  have cells := congrArg (·[index]?)
    (forward_segments_calls args planTrip resolved first last forward)
  simp only [getElem?_map, found, map_some] at cells
  obtain ⟨call, callAt, payload⟩ := map_eq_some_iff.mp cells.symm
  have number := forward_call_leg _ resolved first last forward index call callAt
  have replied := answer_replied _ _ _ _ call (mem_of_getElem? callAt)
  obtain ⟨ranSegment, ran, travel⟩ := segment_oracle_reply _ _ _ _ replied
  obtain ⟨leg, instant, reply⟩ := call
  simp only at number ran travel payload
  subst number travel
  obtain rfl := Option.some.inj payload
  exact ⟨instant, callAt, (run_segment_ran _ _ _ _ _ _ _ ran).2.2⟩

theorem forward_segment_pick (origin : resolved.stops.head? = some first) (index : Nat) (segment)
    (found : (forwardSegments args planTrip resolved first)[index]? = some segment) (instant : ℚ)
    (call) (callAt : (forwardCalls args planTrip resolved first last)[index]? = some call)
    (asked : call.instantMs = instant) :
    ForwardPick args resolved planTrip index instant segment.itinerary := by
  induction index generalizing segment instant call with
  | zero =>
    obtain ⟨calledAt, sameCall, picked⟩ := forward_segment_call args planTrip resolved first last
      forward 0 segment found
    obtain rfl := Option.some.inj (callAt.symm.trans sameCall)
    rw [forward_calls_eq _ _ _ _ _ forward] at callAt
    have start := answer_first _ _ _ _ _ callAt
    simp only at asked start
    rw [start] at asked picked
    rw [← asked]
    exact .first origin picked
  | succ index ih =>
    obtain ⟨calledAt, sameCall, picked⟩ := forward_segment_call args planTrip resolved first last
      forward (index + 1) segment found
    obtain rfl := Option.some.inj (callAt.symm.trans sameCall)
    have within := answered_calls_length_le
      (segmentOracle (runSegment args resolved.stops planTrip false)) resolved first last
    have bound := (List.getElem?_eq_some_iff.mp callAt).1
    have segmentBound := (List.getElem?_eq_some_iff.mp found).1
    rw [forwardCalls] at bound
    have beforeAt := getElem?_eq_getElem
      (l := forwardSegments args planTrip resolved first) (show index < _ by omega)
    obtain ⟨beforeInstant, beforeCall, _⟩ := forward_segment_call args planTrip resolved first
      last forward index _ beforeAt
    have pickBefore := ih _ beforeAt beforeInstant _ beforeCall rfl
    have hopAt := forward_hop resolved.stops index (by omega)
    rw [forward_calls_eq _ _ _ _ _ forward] at beforeCall callAt
    have moved := answer_step _ _ _ _ index _ _ beforeCall callAt _ _ hopAt
    simp only at asked moved
    rw [moved] at asked picked
    rw [← asked]
    exact .next pickBefore (getElem?_eq_getElem (by omega)) (by omega) picked

theorem forward_pick_segment (leg : Nat) (instant : ℚ) (chosen : TripItinerary)
    (origin : resolved.stops.head? = some first) (two : 2 ≤ resolved.stops.length)
    (pick : ForwardPick args resolved planTrip leg instant chosen) :
    ∃ segment, segment.itinerary = chosen ∧
      (forwardSegments args planTrip resolved first)[leg]? = some segment ∧
      (forwardCalls args planTrip resolved first last)[leg]? =
        some ⟨leg, instant, ⟨forwardSeconds chosen instant, some segment⟩⟩ := by
  have recorded : ∀ (leg : Nat) (instant : ℚ) (chosen : TripItinerary)
      (segment : ChainedTripSegment),
      (forwardCalls args planTrip resolved first last)[leg]? =
        some ⟨leg, instant, ⟨forwardSeconds chosen instant, some segment⟩⟩ →
      (forwardSegments args planTrip resolved first)[leg]? = some segment := by
    intro leg instant chosen segment callAt
    have cells := congrArg (·[leg]?)
      (forward_segments_calls args planTrip resolved first last forward)
    simp only [getElem?_map, callAt, map_some] at cells
    obtain ⟨here, hereAt, same⟩ := map_eq_some_iff.mp cells
    obtain rfl := Option.some.inj same
    exact hereAt
  induction pick with
  | first origin' picked =>
    obtain rfl := Option.some.inj (origin.symm.trans origin')
    obtain ⟨segment, rides, reply⟩ := segment_oracle_pick args resolved.stops planTrip 0 _ _ picked
    have hopAt := forward_hop resolved.stops 0 (by omega)
    have answered := first_answer (segmentOracle (runSegment args resolved.stops planTrip false))
      forwardAdvance _ _ 0 _ _ hopAt reply
    change (answers _ _ _ (forwardHops resolved.stops))[0]? = _ at answered
    rw [← forward_calls_eq _ _ _ _ last forward] at answered
    exact ⟨segment, rides, recorded _ _ _ segment answered, answered⟩
  | @next leg instant chosen later stop before stopAt inner picked ih =>
    obtain ⟨_, _, _, beforeCall⟩ := ih
    obtain ⟨segment, rides, reply⟩ := segment_oracle_pick args resolved.stops planTrip _ _ _ picked
    have hopAt := forward_hop resolved.stops leg (by omega)
    have nextAt := forward_hop resolved.stops (leg + 1) (by omega)
    have sameStop : resolved.stops[leg + 1] = stop := (List.getElem?_eq_some_iff.mp stopAt).2
    rw [sameStop] at hopAt
    rw [forward_calls_eq _ _ _ _ _ forward] at beforeCall
    have answered := next_answer (segmentOracle (runSegment args resolved.stops planTrip false))
      forwardAdvance _ _ leg _ _ _ _ _ _ beforeCall hopAt nextAt reply
    rw [← forward_calls_eq _ _ _ _ last forward] at answered
    exact ⟨segment, rides, recorded _ _ _ segment answered, answered⟩

theorem forward_arrivals_in_time (platform : ZonePlatform) (here there)
    (origin : resolved.stops.head? = some first)
    (complete : (forwardCalls args planTrip resolved first last).length + 1 = resolved.stops.length)
    (clean : (tripScheduleOf platform
      (retainedInput resolved (forwardCalls args planTrip resolved first last))
      here there).violations = []) (index : Nat) (call stop)
    (callAt : (forwardCalls args planTrip resolved first last)[index]? = some call)
    (stopAt : resolved.stops[index + 1]? = some stop) :
    ∀ latest ∈ stop.latestArrivalMs, call.instantMs + call.travel.seconds * 1000 ≤ latest := by
  have instant := forward_call_instant _ resolved first last origin forward index call callAt
  have keptStop := retained_stop resolved (forwardCalls args planTrip resolved first last)
    (index + 1) (by have bound := (List.getElem?_eq_some_iff.mp callAt).1; omega)
  have legAt := retained_leg resolved (forwardCalls args planTrip resolved first last) index call
    (by rw [forward]; exact callAt)
  have lengths := retained_input_lengths resolved
    (forwardCalls args planTrip resolved first last) (by omega) (by omega)
  rw [forward, keptFrom, Nat.zero_add, stopAt] at keptStop
  have noRow := (timeline_violations_eq_nil _ _).mp clean
  have sameInput : retainedInput resolved (forwardCalls args planTrip resolved first last) =
      ⟨(retainedInput resolved (forwardCalls args planTrip resolved first last)).stops,
        (retainedInput resolved (forwardCalls args planTrip resolved first last)).legSeconds,
        resolved.anchorMs, .forward⟩ := by
    rw [← forward]
    rfl
  have rowAt := forward_timeline_cell resolved.anchorMs lengths index _ _ legAt
    keptStop
  rw [← sameInput] at rowAt
  have inTime := (lateArrival_eq_none _ _).mp (noRow _ (mem_of_getElem? rowAt))
  have shown : call.instantMs = chainDeparture
      (retainedInput resolved (forwardCalls args planTrip resolved first last)).stops
      (retainedInput resolved (forwardCalls args planTrip resolved first last)).legSeconds
      resolved.anchorMs index := by
    rw [instant]
    simp only [shownTimeline, retainedInput, forward]
    rfl
  rw [shown]
  exact inTime

end

theorem missed_connections_nil (segments) (connected : ∀ afterSegment overlap,
      ChainPlanWarning.missedConnection afterSegment overlap ∉ missedConnections segments)
    (index : Nat) (before after) (beforeAt : segments[index]? = some before)
    (afterAt : segments[index + 1]? = some after) :
    before.itinerary.endTime ≤ after.itinerary.startTime := by
  induction segments generalizing index with
  | nil => simp at beforeAt
  | cons here rest ih =>
    cases rest with
    | nil => simp at afterAt
    | cons next others =>
      cases index with
      | zero =>
        obtain rfl := Option.some.inj beforeAt
        obtain rfl : next = after := by simpa using afterAt
        by_contra late
        apply connected here.fromIndex
          (mathRound ((here.itinerary.endTime - next.itinerary.startTime) / 1000))
        rw [missedConnections, if_pos (not_le.mp late)]
        exact mem_append_left _ mem_cons_self
      | succ index =>
        refine ih ?_ index (by simpa using beforeAt) (by simpa using afterAt)
        intro afterSegment overlap member
        apply connected afterSegment overlap
        rw [missedConnections]
        exact mem_append_right _ member

theorem forward_chain_rideable_iff (args) (platform : ZonePlatform) (planTrip : PlanTrip)
    (resolved : ResolvedSchedule) (forward : resolved.direction = .forward) (first)
    (origin : resolved.stops.head? = some first) (two : 2 ≤ resolved.stops.length) :
    ∃ plan, planForwardChain args platform planTrip resolved first = .ok plan ∧
      (WithoutComplaint resolved plan →
        (Rideable resolved plan.segments ↔ KeepsStops args resolved planTrip)) := by
  obtain ⟨last, destination⟩ : ∃ last, resolved.stops.getLast? = some last :=
    ⟨_, getLast?_eq_some_getLast (ne_nil_of_length_pos (by omega))⟩
  obtain ⟨here, there, _, _, planned⟩ := plan_scheduled_trip_ok platform resolved
    (some (segmentOracle (runSegment args resolved.stops planTrip false))) none none
    (segmentOracle (runSegment args resolved.stops planTrip false))
    (by rw [forward]; rfl) first last origin destination
  refine ⟨_, by rw [planForwardChain, planned], ?_⟩
  rintro ⟨complete, violations, connected⟩
  simp only [chainPlan] at complete violations connected ⊢
  change (forwardSegments args planTrip resolved first).length + 1 = _ at complete
  change Rideable resolved (forwardSegments args planTrip resolved first) ↔ _
  have connected_ := missed_connections_nil (forwardSegments args planTrip resolved first)
    (fun afterSegment overlap member => connected afterSegment overlap
      (mem_append_right _ member))
  have calls := congrArg List.length
    (forward_segments_calls args planTrip resolved first last forward)
  rw [length_map, length_map] at calls
  have inTime := forward_arrivals_in_time args planTrip resolved first last forward platform here
    there origin (by omega) (append_eq_nil_iff.mp violations).2
  constructor
  · intro rideable
    refine ⟨?_, ?_⟩
    · rintro leg instant before asked after stop pickBefore pickAfter stopAt ⟨_, early⟩
      obtain ⟨beforeSegment, rfl, beforeAt, _⟩ := forward_pick_segment args planTrip resolved first
        last forward leg instant before origin two pickBefore
      obtain ⟨afterSegment, rfl, afterAt, _⟩ := forward_pick_segment args planTrip resolved first
        last forward (leg + 1) asked after origin two pickAfter
      have ready := (departure_after_le_iff _ _ _).mpr
        (rideable.connects leg _ _ stop beforeAt afterAt stopAt)
      exact absurd ready (not_le.mpr early)
    · rintro leg instant chosen stop pick stopAt latest window ⟨late, _⟩
      obtain ⟨segment, rfl, segmentAt, _⟩ := forward_pick_segment args planTrip resolved first
        last forward leg instant chosen origin two pick
      exact absurd (rideable.inTime leg segment stop segmentAt stopAt latest window)
        (not_le.mpr late)
  · intro keeps
    have picked : ∀ (index : Nat) (segment : ChainedTripSegment),
        (forwardSegments args planTrip resolved first)[index]? = some segment →
        ∃ instant, ForwardPick args resolved planTrip index instant segment.itinerary ∧
          (forwardCalls args planTrip resolved first last)[index]? =
            some ⟨index, instant, ⟨forwardSeconds segment.itinerary instant, some segment⟩⟩ := by
      intro index segment found
      obtain ⟨instant, callAt, _⟩ := forward_segment_call args planTrip resolved first last forward
        index segment found
      exact ⟨instant, forward_segment_pick args planTrip resolved first last forward origin index
        segment found instant _ callAt rfl, callAt⟩
    refine ⟨?_, ?_, ?_⟩
    · intro index before after stop beforeAt afterAt stopAt
      obtain ⟨instant, pickBefore, _⟩ := picked index before beforeAt
      obtain ⟨asked, pickAfter, _⟩ := picked (index + 1) after afterAt
      have lands := connected_ index before after beforeAt afterAt
      have outside := keeps.outsideDwell index instant _ asked _ stop pickBefore pickAfter stopAt
      apply (departure_after_le_iff _ _ _).mp
      exact not_lt.mp fun early => outside ⟨lands, early⟩
    · intro index segment stop found stopAt latest window
      obtain ⟨instant, pick, callAt⟩ := picked index segment found
      have arrived := inTime index _ stop callAt stopAt latest window
      have outside := keeps.outsideRounding index instant _ stop pick stopAt latest window
      exact not_lt.mp fun late => outside ⟨late, arrived⟩
    · intro backward
      rw [forward] at backward
      cases backward

def minuteChain : PlanTransitChainArgs where
  waypoints := [⟨0, 0⟩, ⟨1, 1⟩, ⟨2, 2⟩]
  schedules := [none, some ⟨none, none, none, some 60, none⟩, none]
  anchor := .now
  nowMs := 0

/-- Offers one service a segment: each leaves the moment the one before it lands. -/
def seamlessServices : PlanTrip := fun segmentIndex _ =>
  some ⟨[⟨segmentIndex * 1000, (segmentIndex + 1) * 1000, none, []⟩], some "rail"⟩

end OpenMapX.Transit.RideableChain
