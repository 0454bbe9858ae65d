import Mathlib.Tactic.Linarith
import OpenMapX.Foundation.Runs
import OpenMapX.Navigation.StopCursor

/-!
# The stop cursor along a ride

The accepted fixes of one ride folded through `advanceTransitStopCursor`. A fix moves the
cursor by three stops at most and never back, and a place along the line that a fix could
not have reached since the last fix on the shape is taken only from a candidate that the
fix just before it left.
-/

namespace OpenMapX.Navigation.CursorSafety

open Foundation.Runs TransitTrip StopCursor
open Bool (and_eq_true or_eq_true)

structure Ride where
  cursor : Nat
  alongMeters : ℚ
  tracking : TransitStopTracking
  previous : Option FixInput

def noTracking : TransitStopTracking := ⟨none, none, none⟩

def startRide (previous : Option FixInput) : Ride where
  cursor := 1
  alongMeters := 0
  tracking := noTracking
  previous := previous

def budgetMeters (timestampMs since : ℚ) : ℚ :=
  max 150 (min (max 0 ((timestampMs - since) / 1000)) 1800 * 90)

theorem movement_budget_finite (timestampMs since : ℚ) :
    movementBudget timestampMs (.finite since) = .finite (budgetMeters timestampMs since) := rfl

theorem within_budget_iff (meters timestampMs since : ℚ) :
    (JsNumber.finite meters).le (movementBudget timestampMs (.finite since)) = true ↔
      meters ≤ budgetMeters timestampMs since := by
  simp [movement_budget_finite, JsNumber.le]

theorem budget_nonneg (timestampMs since : ℚ) : 0 ≤ budgetMeters timestampMs since :=
  le_trans (by norm_num) (le_max_left _ _)

section

variable (geometry : LineGeometry) (stops : List CapturedStop)

def progressOf (leg : Option PreparedTransitLeg) (ride : Ride) (accepted : AcceptedFix) :
    CursorProgress :=
  advanceTransitStopCursor geometry stops leg accepted ride.previous ride.cursor
    ride.alongMeters ride.tracking

def rideFix (leg : Option PreparedTransitLeg) (ride : Ride) (accepted : AcceptedFix) : Ride where
  cursor := (progressOf geometry stops leg ride accepted).cursor
  alongMeters := (progressOf geometry stops leg ride accepted).alongMeters
  tracking := (progressOf geometry stops leg ride accepted).tracking.getD noTracking
  previous := some accepted.fix

def projection (leg : PreparedTransitLeg) (ride : Ride) (accepted : AcceptedFix) : RouteSnap :=
  let nearest := geometry.snapPreparedRoute leg.matcher accepted.coords
  if nearest.alongMeters < ride.alongMeters - 50 then
    geometry.projectWaypointAfter leg.matcher accepted.coords (max 0 (ride.alongMeters - 50))
  else nearest

def rawPlausible (ride : Ride) (accepted : AcceptedFix) : Bool :=
  match ride.previous with
  | some previous =>
    (JsNumber.finite (geometry.haversineDistance previous.coords accepted.coords)).le
      (movementBudget accepted.timestampMs previous.timestampMs)
  | none => true

def inCorridor (leg : PreparedTransitLeg) (ride : Ride) (accepted : AcceptedFix) : Bool :=
  decide ((projection geometry leg ride accepted).deviationMeters ≤
      50 + min accepted.accuracy 25) &&
    decide (ride.alongMeters - 50 ≤ (projection geometry leg ride accepted).alongMeters)

def isPlausible (leg : PreparedTransitLeg) (ride : Ride) (accepted : AcceptedFix) : Bool :=
  match ride.tracking.alongTimestampMs with
  | some since => rawPlausible geometry ride accepted &&
    (JsNumber.finite ((projection geometry leg ride accepted).alongMeters -
      ride.alongMeters)).le (movementBudget accepted.timestampMs (.finite since))
  | none => true

def consistentCandidate (leg : PreparedTransitLeg) (ride : Ride) (accepted : AcceptedFix) : Bool :=
  match ride.tracking.candidateAlongMeters, ride.tracking.candidateTimestampMs with
  | some candidateAlong, some candidateAt =>
    decide (accepted.timestampMs - candidateAt ≤ 30000) &&
      rawPlausible geometry ride accepted &&
      (JsNumber.finite |(projection geometry leg ride accepted).alongMeters -
        candidateAlong|).le (movementBudget accepted.timestampMs (.finite candidateAt))
  | _, _ => false

def onShape (leg : Option PreparedTransitLeg) (ride : Ride) (accepted : AcceptedFix) : Bool :=
  leg.any fun leg => inCorridor geometry leg ride accepted &&
    (isPlausible geometry leg ride accepted || consistentCandidate geometry leg ride accepted)

def leftTracking (leg : PreparedTransitLeg) (ride : Ride) (accepted : AcceptedFix) :
    TransitStopTracking :=
  if inCorridor geometry leg ride accepted then
    { ride.tracking with
      candidateAlongMeters := some (projection geometry leg ride accepted).alongMeters,
      candidateTimestampMs := some accepted.timestampMs }
  else
    { alongTimestampMs := ride.tracking.alongTimestampMs
      candidateAlongMeters := none
      candidateTimestampMs := none }

def currentStop (ride : Ride) : Nat := min (max 1 ride.cursor) (stops.length - 1)

def atCurrentStop (ride : Ride) (accepted : AcceptedFix) : Bool :=
  (stops[currentStop stops ride]?.map fun target =>
    decide (geometry.haversineDistance accepted.coords target.location ≤
      35 + min accepted.accuracy 20)).getD false

variable {stops}

theorem progress_without_shape (enough : 2 ≤ stops.length) (ride : Ride) (accepted : AcceptedFix) :
    progressOf geometry stops none ride accepted =
      { cursor := if atCurrentStop geometry stops ride accepted then
            min (currentStop stops ride + 1) (stops.length - 1)
          else currentStop stops ride
        alongMeters := ride.alongMeters
        trusted := atCurrentStop geometry stops ride accepted
        tracking := none } := by
  unfold progressOf advanceTransitStopCursor
  rw [if_neg (by omega)]
  rfl

section

variable (enough : 2 ≤ stops.length) (leg : PreparedTransitLeg) (ride : Ride)
  (accepted : AcceptedFix)
include enough

theorem progress_on_shape (taken : onShape geometry (some leg) ride accepted = true) :
    progressOf geometry stops (some leg) ride accepted =
      { cursor := passStops (orderedAlong geometry stops leg)
          (projection geometry leg ride accepted).alongMeters
          (min (currentStop stops ride + 3) (stops.length - 1)) (currentStop stops ride) 3
        alongMeters := max ride.alongMeters (projection geometry leg ride accepted).alongMeters
        trusted := true
        tracking := some ⟨some accepted.timestampMs, none, none⟩ } := by
  unfold progressOf advanceTransitStopCursor
  rw [if_neg (by omega)]
  apply if_neg
  simp only [onShape, Option.any_some, inCorridor, and_eq_true, or_eq_true] at taken
  obtain ⟨⟨close, ahead⟩, evidence⟩ := taken
  simp only [or_eq_true, Bool.not_eq_true', and_eq_true, not_or, not_and,
    Bool.not_eq_false]
  refine ⟨⟨close, ahead⟩, ?_⟩
  intro unlikely
  rcases evidence with likely | consistent
  · exact absurd (likely.symm.trans unlikely) (by decide)
  · exact consistent

theorem progress_off_shape (refused : onShape geometry (some leg) ride accepted = false) :
    progressOf geometry stops (some leg) ride accepted =
      match nearStop geometry stops accepted (currentStop stops ride),
          rawPlausible geometry ride accepted with
      | some near, true =>
        { cursor := min (near + 1) (stops.length - 1), alongMeters := ride.alongMeters,
          trusted := true, tracking := some (leftTracking geometry leg ride accepted) }
      | _, _ =>
        { cursor := currentStop stops ride, alongMeters := ride.alongMeters, trusted := false,
          tracking := some (leftTracking geometry leg ride accepted) } := by
  unfold progressOf advanceTransitStopCursor
  rw [if_neg (by omega)]
  apply if_pos
  simp only [onShape, Option.any_some, inCorridor, Bool.and_eq_false_iff,
    Bool.or_eq_false_iff] at refused
  simp only [or_eq_true, Bool.not_eq_true', and_eq_true]
  exact refused

end

theorem pass_stops_bounds (projected : List ℚ) (along : ℚ) {limit next : Nat}
    (before : next ≤ limit) (fuel : Nat) : next ≤ passStops projected along limit next fuel ∧
      passStops projected along limit next fuel ≤ limit := by
  induction fuel generalizing next with
  | zero => exact ⟨le_refl _, before⟩
  | succ fuel ih =>
    unfold passStops
    cases projected[next]? with
    | none => exact ⟨le_refl _, before⟩
    | some place =>
      dsimp only
      split
      · rename_i passes
        have passed : next + 1 ≤ limit := passes.1
        have later := ih passed
        exact ⟨by omega, later.2⟩
      · exact ⟨le_refl _, before⟩

theorem near_stop_bounds {accepted} {current near : Nat}
    (found : nearStop geometry stops accepted current = some near) :
    current ≤ near ∧ near ≤ current + 2 := by
  unfold nearStop at found
  rw [Option.map_eq_some_iff] at found
  obtain ⟨entry, first, same⟩ := found
  have place := List.find?_some first
  simp only [and_eq_true, decide_eq_true_eq] at place
  rw [← same]
  exact place.1

structure Steady (cursor : Nat) (alongMeters : ℚ) (result : CursorProgress) : Prop where
  atLeastOne : 1 ≤ result.cursor
  atMostLast : result.cursor ≤ stops.length - 1
  onward : cursor ≤ result.cursor
  nearby : result.cursor ≤ cursor + 3
  along : alongMeters ≤ result.alongMeters
  untrusted : result.trusted = false → result.cursor = cursor ∧ result.alongMeters = alongMeters

theorem current_stop_eq {ride : Ride} (first : 1 ≤ ride.cursor)
    (last : ride.cursor ≤ stops.length - 1) : currentStop stops ride = ride.cursor := by
  unfold currentStop
  omega

variable (enough : 2 ≤ stops.length)
include enough

theorem progress_steady (leg) (ride : Ride) (accepted : AcceptedFix) (first : 1 ≤ ride.cursor)
    (last : ride.cursor ≤ stops.length - 1) : @Steady stops ride.cursor ride.alongMeters
      (progressOf geometry stops leg ride accepted) := by
  have current := current_stop_eq first last
  cases leg with
  | none =>
    rw [progress_without_shape geometry enough, current]
    cases atCurrentStop geometry stops ride accepted with
    | true => constructor <;> simp <;> omega
    | false => constructor <;> simp <;> omega
  | some leg =>
    cases taken : onShape geometry (some leg) ride accepted with
    | true =>
      rw [progress_on_shape geometry enough leg ride accepted taken, current]
      have bounds := @pass_stops_bounds (orderedAlong geometry stops leg)
        (projection geometry leg ride accepted).alongMeters
        (min (ride.cursor + 3) (stops.length - 1)) ride.cursor (by omega) 3
      exact
        { atLeastOne := le_trans first bounds.1
          atMostLast := le_trans bounds.2 (min_le_right _ _)
          onward := bounds.1
          nearby := le_trans bounds.2 (min_le_left _ _)
          along := le_max_left _ _
          untrusted := fun refused => absurd refused (by simp) }
    | false =>
      rw [progress_off_shape geometry enough leg ride accepted taken, current]
      cases found : nearStop geometry stops accepted ride.cursor with
      | none => constructor <;> simp <;> omega
      | some near =>
        have bounds := near_stop_bounds geometry found
        cases rawPlausible geometry ride accepted with
        | true => constructor <;> simp <;> omega
        | false => constructor <;> simp <;> omega

section

variable (leg : PreparedTransitLeg) (ride : Ride) (accepted : AcceptedFix)

theorem tracking_off_shape (refused : onShape geometry (some leg) ride accepted = false) :
    (rideFix geometry stops (some leg) ride accepted).tracking =
      leftTracking geometry leg ride accepted := by
  unfold rideFix
  dsimp only
  rw [progress_off_shape geometry enough leg ride accepted refused]
  cases nearStop geometry stops accepted (currentStop stops ride) with
  | none => rfl
  | some near =>
    cases rawPlausible geometry ride accepted with
    | true => rfl
    | false => rfl

theorem tracking_on_shape (taken : onShape geometry (some leg) ride accepted = true) :
    (rideFix geometry stops (some leg) ride accepted).tracking =
      ⟨some accepted.timestampMs, none, none⟩ := by
  unfold rideFix
  dsimp only
  rw [progress_on_shape geometry enough leg ride accepted taken]
  rfl

end

theorem tracking_without_shape (ride : Ride) (accepted : AcceptedFix) :
    (rideFix geometry stops none ride accepted).tracking = noTracking := by
  unfold rideFix
  dsimp only
  rw [progress_without_shape geometry enough]
  rfl

theorem along_off_shape (leg)
    (ride : Ride) (accepted : AcceptedFix) (refused : onShape geometry leg ride accepted = false) :
    (progressOf geometry stops leg ride accepted).alongMeters = ride.alongMeters := by
  cases leg with
  | none => rw [progress_without_shape geometry enough]
  | some leg =>
    rw [progress_off_shape geometry enough leg ride accepted refused]
    cases nearStop geometry stops accepted (currentStop stops ride) with
    | none => rfl
    | some near =>
      cases rawPlausible geometry ride accepted with
      | true => rfl
      | false => rfl

omit enough

section

variable (leg : Option PreparedTransitLeg) (previous : Option FixInput)

variable (stops) in
def rideAfter (fixes : List AcceptedFix) : Ride :=
  run (rideFix geometry stops leg) fixes (startRide previous)

variable (stops) in
/-- The last fix of a history that was taken on the shape came at `since`. -/
def LastOnShape (history : List AcceptedFix) (since : ℚ) : Prop :=
  ∃ before fix after, history = before ++ fix :: after ∧ fix.timestampMs = since ∧
    onShape geometry leg (rideAfter geometry stops leg previous before) fix = true ∧
    ∀ between other rest, after = between ++ other :: rest →
      onShape geometry leg (rideAfter geometry stops leg previous (before ++ fix :: between))
        other = false

variable (stops) in
/-- The last fix of a history left a candidate at `place`, at the time `since`: it lay in the
corridor of the shape, ahead of the rider, and was not taken. -/
def LeavesCandidate (history : List AcceptedFix) (place since : ℚ) : Prop :=
  ∃ before fix shape, history = before ++ [fix] ∧ leg = some shape ∧
    fix.timestampMs = since ∧
    onShape geometry leg (rideAfter geometry stops leg previous before) fix = false ∧
    inCorridor geometry shape (rideAfter geometry stops leg previous before) fix = true ∧
    (projection geometry shape (rideAfter geometry stops leg previous before) fix).alongMeters =
      place

theorem ride_within (enough : 2 ≤ stops.length) (fixes : List AcceptedFix) :
    1 ≤ (rideAfter geometry stops leg previous fixes).cursor ∧
      (rideAfter geometry stops leg previous fixes).cursor ≤ stops.length - 1 := by
  apply @run_keeps Ride AcceptedFix (rideFix geometry stops leg)
    (fun ride => 1 ≤ ride.cursor ∧ ride.cursor ≤ stops.length - 1)
  · intro ride accepted within
    have steady := progress_steady geometry enough leg ride accepted within.1 within.2
    exact ⟨steady.atLeastOne, steady.atMostLast⟩
  · exact ⟨le_refl _, by simp only [startRide]; omega⟩

theorem ride_snoc (fixes : List AcceptedFix) (accepted : AcceptedFix) :
    rideAfter geometry stops leg previous (fixes ++ [accepted]) =
      rideFix geometry stops leg (rideAfter geometry stops leg previous fixes) accepted :=
  run_snoc _ fixes accepted _

theorem tracking_since (enough : 2 ≤ stops.length) (fixes : List AcceptedFix) {since : ℚ}
    (last : LastOnShape geometry stops leg previous fixes since) :
    (rideAfter geometry stops leg previous fixes).tracking.alongTimestampMs = some since := by
  obtain ⟨before, fix, after, whole, time, taken, later⟩ := last
  obtain ⟨shape, given⟩ : ∃ shape, leg = some shape := by
    cases leg with
    | none => cases taken
    | some shape => exact ⟨shape, rfl⟩
  subst given
  rw [whole]
  clear whole
  induction after using List.reverseRecOn with
  | nil =>
    rw [ride_snoc, tracking_on_shape geometry enough shape _ fix taken, time]
  | append_singleton between other ih =>
    have kept := ih (by
      intro earlier next rest split
      apply later earlier next (rest ++ [other])
      rw [split]
      simp)
    have refused := later between other [] rfl
    rw [show before ++ fix :: (between ++ [other]) = (before ++ fix :: between) ++ [other] by
      simp, ride_snoc, tracking_off_shape geometry enough shape _ other refused]
    unfold leftTracking
    split
    · exact kept
    · exact kept

theorem tracking_candidate (enough : 2 ≤ stops.length) (fixes : List AcceptedFix) {place since : ℚ}
    (atPlace : (rideAfter geometry stops leg previous fixes).tracking.candidateAlongMeters =
      some place)
    (atTime : (rideAfter geometry stops leg previous fixes).tracking.candidateTimestampMs =
      some since) : LeavesCandidate geometry stops leg previous fixes place since := by
  induction fixes using List.reverseRecOn with
  | nil => cases atPlace
  | append_singleton before fix _ =>
    rw [ride_snoc] at atPlace atTime
    cases leg with
    | none =>
      rw [tracking_without_shape geometry enough] at atPlace
      cases atPlace
    | some shape =>
      cases taken : onShape geometry (some shape)
          (rideAfter geometry stops (some shape) previous before) fix with
      | true =>
        rw [tracking_on_shape geometry enough shape _ fix taken] at atPlace
        cases atPlace
      | false =>
        rw [tracking_off_shape geometry enough shape _ fix taken] at atPlace atTime
        unfold leftTracking at atPlace atTime
        cases close : inCorridor geometry shape
            (rideAfter geometry stops (some shape) previous before) fix with
        | false =>
          rw [close, if_neg Bool.false_ne_true] at atPlace
          cases atPlace
        | true =>
          rw [close, if_pos rfl] at atPlace atTime
          exact ⟨before, fix, shape, rfl, rfl, Option.some.inj atTime, taken, close,
            Option.some.inj atPlace⟩

theorem budget_kept (ride : Ride) (shape) (accepted : AcceptedFix) {since : ℚ}
    (enough : 2 ≤ stops.length) (tracked : ride.tracking.alongTimestampMs = some since)
    (beyond : budgetMeters accepted.timestampMs since <
      (progressOf geometry stops (some shape) ride accepted).alongMeters - ride.alongMeters) :
    consistentCandidate geometry shape ride accepted = true := by
  cases taken : onShape geometry (some shape) ride accepted with
  | false =>
    rw [along_off_shape geometry enough (some shape) ride accepted taken, sub_self] at beyond
    exact absurd beyond (budget_nonneg _ _).not_gt
  | true =>
    rw [progress_on_shape geometry enough shape ride accepted taken] at beyond
    dsimp only at beyond
    simp only [onShape, Option.any_some, and_eq_true, or_eq_true] at taken
    cases taken.2 with
    | inr consistent => exact consistent
    | inl likely =>
      unfold isPlausible at likely
      rw [tracked] at likely
      simp only [and_eq_true] at likely
      have moved := (within_budget_iff _ _ _).mp likely.2
      have enoughBudget := budget_nonneg accepted.timestampMs since
      cases max_choice ride.alongMeters
          (projection geometry shape ride accepted).alongMeters with
      | inl stays =>
        rw [stays] at beyond
        linarith
      | inr moves =>
        rw [moves] at beyond
        linarith

/-- Along every sequence of fixes the cursor is steady, and the place moves by more than the
budget since the last fix on the shape only towards a candidate of the fix just before. -/
theorem cursor_safe_against_jumps (enough : 2 ≤ stops.length) (earlier : List AcceptedFix)
    (accepted : AcceptedFix) :
    let ride := rideAfter geometry stops leg previous earlier
    let result := advanceTransitStopCursor geometry stops leg accepted ride.previous ride.cursor
      ride.alongMeters ride.tracking
    @Steady stops ride.cursor ride.alongMeters result ∧
    ∀ since, LastOnShape geometry stops leg previous earlier since →
      budgetMeters accepted.timestampMs since < result.alongMeters - ride.alongMeters →
      ∃ shape place left, leg = some shape ∧
        LeavesCandidate geometry stops leg previous earlier place left ∧
        accepted.timestampMs - left ≤ 30000 ∧
        |(projection geometry shape ride accepted).alongMeters - place| ≤
          budgetMeters accepted.timestampMs left := by
  intro ride result
  have within := ride_within geometry leg previous enough earlier
  refine ⟨progress_steady geometry enough leg ride accepted within.1 within.2, ?_⟩
  intro since last beyond
  obtain ⟨shape, given⟩ : ∃ shape, leg = some shape := by
    obtain ⟨_, _, _, _, _, taken, _⟩ := last
    cases leg with
    | none => cases taken
    | some shape => exact ⟨shape, rfl⟩
  subst given
  have tracked := tracking_since geometry (some shape) previous enough earlier last
  have consistent := budget_kept geometry ride shape accepted enough tracked beyond
  unfold consistentCandidate at consistent
  cases place : ride.tracking.candidateAlongMeters with
  | none => simp [place] at consistent
  | some place' =>
    cases left : ride.tracking.candidateTimestampMs with
    | none => simp [place, left] at consistent
    | some left' =>
      rw [place, left] at consistent
      simp only [and_eq_true, decide_eq_true_eq] at consistent
      refine ⟨shape, place', left', rfl, ?_, consistent.1.1, ?_⟩
      · exact tracking_candidate geometry (some shape) previous enough earlier place left
      · exact (within_budget_iff _ _ _).mp consistent.2

end

end

def straightLine : LineGeometry where
  lineLength := fun _ => 10000
  snapPreparedRoute := fun _ point => ⟨point.lng.value?.getD 0, 0⟩
  projectWaypointAfter := fun _ point _ => ⟨point.lng.value?.getD 0, 0⟩
  resolveWaypointOccurrences := fun _ _ => [10000]
  haversineDistance := fun _ _ => 100

def plainStop (lng : ℚ) : CapturedStop where
  stopId := "stop"
  location := ⟨.finite lng, .finite 0⟩
  expectedDeparture := none
  scheduledDeparture := none
  platform := none
  scheduledPlatform := none
  arrivalPlatform := none
  departurePlatform := none

def fixAlong (meters timestampMs : ℚ) : AcceptedFix where
  fix :=
    { coords := ⟨.finite meters, .finite 0⟩, accuracy := .finite 10, speed := none
      timestampMs := .finite timestampMs, coasted := false }
  accuracy := 10
  timestampMs := timestampMs

def straightLeg : PreparedTransitLeg := ⟨[], 10000⟩

/-- The ride jumps by five kilometres, and the second fix there finds the first one's
candidate. -/
theorem jump_follows_candidate : ∃ shape place left, some straightLeg = some shape ∧
      LeavesCandidate straightLine [plainStop 0, plainStop 10000] (some straightLeg) none
        [fixAlong 0 0, fixAlong 5000 10000] place left ∧
      (fixAlong 5100 20000).timestampMs - left ≤ 30000 ∧
      |(projection straightLine shape (rideAfter straightLine [plainStop 0, plainStop 10000]
          (some straightLeg) none [fixAlong 0 0, fixAlong 5000 10000])
          (fixAlong 5100 20000)).alongMeters - place| ≤
        budgetMeters (fixAlong 5100 20000).timestampMs left := by
  refine (@cursor_safe_against_jumps straightLine [plainStop 0, plainStop 10000]
    (some straightLeg) none (by decide) [fixAlong 0 0, fixAlong 5000 10000]
    (fixAlong 5100 20000)).2 0 ?_ ?_
  · refine ⟨[], fixAlong 0 0, [fixAlong 5000 10000], rfl, rfl, by decide +kernel, ?_⟩
    intro between other rest split
    cases between with
    | nil =>
      obtain ⟨same, -⟩ := List.cons.inj split
      rw [← same]
      decide +kernel
    | cons _ between =>
      have short := congrArg List.length split
      simp at short
  · decide +kernel

end OpenMapX.Navigation.CursorSafety
