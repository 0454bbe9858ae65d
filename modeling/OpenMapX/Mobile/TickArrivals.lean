import OpenMapX.Mobile.TransitBatch
import OpenMapX.Navigation.RiderProgress

/-!
# Ticks that arrive

A tick ends the trip where the last walk is walked or the last ride is left. It then
sets the phase and emits the arrival, and the emission is dropped if the id of the
arrival is already known.
-/

namespace OpenMapX.Mobile.TickArrivals

open Navigation.TransitTrip Navigation.StopTargets Navigation.StopCursor Navigation.TransitFix
  Navigation.RiderProgress TransitBatch List Bool

structure Keeps (before after : Tick) : Prop where
  emitted : after.events.any isArrival = before.events.any isArrival
  phase : after.state.phase = before.state.phase
  lastAction : after.state.lastAction = before.state.lastAction

structure Arrives (ends known : Bool) (before after : Tick) : Prop where
  emitted : after.events.any isArrival = (before.events.any isArrival || (ends && !known))
  phase : after.state.phase = .arrived ↔ ends = true
  lastAction : after.state.lastAction = before.state.lastAction

def arrivalKnown (fingerprint : String) (index : Nat) (ids : List String) : Bool :=
  ids.contains (eventId fingerprint (.arrival index))

theorem Keeps.refl (tick : Tick) : Keeps tick tick where
  emitted := rfl
  phase := rfl
  lastAction := rfl

theorem Keeps.trans {first second third : Tick} (before : Keeps first second)
    (after : Keeps second third) : Keeps first third where
  emitted := after.emitted.trans before.emitted
  phase := after.phase.trans before.phase
  lastAction := after.lastAction.trans before.lastAction

theorem Keeps.arrives {before after : Tick} (keeps : Keeps before after)
    (under : before.state.phase ≠ .arrived) (known : Bool) : Arrives false known before after where
  emitted := by rw [keeps.emitted, Bool.false_and, Bool.or_false]
  phase := by
    rw [keeps.phase]
    exact iff_of_false under Bool.false_ne_true
  lastAction := keeps.lastAction

theorem Arrives.keeps {ends known : Bool} {first second third : Tick}
    (before : Arrives ends known first second) (after : Keeps second third) :
    Arrives ends known first third where
  emitted := after.emitted.trans before.emitted
  phase := by
    rw [after.phase]
    exact before.phase
  lastAction := after.lastAction.trans before.lastAction

theorem Keeps.then_arrives {ends known : Bool} {first second third : Tick}
    (before : Keeps first second) (after : Arrives ends known second third) :
    Arrives ends known first third where
  emitted := by
    rw [after.emitted, before.emitted]
  phase := after.phase
  lastAction := after.lastAction.trans before.lastAction

section

variable (fingerprint : String)

theorem emit_keeps (tick : Tick) (body : TransitEventBody)
    (other : isArrival { id := eventId fingerprint body, body := body } = false) :
    Keeps tick (emit fingerprint tick body) := by
  unfold emit
  dsimp only
  split
  · exact Keeps.refl tick
  · exact {
      emitted := by
        rw [any_append, any_cons, any_nil, other, Bool.or_false, Bool.or_false]
      phase := rfl
      lastAction := rfl }

theorem emit_arrives (tick : Tick) (index : Nat) (arrived : tick.state.phase = .arrived) :
    Arrives true (arrivalKnown fingerprint index tick.state.emittedEventIds) tick
      (emit fingerprint tick (.arrival index)) := by
  unfold emit arrivalKnown
  dsimp only
  split
  · rename_i known
    exact {
      emitted := by rw [known, Bool.not_true, Bool.and_false, Bool.or_false]
      phase := iff_of_true arrived rfl
      lastAction := rfl }
  · rename_i unknown
    rw [not_eq_true] at unknown
    exact {
      emitted := by
        rw [unknown, any_append, any_cons, any_nil]
        rfl
      phase := iff_of_true arrived rfl
      lastAction := rfl }

variable (legs : List TransitLeg) (nowMs : ℤ)

theorem reset_arrives_not (tick : Tick) (index : Nat) (known : Bool) :
    Arrives false known tick (resetLeg fingerprint legs nowMs tick index) := by
  have moved : Keeps tick (if index = tick.state.currentLegIndex then tick
      else emit fingerprint tick (.transfer tick.state.currentLegIndex index)) := by
    split
    · exact Keeps.refl tick
    · exact emit_keeps fingerprint tick _ rfl
  exact {
    emitted := by
      rw [Bool.false_and, Bool.or_false]
      exact moved.emitted
    phase := iff_of_false (entry_not_arrived legs index) Bool.false_ne_true
    lastAction := moved.lastAction }

theorem board_arrives_not (tick : Tick) (index : Nat) (known : Bool) :
    Arrives false known tick (boardRide fingerprint legs nowMs tick index) := by
  have reset := reset_arrives_not fingerprint legs nowMs tick index known
  have riding : Arrives false known tick
      (Tick.mk { (resetLeg fingerprint legs nowMs tick index).state with
        phase := .riding, offPlan := some false }
        (resetLeg fingerprint legs nowMs tick index).events) := {
    emitted := reset.emitted
    phase := by simp
    lastAction := reset.lastAction }
  exact riding.keeps (emit_keeps fingerprint _ _ rfl)

variable (oracles : TransitOracles) (targets : List TransitLegTargets)

theorem alight_arrives (tick : Tick) (accepted) (index : Nat) : Arrives (index + 1 == legs.length &&
        !leftOffPlan oracles nowMs targets (emit fingerprint tick (.alight index)).state accepted
          index) (arrivalKnown fingerprint index
        (emit fingerprint tick (.alight index)).state.emittedEventIds)
      tick (alightRide oracles fingerprint legs nowMs targets tick accepted index) := by
  have alighted := emit_keeps fingerprint tick (.alight index) rfl
  unfold alightRide
  dsimp only
  split
  · rename_i last
    rw [beq_iff_eq.mpr last, Bool.true_and]
    split
    · rename_i astray
      rw [astray]
      exact {
        emitted := by
          rw [Bool.not_true, Bool.false_and, Bool.or_false]
          exact alighted.emitted
        phase := by simp
        lastAction := alighted.lastAction }
    · rename_i onPlan
      rw [not_eq_true] at onPlan
      rw [onPlan]
      have arrives := emit_arrives fingerprint
        (Tick.mk { (emit fingerprint tick (.alight index)).state with
          offPlan := some false, phase := .arrived }
          (emit fingerprint tick (.alight index)).events) index rfl
      exact {
        emitted := by
          rw [arrives.emitted, alighted.emitted]
          rfl
        phase := arrives.phase
        lastAction := arrives.lastAction.trans alighted.lastAction }
  · rename_i onward
    have notLast : (index + 1 == legs.length) = false := beq_false_of_ne onward
    rw [notLast, Bool.false_and]
    have reset := reset_arrives_not fingerprint legs nowMs
      (Tick.mk { (emit fingerprint tick (.alight index)).state with
        offPlan := some (leftOffPlan oracles nowMs targets
          (emit fingerprint tick (.alight index)).state accepted index) }
        (emit fingerprint tick (.alight index)).events) (index + 1)
      (arrivalKnown fingerprint index
        (emit fingerprint tick (.alight index)).state.emittedEventIds)
    exact {
      emitted := by
        rw [reset.emitted, alighted.emitted]
      phase := reset.phase
      lastAction := reset.lastAction.trans alighted.lastAction }

end

section

variable (oracles : TransitOracles) (fingerprint : String) (legs : List TransitLeg)
variable (captures : List LegCapture) (nowMs : ℤ) (targets : List TransitLegTargets)

section

variable (tick : Tick) (leg : TransitLeg)

theorem ride_keeps (index : Nat) (indexed) (accepted : AcceptedFix) :
    Keeps tick (followRide oracles fingerprint captures tick leg index indexed accepted) := by
  unfold followRide
  split
  · exact Keeps.refl tick
  · dsimp only
    split
    · apply Keeps.trans _ (emit_keeps fingerprint _ _ rfl)
      exact { emitted := rfl, phase := rfl, lastAction := rfl }
    · exact { emitted := rfl, phase := rfl, lastAction := rfl }

theorem steps_keep (matched) (accepted : AcceptedFix) :
    Keeps tick (stepWalk tick leg matched accepted) ∧
      (stepWalk tick leg matched accepted).state.emittedEventIds = tick.state.emittedEventIds := by
  unfold stepWalk
  split
  · split
    · exact And.intro { emitted := rfl, phase := rfl, lastAction := rfl } rfl
    · exact And.intro (Keeps.refl tick) rfl
  · exact And.intro (Keeps.refl tick) rfl

theorem walk_arrives (index : Nat) (matched) (accepted : AcceptedFix)
    (under : tick.state.phase ≠ .arrived) :
    Arrives (atWalkEnd oracles targets leg index accepted && index + 1 == legs.length)
      (arrivalKnown fingerprint index tick.state.emittedEventIds) tick
      (followWalk oracles fingerprint legs nowMs targets tick leg index matched accepted) := by
  have stepped := steps_keep tick leg matched accepted
  unfold followWalk
  dsimp only
  split
  · rename_i there
    rw [there, Bool.true_and]
    split
    · rename_i last
      rw [beq_iff_eq.mpr last]
      have arrives := emit_arrives fingerprint
        (Tick.mk { (stepWalk tick leg matched accepted).state with
          offPlan := some false, phase := .arrived } (stepWalk tick leg matched accepted).events)
        index rfl
      exact {
        emitted := by
          rw [arrives.emitted, stepped.1.emitted, stepped.2]
        phase := arrives.phase
        lastAction := arrives.lastAction.trans stepped.1.lastAction }
    · rename_i onward
      have notLast : (index + 1 == legs.length) = false := beq_false_of_ne onward
      rw [notLast]
      have noted : Keeps tick (Tick.mk { (stepWalk tick leg matched accepted).state with
          offPlan := some false } (stepWalk tick leg matched accepted).events) := {
        emitted := stepped.1.emitted
        phase := stepped.1.phase
        lastAction := stepped.1.lastAction }
      exact noted.then_arrives (reset_arrives_not fingerprint legs nowMs _ (index + 1) _)
  · rename_i away
    rw [not_eq_true] at away
    rw [away, Bool.false_and]
    exact stepped.1.arrives under _

theorem platform_keeps (index : Nat) :
    Keeps tick (announcePlatform oracles fingerprint captures tick leg index) := by
  unfold announcePlatform
  dsimp only
  split
  · exact emit_keeps fingerprint tick _ rfl
  · exact Keeps.refl tick

end

def walksToEnd (state : TransitTickState) (accepted : AcceptedFix) : Bool :=
  match legs[state.currentLegIndex]? with
  | none => false
  | some leg =>
    state.phase != .arrived && state.phase != .riding && !isTransitRide (some leg) &&
      (atWalkEnd oracles targets leg state.currentLegIndex accepted &&
        state.currentLegIndex + 1 == legs.length)

section

variable (prepared : List (Option PreparedTransitLeg)) (tick : Tick) (accepted : AcceptedFix)

theorem fix_arrives (under : tick.state.phase ≠ .arrived) :
    Arrives (walksToEnd oracles legs targets tick.state accepted)
      (arrivalKnown fingerprint tick.state.currentLegIndex tick.state.emittedEventIds) tick
      (applyFix oracles fingerprint legs captures nowMs targets prepared tick accepted) := by
  have moving : (tick.state.phase != .arrived) = true := by simpa using under
  unfold applyFix walksToEnd
  dsimp only
  have judged : Keeps tick (Tick.mk (judgeFix tick.state
      (snapOf oracles prepared tick.state.currentLegIndex accepted) accepted) tick.events) :=
    { emitted := rfl, phase := rfl, lastAction := rfl }
  have recorded : ∀ followed : Tick, Keeps followed
      (Tick.mk (recordFix nowMs followed.state accepted) followed.events) := by
    intro followed
    exact { emitted := rfl, phase := rfl, lastAction := rfl }
  cases legs[tick.state.currentLegIndex]? with
  | none => exact (judged.arrives under _).keeps (recorded _)
  | some leg =>
    dsimp only
    rw [if_neg under, moving, Bool.true_and]
    apply Arrives.keeps _ (recorded _)
    apply judged.then_arrives
    have stillUnder : (Tick.mk (judgeFix tick.state
        (snapOf oracles prepared tick.state.currentLegIndex accepted) accepted)
        tick.events).state.phase ≠ .arrived := under
    unfold followLeg
    dsimp only
    apply Arrives.keeps _ (platform_keeps oracles fingerprint captures _ leg _)
    split
    · rename_i riding
      have rides : tick.state.phase = .riding := riding
      have notWalking : (TransitPhase.riding != .riding) = false := rfl
      rw [rides, notWalking, Bool.false_and, Bool.false_and]
      exact (ride_keeps oracles fingerprint captures _ leg _ _ accepted).arrives stillUnder _
    · rename_i notRiding
      have walks : (tick.state.phase != .riding) = true := by
        have other : tick.state.phase ≠ .riding := notRiding
        simpa using other
      rw [walks, Bool.true_and]
      split
      · rename_i ride
        rw [ride, Bool.not_true, Bool.false_and]
        exact (Keeps.refl _).arrives stillUnder _
      · rename_i walk
        rw [not_eq_true] at walk
        rw [walk, Bool.not_false, Bool.true_and]
        exact walk_arrives oracles fingerprint legs nowMs targets _ leg _ _ accepted stillUnder

theorem fix_after_arrival (arrived : tick.state.phase = .arrived) : Keeps tick
      (applyFix oracles fingerprint legs captures nowMs targets prepared tick accepted) := by
  unfold applyFix
  dsimp only
  split
  · rw [if_pos arrived]
    exact { emitted := rfl, phase := rfl, lastAction := rfl }
  · exact { emitted := rfl, phase := rfl, lastAction := rfl }

end

end

def leavesLastRide (oracles : TransitOracles) (input : TransitTickInput)
    (targets : List TransitLegTargets) (action : TransitRiderAction) : Bool :=
  let started := (startTick input).state
  action.type == .boarding .alight &&
    validAction input.itinerary.legs started .alight action.legIndex &&
    (started.currentLegIndex + 1 == input.itinerary.legs.length &&
      !leftOffPlan oracles input.nowMs targets started (acceptedFix input)
        started.currentLegIndex)

def endsTrip (oracles : TransitOracles) (input : TransitTickInput)
    (targets : List TransitLegTargets) : Bool :=
  match input.action with
  | some action => leavesLastRide oracles input targets action
  | none =>
    (acceptedFix input).any
      (walksToEnd oracles input.itinerary.legs targets (startTick input).state)

/-- The id of the arrival is known where the tick would emit it. An action emits its
alight before. -/
def endKnown (input : TransitTickInput) : Bool :=
  let fingerprint := input.options.itineraryFingerprint
  let index := input.state.currentLegIndex
  match input.action with
  | some _ => arrivalKnown fingerprint index
      (emit fingerprint (startTick input) (.alight index)).state.emittedEventIds
  | none => arrivalKnown fingerprint index input.state.emittedEventIds

def UndoesUnderWay (state : TransitTickState) : Prop :=
  ∀ last, state.lastAction = some last → last.previous.phase ≠ .arrived

theorem emit_last_fix (fingerprint : String) (tick : Tick) (body : TransitEventBody) :
    (emit fingerprint tick body).state.lastAcceptedFix = tick.state.lastAcceptedFix := by
  unfold emit
  dsimp only
  split <;> rfl

theorem emit_ids_congr (fingerprint : String) (tick other : Tick) (body : TransitEventBody)
    (same : tick.state.emittedEventIds = other.state.emittedEventIds) :
    (emit fingerprint tick body).state.emittedEventIds =
      (emit fingerprint other body).state.emittedEventIds := by
  unfold emit
  dsimp only
  rw [same]
  split
  · exact same
  · rfl

theorem left_off_plan_congr (oracles : TransitOracles) (nowMs : ℤ) (targets)
    (state other : TransitTickState) (accepted) (index : Nat)
    (same : state.lastAcceptedFix = other.lastAcceptedFix) :
    leftOffPlan oracles nowMs targets state accepted index =
      leftOffPlan oracles nowMs targets other accepted index := by
  unfold leftOffPlan
  rw [same]

theorem noted_alight_arrives (oracles : TransitOracles) (fingerprint : String)
    (legs : List TransitLeg) (nowMs : ℤ) (targets) (tick noted : Tick) (accepted) (index : Nat)
    (sameFix : noted.state.lastAcceptedFix = tick.state.lastAcceptedFix)
    (sameIds : noted.state.emittedEventIds = tick.state.emittedEventIds) : Arrives
      (index + 1 == legs.length && !leftOffPlan oracles nowMs targets tick.state accepted index)
      (arrivalKnown fingerprint index (emit fingerprint tick (.alight index)).state.emittedEventIds)
      noted (alightRide oracles fingerprint legs nowMs targets noted accepted index) := by
  have arrives := alight_arrives fingerprint legs nowMs oracles targets noted accepted index
  have place := left_off_plan_congr oracles nowMs targets
    (emit fingerprint noted (.alight index)).state tick.state accepted index
    ((emit_last_fix fingerprint noted _).trans sameFix)
  rw [place, emit_ids_congr fingerprint noted tick _ sameIds] at arrives
  exact arrives

theorem normal_arrived (legs : List TransitLeg) (state : TransitTickState) :
    normalisePhase legs state = .arrived ↔ state.phase = .arrived := by
  unfold normalisePhase
  split
  · rename_i walking
    simp [walking.1]
  · split
    · rename_i waiting
      simp [waiting.1]
    · exact Iff.rfl

theorem finish_keeps (nowMs : ℤ) (tick : Tick) (actionRejected : Bool) (rejectedReason) :
    Keeps tick (Tick.mk (finishTick nowMs tick actionRejected rejectedReason).state
      (finishTick nowMs tick actionRejected rejectedReason).events) := by
  unfold finishTick
  dsimp only
  split
  · exact { emitted := rfl, phase := rfl, lastAction := rfl }
  · exact Keeps.refl tick

section

variable {oracles : TransitOracles} {input : TransitTickInput} {result : TransitTickResult}
variable {targets : List TransitLegTargets}

theorem ends_under_way (action : input.action = none)
    (ends : endsTrip oracles input targets = true) : input.state.phase ≠ .arrived := by
  intro arrived
  have started : (startTick input).state.phase = .arrived :=
    (normal_arrived ..).mpr arrived
  unfold endsTrip at ends
  rw [action] at ends
  dsimp only at ends
  cases accepted : acceptedFix input with
  | none =>
    rw [accepted] at ends
    cases ends
  | some fix =>
    rw [accepted, Option.any_some] at ends
    unfold walksToEnd at ends
    have stopped : (TransitPhase.arrived != .arrived) = false := rfl
    split at ends
    · cases ends
    · rw [started, stopped, Bool.false_and, Bool.false_and, Bool.false_and] at ends
      cases ends

variable (processed : processTransitFix oracles input = .ok result)
include processed

section

variable
  (resolved : resolveTransitLegTargets oracles.stopAreaDistance input.itinerary input.stopAreas = .ok targets)
include resolved

theorem returned_tick : result = finishTick input.nowMs (followedTick oracles input targets)
      (actedTick oracles input targets).2 (rejectedFix input) := by
  unfold processTransitFix at processed
  rw [resolved] at processed
  cases processed
  rfl

theorem fix_tick_arrives (action : input.action = none) : result.events.any isArrival =
        (endsTrip oracles input targets && !endKnown input) ∧ (result.state.phase = .arrived ↔
        input.state.phase = .arrived ∨ endsTrip oracles input targets = true) ∧
      result.state.lastAction = input.state.lastAction := by
  have whole := returned_tick processed resolved
  have finished := finish_keeps input.nowMs (followedTick oracles input targets)
    (actedTick oracles input targets).2 (rejectedFix input)
  rw [← whole] at finished
  have acted : actedTick oracles input targets = (startTick input, false) := by
    unfold actedTick
    rw [action]
  have started := normal_arrived input.itinerary.legs input.state
  by_cases arrived : input.state.phase = .arrived
  · have ended : endsTrip oracles input targets = false := by
      by_contra ends
      exact ends_under_way action (by simpa using ends) arrived
    have followed : Keeps (startTick input) (followedTick oracles input targets) := by
      unfold followedTick
      rw [acted]
      dsimp only
      split
      · exact fix_after_arrival _ _ _ _ _ _ _ _ _ (started.mpr arrived)
      · exact Keeps.refl _
    have kept := followed.trans finished
    rw [ended]
    apply And.intro kept.emitted
    apply And.intro
    · have phase : result.state.phase = .arrived := kept.phase.trans (started.mpr arrived)
      exact iff_of_true phase (Or.inl arrived)
    · exact kept.lastAction
  · have followed : Arrives (endsTrip oracles input targets) (endKnown input) (startTick input)
        (followedTick oracles input targets) := by
      have under : (startTick input).state.phase ≠ .arrived := by
        intro same
        exact arrived (started.mp same)
      unfold followedTick endsTrip endKnown
      rw [acted, action]
      dsimp only
      cases acceptedFix input with
      | none => exact (Keeps.refl _).arrives under _
      | some accepted => exact fix_arrives _ _ _ _ _ _ _ _ _ under
    have arrives := followed.keeps finished
    apply And.intro
    · rw [arrives.emitted]
      rfl
    · apply And.intro
      · rw [arrives.phase]
        simp [arrived]
      · exact arrives.lastAction

theorem action_tick_arrives (action) (acts : input.action = some action) (noFix : input.fix = none)
    (taken : result.actionRejected = false) (undoes : UndoesUnderWay input.state) :
    result.events.any isArrival = (endsTrip oracles input targets && !endKnown input) ∧
      (result.state.phase = .arrived ↔ endsTrip oracles input targets = true) ∧
      UndoesUnderWay result.state := by
  have whole := returned_tick processed resolved
  have finished := finish_keeps input.nowMs (followedTick oracles input targets)
    (actedTick oracles input targets).2 (rejectedFix input)
  rw [← whole] at finished
  have nothing : acceptedFix input = none := by
    unfold acceptedFix checkedFix
    rw [noFix]
    rfl
  have followed : followedTick oracles input targets = (actedTick oracles input targets).1 := by
    unfold followedTick
    rw [nothing]
  have notRejected : (actedTick oracles input targets).2 = false := by
    rw [whole] at taken
    exact taken
  rw [followed] at finished
  unfold actedTick at finished notRejected
  rw [acts] at finished notRejected
  dsimp only at finished notRejected
  unfold applyAction at finished notRejected
  cases chosen : action.type with
  | undo =>
    have onWay : endsTrip oracles input targets = false := by
      unfold endsTrip leavesLastRide
      rw [acts]
      simp [chosen]
    rw [chosen] at finished notRejected
    dsimp only at finished notRejected
    cases undone : undoable input.nowMs (startTick input).state action.legIndex with
    | none =>
      rw [undone] at notRejected
      cases notRejected
    | some last =>
      rw [undone] at finished
      have previous := undoes last (undoable_last input.nowMs undone)
      rw [onWay]
      apply And.intro finished.emitted
      apply And.intro
      · rw [finished.phase]
        exact iff_of_false previous Bool.false_ne_true
      · intro other remembered
        rw [finished.lastAction] at remembered
        cases remembered
  | boarding boarding =>
    rw [chosen] at finished notRejected
    dsimp only at finished notRejected
    split at notRejected
    · rename_i valid
      rw [if_pos valid] at finished
      have under := (valid_action_cases input.itinerary.legs valid).1
      have remembers : ∀ ends known (noted after : Tick) (last : LastAction),
          noted.events = [] → noted.state.lastAction = some last →
          last.previous.phase ≠ .arrived → Arrives ends known noted after →
          Keeps after (Tick.mk result.state result.events) →
          result.events.any isArrival = (ends && !known) ∧
            (result.state.phase = .arrived ↔ ends = true) ∧ UndoesUnderWay result.state := by
        intro ends known noted after last quiet noting previous arrives keeps
        have whole := arrives.keeps keeps
        apply And.intro
        · rw [whole.emitted, quiet]
          rfl
        · apply And.intro whole.phase
          intro other remembered
          rw [whole.lastAction, noting] at remembered
          cases remembered
          exact previous
      by_cases alights : boarding = .alight
      · rw [if_pos alights, nothing] at finished
        rw [alights] at chosen valid
        have ends : endsTrip oracles input targets = (input.state.currentLegIndex + 1 ==
            input.itinerary.legs.length && !leftOffPlan oracles input.nowMs targets
              (startTick input).state none (startTick input).state.currentLegIndex) := by
          unfold endsTrip leavesLastRide
          rw [acts]
          dsimp only
          rw [chosen, valid, nothing]
          rfl
        have known : endKnown input = arrivalKnown input.options.itineraryFingerprint
            (startTick input).state.currentLegIndex
            (emit input.options.itineraryFingerprint (startTick input)
              (.alight (startTick input).state.currentLegIndex)).state.emittedEventIds := by
          unfold endKnown
          rw [acts]
          rfl
        rw [ends, known]
        have arrives := noted_alight_arrives oracles input.options.itineraryFingerprint
          input.itinerary.legs input.nowMs targets (startTick input)
          (Tick.mk { (startTick input).state with
            lastAction := some {
              type := boarding,
              legIndex := action.legIndex,
              atMs := input.nowMs,
              previous := positionOf (startTick input).state } } (startTick input).events)
          none (startTick input).state.currentLegIndex rfl rfl
        exact remembers _ _ _ _ _ rfl rfl under arrives finished
      · rw [if_neg alights] at finished
        have onWay : endsTrip oracles input targets = false := by
          unfold endsTrip leavesLastRide
          rw [acts]
          simp [chosen, alights]
        rw [onWay]
        exact remembers _ _ _ _ _ rfl rfl under
          (board_arrives_not ..) finished
    · cases notRejected

theorem rejected_not_ends (action) (acts : input.action = some action)
    (rejected : result.actionRejected = true) : endsTrip oracles input targets = false := by
  have refused : (actedTick oracles input targets).2 = true := by
    unfold processTransitFix at processed
    rw [resolved] at processed
    cases processed
    exact rejected
  unfold actedTick applyAction at refused
  rw [acts] at refused
  unfold endsTrip leavesLastRide
  rw [acts]
  dsimp only at refused ⊢
  cases chosen : action.type with
  | undo => rfl
  | boarding boarding =>
    rw [chosen] at refused
    dsimp only at refused
    split at refused
    · split at refused
      · cases refused
      · cases refused
    · rename_i invalid
      by_cases alights : boarding = .alight
      · rw [alights, not_eq_true] at invalid
        rw [invalid, Bool.and_false, Bool.false_and]
      · have other : (RiderActionType.boarding boarding == .boarding .alight) = false := by
          simp [alights]
        rw [other, Bool.false_and, Bool.false_and]

end

omit processed

end

end OpenMapX.Mobile.TickArrivals
