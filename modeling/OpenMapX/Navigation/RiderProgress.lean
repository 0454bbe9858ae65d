import OpenMapX.Foundation.Runs
import OpenMapX.Navigation.TransitFix

/-!
# Rider progress

What every tick of a trip keeps: the leg is one of the trip, the phase fits the leg,
only an undo goes back or leaves the arrival, a rejected fix is ignored, times play no
part, and no event comes twice while the ledger holds all that have come.
-/

namespace OpenMapX.Navigation.RiderProgress

open Foundation.BoundedLedger Foundation.Runs TransitTrip StopTargets StopCursor TransitFix List
  Bool

def Emits (before after : Tick) : Prop :=
  ∃ events, after.events = before.events ++ events ∧
    Emitted MAX_EMITTED_IDS before.state.emittedEventIds (events.map TransitNavigationEvent.id)
      after.state.emittedEventIds

theorem emits_nothing (before after : Tick) (sameEvents : after.events = before.events)
    (sameLedger : after.state.emittedEventIds = before.state.emittedEventIds) :
    Emits before after := by
  apply Exists.intro []
  rw [sameEvents, sameLedger, append_nil]
  exact And.intro rfl (.nothing _)

theorem emits_trans {first second third : Tick} (before : Emits first second)
    (after : Emits second third) : Emits first third := by
  obtain ⟨events, added⟩ := before
  obtain ⟨others, more⟩ := after
  apply Exists.intro (events ++ others)
  apply And.intro
  · rw [more.1, added.1, append_assoc]
  · rw [map_append]
    exact added.2.append more.2

theorem emits_emit (fingerprint : String) (tick : Tick) (body : TransitEventBody) :
    Emits tick (emit fingerprint tick body) := by
  unfold emit
  dsimp only
  split
  · exact emits_nothing tick tick rfl rfl
  · rename_i fresh
    have unknown : eventId fingerprint body ∉ tick.state.emittedEventIds := by
      intro member
      exact fresh (contains_iff_mem.mpr member)
    apply Exists.intro [TransitNavigationEvent.mk (eventId fingerprint body) body]
    apply And.intro
    · rfl
    · simp only [map_cons, map_nil, lastIds]
      exact Emitted.one _ _ _ unknown

theorem emits_after {before after : Tick} (emitted : Emits before after)
    (state : TransitTickState) (sameLedger : state.emittedEventIds = after.state.emittedEventIds) :
    Emits before { after with state := state } :=
  emits_trans emitted (emits_nothing after _ rfl sameLedger)

section

variable (fingerprint : String) (legs : List TransitLeg) (nowMs : ℤ) (tick : Tick)

theorem emits_reset (index : Nat) : Emits tick (resetLeg fingerprint legs nowMs tick index) := by
  unfold resetLeg
  apply emits_after
  · split
    · exact emits_nothing tick tick rfl rfl
    · exact emits_emit fingerprint tick _
  · rfl

theorem emits_board
    (boardIndex : Nat) : Emits tick (boardRide fingerprint legs nowMs tick boardIndex) := by
  have moved := emits_reset fingerprint legs nowMs tick boardIndex
  exact emits_trans (emits_after moved _ rfl) (emits_emit fingerprint _ _)

end

section

variable (oracles : TransitOracles) (fingerprint : String) (legs : List TransitLeg)
variable (captures : List LegCapture) (nowMs : ℤ) (targets : List TransitLegTargets)

variable (tick : Tick) (leg : TransitLeg)

theorem emits_alight (accepted) (index : Nat) :
    Emits tick (alightRide oracles fingerprint legs nowMs targets tick accepted index) := by
  have alighted := emits_emit fingerprint tick (.alight index)
  unfold alightRide
  dsimp only
  split
  · split
    · exact emits_after (emits_after alighted _ rfl) _ rfl
    · exact emits_trans (emits_after (emits_after alighted _ rfl) _ rfl)
        (emits_emit fingerprint _ _)
  · exact emits_trans (emits_after alighted _ rfl)
      (emits_reset fingerprint legs nowMs _ (index + 1))

theorem emits_action (accepted action) :
    Emits tick (applyAction oracles fingerprint legs nowMs targets tick accepted action).1 := by
  unfold applyAction
  split
  · split
    · exact emits_nothing tick _ rfl rfl
    · exact emits_nothing tick _ rfl rfl
  · split
    · dsimp only
      split
      · exact emits_trans (emits_nothing tick _ rfl rfl)
          (emits_alight oracles fingerprint legs nowMs targets _ accepted _)
      · exact emits_trans (emits_nothing tick _ rfl rfl)
          (emits_board fingerprint legs nowMs _ _)
    · exact emits_nothing tick _ rfl rfl

theorem emits_ride (index : Nat) (indexed) (accepted : AcceptedFix) :
    Emits tick (followRide oracles fingerprint captures tick leg index indexed accepted) := by
  unfold followRide
  split
  · exact emits_nothing tick tick rfl rfl
  · dsimp only
    split
    · exact emits_trans (emits_nothing tick _ rfl rfl) (emits_emit fingerprint _ _)
    · exact emits_nothing tick _ rfl rfl

theorem emits_steps (matched) (accepted : AcceptedFix) :
    Emits tick (stepWalk tick leg matched accepted) := by
  unfold stepWalk
  split
  · split
    · exact emits_nothing tick _ rfl rfl
    · exact emits_nothing tick tick rfl rfl
  · exact emits_nothing tick tick rfl rfl

theorem emits_walk (index : Nat) (matched) (accepted : AcceptedFix) : Emits tick
      (followWalk oracles fingerprint legs nowMs targets tick leg index matched accepted) := by
  unfold followWalk
  have stepped := emits_steps tick leg matched accepted
  dsimp only
  split
  · split
    · exact emits_trans (emits_after (emits_after stepped _ rfl) _ rfl)
        (emits_emit fingerprint _ _)
    · exact emits_trans (emits_after stepped _ rfl)
        (emits_reset fingerprint legs nowMs _ (index + 1))
  · exact stepped

theorem emits_platform (index : Nat) :
    Emits tick (announcePlatform oracles fingerprint captures tick leg index) := by
  unfold announcePlatform
  dsimp only
  split
  · exact emits_emit fingerprint tick _
  · exact emits_nothing tick tick rfl rfl

theorem emits_leg (index : Nat) (indexed) (snap : Option RouteSnap) (accepted : AcceptedFix) :
    Emits tick (followLeg oracles fingerprint legs captures nowMs targets tick leg index indexed
      snap accepted) := by
  unfold followLeg
  dsimp only
  apply emits_trans _ (emits_platform oracles fingerprint captures _ leg index)
  split
  · exact emits_ride oracles fingerprint captures tick leg index indexed accepted
  · split
    · exact emits_nothing tick tick rfl rfl
    · exact emits_walk oracles fingerprint legs nowMs targets tick leg index _ accepted

theorem emits_fix (prepared) (tick : Tick) (accepted : AcceptedFix) : Emits tick
      (applyFix oracles fingerprint legs captures nowMs targets prepared tick accepted) := by
  unfold applyFix
  dsimp only
  have judged := emits_nothing tick
    (Tick.mk (judgeFix tick.state
      (snapOf oracles prepared tick.state.currentLegIndex accepted) accepted) tick.events) rfl rfl
  split
  · split
    · exact emits_after judged _ rfl
    · exact emits_after (emits_trans judged
        (emits_leg oracles fingerprint legs captures nowMs targets _ _ _ _ _ accepted)) _ rfl
  · exact emits_after judged _ rfl

end

def PhaseFits (legs : List TransitLeg) (index : Nat) (phase : TransitPhase) : Prop :=
  (phase = .riding ∨ phase = .waitingToBoard → isTransitRide legs[index]? = true) ∧
    (phase = .walking → isTransitRide legs[index]? = false)

/-- The rider is on a leg of the trip in a phase that fits it, and so is the place to
which an undo would lead back. -/
structure Placed (legs : List TransitLeg) (state : TransitTickState) : Prop where
  onTrip : state.currentLegIndex < legs.length
  fits : PhaseFits legs state.currentLegIndex state.phase
  undoFits : ∀ last, state.lastAction = some last →
    last.previous.currentLegIndex < legs.length ∧
      PhaseFits legs last.previous.currentLegIndex last.previous.phase

structure SamePlace (before after : TransitTickState) : Prop where
  index : after.currentLegIndex = before.currentLegIndex
  phase : after.phase = before.phase
  lastAction : after.lastAction = before.lastAction

theorem SamePlace.trans {first second third} (before : SamePlace first second)
    (after : SamePlace second third) : SamePlace first third where
  index := after.index.trans before.index
  phase := after.phase.trans before.phase
  lastAction := after.lastAction.trans before.lastAction

section

variable {legs : List TransitLeg} {before after : TransitTickState}

theorem Placed.of_same
    (placed : Placed legs before) (same : SamePlace before after) : Placed legs after where
  onTrip := by rw [same.index]; exact placed.onTrip
  fits := by rw [same.index, same.phase]; exact placed.fits
  undoFits := by rw [same.lastAction]; exact placed.undoFits

/-- A step that keeps the rider placed, goes on in the trip and stays at its end. -/
structure Advances (legs : List TransitLeg) (before after : TransitTickState) : Prop where
  placed : Placed legs after
  onward : before.currentLegIndex ≤ after.currentLegIndex
  stays : before.phase = .arrived → after.phase = .arrived

theorem SamePlace.advances
    (same : SamePlace before after) (placed : Placed legs before) :
    Advances legs before after where
  placed := placed.of_same same
  onward := by rw [same.index]
  stays := by intro arrived; rw [same.phase, arrived]

end

theorem Advances.trans {legs} {first second third}
    (before : Advances legs first second) (after : Advances legs second third) :
    Advances legs first third where
  placed := after.placed
  onward := le_trans before.onward after.onward
  stays := by intro arrived; exact after.stays (before.stays arrived)

theorem entry_phase_fits (legs : List TransitLeg) (index : Nat) :
    PhaseFits legs index (entryPhase legs index) := by
  unfold entryPhase
  split
  · rename_i ride
    exact And.intro (fun _ => ride) (fun walking => by cases walking)
  · rename_i walk
    apply And.intro
    · intro riding
      rcases riding with riding | waiting
      · cases riding
      · cases waiting
    · intro _
      exact eq_false_of_not_eq_true walk

theorem entry_not_arrived (legs : List TransitLeg) (index : Nat) :
    entryPhase legs index ≠ .arrived := by
  unfold entryPhase
  split <;> simp

theorem ride_on_trip {legs : List TransitLeg} {index : Nat}
    (ride : isTransitRide legs[index]? = true) : index < legs.length := by
  by_contra outside
  rw [getElem?_eq_none (Nat.le_of_not_lt outside)] at ride
  cases ride

theorem emit_same_place (fingerprint : String) (tick : Tick) (body : TransitEventBody) :
    SamePlace tick.state (emit fingerprint tick body).state := by
  unfold emit
  dsimp only
  split
  · exact { index := rfl, phase := rfl, lastAction := rfl }
  · exact { index := rfl, phase := rfl, lastAction := rfl }

theorem Advances.emit {legs before} {tick : Tick} (advances : Advances legs before tick.state)
    (fingerprint : String) (body : TransitEventBody) :
    Advances legs before (TransitFix.emit fingerprint tick body).state :=
  advances.trans ((emit_same_place ..).advances advances.placed)

theorem reset_leg_place (fingerprint : String) (legs : List TransitLeg) (nowMs : ℤ) (tick : Tick)
    (index : Nat) : (resetLeg fingerprint legs nowMs tick index).state.currentLegIndex = index ∧
      (resetLeg fingerprint legs nowMs tick index).state.phase = entryPhase legs index ∧
      (resetLeg fingerprint legs nowMs tick index).state.lastAction = tick.state.lastAction := by
  unfold resetLeg
  refine And.intro rfl (And.intro rfl ?_)
  dsimp only
  split
  · rfl
  · exact (emit_same_place fingerprint tick _).lastAction

section

variable {legs : List TransitLeg}

theorem Advances.touch {before after touched} (advances : Advances legs before after)
    (same : SamePlace after touched) : Advances legs before touched :=
  advances.trans (same.advances advances.placed)

theorem Advances.reset {before} {tick : Tick} (advances : Advances legs before tick.state)
    (fingerprint : String) (nowMs : ℤ) (index : Nat) (under : tick.state.phase ≠ .arrived)
    (inside : index < legs.length) (onward : tick.state.currentLegIndex ≤ index) :
    Advances legs before (resetLeg fingerprint legs nowMs tick index).state := by
  have place := reset_leg_place fingerprint legs nowMs tick index
  exact {
    placed := {
      onTrip := by rw [place.1]; exact inside
      fits := by rw [place.1, place.2.1]; exact entry_phase_fits legs index
      undoFits := by rw [place.2.2]; exact advances.placed.undoFits }
    onward := by rw [place.1]; exact le_trans advances.onward onward
    stays := by intro arrived; exact absurd (advances.stays arrived) under }

theorem Advances.phase {before after changed}
    (advances : Advances legs before after) (under : after.phase ≠ .arrived)
    (sameIndex : changed.currentLegIndex = after.currentLegIndex)
    (sameAction : changed.lastAction = after.lastAction)
    (fits : PhaseFits legs after.currentLegIndex changed.phase) :
    Advances legs before changed where
  placed := {
    onTrip := by rw [sameIndex]; exact advances.placed.onTrip
    fits := by rw [sameIndex]; exact fits
    undoFits := by rw [sameAction]; exact advances.placed.undoFits }
  onward := by rw [sameIndex]; exact advances.onward
  stays := by intro arrived; exact absurd (advances.stays arrived) under

theorem Placed.advances {state}
    (placed : Placed legs state) : Advances legs state state where
  placed := placed
  onward := le_refl _
  stays := fun arrived => arrived

end

theorem arrived_fits (legs : List TransitLeg) (index : Nat) : PhaseFits legs index .arrived := by
  simp [PhaseFits]

theorem transferring_fits (legs : List TransitLeg) (index : Nat) :
    PhaseFits legs index .transferring := by
  simp [PhaseFits]

theorem board_advances (fingerprint : String) (legs : List TransitLeg) (nowMs : ℤ) (tick : Tick)
    (boardIndex : Nat) (placed : Placed legs tick.state) (under : tick.state.phase ≠ .arrived)
    (ride : isTransitRide legs[boardIndex]? = true)
    (onward : tick.state.currentLegIndex ≤ boardIndex) :
    Advances legs tick.state (boardRide fingerprint legs nowMs tick boardIndex).state := by
  have moved := placed.advances.reset fingerprint nowMs boardIndex under (ride_on_trip ride) onward
  have place := reset_leg_place fingerprint legs nowMs tick boardIndex
  have rides : PhaseFits legs
      (resetLeg fingerprint legs nowMs tick boardIndex).state.currentLegIndex .riding := by
    rw [place.1]
    exact And.intro (fun _ => ride) (fun walking => by cases walking)
  have notArrived : (resetLeg fingerprint legs nowMs tick boardIndex).state.phase ≠ .arrived := by
    rw [place.2.1]
    exact entry_not_arrived legs boardIndex
  unfold boardRide
  dsimp only
  apply Advances.emit
  exact moved.phase notArrived rfl rfl rides

section

variable (oracles : TransitOracles) (fingerprint : String) (legs : List TransitLeg)
variable (nowMs : ℤ) (targets : List TransitLegTargets)

theorem alight_advances (tick : Tick) (accepted)
    (placed : Placed legs tick.state) (under : tick.state.phase ≠ .arrived) :
    Advances legs tick.state (alightRide oracles fingerprint legs nowMs targets tick accepted
      tick.state.currentLegIndex).state := by
  have alighted := placed.advances.emit fingerprint (.alight tick.state.currentLegIndex)
  have same := emit_same_place fingerprint tick (.alight tick.state.currentLegIndex)
  have stillUnder : (emit fingerprint tick (.alight tick.state.currentLegIndex)).state.phase ≠
      .arrived := by
    rw [same.phase]
    exact under
  unfold alightRide
  dsimp only
  split
  · split
    · exact alighted.phase stillUnder rfl rfl (transferring_fits legs _)
    · apply Advances.emit
      exact alighted.phase stillUnder rfl rfl (arrived_fits legs _)
  · rename_i notLast
    apply Advances.reset
    · exact alighted.touch { index := rfl, phase := rfl, lastAction := rfl }
    · exact stillUnder
    · exact lt_of_le_of_ne placed.onTrip notLast
    · exact le_trans (le_of_eq same.index) (Nat.le_succ _)

theorem noted_placed {state} (placed : Placed legs state)
    (boarding : BoardingAction) (legIndex : Nat) :
    Placed legs { state with
      lastAction := some {
        type := boarding, legIndex := legIndex, atMs := nowMs, previous := positionOf state } } where
  onTrip := placed.onTrip
  fits := placed.fits
  undoFits := by
    intro last noted
    cases noted
    exact And.intro placed.onTrip placed.fits

theorem board_index_onward (state : TransitTickState) (boarding : BoardingAction) :
    state.currentLegIndex ≤ boardIndexOf legs state boarding := by
  unfold boardIndexOf
  dsimp only
  split
  · exact Nat.le_succ _
  · split
    · exact le_refl _
    · exact Nat.le_succ _

theorem valid_action_cases {state boarding} {legIndex : Nat}
    (valid : validAction legs state boarding legIndex = true) : state.phase ≠ .arrived ∧
      (boarding ≠ .alight → isTransitRide legs[boardIndexOf legs state boarding]? = true) := by
  cases boarding with
  | board =>
    simp only [validAction, and_eq_true, bne_iff_ne] at valid
    exact And.intro valid.1.1.1.2 (fun _ => valid.1.2)
  | «continue» =>
    simp only [validAction, and_eq_true, beq_iff_eq] at valid
    apply And.intro
    · rw [valid.1.1.1]
      decide
    · intro _
      simpa [boardIndexOf] using valid.2
  | alight =>
    simp only [validAction, and_eq_true, beq_iff_eq] at valid
    apply And.intro
    · rw [valid.1]
      decide
    · intro other
      exact absurd rfl other

def UndoAccepted (state : TransitTickState) (action : Option TransitRiderAction) : Prop :=
  ∃ legIndex last, action = some { type := .undo, legIndex := legIndex } ∧
    undoable nowMs state legIndex = some last

theorem undoable_last {state} {legIndex : Nat} {last}
    (found : undoable nowMs state legIndex = some last) : state.lastAction = some last :=
  (Option.filter_eq_some_iff.mp found).1

theorem action_placed (tick : Tick) (accepted action) (placed : Placed legs tick.state) :
    Placed legs (applyAction oracles fingerprint legs nowMs targets tick accepted action).1.state ∧
      (¬ UndoAccepted nowMs tick.state (some action) → Advances legs tick.state
          (applyAction oracles fingerprint legs nowMs targets tick accepted action).1.state) := by
  cases action with
  | mk type legIndex =>
    cases type with
    | undo =>
      cases found : undoable nowMs tick.state legIndex with
      | none =>
        simp only [applyAction, found]
        exact And.intro placed (fun _ => placed.advances)
      | some last =>
        simp only [applyAction, found]
        have back := placed.undoFits last (undoable_last nowMs found)
        apply And.intro
        · exact {
            onTrip := back.1
            fits := back.2
            undoFits := by intro other taken; cases taken }
        · intro notUndone
          exact absurd (Exists.intro legIndex (Exists.intro last (And.intro rfl found)))
            notUndone
    | boarding boarding =>
      by_cases valid : validAction legs tick.state boarding legIndex = true
      · have cases := valid_action_cases legs valid
        have noted := noted_placed legs nowMs placed boarding legIndex
        simp only [applyAction, valid, if_true]
        split
        · have alights := alight_advances oracles fingerprint legs nowMs targets
            { tick with state := { tick.state with
              lastAction := some {
                type := boarding, legIndex := legIndex, atMs := nowMs,
                previous := positionOf tick.state } } } accepted noted cases.1
          exact And.intro alights.placed (fun _ => {
            placed := alights.placed, onward := alights.onward, stays := alights.stays })
        · rename_i boards
          have rides := board_advances fingerprint legs nowMs
            { tick with state := { tick.state with
              lastAction := some {
                type := boarding, legIndex := legIndex, atMs := nowMs,
                previous := positionOf tick.state } } }
            (boardIndexOf legs tick.state boarding) noted cases.1 (cases.2 boards)
            (board_index_onward legs tick.state boarding)
          exact And.intro rides.placed (fun _ => {
            placed := rides.placed, onward := rides.onward, stays := rides.stays })
      · simp only [applyAction, valid]
        exact And.intro placed (fun _ => placed.advances)

end

section

variable (oracles : TransitOracles) (fingerprint : String) (legs : List TransitLeg)
variable (captures : List LegCapture) (nowMs : ℤ) (targets : List TransitLegTargets)

theorem SamePlace.refl (state : TransitTickState) : SamePlace state state where
  index := rfl
  phase := rfl
  lastAction := rfl

variable (tick : Tick) (leg : TransitLeg)

theorem ride_same_place (index : Nat) (indexed) (accepted : AcceptedFix) : SamePlace tick.state
      (followRide oracles fingerprint captures tick leg index indexed accepted).state := by
  unfold followRide
  split
  · exact SamePlace.refl _
  · dsimp only
    split
    · apply SamePlace.trans _ (emit_same_place fingerprint _ _)
      exact { index := rfl, phase := rfl, lastAction := rfl }
    · exact { index := rfl, phase := rfl, lastAction := rfl }

theorem step_same_place (matched) (accepted : AcceptedFix) :
    SamePlace tick.state (stepWalk tick leg matched accepted).state := by
  unfold stepWalk
  split
  · split
    · exact { index := rfl, phase := rfl, lastAction := rfl }
    · exact SamePlace.refl _
  · exact SamePlace.refl _

theorem platform_same_place (index : Nat) : SamePlace tick.state
      (announcePlatform oracles fingerprint captures tick leg index).state := by
  unfold announcePlatform
  dsimp only
  split
  · exact emit_same_place fingerprint tick _
  · exact SamePlace.refl _

theorem walk_advances (matched) (accepted : AcceptedFix)
    (placed : Placed legs tick.state) (under : tick.state.phase ≠ .arrived) :
    Advances legs tick.state (followWalk oracles fingerprint legs nowMs targets tick leg
      tick.state.currentLegIndex matched accepted).state := by
  have same := step_same_place tick leg matched accepted
  have stepped := placed.advances.touch same
  have stillUnder : (stepWalk tick leg matched accepted).state.phase ≠ .arrived := by
    rw [same.phase]
    exact under
  unfold followWalk
  dsimp only
  split
  · split
    · apply Advances.emit
      exact stepped.phase stillUnder rfl rfl (arrived_fits legs _)
    · rename_i notLast
      apply Advances.reset
      · exact stepped.touch { index := rfl, phase := rfl, lastAction := rfl }
      · exact stillUnder
      · exact lt_of_le_of_ne placed.onTrip notLast
      · exact le_trans (le_of_eq same.index) (Nat.le_succ _)
  · exact stepped

theorem leg_advances (indexed) (snap : Option RouteSnap) (accepted : AcceptedFix)
    (placed : Placed legs tick.state) (under : tick.state.phase ≠ .arrived) :
    Advances legs tick.state (followLeg oracles fingerprint legs captures nowMs targets tick leg
      tick.state.currentLegIndex indexed snap accepted).state := by
  unfold followLeg
  dsimp only
  apply Advances.touch _ (platform_same_place oracles fingerprint captures _ leg _)
  split
  · exact placed.advances.touch (ride_same_place ..)
  · split
    · exact placed.advances
    · exact walk_advances oracles fingerprint legs nowMs targets tick leg _ accepted placed under

theorem fix_advances (prepared) (tick : Tick) (accepted : AcceptedFix)
    (placed : Placed legs tick.state) : Advances legs tick.state
      (applyFix oracles fingerprint legs captures nowMs targets prepared tick accepted).state := by
  have same : SamePlace tick.state (judgeFix tick.state
      (snapOf oracles prepared tick.state.currentLegIndex accepted) accepted) :=
    { index := rfl, phase := rfl, lastAction := rfl }
  have judged := placed.advances.touch same
  have recorded : ∀ state, SamePlace state (recordFix nowMs state accepted) := by
    intro state
    exact { index := rfl, phase := rfl, lastAction := rfl }
  unfold applyFix
  dsimp only
  apply Advances.touch _ (recorded _)
  split
  · split
    · exact judged
    · rename_i under
      exact judged.trans (leg_advances oracles fingerprint legs captures nowMs targets
        (Tick.mk (judgeFix tick.state
          (snapOf oracles prepared tick.state.currentLegIndex accepted) accepted) tick.events)
        _ _ _ accepted judged.placed under)
  · exact judged

end

theorem normal_of_placed {legs state} (placed : Placed legs state) :
    normalisePhase legs state = state.phase := by
  have fits := placed.fits
  unfold normalisePhase
  split
  · rename_i walking
    rw [fits.2 walking.1] at walking
    cases walking.2
  · split
    · rename_i waiting
      rw [fits.1 (Or.inr waiting.1)] at waiting
      cases waiting.2
    · rfl

theorem finish_same_place (nowMs : ℤ) (tick : Tick) (actionRejected : Bool) (rejectedReason) :
    SamePlace tick.state (finishTick nowMs tick actionRejected rejectedReason).state := by
  unfold finishTick
  dsimp only
  split
  · exact { index := rfl, phase := rfl, lastAction := rfl }
  · exact SamePlace.refl _

section

variable {oracles : TransitOracles} {input : TransitTickInput} {result : TransitTickResult}

theorem processed_cases (processed : processTransitFix oracles input = .ok result) :
    ∃ targets, resolveTransitLegTargets oracles.stopAreaDistance input.itinerary input.stopAreas =
        .ok targets ∧ result = finishTick input.nowMs (followedTick oracles input targets)
        (actedTick oracles input targets).2 (rejectedFix input) := by
  unfold processTransitFix at processed
  cases resolved : resolveTransitLegTargets oracles.stopAreaDistance input.itinerary
      input.stopAreas with
  | error thrown =>
    rw [resolved] at processed
    cases processed
  | ok targets =>
    rw [resolved] at processed
    cases processed
    exact Exists.intro targets (And.intro rfl rfl)

theorem start_same_place (placed : Placed input.itinerary.legs input.state) :
    SamePlace input.state (startTick input).state where
  index := rfl
  phase := normal_of_placed placed
  lastAction := rfl

variable (oracles) in
theorem acted_placed (targets : List TransitLegTargets)
    (placed : Placed input.itinerary.legs input.state) :
    Placed input.itinerary.legs (actedTick oracles input targets).1.state ∧
      (¬ UndoAccepted input.nowMs input.state input.action →
        Advances input.itinerary.legs input.state (actedTick oracles input targets).1.state) := by
  have same := start_same_place placed
  have started := placed.of_same same
  unfold actedTick
  cases chosen : input.action with
  | none => exact And.intro started (fun _ => same.advances placed)
  | some action =>
    have acted := action_placed oracles input.options.itineraryFingerprint input.itinerary.legs
      input.nowMs targets (startTick input) (acceptedFix input) action started
    apply And.intro acted.1
    intro notUndone
    exact (same.advances placed).trans (acted.2 notUndone)

variable (oracles) in
theorem followed_advances (targets)
    (placed : Placed input.itinerary.legs (actedTick oracles input targets).1.state) :
    Advances input.itinerary.legs (actedTick oracles input targets).1.state
      (followedTick oracles input targets).state := by
  unfold followedTick
  dsimp only
  split
  · exact fix_advances oracles _ input.itinerary.legs input.captures input.nowMs targets _ _ _
      placed
  · exact placed.advances

variable (processed : processTransitFix oracles input = .ok result)
include processed

theorem tick_placed (placed : Placed input.itinerary.legs input.state) :
    Placed input.itinerary.legs result.state ∧
      (¬ UndoAccepted input.nowMs input.state input.action →
        Advances input.itinerary.legs input.state result.state) := by
  have cases := processed_cases processed
  obtain ⟨targets, found⟩ := cases
  have acted := acted_placed oracles targets placed
  have followed := followed_advances oracles targets acted.1
  have finished := finish_same_place input.nowMs (followedTick oracles input targets)
    (actedTick oracles input targets).2 (rejectedFix input)
  rw [found.2]
  apply And.intro (followed.placed.of_same finished)
  intro notUndone
  exact ((acted.2 notUndone).trans followed).touch finished

theorem tick_emits : Emitted MAX_EMITTED_IDS input.state.emittedEventIds
      (result.events.map TransitNavigationEvent.id) result.state.emittedEventIds := by
  have cases := processed_cases processed
  obtain ⟨targets, found⟩ := cases
  have acted : Emits (startTick input) (actedTick oracles input targets).1 := by
    unfold actedTick
    split
    · exact emits_action oracles _ input.itinerary.legs input.nowMs targets _ _ _
    · exact emits_nothing _ _ rfl rfl
  have followed : Emits (startTick input) (followedTick oracles input targets) := by
    apply emits_trans acted
    unfold followedTick
    dsimp only
    split
    · exact emits_fix oracles _ input.itinerary.legs input.captures input.nowMs targets _ _ _
    · exact emits_nothing _ _ rfl rfl
  obtain ⟨events, added⟩ := followed
  have ledger : result.state.emittedEventIds =
      (followedTick oracles input targets).state.emittedEventIds := by
    rw [found.2]
    unfold finishTick
    dsimp only
    split <;> rfl
  have listed : result.events = events := by
    rw [found.2]
    exact added.1.trans (nil_append events)
  rw [ledger, listed]
  exact added.2

theorem tick_without_progress (noAction : input.action = none) (noFix : acceptedFix input = none) :
    result.events = [] ∧ result.state = { input.state with
        phase := normalisePhase input.itinerary.legs input.state,
        progressConfidence := result.state.progressConfidence } := by
  have cases := processed_cases processed
  obtain ⟨targets, found⟩ := cases
  have still : followedTick oracles input targets = startTick input := by
    simp only [followedTick, actedTick, noFix, noAction]
  rw [found.2, still]
  unfold finishTick
  dsimp only
  split
  · exact And.intro rfl rfl
  · exact And.intro rfl rfl

omit processed

end

def legWithoutTimes (leg : TransitLeg) : TransitLeg :=
  { leg with
    startTime := none, endTime := none, scheduledStartTime := none, scheduledEndTime := none }

def withoutTimes (itinerary : TripItinerary) : TripItinerary :=
  { itinerary with legs := itinerary.legs.map legWithoutTimes }

theorem timeless_ride (leg : Option TransitLeg) :
    isTransitRide (leg.map legWithoutTimes) = isTransitRide leg := by
  cases leg <;> rfl

theorem timeless_leg (legs : List TransitLeg) (index : Nat) :
    (legs.map legWithoutTimes)[index]? = legs[index]?.map legWithoutTimes := by
  rw [getElem?_map]

theorem timeless_ride_at (legs : List TransitLeg) (index : Nat) :
    isTransitRide (legs.map legWithoutTimes)[index]? = isTransitRide legs[index]? := by
  rw [timeless_leg, timeless_ride]

theorem timeless_prepared (geometry : LineGeometry) (itinerary : TripItinerary) :
    prepareTransitProgress geometry (withoutTimes itinerary) =
      prepareTransitProgress geometry itinerary := by
  unfold prepareTransitProgress withoutTimes
  rw [map_map]
  rfl

section

variable (stopAreaDistance : StopAreaDistance) (areas : TransitStopAreaIndex)
  (previousMode : Option String) (givenBoard : Option (List TransitStopAreaShape))

theorem timeless_resolve_leg (leg : TransitLeg) (next : Option TransitLeg) :
    resolveLeg stopAreaDistance areas previousMode givenBoard (legWithoutTimes leg)
        (next.map legWithoutTimes) =
      resolveLeg stopAreaDistance areas previousMode givenBoard leg next := by
  cases next <;> rfl

theorem timeless_resolve_legs (legs : List TransitLeg) :
    resolveLegs stopAreaDistance areas previousMode givenBoard (legs.map legWithoutTimes) =
      resolveLegs stopAreaDistance areas previousMode givenBoard legs := by
  induction legs generalizing previousMode givenBoard with
  | nil => rfl
  | cons leg rest ih =>
    rw [map_cons, resolveLegs, resolveLegs, head?_map, timeless_resolve_leg]
    simp only [ih]
    rfl

end

section

variable (oracles : TransitOracles) (fingerprint : String) (legs : List TransitLeg)
variable (captures : List LegCapture) (nowMs : ℤ) (targets : List TransitLegTargets)

theorem timeless_reset (tick : Tick) (index : Nat) :
    resetLeg fingerprint (legs.map legWithoutTimes) nowMs tick index =
      resetLeg fingerprint legs nowMs tick index := by
  unfold resetLeg entryPhase
  rw [timeless_ride_at]

section

variable (state : TransitTickState) (boarding : BoardingAction)

theorem timeless_board_index :
    boardIndexOf (legs.map legWithoutTimes) state boarding = boardIndexOf legs state boarding := by
  unfold boardIndexOf
  dsimp only
  rw [timeless_ride_at]

theorem timeless_valid (legIndex : Nat) :
    validAction (legs.map legWithoutTimes) state boarding legIndex =
      validAction legs state boarding legIndex := by
  unfold validAction
  rw [timeless_board_index]
  cases boarding with
  | board =>
    simp only [timeless_leg, timeless_ride, Option.map_map]
    rfl
  | «continue» =>
    simp only [timeless_leg, timeless_ride, Option.map_map]
    rfl
  | alight => rfl

end

theorem timeless_action (tick : Tick) (accepted action) :
    applyAction oracles fingerprint (legs.map legWithoutTimes) nowMs targets tick accepted action =
      applyAction oracles fingerprint legs nowMs targets tick accepted action := by
  unfold applyAction alightRide boardRide
  simp only [timeless_valid, timeless_board_index, timeless_reset, length_map]

theorem timeless_follow_leg (tick : Tick) (leg : TransitLeg) (index : Nat)
    (indexed) (snap : Option RouteSnap) (accepted : AcceptedFix) :
    followLeg oracles fingerprint (legs.map legWithoutTimes) captures nowMs targets tick
        (legWithoutTimes leg) index indexed snap accepted =
      followLeg oracles fingerprint legs captures nowMs targets tick leg index indexed snap
        accepted := by
  have sameWalk : ∀ matched, followWalk oracles fingerprint (legs.map legWithoutTimes) nowMs
      targets tick (legWithoutTimes leg) index matched accepted =
      followWalk oracles fingerprint legs nowMs targets tick leg index matched accepted := by
    intro matched
    unfold followWalk
    simp only [timeless_reset, length_map]
    rfl
  unfold followLeg
  rw [sameWalk]
  rfl

theorem timeless_fix (prepared) (tick : Tick) (accepted : AcceptedFix) :
    applyFix oracles fingerprint (legs.map legWithoutTimes) captures nowMs targets prepared tick
        accepted =
      applyFix oracles fingerprint legs captures nowMs targets prepared tick accepted := by
  unfold applyFix
  dsimp only
  rw [timeless_leg]
  cases legs[tick.state.currentLegIndex]? with
  | none => rfl
  | some leg => simp only [Option.map_some, timeless_follow_leg]

end

theorem timeless_tick (oracles : TransitOracles) (input : TransitTickInput) :
    processTransitFix oracles { input with itinerary := withoutTimes input.itinerary } =
      processTransitFix oracles input := by
  have sameTargets : resolveTransitLegTargets oracles.stopAreaDistance
      (withoutTimes input.itinerary) input.stopAreas =
      resolveTransitLegTargets oracles.stopAreaDistance input.itinerary input.stopAreas := by
    exact timeless_resolve_legs _ _ _ _ _
  have samePhase : normalisePhase (withoutTimes input.itinerary).legs input.state =
      normalisePhase input.itinerary.legs input.state := by
    unfold normalisePhase withoutTimes
    rw [timeless_ride_at]
  have sameStart : startTick { input with itinerary := withoutTimes input.itinerary } =
      startTick input := by
    unfold startTick
    dsimp only
    rw [samePhase]
  have sameActed : ∀ targets,
      actedTick oracles { input with itinerary := withoutTimes input.itinerary } targets =
        actedTick oracles input targets := by
    intro targets
    unfold actedTick
    rw [sameStart]
    cases input.action with
    | none => rfl
    | some action => exact timeless_action oracles _ input.itinerary.legs _ targets _ _ action
  have sameFollowed : ∀ targets,
      followedTick oracles { input with itinerary := withoutTimes input.itinerary } targets =
        followedTick oracles input targets := by
    intro targets
    have sameAccepted : acceptedFix { input with itinerary := withoutTimes input.itinerary } =
      acceptedFix input := rfl
    unfold followedTick
    rw [sameActed, sameAccepted]
    dsimp only
    rw [timeless_prepared]
    cases acceptedFix input with
    | none => rfl
    | some accepted => exact timeless_fix oracles _ input.itinerary.legs _ _ targets _ _ accepted
  unfold processTransitFix
  dsimp only
  rw [sameTargets]
  simp only [sameFollowed, sameActed]
  rfl

structure RiderTick where
  captures : List LegCapture
  fix : Option FixInput
  action : Option TransitRiderAction
  nowMs : ℤ
  options : TransitTickOptions
  prepared : Option (List (Option PreparedTransitLeg))
  stopAreas : Option TransitStopAreaIndex

def inputOf (itinerary : TripItinerary) (state : TransitTickState) (tick : RiderTick) :
    TransitTickInput where
  itinerary := itinerary
  captures := tick.captures
  state := state
  fix := tick.fix
  action := tick.action
  nowMs := tick.nowMs
  options := tick.options
  prepared := tick.prepared
  stopAreas := tick.stopAreas

structure Journey where
  state : TransitTickState
  emitted : List TransitNavigationEvent

def setOut (itinerary : TripItinerary) (nowMs : ℤ) : Journey where
  state := freshTransitTickState nowMs itinerary
  emitted := []

def rideOn (oracles : TransitOracles) (itinerary : TripItinerary) (journey : Journey)
    (tick : RiderTick) : Journey :=
  match processTransitFix oracles (inputOf itinerary journey.state tick) with
  | .ok result => { state := result.state, emitted := journey.emitted ++ result.events }
  | .error _ => journey

structure OnTrip (itinerary : TripItinerary) (journey : Journey) : Prop where
  placed : Placed itinerary.legs journey.state
  recorded : Emitted MAX_EMITTED_IDS [] (journey.emitted.map TransitNavigationEvent.id)
    journey.state.emittedEventIds

theorem set_out_on_trip (itinerary : TripItinerary) (nowMs : ℤ)
    (travels : itinerary.legs ≠ []) : OnTrip itinerary (setOut itinerary nowMs) where
  placed := {
    onTrip := length_pos_iff.mpr travels
    fits := entry_phase_fits itinerary.legs 0
    undoFits := by intro last taken; cases taken }
  recorded := .nothing []

theorem ride_on_keeps (oracles : TransitOracles) (itinerary : TripItinerary) (journey : Journey)
    (tick : RiderTick) (onTrip : OnTrip itinerary journey) :
    OnTrip itinerary (rideOn oracles itinerary journey tick) := by
  unfold rideOn
  split
  · rename_i result processed
    exact {
      placed := (tick_placed processed onTrip.placed).1
      recorded := by
        dsimp only
        rw [map_append]
        exact onTrip.recorded.append
          (tick_emits processed) }
  · exact onTrip

structure KeepsProgress (oracles : TransitOracles) (itinerary : TripItinerary)
    (before : TransitTickState) (tick : RiderTick) (result : TransitTickResult) : Prop where
  onTrip : result.state.currentLegIndex < itinerary.legs.length
  backByUndo : result.state.currentLegIndex < before.currentLegIndex →
    UndoAccepted tick.nowMs before tick.action
  ridesOnRides : result.state.phase = .riding ∨ result.state.phase = .waitingToBoard →
    isTransitRide itinerary.legs[result.state.currentLegIndex]? = true
  walksElsewhere : result.state.phase = .walking →
    isTransitRide itinerary.legs[result.state.currentLegIndex]? = false
  arrivalLeftByUndo : before.phase = .arrived → result.state.phase ≠ .arrived →
    UndoAccepted tick.nowMs before tick.action
  rejectedFixIgnored : tick.action = none → result.rejectedReason.isSome →
    result.events = [] ∧
      result.state = { before with
        phase := normalisePhase itinerary.legs before,
        progressConfidence := result.state.progressConfidence }
  timesIgnored : ∀ other, withoutTimes other = withoutTimes itinerary →
    processTransitFix oracles (inputOf other before tick) = .ok result

theorem rejected_not_accepted {oracles input result}
    (processed : processTransitFix oracles input = .ok result)
    (rejected : result.rejectedReason.isSome) : acceptedFix input = none := by
  have cases := processed_cases processed
  obtain ⟨targets, found⟩ := cases
  rw [found.2] at rejected
  simp only [finishTick, rejectedFix] at rejected
  unfold acceptedFix
  split
  · rename_i accepted checked
    rw [checked] at rejected
    cases rejected
  · rfl

theorem tick_keeps_progress (oracles : TransitOracles) (itinerary : TripItinerary)
    (before : TransitTickState) (tick : RiderTick) (result : TransitTickResult)
    (placed : Placed itinerary.legs before)
    (processed : processTransitFix oracles (inputOf itinerary before tick) = .ok result) :
    KeepsProgress oracles itinerary before tick result := by
  have moved := tick_placed processed placed
  exact {
    onTrip := moved.1.onTrip
    backByUndo := by
      intro back
      by_contra notUndone
      have onward := (moved.2 notUndone).onward
      exact absurd onward (Nat.not_le_of_lt back)
    ridesOnRides := moved.1.fits.1
    walksElsewhere := moved.1.fits.2
    arrivalLeftByUndo := by
      intro arrived left
      by_contra notUndone
      exact left ((moved.2 notUndone).stays arrived)
    rejectedFixIgnored := by
      intro noAction rejected
      exact tick_without_progress processed noAction (rejected_not_accepted processed rejected)
    timesIgnored := by
      intro other alike
      have otherTick := timeless_tick oracles (inputOf other before tick)
      have thisTick := timeless_tick oracles (inputOf itinerary before tick)
      rw [← otherTick, ← processed, ← thisTick]
      simp only [inputOf, alike] }

theorem rider_progress_kept (oracles : TransitOracles) (itinerary : TripItinerary)
    (travels : itinerary.legs ≠ []) (startMs : ℤ) (ticks : List RiderTick) : (∀ tick result,
      processTransitFix oracles (inputOf itinerary
            (run (rideOn oracles itinerary) ticks (setOut itinerary startMs)).state tick) =
        .ok result → KeepsProgress oracles itinerary
        (run (rideOn oracles itinerary) ticks (setOut itinerary startMs)).state tick result) ∧
    (((run (rideOn oracles itinerary) ticks (setOut itinerary startMs)).emitted.map
        TransitNavigationEvent.id).dedup.length < 512 →
      ((run (rideOn oracles itinerary) ticks (setOut itinerary startMs)).emitted.map
        TransitNavigationEvent.id).Nodup) := by
  have onTrip := run_keeps (ride_on_keeps oracles itinerary) ticks (setOut itinerary startMs)
    (set_out_on_trip itinerary startMs travels)
  apply And.intro
  · intro tick result processed
    exact tick_keeps_progress oracles itinerary _ tick result onTrip.placed processed
  · intro few
    exact onTrip.recorded.nodup_of_few (Nat.le_of_lt few)

def flatOracles : TransitOracles where
  line := {
    lineLength := fun _ => 0
    snapPreparedRoute := fun _ _ => { alongMeters := 0, deviationMeters := 0 }
    projectWaypointAfter := fun _ _ _ => { alongMeters := 0, deviationMeters := 0 }
    resolveWaypointOccurrences := fun _ stops => stops.tail.map fun _ => 0
    haversineDistance := fun _ _ => 0 }
  stopAreaDistance := fun _ _ => some 0
  toUpperCase := fun text => text

def tramStop (stopId : String) : StopPlace where
  name := none
  stopId := some stopId
  location := { lng := .finite 8, lat := .finite 50 }
  platformCode := none
  scheduledPlatformCode := none

def tramLeg : TransitLeg where
  mode := some "tram"
  route := true
  tripId := some "t1"
  fromStop := some (tramStop "a")
  toStop := some (tramStop "b")
  startTime := none
  endTime := none
  scheduledStartTime := none
  scheduledEndTime := none
  geometry := none
  steps := []
  cancelled := false
  interlineWithPrevious := false

def tramTrip : TripItinerary where
  legs := [tramLeg]
  refreshToken := none

def tapOf (type : RiderActionType) : RiderTick where
  captures := []
  fix := none
  action := some { type := type, legIndex := 0 }
  nowMs := 1000
  options := { itineraryFingerprint := "fp", accuracyCapMeters := 100 }
  prepared := none
  stopAreas := none

theorem tram_ride_kept : (∃ result, processTransitFix flatOracles (inputOf tramTrip
        (run (rideOn flatOracles tramTrip) [tapOf (.boarding .board)] (setOut tramTrip 0)).state
        (tapOf (.boarding .alight))) = .ok result ∧ KeepsProgress flatOracles tramTrip
        (run (rideOn flatOracles tramTrip) [tapOf (.boarding .board)] (setOut tramTrip 0)).state
        (tapOf (.boarding .alight)) result) ∧
    ((run (rideOn flatOracles tramTrip) [tapOf (.boarding .board)] (setOut tramTrip 0)).emitted.map
      TransitNavigationEvent.id).Nodup := by
  have kept := rider_progress_kept flatOracles tramTrip (by decide) 0 [tapOf (.boarding .board)]
  apply And.intro
  · have returned : (processTransitFix flatOracles (inputOf tramTrip
        (run (rideOn flatOracles tramTrip) [tapOf (.boarding .board)] (setOut tramTrip 0)).state
        (tapOf (.boarding .alight)))).isOk = true := by
      decide +kernel
    cases processed : processTransitFix flatOracles (inputOf tramTrip
        (run (rideOn flatOracles tramTrip) [tapOf (.boarding .board)] (setOut tramTrip 0)).state
        (tapOf (.boarding .alight))) with
    | error thrown =>
      rw [processed] at returned
      cases returned
    | ok result => exact Exists.intro result (And.intro rfl (kept.1 _ result processed))
  · apply kept.2
    decide +kernel

end OpenMapX.Navigation.RiderProgress
