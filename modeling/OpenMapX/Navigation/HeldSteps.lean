import OpenMapX.Navigation.RiderProgress

/-!
# Held steps

What a tick carries on between two actions of the rider: the noted action stays, the
leg only goes on, and the step of the walk stays one of the leg. With an action the
tick notes where the rider was, which an undo gives back.
-/

namespace OpenMapX.Navigation.HeldSteps

open TransitTrip StopTargets StopCursor TransitFix RiderProgress

/-- The step is the first one, which a leg without steps has too, or one of the leg's. -/
def HasStep (legs : List TransitLeg) (index step : Nat) : Prop :=
  step = 0 ∨ ∃ leg, legs[index]? = some leg ∧ step < leg.steps.length

instance (legs : List TransitLeg) (index step : Nat) : Decidable (HasStep legs index step) :=
  decidable_of_iff (step = 0 ∨ ((legs[index]?).any fun leg => decide (step < leg.steps.length)))
    (by simp [HasStep, Option.any_eq_true])

theorem pass_steps_le (ends : List ℚ) (alongMeters entryMeters exitMeters : ℚ) (lastIndex : Nat)
    (gate : StepGateState) (fuel : Nat) (inside : gate.committedStepIndex ≤ lastIndex) :
    (passSteps ends alongMeters entryMeters exitMeters lastIndex gate fuel).committedStepIndex ≤
      lastIndex := by
  induction fuel generalizing gate with
  | zero => exact inside
  | succ fuel ih =>
    unfold passSteps
    split
    · rename_i below
      dsimp only
      split
      · exact ih _ below
      · exact inside
    · exact inside

theorem advance_gate_le (distances : List ℚ) (alongMeters : ℚ) (prev : StepGateState)
    (entryMeters exitMeters : ℚ) :
    (advanceStepGate distances alongMeters prev entryMeters exitMeters).committedStepIndex ≤
      distances.length - 1 := by
  unfold advanceStepGate
  dsimp only
  split
  · exact Nat.zero_le _
  · exact pass_steps_le _ _ _ _ _ _ _ (Nat.min_le_right _ _)

theorem followed_step {legs state leg} (found : legs[state.currentLegIndex]? = some leg) (indexed)
    (snap : RouteSnap) : HasStep legs state.currentLegIndex
      (followSteps state leg indexed snap).currentWalkStepIndex := by
  have bounded : (followSteps state leg indexed snap).currentWalkStepIndex ≤
      leg.steps.length - 1 := by
    apply le_trans (Nat.min_le_left _ _)
    have gate := advance_gate_le (leg.steps.map TransitStep.distanceMeters)
      (if 0 < indexed.lengthMeters then
        snap.alongMeters / indexed.lengthMeters *
          (leg.steps.map TransitStep.distanceMeters).sum else 0)
      { committedStepIndex := state.currentWalkStepIndex,
        reachedStepEnd := state.reachedStepEnd.getD false }
      WALKING_GATE_ENTRY_METERS WALKING_GATE_EXIT_METERS
    rw [List.length_map] at gate
    exact gate
  by_cases first : (followSteps state leg indexed snap).currentWalkStepIndex = 0
  · exact Or.inl first
  · exact Or.inr ⟨leg, found, by omega⟩

def Afoot (phase : TransitPhase) : Prop := phase = .walking ∨ phase = .waitingToBoard

def HasCursor (state : TransitTickState) : Prop :=
  state.stopCursor.isSome ∧ state.alongMeters.isSome

structure Carries (legs : List TransitLeg) (before after : TransitTickState) : Prop where
  lastAction : after.lastAction = before.lastAction
  onward : before.currentLegIndex ≤ after.currentLegIndex
  afoot : after.currentLegIndex = before.currentLegIndex → Afoot after.phase → Afoot before.phase
  step : HasStep legs before.currentLegIndex before.currentWalkStepIndex →
    HasStep legs after.currentLegIndex after.currentWalkStepIndex
  cursor : HasCursor before → HasCursor after

theorem Carries.refl (legs : List TransitLeg) (state : TransitTickState) :
    Carries legs state state where
  lastAction := rfl
  onward := le_refl _
  afoot := fun _ afoot => afoot
  step := fun step => step
  cursor := fun cursor => cursor

theorem Carries.trans {legs} {first second third}
    (before : Carries legs first second) (after : Carries legs second third) :
    Carries legs first third where
  lastAction := after.lastAction.trans before.lastAction
  onward := le_trans before.onward after.onward
  afoot := by
    intro same afoot
    have onward := before.onward
    have onwards := after.onward
    exact before.afoot (by omega) (after.afoot (by omega) afoot)
  step := fun step => after.step (before.step step)
  cursor := fun cursor => after.cursor (before.cursor cursor)

structure Untouched (before after : TransitTickState) : Prop where
  place : SamePlace before after
  step : after.currentWalkStepIndex = before.currentWalkStepIndex
  cursor : after.stopCursor = before.stopCursor
  along : after.alongMeters = before.alongMeters

theorem Untouched.carries {before after} (untouched : Untouched before after)
    (legs : List TransitLeg) : Carries legs before after where
  lastAction := untouched.place.lastAction
  onward := by rw [untouched.place.index]
  afoot := by intro _ afoot; rwa [untouched.place.phase] at afoot
  step := by intro step; rw [untouched.place.index, untouched.step]; exact step
  cursor := by
    intro cursor
    unfold HasCursor
    rw [untouched.cursor, untouched.along]
    exact cursor

theorem emit_untouched (fingerprint : String) (tick : Tick) (body : TransitEventBody) :
    Untouched tick.state (emit fingerprint tick body).state := by
  have place := emit_same_place fingerprint tick body
  unfold emit at place ⊢
  dsimp only at place ⊢
  split
  · exact { place := SamePlace.refl _, step := rfl, cursor := rfl, along := rfl }
  · exact {
      place := { index := rfl, phase := rfl, lastAction := rfl }
      step := rfl, cursor := rfl, along := rfl }

theorem reset_carries (fingerprint : String) (legs : List TransitLeg) (nowMs : ℤ) (tick : Tick)
    (index : Nat) (later : tick.state.currentLegIndex < index) :
    Carries legs tick.state (resetLeg fingerprint legs nowMs tick index).state := by
  have place := reset_leg_place fingerprint legs nowMs tick index
  exact {
    lastAction := place.2.2
    onward := by rw [place.1]; exact Nat.le_of_lt later
    afoot := by
      intro same
      rw [place.1] at same
      exact absurd same (Nat.ne_of_gt later)
    step := fun _ => Or.inl rfl
    cursor := fun _ => And.intro rfl rfl }

section

variable (oracles : TransitOracles) (fingerprint : String) (legs : List TransitLeg)
variable (captures : List LegCapture) (nowMs : ℤ) (targets : List TransitLegTargets)

variable (tick : Tick) (leg : TransitLeg)

theorem ride_carries (index : Nat) (indexed) (accepted : AcceptedFix) : Carries legs tick.state
      (followRide oracles fingerprint captures tick leg index indexed accepted).state := by
  unfold followRide
  split
  · exact Carries.refl legs _
  · dsimp only
    split
    · apply Carries.trans _ ((emit_untouched fingerprint _ _).carries legs)
      exact {
        lastAction := rfl, onward := le_refl _, afoot := fun _ afoot => afoot
        step := fun step => step, cursor := fun _ => And.intro rfl rfl }
    · exact {
        lastAction := rfl, onward := le_refl _, afoot := fun _ afoot => afoot
        step := fun step => step, cursor := fun _ => And.intro rfl rfl }

variable (found : legs[tick.state.currentLegIndex]? = some leg)
include found

theorem step_carries (matched) (accepted : AcceptedFix) :
    Carries legs tick.state (stepWalk tick leg matched accepted).state := by
  unfold stepWalk
  split
  · rename_i indexed snap
    split
    · exact {
        lastAction := rfl, onward := le_refl _, afoot := fun _ afoot => afoot
        step := fun _ => followed_step found indexed snap, cursor := fun cursor => cursor }
    · exact Carries.refl legs _
  · exact Carries.refl legs _

omit found in
theorem Carries.settle {before after changed} (carries : Carries legs before after)
    (settled : ¬ Afoot changed.phase) (index : changed.currentLegIndex = after.currentLegIndex)
    (action : changed.lastAction = after.lastAction)
    (step : changed.currentWalkStepIndex = after.currentWalkStepIndex)
    (cursor : changed.stopCursor = after.stopCursor)
    (along : changed.alongMeters = after.alongMeters) : Carries legs before changed := by
  apply carries.trans
  exact {
    lastAction := action
    onward := by rw [index]
    afoot := fun _ afoot => absurd afoot settled
    step := by intro held; rw [index, step]; exact held
    cursor := by
      intro held
      unfold HasCursor
      rw [cursor, along]
      exact held }

omit found in
theorem arrived_settled : ¬ Afoot .arrived := by
  simp [Afoot]

theorem walk_carries (matched) (accepted : AcceptedFix) :
    Carries legs tick.state (followWalk oracles fingerprint legs nowMs targets tick leg
      tick.state.currentLegIndex matched accepted).state := by
  have stepped := step_carries legs tick leg found matched accepted
  have same := step_same_place tick leg matched accepted
  unfold followWalk
  dsimp only
  split
  · split
    · apply Carries.trans _ ((emit_untouched fingerprint _ _).carries legs)
      exact stepped.settle legs arrived_settled rfl rfl rfl rfl rfl
    · apply Carries.trans _ (reset_carries fingerprint legs nowMs _ _ _)
      · apply stepped.trans
        apply Untouched.carries
        exact {
          place := { index := rfl, phase := rfl, lastAction := rfl }
          step := rfl, cursor := rfl, along := rfl }
      · exact Nat.lt_succ_of_le (le_of_eq same.index)
  · exact stepped

omit found in
theorem platform_carries (index : Nat) : Carries legs tick.state
      (announcePlatform oracles fingerprint captures tick leg index).state := by
  unfold announcePlatform
  dsimp only
  split
  · exact (emit_untouched fingerprint tick _).carries legs
  · exact Carries.refl legs _

theorem leg_carries (indexed) (snap : Option RouteSnap) (accepted : AcceptedFix) :
    Carries legs tick.state (followLeg oracles fingerprint legs captures nowMs targets tick leg
      tick.state.currentLegIndex indexed snap accepted).state := by
  unfold followLeg
  dsimp only
  apply Carries.trans _ (platform_carries oracles fingerprint legs captures _ leg _)
  split
  · exact ride_carries oracles fingerprint legs captures tick leg _ indexed accepted
  · split
    · exact Carries.refl legs _
    · exact walk_carries oracles fingerprint legs nowMs targets tick leg found _ accepted

omit found

theorem fix_carries (prepared) (tick : Tick) (accepted : AcceptedFix) : Carries legs tick.state
      (applyFix oracles fingerprint legs captures nowMs targets prepared tick accepted).state := by
  have judged : Untouched tick.state (judgeFix tick.state
      (snapOf oracles prepared tick.state.currentLegIndex accepted) accepted) := {
    place := { index := rfl, phase := rfl, lastAction := rfl }
    step := rfl, cursor := rfl, along := rfl }
  have recorded : ∀ state, Untouched state (recordFix nowMs state accepted) := by
    intro state
    exact {
      place := { index := rfl, phase := rfl, lastAction := rfl }
      step := rfl, cursor := rfl, along := rfl }
  unfold applyFix
  dsimp only
  apply Carries.trans _ ((recorded _).carries legs)
  split
  · rename_i leg found
    split
    · exact judged.carries legs
    · exact (judged.carries legs).trans (leg_carries oracles fingerprint legs captures nowMs targets
        (Tick.mk (judgeFix tick.state
          (snapOf oracles prepared tick.state.currentLegIndex accepted) accepted) tick.events)
        leg found _ _ accepted)
  · exact judged.carries legs

end

/-- The held step is one of the leg, and so is the one that an undo would give back. An
undo that stays on the leg takes the rider off the ride or back from the end. -/
structure UndoReady (legs : List TransitLeg) (state : TransitTickState) : Prop where
  step : HasStep legs state.currentLegIndex state.currentWalkStepIndex
  undoStep : ∀ last, state.lastAction = some last →
    HasStep legs last.previous.currentLegIndex last.previous.currentWalkStepIndex
  behind : ∀ last, state.lastAction = some last →
    last.previous.currentLegIndex ≤ state.currentLegIndex ∧
      (last.previous.currentLegIndex = state.currentLegIndex → ¬ Afoot state.phase)

theorem UndoReady.carried {legs} {before after}
    (ready : UndoReady legs before) (carries : Carries legs before after) :
    UndoReady legs after where
  step := carries.step ready.step
  undoStep := by rw [carries.lastAction]; exact ready.undoStep
  behind := by
    rw [carries.lastAction]
    intro last noted
    have behind := ready.behind last noted
    have onward := carries.onward
    apply And.intro (le_trans behind.1 onward)
    intro same afoot
    have stayed : after.currentLegIndex = before.currentLegIndex := by omega
    exact behind.2 (by omega) (carries.afoot stayed afoot)

structure Noted (before after : TransitTickState) (boarding : BoardingAction) (legIndex : Nat)
    (nowMs : ℤ) : Prop where
  noted : after.lastAction = some {
    type := boarding, legIndex := legIndex, atMs := nowMs, previous := positionOf before }
  onward : before.currentLegIndex ≤ after.currentLegIndex
  moved : before.currentLegIndex = after.currentLegIndex → ¬ Afoot after.phase
  cursor : HasCursor before → HasCursor after
  step : after.currentWalkStepIndex = 0 ∨ after.currentLegIndex = before.currentLegIndex ∧
    after.currentWalkStepIndex = before.currentWalkStepIndex

theorem Noted.ready {legs} {before after}
    {boarding} {legIndex : Nat} {nowMs : ℤ}
    (noted : Noted before after boarding legIndex nowMs) (ready : UndoReady legs before) :
    UndoReady legs after where
  step := by
    rcases noted.step with first | same
    · exact Or.inl first
    · rw [same.1, same.2]
      exact ready.step
  undoStep := by
    intro last held
    rw [noted.noted] at held
    cases held
    exact ready.step
  behind := by
    intro last held
    rw [noted.noted] at held
    cases held
    exact And.intro noted.onward noted.moved

section

variable (oracles : TransitOracles) (fingerprint : String) (legs : List TransitLeg)
variable (nowMs : ℤ) (targets : List TransitLegTargets)

def notedState (state : TransitTickState) (boarding : BoardingAction) (legIndex : Nat) :
    TransitTickState :=
  { state with
    lastAction := some {
      type := boarding, legIndex := legIndex, atMs := nowMs, previous := positionOf state } }

theorem board_noted (tick : Tick) (boarding : BoardingAction) (legIndex : Nat) : Noted tick.state
      (boardRide fingerprint legs nowMs
        { tick with state := notedState nowMs tick.state boarding legIndex }
        (boardIndexOf legs tick.state boarding)).state boarding legIndex nowMs := by
  have place := reset_leg_place fingerprint legs nowMs
    { tick with state := notedState nowMs tick.state boarding legIndex }
    (boardIndexOf legs tick.state boarding)
  have onward := board_index_onward legs tick.state boarding
  unfold boardRide
  dsimp only
  have boarded := emit_untouched fingerprint
    { resetLeg fingerprint legs nowMs
        { tick with state := notedState nowMs tick.state boarding legIndex }
        (boardIndexOf legs tick.state boarding) with
      state := { (resetLeg fingerprint legs nowMs
        { tick with state := notedState nowMs tick.state boarding legIndex }
        (boardIndexOf legs tick.state boarding)).state with
        phase := .riding, offPlan := some false } }
    (.board (boardIndexOf legs tick.state boarding))
  exact {
    noted := boarded.place.lastAction.trans place.2.2
    onward := by rw [boarded.place.index]; exact le_of_le_of_eq onward place.1.symm
    moved := by
      intro _
      rw [boarded.place.phase]
      simp [Afoot]
    cursor := by
      intro _
      unfold HasCursor
      rw [boarded.cursor, boarded.along]
      exact And.intro rfl rfl
    step := Or.inl boarded.step }

theorem alight_noted (tick : Tick) (accepted : Option AcceptedFix) (boarding : BoardingAction)
    (legIndex : Nat) : Noted tick.state (alightRide oracles fingerprint legs nowMs targets
        { tick with state := notedState nowMs tick.state boarding legIndex } accepted
        tick.state.currentLegIndex).state boarding legIndex nowMs := by
  have alighted := emit_untouched fingerprint
    { tick with state := notedState nowMs tick.state boarding legIndex }
    (.alight tick.state.currentLegIndex)
  have index := alighted.place.index
  unfold alightRide
  dsimp only
  split
  · split
    · exact {
        noted := alighted.place.lastAction
        onward := le_of_eq index.symm
        moved := by intro _; simp [Afoot]
        cursor := by
          intro held
          unfold HasCursor
          rw [alighted.cursor, alighted.along]
          exact held
        step := Or.inr (And.intro index alighted.step) }
    · have arrived := emit_untouched fingerprint
        { emit fingerprint { tick with state := notedState nowMs tick.state boarding legIndex }
            (.alight tick.state.currentLegIndex) with
          state := { (emit fingerprint
              { tick with state := notedState nowMs tick.state boarding legIndex }
              (.alight tick.state.currentLegIndex)).state with
            offPlan := some (leftOffPlan oracles nowMs targets (emit fingerprint
              { tick with state := notedState nowMs tick.state boarding legIndex }
              (.alight tick.state.currentLegIndex)).state accepted tick.state.currentLegIndex)
            phase := .arrived } }
        (.arrival tick.state.currentLegIndex)
      exact {
        noted := arrived.place.lastAction.trans alighted.place.lastAction
        onward := by rw [arrived.place.index]; exact le_of_eq index.symm
        moved := by
          intro _
          rw [arrived.place.phase]
          exact arrived_settled
        cursor := by
          intro held
          unfold HasCursor
          rw [arrived.cursor, arrived.along]
          dsimp only
          rw [alighted.cursor, alighted.along]
          exact held
        step := by
          rw [arrived.place.index, arrived.step]
          exact Or.inr (And.intro index alighted.step) }
  · have place := reset_leg_place fingerprint legs nowMs
      { emit fingerprint { tick with state := notedState nowMs tick.state boarding legIndex }
          (.alight tick.state.currentLegIndex) with
        state := { (emit fingerprint
            { tick with state := notedState nowMs tick.state boarding legIndex }
            (.alight tick.state.currentLegIndex)).state with
          offPlan := some (leftOffPlan oracles nowMs targets (emit fingerprint
            { tick with state := notedState nowMs tick.state boarding legIndex }
            (.alight tick.state.currentLegIndex)).state accepted tick.state.currentLegIndex) } }
      (tick.state.currentLegIndex + 1)
    exact {
      noted := place.2.2.trans alighted.place.lastAction
      onward := by rw [place.1]; exact Nat.le_succ _
      moved := by
        intro same
        rw [place.1] at same
        exact absurd same (Nat.ne_of_lt (Nat.lt_succ_self _))
      cursor := fun _ => And.intro rfl rfl
      step := Or.inl rfl }

theorem action_cases (tick : Tick) (accepted action) :
    (applyAction oracles fingerprint legs nowMs targets tick accepted action = (tick, true)) ∨
    (∃ last, action.type = .undo ∧ undoable nowMs tick.state action.legIndex = some last ∧
      applyAction oracles fingerprint legs nowMs targets tick accepted action =
        ({ tick with state := restorePrevious nowMs tick.state last }, false)) ∨
    (∃ boarding, action.type = .boarding boarding ∧
      (applyAction oracles fingerprint legs nowMs targets tick accepted action).2 = false ∧
      Noted tick.state
        (applyAction oracles fingerprint legs nowMs targets tick accepted action).1.state boarding
        action.legIndex nowMs) := by
  cases action with
  | mk type legIndex =>
    cases type with
    | undo =>
      cases found : undoable nowMs tick.state legIndex with
      | none => exact Or.inl (by simp only [applyAction, found])
      | some last =>
        exact Or.inr (Or.inl ⟨last, rfl, rfl, by simp only [applyAction, found]⟩)
    | boarding boarding =>
      by_cases valid : validAction legs tick.state boarding legIndex = true
      · refine Or.inr (Or.inr ⟨boarding, rfl, ?_⟩)
        simp only [applyAction, valid, if_true]
        split
        · rename_i alights
          exact And.intro rfl
            (alight_noted ..)
        · exact And.intro rfl
            (board_noted fingerprint legs nowMs tick boarding legIndex)
      · exact Or.inl (by simp only [applyAction, valid]; rfl)

end

section

variable {oracles : TransitOracles} {input : TransitTickInput} {result : TransitTickResult}

theorem start_carries : Carries input.itinerary.legs input.state (startTick input).state where
  lastAction := rfl
  onward := le_refl _
  afoot := by
    intro _ afoot
    unfold startTick normalisePhase at afoot
    dsimp only at afoot
    split at afoot
    · rename_i walking
      exact Or.inl walking.1
    · split at afoot
      · rename_i waiting
        exact Or.inr waiting.1
      · exact afoot
  step := fun step => step
  cursor := fun cursor => cursor

theorem finish_carries (legs : List TransitLeg) (nowMs : ℤ) (tick : Tick) (actionRejected : Bool)
    (rejectedReason) :
    Carries legs tick.state (finishTick nowMs tick actionRejected rejectedReason).state := by
  apply Untouched.carries
  unfold finishTick
  dsimp only
  split
  · exact {
      place := { index := rfl, phase := rfl, lastAction := rfl }
      step := rfl, cursor := rfl, along := rfl }
  · exact { place := SamePlace.refl _, step := rfl, cursor := rfl, along := rfl }

variable (oracles) in
theorem followed_carries (targets) :
    Carries input.itinerary.legs (actedTick oracles input targets).1.state
      (followedTick oracles input targets).state := by
  unfold followedTick
  dsimp only
  split
  · exact fix_carries oracles _ input.itinerary.legs input.captures input.nowMs targets _ _ _
  · exact Carries.refl _ _

def Acts (input : TransitTickInput) (result : TransitTickResult) : Prop :=
  input.action.isSome ∧ result.actionRejected = false

/-- What a tick does before its fix: nothing, an undo, or a boarding that it notes. -/
inductive Acted (input : TransitTickInput) (result : TransitTickResult) :
    TransitTickState → Prop where
  | idle (idle : ¬ Acts input result) : Acted input result (startTick input).state
  | undone (last : LastAction) (acts : Acts input result)
      (chosen : input.action = some { type := .undo, legIndex := last.legIndex })
      (found : input.state.lastAction = some last) :
      Acted input result (restorePrevious input.nowMs (startTick input).state last)
  | boarded (acted : TransitTickState) (boarding : BoardingAction) (legIndex : Nat)
      (acts : Acts input result)
      (chosen : input.action = some { type := .boarding boarding, legIndex := legIndex })
      (noted : Noted (startTick input).state acted boarding legIndex input.nowMs) :
      Acted input result acted

variable (processed : processTransitFix oracles input = .ok result)
include processed

theorem tick_acted :
    ∃ acted, Acted input result acted ∧ Carries input.itinerary.legs acted result.state := by
  obtain ⟨targets, _, rfl⟩ := processed_cases processed
  refine ⟨(actedTick oracles input targets).1.state, ?_,
    (followed_carries ..).trans (finish_carries _ _ _ _ _)⟩
  cases chosen : input.action with
  | none =>
    have still : actedTick oracles input targets = (startTick input, false) := by
      simp only [actedTick, chosen]
    rw [still]
    exact .idle (by simp [Acts, chosen])
  | some action =>
    have acted : actedTick oracles input targets = applyAction oracles
        input.options.itineraryFingerprint input.itinerary.legs input.nowMs targets
        (startTick input) (acceptedFix input) action := by
      simp only [actedTick, chosen]
    rcases action_cases oracles input.options.itineraryFingerprint input.itinerary.legs
      input.nowMs targets (startTick input) (acceptedFix input) action with
      rejected | ⟨last, undo, found, undone⟩ | ⟨boarding, boards, taken, noted⟩
    · rw [acted, rejected]
      exact .idle (by simp [Acts, finishTick])
    · rw [acted, undone]
      have held := Option.filter_eq_some_iff.mp found
      simp only [Bool.and_eq_true, beq_iff_eq] at held
      apply Acted.undone last
      · exact And.intro (by rw [chosen]; rfl) rfl
      · rw [chosen, held.2.1, ← undo]
      · exact held.1
    · rw [← acted] at taken noted
      apply Acted.boarded _ boarding action.legIndex
      · exact And.intro (by rw [chosen]; rfl) taken
      · rw [chosen, ← boards]
      · exact noted

theorem idle_tick_carries
    (idle : ¬ Acts input result) : Carries input.itinerary.legs input.state result.state := by
  obtain ⟨acted, done, carries⟩ := tick_acted processed
  cases done with
  | idle _ => exact start_carries.trans carries
  | undone last acts _ _ => exact absurd acts idle
  | boarded _ boarding legIndex acts _ _ => exact absurd acts idle

theorem boarding_tick_notes {boarding} {legIndex : Nat}
    (chosen : input.action = some { type := .boarding boarding, legIndex := legIndex })
    (taken : result.actionRejected = false) :
    result.state.lastAction = some {
      type := boarding, legIndex := legIndex, atMs := input.nowMs,
      previous := positionOf (startTick input).state } := by
  obtain ⟨acted, done, carries⟩ := tick_acted processed
  rw [carries.lastAction]
  cases done with
  | idle idle => exact absurd (And.intro (by rw [chosen]; rfl) taken) idle
  | undone last _ undo _ =>
    rw [chosen] at undo
    cases undo
  | boarded _ other otherIndex _ same noted =>
    rw [chosen] at same
    cases same
    exact noted.noted

theorem tick_keeps_ready (ready : UndoReady input.itinerary.legs input.state) :
    UndoReady input.itinerary.legs result.state := by
  obtain ⟨acted, done, carries⟩ := tick_acted processed
  have started := ready.carried start_carries
  apply UndoReady.carried _ carries
  cases done with
  | idle _ => exact started
  | undone last _ _ found =>
    exact {
      step := ready.undoStep last found
      undoStep := by intro other held; cases held
      behind := by intro other held; cases held }
  | boarded _ boarding legIndex _ _ noted => exact noted.ready started

theorem tick_keeps_cursor (held : HasCursor input.state) : HasCursor result.state := by
  obtain ⟨acted, done, carries⟩ := tick_acted processed
  apply carries.cursor
  cases done with
  | idle _ => exact held
  | undone last _ _ _ => exact And.intro rfl rfl
  | boarded _ boarding legIndex _ _ noted => exact noted.cursor held

omit processed

structure HoldsPosition (state : TransitTickState) (position : PreviousPosition) : Prop where
  leg : state.currentLegIndex = position.currentLegIndex
  phase : state.phase = position.phase
  walkStep : state.currentWalkStepIndex = position.currentWalkStepIndex
  stopCursor : state.stopCursor = some position.stopCursor
  alongMeters : state.alongMeters = some position.alongMeters

theorem undo_tick_restores {last} (processed : processTransitFix oracles input = .ok result)
    (chosen : input.action = some { type := .undo, legIndex := last.legIndex })
    (noFix : input.fix = none) (noted : input.state.lastAction = some last)
    (inTime : input.nowMs - last.atMs ≤ 120000) :
    result.actionRejected = false ∧ HoldsPosition result.state last.previous ∧
      result.state.lastAction = none := by
  obtain ⟨targets, _, rfl⟩ := processed_cases processed
  have found : undoable input.nowMs (startTick input).state last.legIndex = some last := by
    unfold undoable startTick
    rw [noted]
    simp [Option.filter, inTime]
  have noneAccepted : acceptedFix input = none := by
    simp only [acceptedFix, checkedFix, noFix, Option.map_none]
  have acted : actedTick oracles input targets =
      ({ startTick input with
        state := restorePrevious input.nowMs (startTick input).state last }, false) := by
    simp only [actedTick, chosen, applyAction, found]
  have followed : followedTick oracles input targets = (actedTick oracles input targets).1 := by
    simp only [followedTick, noneAccepted]
  rw [followed, acted]
  unfold finishTick
  dsimp only
  split
  · exact ⟨rfl, ⟨rfl, rfl, rfl, rfl, rfl⟩, rfl⟩
  · exact ⟨rfl, ⟨rfl, rfl, rfl, rfl, rfl⟩, rfl⟩

theorem undo_rejected_without_action {legIndex : Nat}
    (processed : processTransitFix oracles input = .ok result)
    (chosen : input.action = some { type := .undo, legIndex := legIndex })
    (nothing : input.state.lastAction = none) : result.actionRejected = true := by
  obtain ⟨targets, _, rfl⟩ := processed_cases processed
  have missing : undoable input.nowMs (startTick input).state legIndex = none := by
    unfold undoable startTick
    rw [nothing]
    rfl
  simp only [finishTick, actedTick, chosen, applyAction, missing]

end

end OpenMapX.Navigation.HeldSteps
