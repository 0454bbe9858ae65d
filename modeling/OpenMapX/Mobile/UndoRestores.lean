import OpenMapX.Mobile.TransitProcessor
import OpenMapX.Navigation.HeldSteps

/-!
# Undo restores

A trip through ticks, live refreshes and repaired walks, in any order. An undo gives
back the position before the noted action. The step it gives back is one of the leg
while every refresh that is taken over leaves that step to the leg.
-/

namespace OpenMapX.Mobile.UndoRestores

open Foundation.Runs Navigation.TransitTrip Navigation.StopTargets Navigation.TransitFix
  Navigation.RiderProgress Navigation.HeldSteps SessionStore TransitBatch TransitProcessor List

structure Trip where
  itinerary : TripItinerary
  state : TransitTickState

inductive TripEvent where
  | tick (tick : RiderTick)
  | refresh (next : TripItinerary)
  | repair (legIndex : Nat) (route : WalkRoute)

def Trip.input (trip : Trip) (tick : RiderTick) : TransitTickInput :=
  inputOf trip.itinerary trip.state tick

def restartWalk (reset : Bool) (state : TransitTickState) : TransitTickState :=
  if reset then
    { state with
      currentWalkStepIndex := 0,
      reachedStepEnd := some false,
      distanceToNextStepMeters := none,
      walkRevision := some (state.walkRevision.getD 0 + 1) }
  else state

section

variable (environment : ProcessorEnvironment)

def tickTrip (trip : Trip) (tick : RiderTick) : Trip :=
  match processTransitFix environment.batch.oracles (trip.input tick) with
  | .ok result => { trip with state := result.state }
  | .error _ => trip

def refreshTrip (trip : Trip) (next : TripItinerary) : Trip :=
  match mergeTransitRefresh environment trip.itinerary next trip.state.currentLegIndex
      (trip.state.walkRevision.getD 0) with
  | .ok (some merged) =>
    { itinerary := merged.itinerary, state := restartWalk merged.resetWalk trip.state }
  | _ => trip

def repairTrip (trip : Trip) (legIndex : Nat) (route : WalkRoute) : Trip :=
  if trip.state.currentLegIndex ≠ legIndex ∨ trip.state.phase ≠ .walking then trip
  else
    match repairWalk environment.batch.oracles.line trip.itinerary legIndex route with
    | .ok (some itinerary) =>
      { itinerary := itinerary,
        state := { trip.state with
          currentWalkStepIndex := 0,
          walkRevision := some (trip.state.walkRevision.getD 0 + 1),
          reachedStepEnd := some false,
          distanceToNextStepMeters := route.steps.head?.map TransitStep.distanceMeters,
          offPlan := some false } }
    | _ => trip

def stepTrip (trip : Trip) : TripEvent → Trip
  | .tick tick => tickTrip environment trip tick
  | .refresh next => refreshTrip environment trip next
  | .repair legIndex route => repairTrip environment trip legIndex route

def startTrip (itinerary : TripItinerary) (startMs : ℤ) : Trip where
  itinerary := itinerary
  state := freshTransitTickState startMs itinerary

end

section

variable {environment : ProcessorEnvironment}

theorem restart_keeps_action (reset : Bool) (state : TransitTickState) :
    (restartWalk reset state).lastAction = state.lastAction := by
  cases reset <;> rfl

theorem restart_keeps_cursor {reset : Bool} {state} (held : HasCursor state) :
    HasCursor (restartWalk reset state) := by
  cases reset <;> exact held

theorem refresh_keeps_action (trip : Trip) (next : TripItinerary) :
    (refreshTrip environment trip next).state.lastAction = trip.state.lastAction := by
  unfold refreshTrip
  split
  · exact restart_keeps_action _ _
  · rfl

theorem repair_keeps_action (trip : Trip) (legIndex : Nat) (route : WalkRoute) :
    (repairTrip environment trip legIndex route).state.lastAction = trip.state.lastAction := by
  unfold repairTrip
  split
  · rfl
  · split <;> rfl

theorem step_keeps_cursor (trip : Trip) (event : TripEvent) (held : HasCursor trip.state) :
    HasCursor (stepTrip environment trip event).state := by
  cases event with
  | tick tick =>
    simp only [stepTrip, tickTrip]
    split
    · rename_i result processed
      exact tick_keeps_cursor processed held
    · exact held
  | refresh next =>
    simp only [stepTrip, refreshTrip]
    split
    · exact restart_keeps_cursor held
    · exact held
  | repair legIndex route =>
    simp only [stepTrip, repairTrip]
    split
    · exact held
    · split
      · exact held
      · exact held

theorem start_has_cursor (itinerary : TripItinerary) (startMs : ℤ) :
    HasCursor (startTrip itinerary startMs).state :=
  And.intro rfl rfl

variable (environment) in
def Idle (trip : Trip) (event : TripEvent) : Prop :=
  ∀ tick result, event = .tick tick →
    processTransitFix environment.batch.oracles (trip.input tick) = .ok result →
    ¬ Acts (trip.input tick) result

theorem idle_keeps_action (trip : Trip) (event : TripEvent) (idle : Idle environment trip event) :
    (stepTrip environment trip event).state.lastAction = trip.state.lastAction := by
  cases event with
  | tick tick =>
    simp only [stepTrip, tickTrip]
    split
    · rename_i result processed
      exact (idle_tick_carries processed (idle tick result rfl processed)).lastAction
    · rfl
  | refresh next => exact refresh_keeps_action trip next
  | repair legIndex route => exact repair_keeps_action trip legIndex route

variable (environment) in
def IdleRun (start : Trip) (events : List TripEvent) : Prop :=
  ∀ earlier event, earlier ++ [event] <+: events →
    Idle environment (run (stepTrip environment) earlier start) event

theorem idle_run_keeps_action (start : Trip) (events : List TripEvent)
    (idle : IdleRun environment start events) :
    (run (stepTrip environment) events start).state.lastAction = start.state.lastAction := by
  apply @run_guarded _ _ (stepTrip environment)
    (fun trip => trip.state.lastAction = start.state.lastAction) (Idle environment)
  · intro trip event quiet held
    exact (idle_keeps_action trip event quiet).trans held
  · rfl
  · exact idle
  · exact prefix_rfl

def WalksAt (itinerary : TripItinerary) (index : Nat) : Prop :=
  itinerary.legs[index]?.bind TransitLeg.mode = some "walking"

variable (environment) in
/-- A refresh that is taken over leaves the step that an undo would give back, and off
a walk also the held step, to its leg. -/
structure RefreshKeepsSteps (trip : Trip) (next : TripItinerary) : Prop where
  undoStep : transitItineraryFingerprint environment trip.itinerary =
      transitItineraryFingerprint environment next →
    ∀ last, trip.state.lastAction = some last →
      HasStep next.legs last.previous.currentLegIndex last.previous.currentWalkStepIndex
  step : transitItineraryFingerprint environment trip.itinerary =
      transitItineraryFingerprint environment next →
    ¬ (WalksAt trip.itinerary trip.state.currentLegIndex ∧
      WalksAt next trip.state.currentLegIndex) →
    HasStep next.legs trip.state.currentLegIndex trip.state.currentWalkStepIndex

variable (environment) in
def KeepsSteps (trip : Trip) (event : TripEvent) : Prop :=
  ∀ next, event = .refresh next → RefreshKeepsSteps environment trip next

def Ready (trip : Trip) : Prop := UndoReady trip.itinerary.legs trip.state

theorem kept_steps {legs} {index : Nat} {old} (found : legs[index]? = some old)
    (next : List TransitLeg) (step : Nat) (inside : index < next.length)
    (held : HasStep legs index step) : HasStep (next.modify index fun leg =>
      { leg with geometry := old.geometry, steps := old.steps }) index step := by
  rcases held with first | step
  · exact Or.inl first
  · obtain ⟨leg, there, below⟩ := step
    rw [found] at there
    cases there
    exact Or.inr ⟨{ next[index] with geometry := old.geometry, steps := old.steps },
      by simp [getElem?_eq_getElem inside], below⟩

theorem modified_step {legs} {index other step : Nat}
    (change : TransitLeg → TransitLeg) (elsewhere : index ≠ other)
    (held : HasStep legs other step) : HasStep (legs.modify index change) other step := by
  have same : (legs.modify index change)[other]? = legs[other]? := by
    simp [elsewhere]
  unfold HasStep
  rw [same]
  exact held

theorem relocated_ready {legs others} {state changed}
    (ready : UndoReady legs state) (action : changed.lastAction = state.lastAction)
    (index : changed.currentLegIndex = state.currentLegIndex)
    (phase : changed.phase = state.phase)
    (step : HasStep others state.currentLegIndex changed.currentWalkStepIndex)
    (undoStep : ∀ last, state.lastAction = some last →
      HasStep others last.previous.currentLegIndex last.previous.currentWalkStepIndex) :
    UndoReady others changed where
  step := by rw [index]; exact step
  undoStep := by rw [action]; exact undoStep
  behind := by rw [action, index, phase]; exact ready.behind

inductive Merged (trip : Trip) (next : TripItinerary) : MergedRefresh → Prop where
  | elsewhere (off : ¬ (WalksAt trip.itinerary trip.state.currentLegIndex ∧
      WalksAt next trip.state.currentLegIndex)) :
      Merged trip next { itinerary := next, resetWalk := false }
  | keptRepair (old : TransitLeg)
      (found : trip.itinerary.legs[trip.state.currentLegIndex]? = some old)
      (inside : trip.state.currentLegIndex < next.legs.length) :
      Merged trip next {
        itinerary := { next with
          legs := next.legs.modify trip.state.currentLegIndex fun leg =>
            { leg with geometry := old.geometry, steps := old.steps } },
        resetWalk := false }
  | sameWalk (old fresh : TransitLeg)
      (found : trip.itinerary.legs[trip.state.currentLegIndex]? = some old)
      (refreshed : next.legs[trip.state.currentLegIndex]? = some fresh)
      (same : environment.sameWalk old fresh = true) :
      Merged trip next { itinerary := next, resetWalk := false }
  | newWalk : Merged trip next { itinerary := next, resetWalk := true }

theorem merge_cases {trip : Trip} {next merged}
    (taken : mergeTransitRefresh environment trip.itinerary next trip.state.currentLegIndex
      (trip.state.walkRevision.getD 0) = .ok (some merged)) :
    transitItineraryFingerprint environment trip.itinerary =
        transitItineraryFingerprint environment next ∧ @Merged environment trip next merged := by
  unfold mergeTransitRefresh at taken
  split at taken
  · cases taken
  · rename_i sameText
    apply And.intro (not_not.mp sameText)
    split at taken
    · rename_i old fresh found refreshed
      split at taken
      · rename_i other
        cases taken
        apply Merged.elsewhere
        intro walks
        unfold WalksAt at walks
        rw [found, refreshed] at walks
        rcases other with other | other
        · exact other walks.1
        · exact other walks.2
      · split at taken
        · split at taken
          · cases taken
            exact .keptRepair old found (List.getElem?_eq_some_iff.mp refreshed).1
          · cases taken
            rename_i oldTarget freshTarget _ _ _
            cases sameTo : sameTarget oldTarget freshTarget with
            | false => exact .newWalk
            | true =>
              cases same : environment.sameWalk old fresh with
              | false => exact .newWalk
              | true => exact .sameWalk old fresh found refreshed same
        · cases taken
    · rename_i missing
      cases taken
      apply Merged.elsewhere
      intro walks
      unfold WalksAt at walks
      cases found : trip.itinerary.legs[trip.state.currentLegIndex]? with
      | none =>
        rw [found] at walks
        cases walks.1
      | some old =>
        cases refreshed : next.legs[trip.state.currentLegIndex]? with
        | none =>
          rw [refreshed] at walks
          cases walks.2
        | some fresh => exact missing old fresh found refreshed

section

variable (walksAgree : ∀ old fresh, environment.sameWalk old fresh = true →
  old.steps.length = fresh.steps.length)

include walksAgree

theorem refresh_keeps_ready (trip : Trip) (next : TripItinerary)
    (keeps : RefreshKeepsSteps environment trip next) (ready : Ready trip) :
    Ready (refreshTrip environment trip next) := by
  unfold refreshTrip
  split
  · rename_i merged taken
    obtain ⟨sameText, cases⟩ := merge_cases taken
    have undoStep := keeps.undoStep sameText
    unfold Ready
    cases cases with
    | elsewhere off =>
      exact relocated_ready ready rfl rfl rfl (keeps.step sameText off) undoStep
    | keptRepair old found inside =>
      apply relocated_ready ready rfl rfl rfl
      · exact kept_steps found next.legs _ inside ready.step
      · intro last noted
        by_cases here : trip.state.currentLegIndex = last.previous.currentLegIndex
        · have held := ready.undoStep last noted
          rw [← here] at held ⊢
          exact kept_steps found next.legs _ inside held
        · exact modified_step _ here (undoStep last noted)
    | sameWalk old fresh found refreshed same =>
      apply relocated_ready ready rfl rfl rfl _ undoStep
      rcases ready.step with first | step
      · exact Or.inl first
      · obtain ⟨leg, there, below⟩ := step
        rw [found] at there
        cases there
        exact Or.inr ⟨fresh, refreshed, lt_of_lt_of_eq below (walksAgree old fresh same)⟩
    | newWalk => exact relocated_ready ready rfl rfl rfl (Or.inl rfl) undoStep
  · exact ready

omit walksAgree in
theorem repair_keeps_ready (trip : Trip) (legIndex : Nat) (route : WalkRoute)
    (ready : Ready trip) : Ready (repairTrip environment trip legIndex route) := by
  unfold repairTrip
  split
  · exact ready
  · rename_i here
    have place := not_or.mp here
    have onLeg := not_not.mp place.1
    have walking := not_not.mp place.2
    split
    · rename_i itinerary repaired
      have change : ∃ change, itinerary.legs = trip.itinerary.legs.modify legIndex change := by
        unfold repairWalk at repaired
        split at repaired
        · split at repaired
          · cases repaired
          · split at repaired
            · cases repaired
            · split at repaired
              · cases repaired
              · cases repaired
                exact ⟨_, rfl⟩
        · cases repaired
      obtain ⟨change, legs⟩ := change
      unfold Ready
      dsimp only
      rw [legs]
      refine relocated_ready ready rfl rfl rfl (Or.inl rfl) ?_
      intro last noted
      apply modified_step change _ (ready.undoStep last noted)
      intro same
      exact (ready.behind last noted).2 (same.symm.trans onLeg.symm) (Or.inl walking)
    · exact ready

theorem step_keeps_ready (trip : Trip) (event : TripEvent)
    (keeps : KeepsSteps environment trip event) (ready : Ready trip) :
    Ready (stepTrip environment trip event) := by
  cases event with
  | tick tick =>
    simp only [stepTrip, tickTrip]
    split
    · rename_i result processed
      exact tick_keeps_ready processed ready
    · exact ready
  | refresh next => exact refresh_keeps_ready walksAgree trip next (keeps next rfl) ready
  | repair legIndex route => exact repair_keeps_ready trip legIndex route ready

end

theorem start_ready (itinerary : TripItinerary) (startMs : ℤ) :
    Ready (startTrip itinerary startMs) where
  step := Or.inl rfl
  undoStep := by intro last noted; cases noted
  behind := by intro last noted; cases noted

/-- The leg, the phase, the step, the cursor and the distance are those before the
action, in the phase that fits the leg. -/
structure Restored (itinerary : TripItinerary) (before after : TransitTickState) : Prop where
  leg : after.currentLegIndex = before.currentLegIndex
  phase : after.phase = normalisePhase itinerary.legs before
  walkStep : after.currentWalkStepIndex = before.currentWalkStepIndex
  stopCursor : after.stopCursor = before.stopCursor
  alongMeters : after.alongMeters = before.alongMeters

theorem holds_restored {trip : Trip} {tick} {after}
    (held : HasCursor trip.state)
    (holds : HoldsPosition after (positionOf (startTick (trip.input tick)).state)) :
    Restored trip.itinerary trip.state after where
  leg := holds.leg
  phase := holds.phase
  walkStep := holds.walkStep
  stopCursor := by
    obtain ⟨cursor, known⟩ := Option.isSome_iff_exists.mp held.1
    rw [holds.stopCursor]
    simp [positionOf, startTick, Trip.input, inputOf, known]
  alongMeters := by
    obtain ⟨along, known⟩ := Option.isSome_iff_exists.mp held.2
    rw [holds.alongMeters]
    simp [positionOf, startTick, Trip.input, inputOf, known]

variable (environment) in
def Boards (trip : Trip) (tick : RiderTick) (legIndex : Nat) : Prop :=
  ∃ boarding result, tick.action = some { type := .boarding boarding, legIndex := legIndex } ∧
    processTransitFix environment.batch.oracles (trip.input tick) = .ok result ∧
    result.actionRejected = false

def Undoes (tick : RiderTick) (legIndex : Nat) : Prop :=
  tick.action = some { type := .undo, legIndex := legIndex } ∧ tick.fix = none

variable (environment) in
def UndoSpent (start : Trip) : Prop :=
  ∀ events, IdleRun environment start events → ∀ again legIndex result,
    again.action = some { type := .undo, legIndex := legIndex } →
    processTransitFix environment.batch.oracles
      ((run (stepTrip environment) events start).input again) = .ok result →
    result.actionRejected = true

theorem undo_spent (start : Trip) (nothing : start.state.lastAction = none) :
    UndoSpent environment start := by
  intro events idle again legIndex result chosen processed
  apply undo_rejected_without_action processed chosen
  exact (idle_run_keeps_action start events idle).trans nothing

def tripTo (environment : ProcessorEnvironment) (itinerary : TripItinerary) (startMs : ℤ)
    (events : List TripEvent) : Trip :=
  run (stepTrip environment) events (startTrip itinerary startMs)

theorem undo_restores_action (walksAgree : ∀ old fresh, environment.sameWalk old fresh = true →
      old.steps.length = fresh.steps.length) (itinerary : TripItinerary) (startMs : ℤ)
    (earlier between : List TripEvent) (tap undo : RiderTick) (legIndex : Nat)
    (restored : TransitTickResult)
    (boards : Boards environment (tripTo environment itinerary startMs earlier) tap legIndex)
    (idle : IdleRun environment
      (tripTo environment itinerary startMs (earlier ++ [.tick tap])) between)
    (undoes : Undoes undo legIndex) (inTime : undo.nowMs - tap.nowMs ≤ 120000)
    (processed : processTransitFix environment.batch.oracles
      ((tripTo environment itinerary startMs (earlier ++ .tick tap :: between)).input undo) =
        .ok restored) : restored.actionRejected = false ∧
    Restored (tripTo environment itinerary startMs earlier).itinerary
      (tripTo environment itinerary startMs earlier).state restored.state ∧ UndoSpent environment
      (tripTo environment itinerary startMs (earlier ++ .tick tap :: between ++ [.tick undo])) ∧
    ((∀ reached event, reached ++ [event] <+: earlier ++ .tick tap :: between →
        KeepsSteps environment (tripTo environment itinerary startMs reached) event) →
      HasStep (tripTo environment itinerary startMs
          (earlier ++ .tick tap :: between)).itinerary.legs
        restored.state.currentLegIndex restored.state.currentWalkStepIndex) := by
  obtain ⟨boarding, result, chosen, acted, taken⟩ := boards
  have held : HasCursor (tripTo environment itinerary startMs earlier).state :=
    @run_keeps _ _ (stepTrip environment) (fun trip => HasCursor trip.state) step_keeps_cursor
      earlier _ (start_has_cursor itinerary startMs)
  have tapped : (tripTo environment itinerary startMs (earlier ++ [.tick tap])).state =
      result.state := by
    unfold tripTo
    rw [run_snoc]
    simp only [stepTrip, tickTrip]
    unfold tripTo at acted
    rw [acted]
  have noted := boarding_tick_notes acted chosen taken
  have through : tripTo environment itinerary startMs (earlier ++ .tick tap :: between) =
      run (stepTrip environment) between
        (tripTo environment itinerary startMs (earlier ++ [.tick tap])) := by
    unfold tripTo
    rw [← run_append, append_assoc]
    rfl
  have kept := idle_run_keeps_action _ between idle
  rw [← through, tapped, noted] at kept
  have back := @undo_tick_restores _ _ _
    { type := boarding, legIndex := legIndex, atMs := tap.nowMs,
      previous := positionOf (startTick
        ((tripTo environment itinerary startMs earlier).input tap)).state }
    processed undoes.1 undoes.2 kept inTime
  refine ⟨back.1, holds_restored held back.2.1, ?_, ?_⟩
  · apply undo_spent
    unfold tripTo
    rw [run_snoc]
    simp only [stepTrip, tickTrip]
    unfold tripTo at processed
    rw [processed]
    exact back.2.2
  · intro keeps
    have ready := @run_guarded _ _ (stepTrip environment) Ready (KeepsSteps environment)
      (step_keeps_ready walksAgree) _ (startTrip itinerary startMs)
      (start_ready itinerary startMs) keeps _ prefix_rfl
    have step := UndoReady.undoStep ready _ kept
    rw [← back.2.1.leg, ← back.2.1.walkStep] at step
    exact step

end

def strollOracles : TransitOracles where
  line := {
    lineLength := fun _ => 100
    snapPreparedRoute := fun _ point => ⟨point.lng.value?.getD 0, 0⟩
    projectWaypointAfter := fun _ point _ => ⟨point.lng.value?.getD 0, 0⟩
    resolveWaypointOccurrences := fun _ _ => []
    haversineDistance := fun _ _ => 1000 }
  stopAreaDistance := fun _ _ => some 1000
  toUpperCase := fun text => text

def strollEnvironment : ProcessorEnvironment where
  batch := {
    oracles := strollOracles
    dateTime := fun _ => none
    transitCueEffect := fun _ _ => none
    walkCue := fun _ _ _ => none }
  parseStartPackage := some
  refreshTransitCaptures := fun captures _ _ _ => captures
  sameWalk := fun old fresh => decide (old.geometry = fresh.geometry ∧
    old.steps.map TransitStep.distanceMeters = fresh.steps.map TransitStep.distanceMeters)
  numberText := fun _ => "8"

def strollLeg (steps : Nat) : TransitLeg where
  mode := some "walking"
  route := false
  tripId := none
  fromStop := some (tramStop "home")
  toStop := some (tramStop "a")
  startTime := none
  endTime := none
  scheduledStartTime := none
  scheduledEndTime := none
  geometry := some [⟨.finite 0, .finite 0⟩, ⟨.finite 100, .finite 0⟩]
  steps := List.replicate steps ⟨20⟩
  cancelled := false
  interlineWithPrevious := false

def strollTrip (steps : Nat) : TripItinerary where
  legs := [strollLeg steps, tramLeg]
  refreshToken := none

def strollTick (fix : Option FixInput) (action : Option TransitRiderAction) (nowMs : ℤ) :
    RiderTick where
  captures := []
  fix := fix
  action := action
  nowMs := nowMs
  options := { itineraryFingerprint := "fp", accuracyCapMeters := 100 }
  prepared := none
  stopAreas := none

def halfway : RiderTick :=
  strollTick
    (some {
      coords := ⟨.finite 50, .finite 0⟩, accuracy := .finite 10, speed := none,
      timestampMs := .finite 1000, coasted := false }) none 1000

def boardTram : RiderTick := strollTick none (some { type := .boarding .board, legIndex := 1 }) 2000

def undoTram : RiderTick := strollTick none (some { type := .undo, legIndex := 1 }) 9000

theorem tram_boards :
    Boards strollEnvironment (tripTo strollEnvironment (strollTrip 5) 0 [.tick halfway]) boardTram
      1 := by
  have taken : (processTransitFix strollEnvironment.batch.oracles
      ((tripTo strollEnvironment (strollTrip 5) 0 [.tick halfway]).input boardTram)).map
        TransitTickResult.actionRejected = .ok false := by
    decide +kernel
  cases processed : processTransitFix strollEnvironment.batch.oracles
      ((tripTo strollEnvironment (strollTrip 5) 0 [.tick halfway]).input boardTram) with
  | error thrown =>
    rw [processed] at taken
    cases taken
  | ok result =>
    rw [processed] at taken
    exact ⟨.board, result, rfl, processed, Except.ok.inj taken⟩

theorem refresh_idle (environment) (trip : Trip) (next : TripItinerary) :
    IdleRun environment trip [.refresh next] := by
  intro earlier event within tick result ticks
  have member : event ∈ [TripEvent.refresh next] :=
    within.subset (mem_append_right _ mem_cons_self)
  rw [mem_singleton.mp member] at ticks
  cases ticks

theorem stroll_keeps_steps (reached : List TripEvent) (event : TripEvent)
    (within : reached ++ [event] <+: [.tick halfway, .tick boardTram, .refresh (strollTrip 3)]) :
    KeepsSteps strollEnvironment (tripTo strollEnvironment (strollTrip 5) 0 reached) event := by
  intro next refreshes
  rw [refreshes] at within
  rcases reached with _ | ⟨first, _ | ⟨second, _ | ⟨third, rest⟩⟩⟩
  · simp [cons_prefix_cons] at within
  · simp [cons_prefix_cons] at within
  · simp only [cons_append, nil_append, cons_prefix_cons, TripEvent.refresh.injEq,
      prefix_rfl, and_true] at within
    obtain ⟨rfl, rfl, rfl⟩ := within
    have noted : (tripTo strollEnvironment (strollTrip 5) 0
        [.tick halfway, .tick boardTram]).state.lastAction.map
        (fun last => (last.previous.currentLegIndex, last.previous.currentWalkStepIndex)) =
          some (0, 1) := by
      decide +kernel
    exact {
      undoStep := by
        intro _ last held
        rw [held] at noted
        have place := Prod.ext_iff.mp (Option.some.inj noted)
        have leg : last.previous.currentLegIndex = 0 := place.1
        have step : last.previous.currentWalkStepIndex = 1 := place.2
        rw [leg, step]
        decide +kernel
      step := by
        intro _ _
        decide +kernel }
  · simp [cons_prefix_cons] at within

/-- The refreshed walk still has the step to which the undo leads back. -/
theorem tram_boarding_undone : ∃ restored, processTransitFix strollEnvironment.batch.oracles
        ((tripTo strollEnvironment (strollTrip 5) 0
          [.tick halfway, .tick boardTram, .refresh (strollTrip 3)]).input undoTram) =
          .ok restored ∧ restored.actionRejected = false ∧
      Restored (tripTo strollEnvironment (strollTrip 5) 0 [.tick halfway]).itinerary
        (tripTo strollEnvironment (strollTrip 5) 0 [.tick halfway]).state restored.state ∧
      HasStep (tripTo strollEnvironment (strollTrip 5) 0
          [.tick halfway, .tick boardTram, .refresh (strollTrip 3)]).itinerary.legs
        restored.state.currentLegIndex restored.state.currentWalkStepIndex := by
  have returned : (processTransitFix strollEnvironment.batch.oracles
      ((tripTo strollEnvironment (strollTrip 5) 0
        [.tick halfway, .tick boardTram, .refresh (strollTrip 3)]).input undoTram)).isOk =
        true := by
    decide +kernel
  cases processed : processTransitFix strollEnvironment.batch.oracles
      ((tripTo strollEnvironment (strollTrip 5) 0
        [.tick halfway, .tick boardTram, .refresh (strollTrip 3)]).input undoTram) with
  | error thrown =>
    rw [processed] at returned
    cases returned
  | ok restored =>
    have agree : ∀ old fresh, strollEnvironment.sameWalk old fresh = true →
        old.steps.length = fresh.steps.length := by
      intro old fresh same
      have lengths := congrArg List.length (of_decide_eq_true same).2
      simpa using lengths
    have undone := undo_restores_action agree (strollTrip 5) 0 [.tick halfway]
      [.refresh (strollTrip 3)] boardTram undoTram 1 restored tram_boards (refresh_idle _ _ _)
      (And.intro rfl rfl) (by decide) processed
    exact ⟨restored, rfl, undone.1, undone.2.1, undone.2.2.2 stroll_keeps_steps⟩

/-- The refreshed walk has a single step while the rider is on the tram, and the undo
gives back the second. -/
theorem undone_step_missing :
    Boards strollEnvironment (tripTo strollEnvironment (strollTrip 5) 0 [.tick halfway]) boardTram
      1 ∧ IdleRun strollEnvironment
      (tripTo strollEnvironment (strollTrip 5) 0 [.tick halfway, .tick boardTram])
      [.refresh (strollTrip 1)] ∧ Undoes undoTram 1 ∧ undoTram.nowMs - boardTram.nowMs ≤ 120000 ∧
    ∃ restored, processTransitFix strollEnvironment.batch.oracles
        ((tripTo strollEnvironment (strollTrip 5) 0
          [.tick halfway, .tick boardTram, .refresh (strollTrip 1)]).input undoTram) =
          .ok restored ∧ restored.actionRejected = false ∧
      ¬ HasStep (tripTo strollEnvironment (strollTrip 5) 0
          [.tick halfway, .tick boardTram, .refresh (strollTrip 1)]).itinerary.legs
        restored.state.currentLegIndex restored.state.currentWalkStepIndex := by
  refine ⟨tram_boards, refresh_idle _ _ _, And.intro rfl rfl, by decide, ?_⟩
  have undone : (processTransitFix strollEnvironment.batch.oracles
      ((tripTo strollEnvironment (strollTrip 5) 0
        [.tick halfway, .tick boardTram, .refresh (strollTrip 1)]).input undoTram)).map
      (fun restored => (restored.actionRejected, restored.state.currentLegIndex,
        restored.state.currentWalkStepIndex)) = .ok (false, 0, 1) := by
    decide +kernel
  cases processed : processTransitFix strollEnvironment.batch.oracles
      ((tripTo strollEnvironment (strollTrip 5) 0
        [.tick halfway, .tick boardTram, .refresh (strollTrip 1)]).input undoTram) with
  | error thrown =>
    rw [processed] at undone
    cases undone
  | ok restored =>
    rw [processed] at undone
    have place := Prod.ext_iff.mp (Except.ok.inj undone)
    have steps := Prod.ext_iff.mp place.2
    refine ⟨restored, rfl, place.1, ?_⟩
    have leg : restored.state.currentLegIndex = 0 := steps.1
    have step : restored.state.currentWalkStepIndex = 1 := steps.2
    rw [leg, step]
    decide +kernel

end OpenMapX.Mobile.UndoRestores
