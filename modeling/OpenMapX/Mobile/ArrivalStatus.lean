import OpenMapX.Mobile.RefreshMoves
import OpenMapX.Mobile.TickArrivals

/-!
# The status and the phase

The phase of a trip is set by its ticks, and the status of its session is derived from
the arrivals that they emit. The two agree as long as no tick ends the trip while the id
of the arrival is known from an arrival that was undone.
-/

namespace OpenMapX.Mobile.ArrivalStatus

open Foundation.Runs Navigation.TransitTrip Navigation.StopTargets Navigation.TransitFix
open Navigation.RiderProgress (processed_cases)
open SessionStore TransitBatch TransitProcessor Coordinator
open Mobile.CoordinatorHandlers (tramDeps tramPackage)
open RefreshMoves TickArrivals

structure Trip where
  session : MobileNavigationSession
  cache : TransitItineraryCache

inductive TripEvent where
  | batch (fixes : List FixInput) (nowMs : ℤ)
  | action (sessionId : Option String) (action : ActionCommand) (nowMs : ℤ)
  | refresh (outcome : RefreshOutcome) (nowMs : ℤ)

/-- The session after a commit; a processor that refuses or throws commits nothing. -/
def committedOr {ε : Type} (session : MobileNavigationSession)
    (decision : Except ε RepositoryMutation) : MobileNavigationSession :=
  match decision with
  | .ok mutation => mutation.session
  | .error _ => session

def tripStep (deps : CoordinatorDeps) (trip : Trip) : TripEvent → Trip
  | .batch fixes nowMs =>
    if trip.session.status ≠ .active then trip
    else {
      session := committedOr trip.session
        (fixesMutation deps trip.cache trip.session fixes nowMs),
      cache := usedCache deps trip.cache trip.session }
  | .action sessionId action nowMs =>
    match trip.session.payload with
    | .ground _ => trip
    | .transit payload =>
      if actionGate sessionId action trip.session payload = .free then {
        session := committedOr trip.session
          (takeAction deps trip.cache trip.session payload action nowMs),
        cache := usedCache deps trip.cache trip.session }
      else trip
  | .refresh outcome nowMs =>
    match refreshMutation deps.transit trip.session outcome nowMs with
    | .ok (some mutation) => { trip with session := mutation.session }
    | _ => trip

def StatusFollows (session : MobileNavigationSession) : Prop :=
  ∀ payload, session.payload = .transit payload →
    (session.status = .arrived ↔ payload.tickState.phase = .arrived)

section

variable (oracles : TransitOracles)
variable (inputFor : TransitTickState → Option FixInput → TransitTickInput)
variable (targets : List TransitLegTargets)

def ticksRepeat : List (Option FixInput) → TransitTickState → Bool
  | [], _ => false
  | fix :: rest, state =>
    (endsTrip oracles (inputFor state fix) targets && endKnown (inputFor state fix)) ||
      match processTransitFix oracles (inputFor state fix) with
      | .error _ => false
      | .ok result => ticksRepeat rest result.state

end

def batchRepeats (environment : TransitEnvironment) (cache : TransitItineraryCache)
    (session : MobileNavigationSession) (payload : TransitPayload) (fixes : List FixInput)
    (nowMs : ℤ) (action : Option TransitRiderAction) : Bool :=
  match resolveTransitLegTargets environment.oracles.stopAreaDistance
      payload.startPackage.itinerary payload.startPackage.stopAreas with
  | .error _ => false
  | .ok targets =>
    ticksRepeat environment.oracles
      (tickInputFor (preparedFor environment.oracles.line cache session payload) payload action
        nowMs) targets (ticksOf fixes) (liveTickState session payload)

/-- The event ends the trip once more, under an id that has been emitted already. -/
def arrivesAgain (deps : CoordinatorDeps) (trip : Trip) (event : TripEvent) : Bool :=
  match trip.session.payload, event with
  | .transit payload, .batch fixes nowMs =>
    trip.session.status == .active &&
      batchRepeats deps.transit.batch trip.cache trip.session payload fixes nowMs none
  | .transit payload, .action sessionId action nowMs =>
    actionGate sessionId action trip.session payload == .free &&
      batchRepeats deps.transit.batch trip.cache trip.session payload [] nowMs
        (some { type := action.type, legIndex := action.legIndex })
  | _, _ => false

section

variable {oracles : TransitOracles} {cache : TransitItineraryCache} {payload : TransitPayload}
variable {nowMs : ℤ} {targets : List TransitLegTargets}

theorem ticks_tell (resolved : resolveTransitLegTargets oracles.stopAreaDistance
      payload.startPackage.itinerary payload.startPackage.stopAreas = .ok targets)
    (fixes) (ticks final : BatchTicks)
    (returned : runTicks oracles (tickInputFor cache payload none nowMs) fixes ticks = .ok final) :
    final.tickState.lastAction = ticks.tickState.lastAction ∧
      (ticks.tickState.phase = .arrived → final.tickState.phase = .arrived ∧
        final.events.any isArrival = ticks.events.any isArrival ∧
        ticksRepeat oracles (tickInputFor cache payload none nowMs) targets fixes
          ticks.tickState = false) ∧
      (ticks.tickState.phase ≠ .arrived → ticks.events.any isArrival = false →
        ((final.events.any isArrival = true ↔ final.tickState.phase = .arrived) ↔
          ticksRepeat oracles (tickInputFor cache payload none nowMs) targets fixes
            ticks.tickState = false)) := by
  induction fixes generalizing ticks with
  | nil =>
    cases returned
    apply And.intro rfl
    apply And.intro
    · intro arrived
      exact And.intro arrived (And.intro rfl rfl)
    · intro under quiet
      rw [quiet]
      exact iff_of_true (iff_of_false Bool.false_ne_true under) rfl
  | cons fix rest ih =>
    unfold runTicks at returned
    unfold ticksRepeat
    cases processed : processTransitFix oracles
        (tickInputFor cache payload none nowMs ticks.tickState fix) with
    | error thrown =>
      rw [processed] at returned
      cases returned
    | ok result =>
      rw [processed] at returned
      have arrives := fix_tick_arrives processed resolved rfl
      have later := ih _ returned
      apply And.intro (later.1.trans arrives.2.2)
      apply And.intro
      · intro arrived
        have ended : endsTrip oracles
            (tickInputFor cache payload none nowMs ticks.tickState fix) targets = false := by
          by_contra ends
          exact ends_under_way rfl (by simpa using ends) arrived
        have rested := later.2.1 (arrives.2.1.mpr (Or.inl arrived))
        apply And.intro rested.1
        apply And.intro
        · rw [rested.2.1, List.any_append, arrives.1, ended, Bool.false_and, Bool.or_false]
        · rw [ended, Bool.false_and, Bool.false_or]
          exact rested.2.2
      · intro under quiet
        cases ends : endsTrip oracles
            (tickInputFor cache payload none nowMs ticks.tickState fix) targets with
        | true =>
          have rested := later.2.1 (arrives.2.1.mpr (Or.inr ends))
          dsimp only
          rw [rested.2.1, List.any_append, arrives.1, quiet, ends, rested.2.2]
          simp [rested.1]
        | false =>
          have moving : result.state.phase ≠ .arrived := by
            intro arrived
            rcases arrives.2.1.mp arrived with before | now
            · exact under before
            · rw [ends] at now
              cases now
          have silent : (ticks.events ++ result.events).any isArrival = false := by
            rw [List.any_append, arrives.1, quiet, ends]
            rfl
          rw [Bool.false_and, Bool.false_or]
          exact later.2.2 moving silent

variable (cache) (payload) (nowMs) in
theorem ticks_return (action) (resolved : resolveTransitLegTargets oracles.stopAreaDistance
      payload.startPackage.itinerary payload.startPackage.stopAreas = .ok targets) (fixes)
    (ticks : BatchTicks) :
    ∃ final, runTicks oracles (tickInputFor cache payload action nowMs) fixes ticks =
      .ok final := by
  induction fixes generalizing ticks with
  | nil => exact Exists.intro ticks rfl
  | cons fix rest ih =>
    have processed : ∃ result, processTransitFix oracles
        (tickInputFor cache payload action nowMs ticks.tickState fix) = .ok result := by
      unfold processTransitFix
      have same : resolveTransitLegTargets oracles.stopAreaDistance
          (tickInputFor cache payload action nowMs ticks.tickState fix).itinerary
          (tickInputFor cache payload action nowMs ticks.tickState fix).stopAreas =
            .ok targets := resolved
      rw [same]
      exact Exists.intro _ rfl
    obtain ⟨result, returned⟩ := processed
    unfold runTicks
    rw [returned]
    exact ih _

variable {environment : TransitEnvironment} {session : MobileNavigationSession}
variable {fixes : List FixInput} {action : Option TransitRiderAction}

theorem thrown_not_repeated {thrown : TypeError}
    (failed : processTransitBatch environment cache session payload fixes nowMs action =
      .error thrown) :
    batchRepeats environment cache session payload fixes nowMs action = false := by
  unfold batchRepeats
  cases resolved : resolveTransitLegTargets environment.oracles.stopAreaDistance
      payload.startPackage.itinerary payload.startPackage.stopAreas with
  | error other => rfl
  | ok found =>
    have returned := ticks_return
      (preparedFor environment.oracles.line cache session payload) payload nowMs action resolved
      (ticksOf fixes) {
        tickState := liveTickState session payload,
        confidence := payload.confidence,
        actionRejected := false,
        events := [] }
    obtain ⟨final, ran⟩ := returned
    unfold processTransitBatch batchTicks at failed
    rw [ran] at failed
    cases failed

variable {outcome : TransitBatchOutcome}

theorem batch_ran
    (returned : processTransitBatch environment cache session payload fixes nowMs action =
      .ok outcome) :
    ∃ ticks found, resolveTransitLegTargets environment.oracles.stopAreaDistance
        payload.startPackage.itinerary payload.startPackage.stopAreas = .ok found ∧
      runTicks environment.oracles (tickInputFor
        (preparedFor environment.oracles.line cache session payload) payload action nowMs)
        (ticksOf fixes) {
          tickState := liveTickState session payload,
          confidence := payload.confidence,
          actionRejected := false,
          events := [] } = .ok ticks ∧
      outcome = batchOutcome environment session payload nowMs ticks := by
  have first : ∃ fix rest, ticksOf fixes = fix :: rest := by
    cases fixes with
    | nil => exact Exists.intro none (Exists.intro [] rfl)
    | cons fix rest => exact Exists.intro (some fix) (Exists.intro (rest.map some) rfl)
  unfold processTransitBatch batchTicks at returned
  cases ran : runTicks environment.oracles (tickInputFor
      (preparedFor environment.oracles.line cache session payload) payload action nowMs)
      (ticksOf fixes) {
        tickState := liveTickState session payload,
        confidence := payload.confidence,
        actionRejected := false,
        events := [] } with
  | error thrown =>
    rw [ran] at returned
    cases returned
  | ok ticks =>
    rw [ran] at returned
    cases returned
    rcases first with ⟨fix, rest, nonempty⟩
    rw [nonempty] at ran
    unfold runTicks at ran
    split at ran
    · cases ran
    · rename_i result processed
      obtain ⟨found, resolved⟩ := processed_cases processed
      exact Exists.intro ticks (Exists.intro found (And.intro resolved.1
        (And.intro rfl rfl)))

theorem next_status_cases (arrived : Bool) (phase : TransitPhase) (status : SessionStatus)
    (underWay : status = .active ∨ status = .arrived) :
    nextStatus arrived phase status = .active ∨ nextStatus arrived phase status = .arrived := by
  unfold nextStatus
  split
  · exact Or.inr rfl
  · split
    · exact Or.inl rfl
    · exact underWay

theorem next_status_active (arrived : Bool) (phase : TransitPhase) :
    nextStatus arrived phase .active = .arrived ↔ arrived = true := by
  unfold nextStatus
  split
  · rename_i told
    exact iff_of_true rfl told
  · rename_i quiet
    rw [if_neg (by simp)]
    exact iff_of_false (by simp) quiet

theorem batch_keeps (underWay : session.status = .active ∨ session.status = .arrived)
    (returned : processTransitBatch environment cache session payload fixes nowMs none =
      .ok outcome) : outcome.payload.tickState.lastAction = payload.tickState.lastAction ∧
      (outcome.session.status = .active ∨ outcome.session.status = .arrived) := by
  rcases batch_ran returned with ⟨ticks, found, resolved, ran, same⟩
  rw [same]
  apply And.intro (ticks_tell resolved _ _ _ ran).1
  exact next_status_cases _ _ _ underWay

theorem batch_tells (active : session.status = .active) (under : payload.tickState.phase ≠ .arrived)
    (returned : processTransitBatch environment cache session payload fixes nowMs none =
      .ok outcome) :
    (outcome.session.status = .arrived ↔ outcome.payload.tickState.phase = .arrived) ↔
      batchRepeats environment cache session payload fixes nowMs none = false := by
  rcases batch_ran returned with ⟨ticks, found, resolved, ran, same⟩
  have told := ticks_tell resolved _ _ _ ran
  rw [same]
  unfold batchRepeats batchOutcome
  rw [resolved]
  dsimp only
  rw [active, next_status_active]
  exact told.2.2 under rfl

theorem undo_not_ends {input action} (acts : input.action = some action)
    (undo : action.type = .undo) : endsTrip oracles input targets = false := by
  unfold endsTrip leavesLastRide
  rw [acts]
  dsimp only
  rw [undo]
  rfl

theorem action_ran {outcome action}
    (returned : processTransitBatch environment cache session payload [] nowMs (some action) =
      .ok outcome) :
    ∃ (input : TransitTickInput) (result : TransitTickResult) (found : List TransitLegTargets),
      resolveTransitLegTargets environment.oracles.stopAreaDistance input.itinerary
        input.stopAreas = .ok found ∧ input.action = some action ∧ input.fix = none ∧
      input.state = liveTickState session payload ∧
      processTransitFix environment.oracles input = .ok result ∧
      outcome.actionRejected = result.actionRejected ∧
      outcome.payload.tickState.lastAction = result.state.lastAction ∧
      outcome.payload.tickState.phase = result.state.phase ∧ outcome.session.status =
        nextStatus (result.events.any isArrival) result.state.phase session.status ∧
      batchRepeats environment cache session payload [] nowMs (some action) =
        (endsTrip environment.oracles input found && endKnown input) := by
  rcases batch_ran returned with ⟨ticks, found, resolved, ran, same⟩
  have one : ticksOf [] = [none] := rfl
  rw [one] at ran
  unfold runTicks at ran
  split at ran
  · cases ran
  · rename_i result processed
    cases ran
    refine ⟨_, result, found, resolved, rfl, rfl, rfl, processed, ?_, ?_, ?_, ?_, ?_⟩
    · rw [same]
      exact Bool.false_or _
    · rw [same]
      rfl
    · rw [same]
      rfl
    · rw [same]
      rfl
    · unfold batchRepeats
      rw [resolved, one]
      dsimp only
      unfold ticksRepeat
      rw [processed]
      exact Bool.or_false _

section

variable {action : TransitRiderAction}

theorem action_tells (undoes : UndoesUnderWay payload.tickState)
    (underWay : session.status = .active ∨ session.status = .arrived ∧ action.type = .undo)
    (returned : processTransitBatch environment cache session payload [] nowMs (some action) =
      .ok outcome) (taken : outcome.actionRejected = false) :
    UndoesUnderWay outcome.payload.tickState ∧
      ((outcome.session.status = .arrived ↔ outcome.payload.tickState.phase = .arrived) ↔
        batchRepeats environment cache session payload [] nowMs (some action) = false) := by
  rcases action_ran returned with
    ⟨input, result, found, resolved, acts, noFix, state, processed, rejected, last, phase, status,
      repeats⟩
  rw [rejected] at taken
  have arrives := action_tick_arrives processed resolved action acts noFix taken
    (by rw [state]; exact undoes)
  apply And.intro
  · intro other remembered
    rw [last] at remembered
    exact arrives.2.2 other remembered
  · rw [status, phase, repeats, arrives.2.1, arrives.1]
    rcases underWay with active | undone
    · rw [active, next_status_active]
      cases endsTrip environment.oracles input found <;> cases endKnown input <;> simp
    · have onWay : endsTrip environment.oracles input found = false := undo_not_ends acts undone.2
      have moving : result.state.phase ≠ .arrived := by
        intro arrived
        have ends := arrives.2.1.mp arrived
        rw [onWay] at ends
        cases ends
      rw [onWay, undone.1]
      unfold nextStatus
      simp [moving]

theorem action_keeps (underWay : session.status = .active ∨ session.status = .arrived)
    (returned : processTransitBatch environment cache session payload [] nowMs (some action) =
      .ok outcome) : outcome.session.status = .active ∨ outcome.session.status = .arrived := by
  rcases action_ran returned with ⟨input, result, found, -, -, -, -, -, -, -, -, status, -⟩
  rw [status]
  exact next_status_cases _ _ _ underWay

theorem rejected_not_repeated
    (returned : processTransitBatch environment cache session payload [] nowMs (some action) =
      .ok outcome) (rejected : outcome.actionRejected = true) :
    batchRepeats environment cache session payload [] nowMs (some action) = false := by
  rcases action_ran returned with
    ⟨input, result, found, resolved, acts, -, -, processed, same, -, -, -, repeats⟩
  rw [same] at rejected
  rw [repeats, rejected_not_ends processed resolved action acts rejected, Bool.false_and]

end

end

section

variable {deps : CoordinatorDeps}

structure UnderWay (session : MobileNavigationSession) : Prop where
  status : session.status = .active ∨ session.status = .arrived
  undoes : ∃ payload, session.payload = .transit payload ∧ UndoesUnderWay payload.tickState

theorem follows_iff {session payload} (transit : session.payload = .transit payload) :
    StatusFollows session ↔ (session.status = .arrived ↔ payload.tickState.phase = .arrived) := by
  constructor
  · intro follows
    exact follows payload transit
  · intro agrees other is
    rw [transit] at is
    cases is
    exact agrees

theorem decided_tick (session) (payload : TransitPayload) (arrived : Bool) (nowMs : ℤ) :
    (decideRefresh session payload arrived nowMs).1.tickState = payload.tickState := by
  unfold decideRefresh
  dsimp only
  split
  · rfl
  · split <;> rfl

section

variable {cache : TransitItineraryCache} {session : MobileNavigationSession}
  {payload : TransitPayload}

theorem fixes_outcome {fixes} {nowMs : ℤ} {mutation} (transit : session.payload = .transit payload)
    (decided : fixesMutation deps cache session fixes nowMs = .ok mutation) :
    ∃ outcome next, processTransitBatch deps.transit.batch cache session payload fixes nowMs none =
        .ok outcome ∧ mutation.session.status = outcome.session.status ∧
      mutation.session.payload = .transit next ∧ next.tickState = outcome.payload.tickState := by
  unfold fixesMutation processFixes at decided
  rw [transit] at decided
  dsimp only at decided
  cases ran : processTransitBatch deps.transit.batch cache session payload fixes nowMs none with
  | error thrown =>
    rw [ran] at decided
    cases decided
  | ok outcome =>
    rw [ran] at decided
    cases decided
    exact ⟨outcome, _, rfl, rfl, rfl, decided_tick _ _ _ _⟩

theorem fixes_thrown {fixes} {nowMs : ℤ} {thrown : Thrown}
    (transit : session.payload = .transit payload)
    (failed : fixesMutation deps cache session fixes nowMs = .error thrown) :
    batchRepeats deps.transit.batch cache session payload fixes nowMs none = false := by
  unfold fixesMutation processFixes at failed
  rw [transit] at failed
  dsimp only at failed
  cases ran : processTransitBatch deps.transit.batch cache session payload fixes nowMs none with
  | error other => exact thrown_not_repeated ran
  | ok outcome =>
    rw [ran] at failed
    cases failed

theorem action_refused {action} {nowMs : ℤ} {refusal : Refusal}
    (failed : takeAction deps cache session payload action nowMs = .error refusal) :
    batchRepeats deps.transit.batch cache session payload [] nowMs
      (some { type := action.type, legIndex := action.legIndex }) = false := by
  unfold takeAction TransitProcessor.transitAction at failed
  cases ran : processTransitBatch deps.transit.batch cache session payload [] nowMs
      (some { type := action.type, legIndex := action.legIndex }) with
  | error other => exact thrown_not_repeated ran
  | ok outcome =>
    rw [ran] at failed
    cases rejected : outcome.actionRejected with
    | true => exact rejected_not_repeated ran rejected
    | false =>
      simp only [Except.map, rejected, Bool.false_eq_true, if_false, processed] at failed
      cases failed

end

theorem refreshed_tick {environment payload next answer} {nowMs : ℤ}
    (returned : refreshedPayload environment payload answer nowMs = .ok next) :
    next.tickState.phase = payload.tickState.phase ∧
      next.tickState.lastAction = payload.tickState.lastAction := by
  have failed : ∀ failure,
      (retireBroken (failedRefresh payload failure nowMs)).tickState = payload.tickState := by
    intro failure
    unfold retireBroken
    split <;> rfl
  unfold refreshedPayload at returned
  split at returned
  · cases returned
    rw [failed]
    exact And.intro rfl rfl
  · cases returned
    rw [failed]
    exact And.intro rfl rfl
  · split at returned
    · cases returned
      rw [failed]
      exact And.intro rfl rfl
    · split at returned
      · cases returned
      · cases returned
        rw [failed]
        exact And.intro rfl rfl
      · cases returned
        unfold adoptRefresh
        dsimp only
        split
        · exact And.intro rfl rfl
        · exact And.intro rfl rfl

theorem gate_open {sessionId action session payload}
    (free : actionGate sessionId action session payload = .free) :
    session.status = .active ∨ session.status = .arrived ∧ action.type = .undo := by
  unfold actionGate at free
  split at free
  · cases free
  · split at free
    · cases free
    · split at free
      · cases free
      · rename_i passes
        by_contra closed
        apply passes
        apply Or.inr
        rw [not_or] at closed
        exact closed

section

variable (trip : Trip) {payload : TransitPayload}

section

variable (transit : trip.session.payload = .transit payload) (underWay : UnderWay trip.session)
  (undoes : UndoesUnderWay payload.tickState)
include transit underWay undoes

theorem batch_step (fixes : List FixInput) (nowMs : ℤ) :
    UnderWay (tripStep deps trip (.batch fixes nowMs)).session ∧ (StatusFollows trip.session →
        (StatusFollows (tripStep deps trip (.batch fixes nowMs)).session ↔
          arrivesAgain deps trip (.batch fixes nowMs) = false)) := by
  unfold tripStep arrivesAgain
  rw [transit]
  dsimp only
  by_cases active : trip.session.status = .active
  · have isActive : (trip.session.status == .active) = true := by simp [active]
    rw [if_neg (not_not.mpr active), isActive, Bool.true_and]
    cases decided : fixesMutation deps trip.cache trip.session fixes nowMs with
    | error thrown =>
      apply And.intro underWay
      intro follows
      exact iff_of_true follows (fixes_thrown transit decided)
    | ok mutation =>
      rcases fixes_outcome transit decided with ⟨outcome, next, ran, status, is, tick⟩
      have kept := batch_keeps underWay.status ran
      apply And.intro
      · exact {
          status := by
            change mutation.session.status = _ ∨ mutation.session.status = _
            rw [status]
            exact kept.2
          undoes := by
            apply Exists.intro next
            apply And.intro is
            intro last remembered
            rw [tick, kept.1] at remembered
            exact undoes last remembered }
      · intro follows
        have under : payload.tickState.phase ≠ .arrived := by
          intro arrived
          have same := ((follows_iff transit).mp follows).mpr arrived
          rw [active] at same
          cases same
        have told := batch_tells active under ran
        change StatusFollows mutation.session ↔ _
        rw [follows_iff is, status, tick]
        exact told
  · have closed : (trip.session.status == .active) = false := by simp [active]
    rw [if_pos active, closed, Bool.false_and]
    apply And.intro underWay
    intro follows
    exact iff_of_true follows rfl

theorem action_step (sessionId : Option String) (action : ActionCommand) (nowMs : ℤ) :
    UnderWay (tripStep deps trip (.action sessionId action nowMs)).session ∧
      (StatusFollows trip.session →
        (StatusFollows (tripStep deps trip (.action sessionId action nowMs)).session ↔
          arrivesAgain deps trip (.action sessionId action nowMs) = false)) := by
  unfold tripStep arrivesAgain
  rw [transit]
  dsimp only
  by_cases free : actionGate sessionId action trip.session payload = .free
  · have isFree : (actionGate sessionId action trip.session payload == .free) = true := by
      simp [free]
    rw [if_pos free, isFree, Bool.true_and]
    cases decided : takeAction deps trip.cache trip.session payload action nowMs with
    | error refusal =>
      apply And.intro underWay
      intro follows
      exact iff_of_true follows (action_refused decided)
    | ok mutation =>
      rcases acted_outcome decided with ⟨outcome, ran, taken, same⟩
      have told := action_tells undoes (gate_open free) ran taken
      have status : mutation.session.status = outcome.session.status := by rw [same]
      have is : mutation.session.payload = .transit { outcome.payload with
          tickState := { outcome.payload.tickState with
            lastActionId := some action.actionId } } := by rw [same]
      apply And.intro
      · exact {
          status := by
            change mutation.session.status = _ ∨ mutation.session.status = _
            rw [status]
            exact action_keeps underWay.status ran
          undoes := Exists.intro _ (And.intro is told.1) }
      · intro _
        change StatusFollows mutation.session ↔ _
        rw [follows_iff is, status]
        exact told.2
  · have closed : (actionGate sessionId action trip.session payload == .free) = false := by
      simp [free]
    rw [if_neg free, closed, Bool.false_and]
    apply And.intro underWay
    intro follows
    exact iff_of_true follows rfl

theorem refresh_step (outcome : RefreshOutcome) (nowMs : ℤ) :
    UnderWay (tripStep deps trip (.refresh outcome nowMs)).session ∧ (StatusFollows trip.session →
        (StatusFollows (tripStep deps trip (.refresh outcome nowMs)).session ↔
          arrivesAgain deps trip (.refresh outcome nowMs) = false)) := by
  unfold tripStep arrivesAgain
  dsimp only
  split
  · rename_i mutation decided
    rcases refreshed_session decided with ⟨before, next, was, -, -, -, returned, same⟩
    rw [transit] at was
    cases was
    have tick := refreshed_tick returned
    rw [same]
    apply And.intro
    · exact {
        status := underWay.status
        undoes := by
          apply Exists.intro next
          apply And.intro rfl
          intro last remembered
          rw [tick.2] at remembered
          exact undoes last remembered }
    · intro follows
      rw [transit]
      apply iff_of_true _ rfl
      intro other is
      cases is
      rw [tick.1]
      exact follows payload transit
  · rw [transit]
    apply And.intro underWay
    intro follows
    exact iff_of_true follows rfl

end

theorem step_follows (event : TripEvent) (underWay : UnderWay trip.session) :
    UnderWay (tripStep deps trip event).session ∧ (StatusFollows trip.session →
        (StatusFollows (tripStep deps trip event).session ↔
          arrivesAgain deps trip event = false)) := by
  rcases underWay.undoes with ⟨payload, transit, undoes⟩
  cases event with
  | batch fixes nowMs => exact batch_step trip transit underWay undoes fixes nowMs
  | action sessionId action nowMs =>
    exact action_step trip transit underWay undoes sessionId action nowMs
  | refresh outcome nowMs => exact refresh_step trip transit underWay undoes outcome nowMs

end

end

/-- In every run of batches, actions and refreshes that sets out with a fresh tick, the
status follows the phase exactly as long as the trip does not arrive again under an id
that has been emitted. -/
theorem status_follows_phase (deps : CoordinatorDeps) (start : Trip)
    (active : start.session.status = .active) (payload : TransitPayload)
    (transit : start.session.payload = .transit payload) (setOutAtMs : ℤ)
    (fresh : payload.tickState = freshTransitTickState setOutAtMs payload.startPackage.itinerary)
    (events : List TripEvent) :
    (∀ reached, reached <+: events → StatusFollows (run (tripStep deps) reached start).session) ↔
    (∀ earlier event, earlier ++ [event] <+: events →
      arrivesAgain deps (run (tripStep deps) earlier start) event = false) := by
  have underWay : UnderWay start.session := {
    status := Or.inl active
    undoes := by
      apply Exists.intro payload
      apply And.intro transit
      intro last remembered
      rw [fresh] at remembered
      cases remembered }
  have follows : StatusFollows start.session := by
    rw [follows_iff transit, active, fresh]
    apply iff_of_false (by simp)
    unfold freshTransitTickState
    dsimp only
    split <;> simp
  exact run_guarded_iff
    (fun trip event underWay => (step_follows trip event underWay).1)
    (fun trip event underWay => (step_follows trip event underWay).2)
    events start underWay follows

def tramUnderWay : Trip where
  session := { createTransitPreparingSession tramPackage "s1" .background 0 with
    status := .active }
  cache := emptyCache

def tap (actionId : String) (type : RiderActionType) (expectedPhase : TransitPhase) : TripEvent :=
  .action (some "s1")
    { itineraryFingerprint := "fp", actionId := actionId, type := type, legIndex := 0,
      expectedPhase := expectedPhase } 1000

def ride : List TripEvent :=
  [tap "a1" (.boarding .board) .waitingToBoard, tap "a2" (.boarding .alight) .riding]

theorem tram_status_follows :
    StatusFollows (run (tripStep tramDeps) ride tramUnderWay).session := by
  have follows := status_follows_phase tramDeps tramUnderWay rfl _ rfl 0 rfl ride
  apply follows.mpr _ ride (List.prefix_refl ride)
  let once : Trip → TripEvent → Prop := fun trip event => arrivesAgain tramDeps trip event = false
  apply @guarded_cons _ _ _ once
  · decide +kernel
  · apply @guarded_cons _ _ _ once
    · decide +kernel
    · exact @guarded_nil _ _ _ once _

/-- The rider boards, leaves, takes that back and leaves again: the trip has arrived,
and its session goes on. -/
theorem second_arrival_untold : ¬ StatusFollows (run (tripStep tramDeps)
      (ride ++ [tap "a3" .undo .arrived, tap "a4" (.boarding .alight) .riding])
      tramUnderWay).session := by
  intro follows
  have session : (run (tripStep tramDeps)
      (ride ++ [tap "a3" .undo .arrived, tap "a4" (.boarding .alight) .riding])
      tramUnderWay).session.status = .active := by decide +kernel
  have phase : (transitOf (some (run (tripStep tramDeps)
      (ride ++ [tap "a3" .undo .arrived, tap "a4" (.boarding .alight) .riding])
      tramUnderWay).session)).map (fun found => found.2.tickState.phase) = some .arrived := by
    decide +kernel
  generalize (run (tripStep tramDeps)
      (ride ++ [tap "a3" .undo .arrived, tap "a4" (.boarding .alight) .riding])
      tramUnderWay).session = last at follows session phase
  cases payload : last.payload with
  | ground ground =>
    simp only [transitOf, Option.bind_some, payload] at phase
    cases phase
  | transit transit =>
    simp only [transitOf, Option.bind_some, payload, Option.map_some, Option.some.injEq] at phase
    have arrived := (follows transit payload).mpr phase
    rw [session] at arrived
    cases arrived

end OpenMapX.Mobile.ArrivalStatus
