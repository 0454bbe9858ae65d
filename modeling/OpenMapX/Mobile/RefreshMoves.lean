import OpenMapX.Mobile.HandlerWrites

/-!
# How the record of a refresh moves

Whatever a handler commits for a session, the generation of its refresh does not
decrease, and a request is in flight afterwards only if it was before or belongs to a
later generation. Replacing the itinerary starts a later generation as well, and an
answer leaves nothing in flight.
-/

namespace OpenMapX.Mobile.RefreshMoves

open Navigation.TransitTrip SessionStore RefreshState TransitBatch TransitProcessor GroundProcessor
  Coordinator HandlerWrites

/-- The request in flight, if there is one, is the one that was, or a later one. -/
structure RecordMoves (before after : RefreshRuntime) : Prop where
  grows : before.generation ≤ after.generation
  inFlight : after.status = .inFlight →
    before.status = .inFlight ∧ after.generation = before.generation ∧
        after.requestId = before.requestId ∨
      before.generation < after.generation

variable (record : RefreshRuntime)

theorem RecordMoves.refl : RecordMoves record record where
  grows := Nat.le_refl _
  inFlight := fun flying => Or.inl (And.intro flying (And.intro rfl rfl))

theorem RecordMoves.trans {first second third : RefreshRuntime}
    (before : RecordMoves first second) (after : RecordMoves second third) :
    RecordMoves first third where
  grows := Nat.le_trans before.grows after.grows
  inFlight := by
    intro flying
    rcases after.inFlight flying with same | grown
    · rcases before.inFlight same.1 with still | grown
      · apply Or.inl
        rw [same.2.1, same.2.2]
        exact still
      · apply Or.inr
        rw [same.2.1]
        exact grown
    · exact Or.inr (Nat.lt_of_le_of_lt before.grows grown)

theorem RecordMoves.landed {before after : RefreshRuntime}
    (grows : before.generation ≤ after.generation) (landed : after.status ≠ .inFlight) :
    RecordMoves before after where
  grows := grows
  inFlight := fun flying => absurd flying landed

theorem requested_moves (requestId : String) (nowMs : ℤ) :
    RecordMoves record (onRefreshRequested record requestId nowMs) where
  grows := Nat.le_succ _
  inFlight := fun _ => Or.inr (Nat.lt_succ_self _)

theorem succeeded_moves (nowMs : ℤ) : RecordMoves record (onRefreshSucceeded record nowMs) :=
  RecordMoves.landed (Nat.le_refl _) (by simp [onRefreshSucceeded])

theorem failed_moves (failure : RefreshFailure) (nowMs : ℤ)
    (hasToken : Bool) : RecordMoves record (onRefreshFailed record failure nowMs hasToken) :=
  RecordMoves.landed (by rw [failed_generation])
    (failed_not_in_flight record failure nowMs hasToken)

theorem tokenless_moves (payload : TransitPayload) :
    RecordMoves payload.refresh (tokenlessRefresh payload) := by
  unfold tokenlessRefresh
  split
  · exact RecordMoves.refl _
  · dsimp only
    split
    · exact RecordMoves.landed (Nat.le_refl _) (by simp)
    · exact {
        grows := Nat.le_refl _
        inFlight := fun flying => Or.inl (And.intro flying (And.intro rfl rfl)) }

theorem timed_out_moves (payload : TransitPayload) (record : RefreshRuntime) (nowMs : ℤ) :
    RecordMoves record (timedOutRefresh payload record nowMs) := by
  unfold timedOutRefresh
  split
  · split
    · exact failed_moves record .ambiguous nowMs _
    · exact RecordMoves.refl _
  · exact RecordMoves.refl _

section

variable (session : MobileNavigationSession) (payload : TransitPayload) (arrived : Bool) (nowMs : ℤ)

theorem decided_moves :
    RecordMoves payload.refresh (decideRefresh session payload arrived nowMs).1.refresh := by
  have settled := (tokenless_moves payload).trans
    (timed_out_moves payload (tokenlessRefresh payload) nowMs)
  unfold decideRefresh
  dsimp only
  split
  · exact settled.trans (succeeded_moves _ nowMs)
  · split
    · exact settled.trans (requested_moves _ _ nowMs)
    · exact settled

theorem decided_sends (requestId : String)
    (sent : (decideRefresh session payload arrived nowMs).2 = some requestId) :
    payload.refresh.generation <
        (decideRefresh session payload arrived nowMs).1.refresh.generation ∧
      (decideRefresh session payload arrived nowMs).1.refresh.status = .inFlight ∧
      (decideRefresh session payload arrived nowMs).1.refresh.requestId = some requestId := by
  have settled := (tokenless_moves payload).trans
    (timed_out_moves payload (tokenlessRefresh payload) nowMs)
  unfold decideRefresh at sent ⊢
  dsimp only at sent ⊢
  split at sent
  · cases sent
  · rename_i notBroken
    split at sent
    · rename_i sends
      rw [if_neg notBroken, if_pos sends]
      cases sent
      exact And.intro (Nat.lt_succ_of_le settled.grows) (And.intro rfl rfl)
    · cases sent

end

theorem refreshed_lands (environment) (payload next : TransitPayload) (answer : RefreshAnswer)
    (nowMs : ℤ) (returned : refreshedPayload environment payload answer nowMs = .ok next) :
    next.refresh.generation = payload.refresh.generation ∧ next.refresh.status ≠ .inFlight := by
  have failing : ∀ failure, (retireBroken (failedRefresh payload failure nowMs)).refresh =
      onRefreshFailed payload.refresh failure nowMs (truthy payload.refreshToken) := by
    intro failure
    unfold retireBroken
    split <;> rfl
  have failed : ∀ failure,
      (retireBroken (failedRefresh payload failure nowMs)).refresh.generation =
          payload.refresh.generation ∧
        (retireBroken (failedRefresh payload failure nowMs)).refresh.status ≠ .inFlight := by
    intro failure
    rw [failing]
    exact And.intro (failed_generation _ _ _ _) (failed_not_in_flight _ _ _ _)
  unfold refreshedPayload at returned
  split at returned
  · cases returned
    exact failed _
  · cases returned
    exact failed _
  · split at returned
    · cases returned
      exact failed _
    · split at returned
      · cases returned
      · cases returned
        exact failed _
      · cases returned
        exact And.intro rfl (by simp [adoptRefresh, onRefreshSucceeded])

/-- What a commit makes of a session: the next revision of the same session, whose
refresh has moved. -/
structure SessionMoves (current next : MobileNavigationSession) : Prop where
  named : next.sessionId = current.sessionId
  advanced : next.revision = current.revision + 1
  moves : ∀ after, next.payload = .transit after →
    ∃ before, current.payload = .transit before ∧ RecordMoves before.refresh after.refresh

theorem SessionMoves.same {current next : MobileNavigationSession}
    (named : next.sessionId = current.sessionId) (advanced : next.revision = current.revision + 1)
    (kept : next.payload = current.payload) : SessionMoves current next where
  named := named
  advanced := advanced
  moves := by
    intro after transit
    exact Exists.intro after (And.intro (kept ▸ transit) (RecordMoves.refl _))

theorem SessionMoves.transit {current next : MobileNavigationSession}
    {before after : TransitPayload} (named : next.sessionId = current.sessionId)
    (advanced : next.revision = current.revision + 1)
    (was : current.payload = .transit before) (is : next.payload = .transit after)
    (moves : RecordMoves before.refresh after.refresh) : SessionMoves current next where
  named := named
  advanced := advanced
  moves := by
    intro other transit
    rw [is] at transit
    cases transit
    exact Exists.intro before (And.intro was moves)

theorem SessionMoves.ground {current next : MobileNavigationSession} {payload : GroundPayload}
    (named : next.sessionId = current.sessionId) (advanced : next.revision = current.revision + 1)
    (is : next.payload = .ground payload) : SessionMoves current next where
  named := named
  advanced := advanced
  moves := by
    intro other transit
    rw [is] at transit
    cases transit

theorem batch_outcome (environment cache session) (payload : TransitPayload) (fixes : List FixInput)
    (nowMs : ℤ) (action outcome)
    (returned : processTransitBatch environment cache session payload fixes nowMs action =
      .ok outcome) : outcome.session.sessionId = session.sessionId ∧
      outcome.session.revision = session.revision + 1 ∧
      outcome.payload.refresh = payload.refresh := by
  unfold processTransitBatch at returned
  cases ran : batchTicks environment (preparedFor environment.oracles.line cache session payload)
      session payload fixes nowMs action with
  | error thrown =>
    rw [ran] at returned
    cases returned
  | ok ticks =>
    rw [ran] at returned
    cases returned
    exact And.intro rfl (And.intro rfl rfl)

section

variable {deps : CoordinatorDeps} {current : MobileNavigationSession}
variable {mutation : RepositoryMutation}

variable {nowMs : ℤ}

theorem ground_replacement_moves {payload : GroundPayload} {replacement : GroundStartPackage}
    (decided : replaceGround deps.ground current payload replacement nowMs = .ok mutation) :
    mutation.session.sessionId = current.sessionId ∧
      mutation.session.revision = current.revision + 1 ∧
      ∃ next, mutation.session.payload = .ground next := by
  unfold replaceGround at decided
  cases valid : validateGroundReplacement deps.ground current replacement with
  | error code =>
    rw [valid] at decided
    cases decided
  | ok checked =>
    rw [valid] at decided
    cases decided
    exact And.intro rfl (And.intro rfl (Exists.intro _ rfl))

variable {payload : TransitPayload}

theorem replacement_applied {replacement : TransitStartPackage}
    (decided : TransitProcessor.replace deps.transit current payload replacement nowMs =
      .ok mutation) :
    ∃ startPackage, mutation = applyTransitReplacement current payload startPackage nowMs := by
  unfold TransitProcessor.replace at decided
  split at decided
  · cases decided
  · split at decided
    · cases decided
    · cases decided
      exact Exists.intro _ rfl

theorem replacement_moves (payload : TransitPayload) (startPackage) :
    RecordMoves payload.refresh (freshRefresh startPackage (payload.refresh.generation + 1)) := by
  apply RecordMoves.landed
  · exact Nat.le_succ _
  · unfold freshRefresh
    dsimp only
    split <;> simp

variable {startPackage : StartPackage} {expected : Option String} {command : WebCommand}

section

variable
  (decided : decideReplace deps command startPackage expected nowMs (some current) = .ok (current, mutation))
include decided

theorem replaced_session : (mutation.session.sessionId = current.sessionId ∧
      mutation.session.revision = current.revision + 1 ∧
      ∃ next, mutation.session.payload = .ground next) ∨
    ∃ payload valid, current.payload = .transit payload ∧
      mutation = applyTransitReplacement current payload valid nowMs := by
  unfold decideReplace at decided
  dsimp only at decided
  split at decided
  · cases decided
  · split at decided
    · cases decided
    · split at decided
      · cases decided
      · split at decided
        · split at decided
          · cases decided
          · rename_i replaced
            cases decided
            exact Or.inl (ground_replacement_moves replaced)
        · rename_i payload replacement was
          split at decided
          · cases decided
          · rename_i replaced
            cases decided
            obtain ⟨valid, same⟩ := replacement_applied replaced
            apply Or.inr
            exact Exists.intro payload (Exists.intro valid (And.intro was same))
        · cases decided

theorem replaced_moves : SessionMoves current mutation.session := by
  rcases replaced_session decided with ground | anew
  · obtain ⟨next, is⟩ := ground.2.2
    exact SessionMoves.ground ground.1 ground.2.1 is
  · rcases anew with ⟨payload, valid, was, same⟩
    rw [same]
    exact SessionMoves.transit rfl rfl was rfl (replacement_moves payload valid)

theorem replaced_grows (after : TransitPayload)
    (transit : mutation.session.payload = .transit after) :
    ∃ before, current.payload = .transit before ∧
      before.refresh.generation < after.refresh.generation := by
  rcases replaced_session decided with ground | anew
  · obtain ⟨next, is⟩ := ground.2.2
    rw [is] at transit
    cases transit
  · rcases anew with ⟨payload, valid, was, same⟩
    rw [same] at transit
    cases transit
    exact Exists.intro payload (And.intro was (Nat.lt_succ_self _))

end

theorem walked_moves {legIndex : Nat} {walk : WalkRoute} (was : current.payload = .transit payload)
    (decided : TransitProcessor.repairTransitWalk deps.transit current payload legIndex walk nowMs =
      .ok (.ok mutation)) : SessionMoves current mutation.session := by
  unfold TransitProcessor.repairTransitWalk at decided
  split at decided
  · cases decided
  · cases repaired : repairWalk deps.transit.batch.oracles.line payload.startPackage.itinerary
        legIndex walk with
    | error thrown =>
      rw [repaired] at decided
      cases decided
    | ok result =>
      rw [repaired] at decided
      cases result with
      | none => cases decided
      | some itinerary =>
        cases decided
        exact SessionMoves.transit rfl rfl was rfl (RecordMoves.refl _)

variable {cache : TransitItineraryCache}

theorem acted_outcome {action : ActionCommand}
    (decided : takeAction deps cache current payload action nowMs = .ok mutation) :
    ∃ outcome, processTransitBatch deps.transit.batch cache current payload [] nowMs
        (some { type := action.type, legIndex := action.legIndex }) = .ok outcome ∧
      outcome.actionRejected = false ∧
      mutation.session = { outcome.session with
        payload := .transit { outcome.payload with
          tickState := { outcome.payload.tickState with
            lastActionId := some action.actionId } } } := by
  unfold takeAction TransitProcessor.transitAction at decided
  cases ran : processTransitBatch deps.transit.batch cache current payload [] nowMs
      (some { type := action.type, legIndex := action.legIndex }) with
  | error thrown =>
    rw [ran] at decided
    cases decided
  | ok outcome =>
    rw [ran] at decided
    cases rejected : outcome.actionRejected with
    | true =>
      simp only [Except.map, rejected, if_true, processed] at decided
      cases decided
    | false =>
      simp only [Except.map, rejected, Bool.false_eq_true, if_false, processed] at decided
      cases decided
      apply Exists.intro outcome
      exact And.intro rfl (And.intro rejected rfl)

theorem acted_moves {action : ActionCommand} (was : current.payload = .transit payload)
    (decided : takeAction deps cache current payload action nowMs = .ok mutation) :
    SessionMoves current mutation.session := by
  have acted := acted_outcome decided
  obtain ⟨outcome, taken⟩ := acted
  have batched := batch_outcome _ _ _ _ _ _ _ _ taken.1
  have moves : RecordMoves payload.refresh outcome.payload.refresh := by
    rw [batched.2.2]
    exact RecordMoves.refl _
  rw [taken.2.2]
  exact SessionMoves.transit batched.1 batched.2.1 was rfl moves

theorem fixes_move {fixes : List FixInput}
    (decided : fixesMutation deps cache current fixes nowMs = .ok mutation) :
    SessionMoves current mutation.session := by
  unfold fixesMutation at decided
  split at decided
  · rename_i payload was
    unfold processGroundFixes at decided
    cases ran : deps.ground.processGroundBatch current fixes nowMs with
    | error thrown =>
      rw [ran] at decided
      cases decided
    | ok outcome =>
      rw [ran] at decided
      cases decided
      unfold groundBatchMutation
      split
      · exact SessionMoves.ground rfl rfl rfl
      · exact SessionMoves.ground rfl rfl rfl
  · rename_i payload was
    unfold processFixes at decided
    cases ran : processTransitBatch deps.transit.batch cache current payload fixes nowMs none with
    | error thrown =>
      rw [ran] at decided
      cases decided
    | ok outcome =>
      rw [ran] at decided
      cases decided
      have batched := batch_outcome _ _ _ _ _ _ _ _ ran
      have moves := decided_moves outcome.session outcome.payload outcome.arrived nowMs
      rw [batched.2.2] at moves
      exact SessionMoves.transit batched.1 batched.2.1 was rfl moves

theorem rerouted_moves {outcome : RerouteOutcome} {jitter01 : ℚ}
    (decided : rerouteMutation deps outcome nowMs jitter01 current = some mutation) :
    SessionMoves current mutation.session := by
  unfold rerouteMutation at decided
  split at decided
  · cases decided
  · split at decided
    · cases decided
    · split at decided
      · split at decided
        · cases decided
        · cases decided
          exact SessionMoves.ground rfl rfl rfl
      · split at decided
        · rename_i replaced
          have ground := ground_replacement_moves replaced
          split at decided
          · cases decided
            exact SessionMoves.ground ground.1 ground.2.1 rfl
          · cases decided
            exact SessionMoves.ground rfl rfl rfl
        · cases decided
          exact SessionMoves.ground rfl rfl rfl

theorem refreshed_session {environment : ProcessorEnvironment} {outcome : RefreshOutcome}
    (decided : refreshMutation environment current outcome nowMs = .ok (some mutation)) :
    ∃ payload next, current.payload = .transit payload ∧ current.status = .active ∧
      current.sessionId = outcome.sessionId ∧ isCurrentRequest payload.refresh outcome = true ∧
      refreshedPayload environment payload outcome.answer nowMs = .ok next ∧
      mutation.session = { current with
        revision := current.revision + 1
        updatedAtMs := nowMs
        payload := .transit next } := by
  unfold refreshMutation at decided
  split at decided
  · cases decided
  · rename_i payload was
    split at decided
    · cases decided
    · rename_i named
      split at decided
      · cases decided
      · rename_i awaited
        cases returned : refreshedPayload environment payload outcome.answer nowMs with
        | error thrown =>
          rw [returned] at decided
          cases decided
        | ok next =>
          rw [returned] at decided
          cases decided
          rw [not_or, not_not, not_not] at named
          apply Exists.intro payload
          apply Exists.intro next
          exact And.intro was (And.intro named.1 (And.intro named.2
            (And.intro (by simpa using awaited) (And.intro returned rfl))))

theorem refreshed_moves {outcome : RefreshOutcome}
    (decided : refreshMutation deps.transit current outcome nowMs = .ok (some mutation)) :
    SessionMoves current mutation.session := by
  rcases refreshed_session decided with ⟨payload, next, was, -, -, -, returned, same⟩
  have lands := refreshed_lands _ _ _ _ _ returned
  rw [same]
  exact SessionMoves.transit rfl rfl was rfl
    (RecordMoves.landed (Nat.le_of_eq lands.1.symm) lands.2)

theorem commits_move (decided : Decided deps current mutation) :
    SessionMoves current mutation.session := by
  cases decided with
  | started decision nowMs => exact SessionMoves.same rfl rfl rfl
  | replaced command startPackage expected nowMs mutation decided => exact replaced_moves decided
  | walked payload legIndex walk nowMs mutation transit decided =>
    exact walked_moves transit decided
  | acted cache payload action nowMs mutation transit decided => exact acted_moves transit decided
  | settings locale units nowMs => exact SessionMoves.same rfl rfl rfl
  | fixes cache fixes nowMs mutation decided => exact fixes_move decided
  | rerouted outcome nowMs jitter01 mutation decided => exact rerouted_moves decided
  | refreshed outcome nowMs mutation decided => exact refreshed_moves decided

end

end OpenMapX.Mobile.RefreshMoves
