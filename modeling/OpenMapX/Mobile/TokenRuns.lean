import OpenMapX.Mobile.TokenWindow

/-!
# Runs of a token

Every run of fixes, regained connections and answers keeps the record of the refresh
attached to the token that the session holds, so that no token is sent outside its
window and no second request while one is in flight.
-/

namespace OpenMapX.Mobile.TokenRuns

open Foundation.Runs Navigation.TransitTrip List
open Navigation.RiderProgress (tramTrip)
open SessionStore RefreshState TransitBatch TransitProcessor RefreshMoves RefreshWire TokenWindow
open Mobile.CoordinatorHandlers (tramEnvironment tramPackage)

def KeepsToken (environment : ProcessorEnvironment) : Prop :=
  ∀ value parsed, environment.parseStartPackage value = some parsed →
    parsed.itinerary.refreshToken = value.itinerary.refreshToken

structure OnlySpeaks (environment : TransitEnvironment) : Prop where
  events : ∀ session event cue, environment.transitCueEffect session event = some cue →
    ∃ cueId text locale, cue.effect = .speak cueId text locale
  steps : ∀ session tickState step cue, environment.walkCue session tickState step = some cue →
    ∃ cueId text locale, cue.effect = .speak cueId text locale

def Rotates (log : List Entry) : WireEvent → Prop
  | .answer request (.itinerary itinerary _) _ =>
    request.token ≠ none → ∀ token, itinerary.refreshToken = some token →
      ∀ earlier, .sent earlier ∈ log → earlier.token ≠ some token
  | _ => True

structure InOrder (wire : Wire) (event : WireEvent) : Prop where
  later : wire.clockMs ≤ event.nowMs
  rotates : Rotates wire.log event

variable {session : MobileNavigationSession}

section

variable {environment : TransitEnvironment} (speaks : OnlySpeaks environment)
include speaks

theorem walk_cue_speaks {payload tickState cue}
    (given : walkCueOf environment session payload tickState = some cue) :
    ∃ cueId text locale, cue.effect = .speak cueId text locale := by
  unfold walkCueOf at given
  split at given
  · dsimp only at given
    rw [Option.bind_eq_some_iff] at given
    obtain ⟨step, found⟩ := given
    exact speaks.steps session tickState step cue found.2
  · cases given

theorem batch_asks_nothing (session) (payload : TransitPayload) (nowMs : ℤ) (ticks : BatchTicks) :
    (batchOutcome environment session payload nowMs ticks).effects.filterMap requestedId = [] := by
  have silent : ∀ cue : SpokenCue, (∃ cueId text locale, cue.effect = .speak cueId text locale) →
      requestedId cue.effect = none := by
    intro cue spoken
    rcases spoken with ⟨cueId, text, locale, is⟩
    rw [is]
    rfl
  rw [filterMap_eq_nil_iff]
  intro effect member
  unfold batchOutcome at member
  dsimp only at member
  rw [mem_append, mem_append] at member
  rcases member with (cued | profiled) | last
  · split at cued
    · rw [mem_map] at cued
      obtain ⟨cue, found⟩ := cued
      rw [← found.2]
      apply silent
      have given := (mem_filter.mp found.1).1
      rw [mem_append, mem_filterMap, Option.mem_toList] at given
      rcases given with told | walked
      · obtain ⟨event, from'⟩ := told
        exact speaks.events session event cue from'.2
      · exact walk_cue_speaks speaks walked
    · cases cued
  · split at profiled
    · cases profiled
    · rw [mem_singleton] at profiled
      rw [profiled]
      rfl
  · rw [mem_cons, mem_singleton] at last
    rcases last with reconciles | publishes
    · rw [reconciles]
      rfl
    · rw [publishes]
      rfl

end

theorem decision_sends {next effects} (quiet : effects.filterMap requestedId = [])
    (transit : session.payload = .transit next) (asked : Option String)
    (waits : ∀ requestId, asked = some requestId →
      session.status = .active ∧ next.refresh.requestId = some requestId) (nowMs : ℤ) :
    sentBy session
        (some (effects ++ (asked.map SessionEffect.requestTransitRefresh).toList)) nowMs =
      decidedSend next asked nowMs := by
  unfold sentBy
  rw [Option.getD_some, filterMap_append, quiet, nil_append]
  cases asked with
  | none => rfl
  | some requestId =>
    have sends : requestFor session nowMs requestId = some {
        requestId := requestId,
        generation := next.refresh.generation,
        token := tokenOf next,
        sentAtMs := nowMs } := by
      unfold requestFor
      rw [transit]
      exact if_pos (waits requestId rfl)
    simp [requestedId, sends, decidedSend]

theorem decided_running {payload} {arrived : Bool} {nowMs : ℤ} {requestId : String}
    (sent : (decideRefresh session payload arrived nowMs).2 = some requestId) :
    session.status = .active ∨ session.status = .preparing := by
  unfold decideRefresh at sent
  dsimp only at sent
  split at sent
  · cases sent
  · split at sent
    · rename_i sends
      exact (refresh_not_held sends.2).1
    · cases sent

structure Kept (wire : Wire) : Prop where
  running : wire.session.status ≠ .preparing
  tracks : ∃ payload, wire.session.payload = .transit payload ∧
    Tracks wire.log (tokenOf payload) payload.refresh wire.clockMs

section

variable {environment : ProcessorEnvironment} {wire : Wire} {payload : TransitPayload} {nowMs : ℤ}

theorem Kept.later (kept : Kept wire) (later : wire.clockMs ≤ nowMs) (cache) :
    Kept { wire with cache := cache, clockMs := nowMs } where
  running := kept.running
  tracks := by
    obtain ⟨payload, known⟩ := kept.tracks
    exact Exists.intro payload (And.intro known.1 (known.2.later later))

theorem Kept.tracks_held (kept : Kept wire) (transit : wire.session.payload = .transit payload)
    (later : wire.clockMs ≤ nowMs) : Tracks wire.log (tokenOf payload) payload.refresh nowMs := by
  obtain ⟨other, known⟩ := kept.tracks
  rw [transit] at known
  cases known.1
  exact known.2.later later

theorem fixes_kept (speaks : OnlySpeaks environment.batch) (kept : Kept wire)
    (transit : wire.session.payload = .transit payload) (later : wire.clockMs ≤ nowMs)
    (fixes : List FixInput) : Kept (fixesStep environment wire payload fixes nowMs) := by
  unfold fixesStep
  dsimp only
  split
  · exact kept.later later _
  · rename_i mutation processed
    unfold processFixes processTransitBatch at processed
    cases ran : batchTicks environment.batch (preparedFor environment.batch.oracles.line wire.cache
        wire.session payload) wire.session payload fixes nowMs none with
    | error thrown =>
      rw [ran] at processed
      cases processed
    | ok ticks =>
      rw [ran] at processed
      cases processed
      have running : (batchOutcome environment.batch wire.session payload nowMs
          ticks).session.status ≠ .preparing := by
        have before := kept.running
        unfold batchOutcome nextStatus
        dsimp only
        split
        · simp
        · split
          · simp
          · exact before
      have tracks := kept.tracks_held transit later
      have same : tokenOf (batchOutcome environment.batch wire.session payload nowMs
          ticks).payload = tokenOf payload := rfl
      have decided := @decided_tracks wire.log
        (batchOutcome environment.batch wire.session payload nowMs ticks).payload nowMs
        (batchOutcome environment.batch wire.session payload nowMs ticks).session
        (batchOutcome environment.batch wire.session payload nowMs ticks).arrived tracks
      apply Kept.mk
      · exact running
      · apply Exists.intro _
        apply And.intro rfl
        dsimp only
        rw [decision_sends (batch_asks_nothing speaks wire.session payload nowMs ticks) rfl]
        · exact decided
        · intro requestId sent
          apply And.intro
          · exact (decided_running sent).resolve_right running
          · exact (decided_sends _ _ _ _ requestId sent).2.2

theorem restored_kept (kept : Kept wire) (transit : wire.session.payload = .transit payload)
    (later : wire.clockMs ≤ nowMs) : Kept (restoredStep wire payload nowMs) := by
  unfold restoredStep
  split
  · exact kept.later later wire.cache
  · rename_i mutation restored
    unfold onConnectivityRestored at restored
    dsimp only at restored
    split at restored
    · cases restored
    · rename_i allowed
      rw [not_or, not_not, not_not] at allowed
      cases restored
      have free := refresh_not_held allowed.2
      have tracks := kept.tracks_held transit later
      have requested := tracks.requested free.2.1 free.2.2.1 free.2.2.2
        (requestIdFor wire.session.sessionId payload.refresh)
      apply Kept.mk
      · exact kept.running
      · apply Exists.intro _
        apply And.intro rfl
        dsimp only
        rw [← nil_append [SessionEffect.requestTransitRefresh _]]
        rw [show [SessionEffect.requestTransitRefresh
            (requestIdFor wire.session.sessionId payload.refresh)] =
              ((some (requestIdFor wire.session.sessionId payload.refresh)).map
                SessionEffect.requestTransitRefresh).toList from rfl]
        rw [decision_sends rfl rfl]
        · exact requested
        · intro requestId same
          rw [Option.some.injEq] at same
          rw [← same]
          exact And.intro (free.1.resolve_right kept.running) rfl

theorem merged_keeps_token {current next} {activeLegIndex walkRevision : Nat} {merged}
    (merging : mergeTransitRefresh environment current next activeLegIndex walkRevision =
      .ok (some merged)) : merged.itinerary.refreshToken = next.refreshToken := by
  unfold mergeTransitRefresh at merging
  split at merging
  · cases merging
  · split at merging
    · split at merging
      · cases merging
        rfl
      · split at merging
        · split at merging
          · cases merging
            rfl
          · cases merging
            rfl
        · cases merging
    · cases merging
      rfl

theorem adopted_token (parsed) (merged : MergedRefresh) (journeys : Journeys) (capturesOnly : Bool)
    : tokenOf (adoptRefresh environment payload parsed merged journeys capturesOnly nowMs) =
      if capturesOnly then tokenOf payload else merged.itinerary.refreshToken.filter (· != "") := by
  cases capturesOnly with
  | true => rfl
  | false => rfl

section

variable {log : List Entry} {request : RefreshRequest}

theorem failing_tracks (tracks : Tracks log (tokenOf payload) payload.refresh nowMs)
    (flying : payload.refresh.status = .inFlight)
    (waits : Waits log (tokenOf payload) payload.refresh request) (failure : RefreshFailure)
    (settlement : Settlement)
    (told : failure = .rejected ∨ settlement = settlementOf (.failure failure)) :
    Tracks (log ++ [.settled request settlement])
      (tokenOf (retireBroken (failedRefresh payload failure nowMs)))
      (retireBroken (failedRefresh payload failure nowMs)).refresh nowMs := by
  have failed := tracks.failed flying waits failure settlement told
  have landed := failed_not_in_flight payload.refresh failure nowMs (tokenOf payload).isSome
  have same : (onRefreshFailed payload.refresh failure nowMs (tokenOf payload).isSome).generation =
      (onRefreshFailed payload.refresh failure nowMs (tokenOf payload).isSome).generation := rfl
  unfold retireBroken failedRefresh
  rw [token_truthy]
  split
  · exact failed.retire landed same landed failed.past
  · exact failed

theorem answered_tracks {next} (keepsToken : KeepsToken environment)
    (tracks : Tracks log (tokenOf payload) payload.refresh nowMs)
    (flying : payload.refresh.status = .inFlight)
    (waits : Waits log (tokenOf payload) payload.refresh request) (reply : RefreshReply)
    (rotates : Rotates log (.answer request reply nowMs))
    (returned : refreshedPayload environment payload (answerOf request reply) nowMs = .ok next) :
    Tracks (log ++ [.settled request (settlementOf reply)]) (tokenOf next) next.refresh nowMs := by
  cases reply with
  | failure failure =>
    cases returned
    exact failing_tracks tracks flying waits failure _ (Or.inr rfl)
  | unreachable =>
    cases returned
    exact failing_tracks tracks flying waits .retryable _ (Or.inr rfl)
  | itinerary itinerary journeys =>
    unfold refreshedPayload answerOf at returned
    dsimp only at returned
    split at returned
    · cases returned
      exact failing_tracks tracks flying waits .rejected _ (Or.inl rfl)
    · rename_i parsed parsing
      split at returned
      · cases returned
      · cases returned
        exact failing_tracks tracks flying waits .rejected _ (Or.inl rfl)
      · rename_i merged merging
        cases returned
        apply tracks.succeeded waits
        intro token holds earlier sent
        rw [adopted_token] at holds
        cases carried : request.token with
        | none =>
          rw [carried, ← waits.carries, carried] at holds
          cases holds
        | some before =>
          have given : merged.itinerary.refreshToken = some token := by
            rw [carried] at holds
            exact Option.eq_some_of_filter_eq_some holds
          apply rotates (by simp [carried]) token _ earlier sent
          rw [← keepsToken _ _ parsing, ← merged_keeps_token merging]
          exact given

end

theorem answer_kept (keepsToken : KeepsToken environment) (kept : Kept wire)
    (later : wire.clockMs ≤ nowMs) (request : RefreshRequest) (reply : RefreshReply)
    (rotates : Rotates wire.log (.answer request reply nowMs)) :
    Kept (answerStep environment wire request reply nowMs) := by
  unfold answerStep
  split
  · rename_i sent
    split
    · rename_i mutation decided
      rcases refreshed_session decided with
        ⟨payload, next, transit, active, -, awaited, returned, committed⟩
      have tracks := kept.tracks_held transit later
      unfold isCurrentRequest at awaited
      simp only [Bool.and_eq_true, beq_iff_eq] at awaited
      have waits : Waits wire.log (tokenOf payload) payload.refresh request := by
        obtain ⟨waiting, waits⟩ := tracks.flying awaited.1.1
        rw [waits.last request sent awaited.1.2.symm]
        exact waits
      apply Kept.mk
      · rw [committed]
        exact kept.running
      · apply Exists.intro next
        apply And.intro
        · rw [committed]
        · exact answered_tracks keepsToken tracks awaited.1.1 waits reply rotates returned
    · exact kept.later later wire.cache
  · exact kept.later later wire.cache

theorem step_kept (keepsToken : KeepsToken environment) (speaks : OnlySpeaks environment.batch)
    (wire : Wire) (event : WireEvent) (inOrder : InOrder wire event) (kept : Kept wire) :
    Kept (wireStep environment wire event) := by
  obtain ⟨payload, known⟩ := kept.tracks
  unfold wireStep
  rw [known.1]
  cases event with
  | fixes fixes nowMs =>
    dsimp only
    split
    · exact kept.later inOrder.later wire.cache
    · exact fixes_kept speaks kept known.1 inOrder.later fixes
  | connectivityRestored nowMs => exact restored_kept kept known.1 inOrder.later
  | answer request reply nowMs =>
    exact answer_kept keepsToken kept inOrder.later request reply inOrder.rotates

end

theorem fresh_tracks (startPackage) (generation : Nat)
    (held : Option String) (clockMs : ℤ) :
    Tracks [] held (freshRefresh startPackage generation) clockMs where
  unspent := by
    intro token _
    apply Or.inr
    exact {
      notRejected := fun _ _ settled => not_mem_nil settled
      notConsumed := fun _ _ settled => not_mem_nil settled
      counted := rfl
      few := by
        have none' : ambiguousOf (freshRefresh startPackage generation) = 0 := rfl
        rw [none']
        decide
      since := fun _ _ settled => absurd settled not_mem_nil }
  flying := by
    intro flying
    unfold freshRefresh at flying
    dsimp only at flying
    split at flying
    · cases flying
    · cases flying
  landed := fun _ => rfl
  past := by
    intro first absent
    cases absent
  older := fun _ sent => absurd sent not_mem_nil
  settledSent := fun _ _ settled => absurd settled not_mem_nil
  keeps := {
    allowed := by
      intro before request within
      rw [prefix_nil] at within
      simp at within
    single := by
      intro before within
      rw [prefix_nil.mp within]
      exact Nat.zero_le 1 }

/-- In every run of fixes, regained connections and answers whose clock does not go back,
against a server that rotates its tokens: no token is sent again once it was rejected or
consumed, after three ambiguous outcomes or outside the window of its first ambiguous
attempt, and one request at most is in flight. -/
theorem token_within_window (environment : ProcessorEnvironment)
    (keepsToken : KeepsToken environment) (speaks : OnlySpeaks environment.batch) (start : Wire)
    (active : start.session.status = .active) (payload : TransitPayload)
    (transit : start.session.payload = .transit payload) (generation : Nat)
    (fresh : payload.refresh = freshRefresh payload.startPackage generation)
    (nothingSent : start.log = []) (events : List WireEvent)
    (inOrder : ∀ earlier event, earlier ++ [event] <+: events →
      InOrder (run (wireStep environment) earlier start) event) :
    KeepsWindow (run (wireStep environment) events start).log := by
  have initially : Kept start := by
    apply Kept.mk
    · rw [active]
      simp
    · apply Exists.intro payload
      apply And.intro transit
      rw [nothingSent, fresh]
      exact fresh_tracks _ _ _ _
  have kept := run_guarded (step_kept keepsToken speaks) events start initially inOrder events
    (prefix_refl events)
  obtain ⟨_, known⟩ := kept.tracks
  exact known.2.keeps

def tokenRide : Wire where
  session := {
    createTransitPreparingSession
        { tramPackage with itinerary := { tramTrip with refreshToken := some "t1" } }
        "s1" .background 0 with
      status := .active }
  cache := emptyCache
  clockMs := 0
  log := []

def firstRequest : RefreshRequest where
  requestId := "s1:refresh:1"
  generation := 1
  token := some "t1"
  sentAtMs := 0

def rotatingRide : List WireEvent :=
  [.fixes [] 0,
    .answer firstRequest (.itinerary { tramTrip with refreshToken := some "t2" } []) 1000]

theorem tram_token_within_window :
    KeepsWindow (run (wireStep tramEnvironment) rotatingRide tokenRide).log := by
  have sent : (wireStep tramEnvironment tokenRide (.fixes [] 0)).log = [.sent firstRequest] ∧
      (wireStep tramEnvironment tokenRide (.fixes [] 0)).clockMs = 0 := by
    decide +kernel
  apply token_within_window tramEnvironment _ _ tokenRide rfl _ rfl 0 rfl rfl rotatingRide
  · apply guarded_cons
    · exact InOrder.mk (le_refl _) trivial
    · apply guarded_cons
      · apply InOrder.mk
        · rw [sent.2]
          decide
        · intro _ token given earlier before
          rw [sent.1, mem_singleton, Entry.sent.injEq] at before
          rw [before]
          cases given
          decide
      · exact guarded_nil
  · intro value parsed parsing
    cases parsing
    rfl
  · apply OnlySpeaks.mk
    · intro session event cue absent
      cases absent
    · intro session tickState step cue absent
      cases absent

/-- A token is never sent again after an answer that rejects it, however late that comes. -/
def NeverAfterRejection (environment : ProcessorEnvironment) (start : Wire)
    (events : List WireEvent) : Prop :=
  ∀ earlier request nowMs later,
    earlier ++ [.answer request (.failure .rejected) nowMs] ++ later <+: events →
    .sent request ∈ (run (wireStep environment) earlier start).log →
    ∀ again, again.token = request.token →
      .sent again ∈ (run (wireStep environment)
        (earlier ++ [.answer request (.failure .rejected) nowMs] ++ later) start).log →
      .sent again ∈ (run (wireStep environment)
        (earlier ++ [.answer request (.failure .rejected) nowMs]) start).log

def lateRejection : List WireEvent :=
  [.fixes [] 0, .fixes [] 20000, .answer firstRequest (.failure .rejected) 21000,
    .fixes [] 50000]

/-- A rejection that comes late is dropped, and the token is sent again. -/
theorem late_rejection_is_dropped : (lateRejection.map WireEvent.nowMs).IsChain (· ≤ ·) ∧
      ¬ NeverAfterRejection tramEnvironment tokenRide lateRejection := by
  apply And.intro
  · decide
  · intro never
    have again := never [.fixes [] 0, .fixes [] 20000] firstRequest 21000 [.fixes [] 50000]
      (prefix_refl _) (by decide +kernel)
      { requestId := "s1:refresh:2", generation := 2, token := some "t1", sentAtMs := 50000 } rfl
      (by decide +kernel)
    revert again
    decide +kernel

end OpenMapX.Mobile.TokenRuns
