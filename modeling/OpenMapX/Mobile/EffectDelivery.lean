import OpenMapX.Mobile.CoordinatorHandlers

/-!
# Delivery of effects

The log of a coordinator is settled when every commit has had its effects run once,
after the commit, and nothing else has been run. Every handler leaves a settled log
settled, on every branch, except for the two that commit and drop the effects: a
replacement, and a start that the user denies.
-/

namespace OpenMapX.Mobile.EffectDelivery

open Foundation.Runs SessionStore AlertPort TransitBatch TransitProcessor GroundProcessor
  Coordinator CoordinatorHandlers

/-- The effects of commits that are still to be run. There is no account of a log in
which effects were run that no commit asked for; the surface is reconciled without one. -/
def settle : Option (Multiset (List SessionEffect)) → Happening →
    Option (Multiset (List SessionEffect))
  | none, _ => none
  | some owed, .committed effects =>
    if effects.isEmpty then some owed else some (effects ::ₘ owed)
  | some owed, .ran effects =>
    if effects.isEmpty then some owed
    else if effects ∈ owed then some (owed.erase effects)
    else if effects = [.reconcileSurface] then some owed
    else none
  | some owed, .sent _ _ => some owed

def owedAfter (log : List Happening) : Option (Multiset (List SessionEffect)) :=
  log.foldl settle (some 0)

/-- Every commit has had its effects run once, after it, and nothing else was run. -/
def Delivered (log : List Happening) : Prop := owedAfter log = some 0

instance (log : List Happening) : Decidable (Delivered log) :=
  inferInstanceAs (Decidable (owedAfter log = some 0))

theorem owed_note (log : List Happening) (happening : Happening) :
    owedAfter (log ++ [happening]) = settle (owedAfter log) happening := by
  simp [owedAfter, List.foldl_append]

variable (owed : Option (Multiset (List SessionEffect)))

theorem settle_sent (response : CommandResponse)
    (forMessageId : Option String) : settle owed (.sent response forMessageId) = owed := by
  cases owed with
  | none => rfl
  | some owed => rfl

theorem settle_commit_run (effects) :
    settle (settle owed (.committed effects)) (.ran effects) = owed := by
  cases owed with
  | none => rfl
  | some owed =>
    cases effects with
    | nil => rfl
    | cons effect rest =>
      simp [settle]

theorem settle_no_effects : settle owed (.ran []) = owed := by
  cases owed with
  | none => rfl
  | some owed => rfl

def Settles (before after : World) : Prop := Delivered before.log → Delivered after.log

def Owes (before after : World) (effects : List SessionEffect) : Prop :=
  after.log = before.log ++ [.committed effects]

theorem Settles.same {before after : World} (same : after.log = before.log) :
    Settles before after := by
  intro settled
  rw [Delivered, same]
  exact settled

theorem Settles.trans {first second third : World} (before : Settles first second)
    (after : Settles second third) : Settles first third := by
  intro settled
  exact after (before settled)

theorem Settles.sent {before after : World} (settles : Settles before after)
    (response : CommandResponse) (forMessageId : Option String) :
    Settles before (after.note (.sent response forMessageId)) := by
  intro settled
  rw [Delivered, World.note, owed_note, settle_sent]
  exact settles settled

section

variable {deps : CoordinatorDeps} {ports : PortAnswers} {world : World}

theorem Owes.run {before after : World} {effects}
    (owes : Owes before after effects) : Settles before (after.run deps ports effects) := by
  intro settled
  rw [Delivered, World.run, World.note, owed_note, owes, owed_note, settle_commit_run]
  exact settled

theorem surface_settles : Settles world (world.run deps ports [.reconcileSurface]) := by
  intro settled
  rw [Delivered, World.run, World.note, owed_note, settled]
  rfl

theorem no_effects_settle : Settles world (world.run deps ports []) := by
  intro settled
  rw [Delivered, World.run, World.note, owed_note, settle_no_effects]
  exact settled

variable {after : World} {nowMs : ℤ}

section

variable {current : Option MobileNavigationSession}
  (loaded : world.load deps nowMs = (current, after))
include loaded

theorem load_log : after.log = world.log := by
  have same : (world.load deps nowMs).2.log = world.log := rfl
  rw [loaded] at same
  exact same

theorem load_settles : Settles world after :=
  Settles.same (load_log loaded)

end

section

variable (sessionId : String) (finalStatus : SessionStatus) (nowMs : ℤ)

theorem end_cases : Owes world (world.end deps sessionId finalStatus nowMs).2
        (world.end deps sessionId finalStatus nowMs).1.2 ∨
      (world.end deps sessionId finalStatus nowMs).2.log = world.log ∧
        (world.end deps sessionId finalStatus nowMs).1.2 = [] := by
  have nothing : (SessionStore.terminate deps.alerts.parseMobileSession sessionId finalStatus
      nowMs world.phone.database).1.1 = none →
      (SessionStore.terminate deps.alerts.parseMobileSession sessionId finalStatus nowMs
        world.phone.database).1.2 = [] := by
    unfold SessionStore.terminate
    split
    · intro _
      rfl
    · dsimp only
      split
      · intro _
        rfl
      · intro absent
        cases absent
  unfold World.end
  dsimp only
  cases acked : (SessionStore.terminate deps.alerts.parseMobileSession sessionId finalStatus nowMs
      world.phone.database).1.1 with
  | none =>
    apply Or.inr
    exact And.intro rfl (nothing acked)
  | some ack =>
    apply Or.inl
    rfl

theorem end_run_settles :
    Settles world ((world.end deps sessionId finalStatus nowMs).2.run deps ports
      (world.end deps sessionId finalStatus nowMs).1.2) := by
  have cases := @end_cases deps world sessionId finalStatus nowMs
  rcases cases with owes | nothing
  · exact owes.run
  · rw [nothing.2]
    exact (Settles.same nothing.1).trans no_effects_settle

end

section

variable {sessionId : String} {expectedRevision : Nat}
  {mutate : MobileNavigationSession → Except Thrown RepositoryMutation}

theorem swap_owes {session effects}
    (returned : world.compareAndSwap deps sessionId expectedRevision mutate nowMs =
      (.ok (.ok session effects), after)) : Owes world after effects := by
  unfold World.compareAndSwap at returned
  split at returned
  · cases returned
  · cases returned
  · cases returned
    rfl

theorem swap_failed {result}
    (returned : world.compareAndSwap deps sessionId expectedRevision mutate nowMs = (result, after))
    (refused : ∀ session effects, result ≠ .ok (.ok session effects)) : after.log = world.log := by
  unfold World.compareAndSwap at returned
  split at returned
  · cases returned
    rfl
  · cases returned
    rfl
  · rename_i session effects database swapped
    cases returned
    exact absurd rfl (refused session effects)

end

variable {before : World}

theorem committed_then_settles (messageId : String) (sessionId : String) (expectedRevision : Nat)
    (mutate : MobileNavigationSession → Except Thrown RepositoryMutation) (nowMs : ℤ)
    (next : MobileNavigationSession → List SessionEffect → World → Handled)
    (sameLog : world.log = before.log)
    (settles : ∀ session effects after, Owes before after effects →
      Settles before (next session effects after).2) : Settles before (committedThen messageId
      (world.compareAndSwap deps sessionId expectedRevision mutate nowMs) next).2 := by
  unfold committedThen
  split
  · rename_i thrown after returned
    exact Settles.same ((swap_failed returned (by simp)).trans sameLog)
  · rename_i code after returned
    exact Settles.same ((swap_failed returned (by simp)).trans sameLog)
  · rename_i session effects after returned
    apply settles
    rw [Owes, swap_owes returned, sameLog]

theorem decided_then_settles {α : Type} (messageId : String)
    (decision : Except Refusal α) (next : α → Handled) (sameLog : world.log = before.log)
    (settles : ∀ value, decision = .ok value → Settles before (next value).2) :
    Settles before (decidedThen messageId decision world next).2 := by
  unfold decidedThen
  split
  · exact Settles.same sameLog
  · exact Settles.same sameLog
  · rename_i value
    exact settles value rfl

theorem snapshot_settles : Settles world (snapshot deps ports world).2 := by
  unfold snapshot
  split
  · rename_i loaded
    exact load_settles loaded
  · rename_i loaded
    exact load_settles loaded

theorem prepare_settles (messageId : String) (startPackage : StartPackage) :
    Settles world (prepare deps messageId startPackage ports world).2 := by
  unfold prepare
  split
  · exact Settles.same rfl
  · split
    rename_i existing after loaded
    split
    · exact load_settles loaded
    · split
      · exact load_settles loaded
      · rename_i session prepared
        have created : (after.createPreparing deps session).2.log = after.log := rfl
        split
        · rename_i code tables failed
          rw [failed] at created
          exact Settles.same (created.trans (load_log loaded))
        · rename_i stored effects tables stores
          rw [stores] at created
          exact Settles.same (created.trans (load_log loaded))

theorem start_driver_settles (messageId : String) (session effects)
    (owes : Owes before world effects) :
    Settles before (startDriver deps messageId ports session effects world).2 := by
  have ran : Settles before (world.run deps ports effects) := owes.run
  unfold startDriver
  dsimp only
  split
  · exact ran.trans (end_run_settles session.sessionId .error ports.nowMs)
  · exact ran

def DeniedStart (deps : CoordinatorDeps) (sessionId : Option String) (revision : Option Nat)
    (context : NavigationStartContext) (ports : PortAnswers) (world : World) : Prop :=
  ∃ current, startRefusal deps sessionId revision context ports.permission
      (world.load deps ports.nowMs).1 = .ok current ∧
    startDecision context ports.requested = none

theorem start_settles (messageId : String) (sessionId : Option String) (revision : Option Nat)
    (context) (valid : Bool) (granted : ¬ DeniedStart deps sessionId revision context ports world) :
    Settles world (start deps messageId sessionId revision context valid ports world).2 := by
  unfold start
  split
  rename_i current after loaded
  split
  · exact load_settles loaded
  · rename_i session allowed
    split
    · rename_i denied
      apply absurd _ granted
      apply Exists.intro session
      rw [loaded]
      exact And.intro allowed denied
    · rename_i decision decided
      split
      · exact load_settles loaded
      · apply committed_then_settles
        · exact load_log loaded
        · intro started effects committed owes
          exact start_driver_settles messageId started effects owes

def AcceptedReplacement (deps : CoordinatorDeps) (command : WebCommand)
    (startPackage : StartPackage) (expectedItineraryFingerprint : Option String) (nowMs : ℤ)
    (world : World) : Prop :=
  ∃ decided, decideReplace deps command startPackage expectedItineraryFingerprint nowMs
    (world.load deps nowMs).1 = .ok decided

variable (command : WebCommand)

theorem replace_settles (startPackage : StartPackage) (expectedItineraryFingerprint : Option String)
    (refused : ¬ AcceptedReplacement deps command startPackage expectedItineraryFingerprint
      ports.nowMs world) : Settles world
      (replace deps command startPackage expectedItineraryFingerprint ports world).2 := by
  unfold CoordinatorHandlers.replace
  split
  rename_i current after loaded
  apply decided_then_settles
  · exact load_log loaded
  · intro decided accepted
    apply absurd _ refused
    apply Exists.intro decided
    rw [loaded]
    exact accepted

theorem walk_route_settles (itineraryFingerprint : String) (legIndex : Nat) (walk : WalkRoute) :
    Settles world
      (repairTransitWalk deps command itineraryFingerprint legIndex walk ports world).2 := by
  unfold CoordinatorHandlers.repairTransitWalk
  split
  rename_i current after loaded
  apply decided_then_settles
  · exact load_log loaded
  · intro decided repaired
    apply committed_then_settles
    · exact load_log loaded
    · intro session effects committed owes
      exact Settles.trans owes.run snapshot_settles

theorem action_settles (action : ActionCommand) :
    Settles world (transitAction deps command action ports world).2 := by
  unfold CoordinatorHandlers.transitAction
  split
  rename_i current after loaded
  split
  · exact load_settles loaded
  · split
    · exact load_settles loaded
    · exact (load_settles loaded).trans snapshot_settles
    · split
      · exact load_settles loaded
      · have sameLog : after.log = world.log := load_log loaded
        apply decided_then_settles
        · exact sameLog
        · intro mutation taken
          apply committed_then_settles
          · exact sameLog
          · intro session effects committed owes
            exact owes.run

theorem settings_settle (locale) (units : Option Units) :
    Settles world (updateSettings deps command locale units ports world).2 := by
  unfold updateSettings
  split
  · rename_i loaded
    exact load_settles loaded
  · rename_i loaded
    split
    · exact load_settles loaded
    · apply committed_then_settles
      · exact load_log loaded
      · intro session effects committed owes
        exact owes.run

theorem terminate_settles (messageId : String) (sessionId : Option String)
    (finalStatus : SessionStatus) :
    Settles world (terminate deps messageId sessionId finalStatus ports world).2 := by
  unfold CoordinatorHandlers.terminate
  split
  · rename_i loaded
    exact load_settles loaded
  · rename_i current after loaded
    split
    · exact load_settles loaded
    · split
      rename_i ended final finished
      have settles := @end_run_settles deps ports after current.sessionId finalStatus ports.nowMs
      rw [finished] at settles
      exact (load_settles loaded).trans settles

def Careful (deps : CoordinatorDeps) (world : World) : Occurrence → Prop
  | .command command ports =>
    (cachedReply command ports.nowMs world).isSome ∨
      (∀ startPackage expectedItineraryFingerprint,
        command.body = .replace startPackage expectedItineraryFingerprint →
        ¬ AcceptedReplacement deps command startPackage expectedItineraryFingerprint ports.nowMs
          world) ∧
      (command.body = .start →
        ¬ DeniedStart deps command.sessionId command.revision ports.startContext ports world)
  | .carTrip trip ports => startDecision trip.contextAtStart ports.requested ≠ none
  | _ => True

theorem route_settles (command : WebCommand)
    (replaces : ∀ startPackage expectedItineraryFingerprint,
      command.body = .replace startPackage expectedItineraryFingerprint →
      ¬ AcceptedReplacement deps command startPackage expectedItineraryFingerprint ports.nowMs
        world) (starts : command.body = .start →
      ¬ DeniedStart deps command.sessionId command.revision ports.startContext ports world) :
    Settles world (route deps command ports world).2 := by
  unfold route
  split
  · exact Settles.same rfl
  · exact Settles.same rfl
  · exact prepare_settles _ _
  · rename_i chosen
    exact start_settles _ _ _ _ _ (starts chosen)
  · rename_i startPackage expected chosen
    exact replace_settles _ _ _ (replaces startPackage expected chosen)
  · exact walk_route_settles _ _ _ _
  · exact action_settles _ _
  · exact settings_settle _ _ _
  · exact snapshot_settles
  · exact terminate_settles _ _ _
  · exact terminate_settles _ _ _
  · exact Settles.same rfl
  · exact Settles.same rfl

theorem remember_log (response : CommandResponse) (nowMs : ℤ) :
    (remember command response nowMs world).log = world.log := by
  unfold remember
  split <;> rfl

theorem command_settles (careful : Careful deps world (.command command ports)) :
    Settles world (handleCommand deps command ports world).2 := by
  unfold handleCommand
  split
  · exact (Settles.same rfl).sent _ _
  · rename_i unknown
    have fresh : ¬ (cachedReply command ports.nowMs world).isSome := by
      rw [unknown]
      simp
    have routes := careful.resolve_left fresh
    have settles := @route_settles deps ports world command routes.1 routes.2
    split
    rename_i routed after reached
    rw [reached] at settles
    split
    · exact settles
    · rename_i response answered
      apply Settles.sent
      exact settles.trans (Settles.same (remember_log command response ports.nowMs))

theorem surface_stop_settles (expectedSessionId : String) :
    Settles world (stopFromSurface deps expectedSessionId ports world).2 := by
  unfold stopFromSurface
  split
  · rename_i loaded
    exact load_settles loaded
  · rename_i current after loaded
    split
    · exact load_settles loaded
    · split
      rename_i response final stopped
      have settles := @terminate_settles deps ports after "native-surface"
        (some expectedSessionId) .stopped
      rw [stopped] at settles
      exact ((load_settles loaded).trans settles).sent _ _

theorem start_prepared_settles (trip : CarTrip) (prepared : CommandResponse)
    (asksNobody : startDecision trip.contextAtStart ports.requested ≠ none) :
    Settles world (startPrepared deps trip prepared ports world).2 := by
  unfold startPrepared
  split
  · exact Settles.same rfl
  · split
    · exact terminate_settles _ _ _
    · have granted : ¬ DeniedStart deps prepared.sessionId prepared.revision trip.contextAtStart
          ports world := by
        intro denied
        obtain ⟨current, found⟩ := denied
        exact asksNobody found.2
      have settles := @start_settles deps ports world trip.messageId prepared.sessionId
        prepared.revision trip.contextAtStart trip.validBeforeCommit granted
      split
      · rename_i response after started
        rw [started] at settles
        exact Settles.sent settles _ _
      · rename_i thrown after started
        rw [started] at settles
        exact settles

section

variable (trip : CarTrip) (asksNobody : startDecision trip.contextAtStart ports.requested ≠ none)
include asksNobody

theorem prepare_car_settles : Settles world (prepareCarTrip deps trip ports world).2 := by
  unfold prepareCarTrip
  split
  · exact Settles.same rfl
  · have settles := @prepare_settles deps ports world trip.messageId (.ground trip.startPackage)
    split
    · rename_i prepared after ready
      rw [ready] at settles
      exact Settles.trans settles (start_prepared_settles trip prepared asksNobody)
    · rename_i thrown after ready
      rw [ready] at settles
      exact settles

theorem car_trip_settles : Settles world (startCarTrip deps trip ports world).2 := by
  unfold startCarTrip
  split
  · exact Settles.same rfl
  · split
    · exact Settles.same rfl
    · split
      · rename_i after loaded
        exact (load_settles loaded).trans (prepare_car_settles trip asksNobody)
      · rename_i current after loaded
        split
        · exact (load_settles loaded).trans (prepare_car_settles trip asksNobody)
        · split
          · exact load_settles loaded
          · apply (load_settles loaded).trans
            exact Settles.trans (terminate_settles _ _ _) (prepare_car_settles trip asksNobody)

end

theorem commit_batch_settles (session mutation) (meanwhile : Database → Database)
    (sameLog : world.log = before.log) :
    Settles before (commitBatch deps session mutation meanwhile ports world).2 := by
  unfold commitBatch World.commit
  split
  · rename_i committed effects after returned
    apply Owes.run
    exact Eq.trans (swap_owes returned) (congrArg (· ++ [.committed effects]) sameLog)
  · rename_i after returned
    exact Settles.same ((swap_failed returned (by simp)).trans sameLog)
  · rename_i result after notCommitted notConflict returned
    exact Settles.same ((swap_failed returned notCommitted).trans sameLog)

section

variable (batch : LocationBatch) (meanwhile : Database → Database)

theorem batch_once_settles : Settles world (batchOnce deps batch meanwhile ports world).2 := by
  unfold batchOnce
  split
  · rename_i after loaded
    exact (load_settles loaded).trans surface_settles
  · rename_i session after loaded
    split
    · split
      rename_i expired final ended
      have settles := @end_run_settles deps ports after session.sessionId .expired ports.nowMs
      rw [ended] at settles
      exact (load_settles loaded).trans settles
    · split
      · exact (load_settles loaded).trans surface_settles
      · split
        · exact load_settles loaded
        · have sameLog : after.log = world.log := load_log loaded
          dsimp only
          split
          · exact load_settles loaded
          · split
            · exact Settles.same sameLog
            · exact commit_batch_settles _ _ _ sameLog

theorem batch_settles (retryPorts : PortAnswers) :
    Settles world (processBatch deps batch meanwhile ports retryPorts world) := by
  have first := @batch_once_settles deps ports world batch meanwhile
  unfold processBatch
  split
  · rename_i after finished
    rw [finished] at first
    exact first
  · rename_i after conflicting
    rw [conflicting] at first
    exact first.trans (batch_once_settles batch id)

end

theorem answer_settles (session mutation) :
    Settles world (commitAnswer deps session mutation ports world) := by
  unfold commitAnswer World.commit
  split
  · exact Settles.same rfl
  · split
    · rename_i committed effects after returned
      exact Owes.run (swap_owes returned)
    · rename_i result after notCommitted returned
      exact Settles.same (swap_failed returned notCommitted)

theorem reroute_settles (outcome : RerouteOutcome) (jitter01 : ℚ) :
    Settles world (commitReroute deps outcome jitter01 ports world) := by
  unfold commitReroute
  split
  · rename_i loaded
    exact load_settles loaded
  · rename_i loaded
    exact (load_settles loaded).trans (answer_settles _ _)

theorem refresh_settles (outcome : RefreshOutcome) :
    Settles world (applyTransitRefresh deps outcome ports world) := by
  unfold applyTransitRefresh
  split
  · rename_i loaded
    exact load_settles loaded
  · rename_i loaded
    split
    · exact load_settles loaded
    · exact (load_settles loaded).trans (answer_settles _ _)

end

theorem step_settles (deps : CoordinatorDeps) (world : World) (occurrence : Occurrence)
    (careful : Careful deps world occurrence) : Settles world (step deps world occurrence) := by
  cases occurrence with
  | command command ports => exact command_settles command careful
  | surfaceStop expectedSessionId ports => exact surface_stop_settles expectedSessionId
  | carTrip trip ports => exact car_trip_settles trip careful
  | batch batch meanwhile ports retryPorts => exact batch_settles batch meanwhile retryPorts
  | reroute outcome jitter01 ports => exact reroute_settles outcome jitter01
  | refresh outcome ports => exact refresh_settles outcome
  | restart => exact Settles.same rfl

theorem effects_delivered (deps : CoordinatorDeps) (occurrences : List Occurrence) (start : World)
    (settled : Delivered start.log)
    (careful : ∀ earlier occurrence, earlier ++ [occurrence] <+: occurrences →
      Careful deps (run (step deps) earlier start) occurrence) (reached : List Occurrence)
    (within : reached <+: occurrences) : Delivered (run (step deps) reached start).log :=
  @run_guarded World Occurrence (step deps) (fun world => Delivered world.log)
    (Careful deps) (fun world occurrence allowed => step_settles deps world occurrence allowed)
    occurrences start settled careful reached within

def stopTram : Occurrence := .command (fromPage "m4" (some "s1") .stop) (portsAt 3000 "" none)

theorem stopped_tram_delivers : Delivered (run (step tramDeps)
      [prepareTram, startTram (some .background), stopTram] freshWorld).log := by
  apply effects_delivered tramDeps [prepareTram, startTram (some .background), stopTram]
  · rfl
  · intro earlier occurrence reached
    have member : occurrence ∈ [prepareTram, startTram (some .background), stopTram] :=
      reached.subset (by simp)
    apply Or.elim (List.mem_cons.mp member)
    · intro prepared
      rw [prepared]
      exact Or.inr (And.intro (by intro package expected other; cases other)
        (by intro other; cases other))
    · intro later
      apply Or.elim (List.mem_cons.mp later)
      · intro started
        rw [started]
        apply Or.inr
        apply And.intro
        · intro package expected other
          cases other
        · intro _ denied
          obtain ⟨current, found⟩ := denied
          cases found.2
      · intro last
        rw [List.mem_singleton.mp last]
        exact Or.inr (And.intro (by intro package expected other; cases other)
          (by intro other; cases other))
  · exact List.prefix_refl _

/-- The alerts of the replaced journey are not cancelled, and a denied start does not
reconcile the surface. -/
theorem replaced_tram_drops_effects :
    ¬ Delivered (run (step tramDeps) [prepareTram, startTram (some .background),
        .command (fromPage "m3" (some "s1") (.replace (.transit tramPackage) (some "fp")))
          (portsAt 2000 "" none)] freshWorld).log ∧
      ¬ Delivered (run (step tramDeps) [prepareTram, startTram none] freshWorld).log := by
  decide +kernel

end OpenMapX.Mobile.EffectDelivery
