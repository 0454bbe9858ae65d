import OpenMapX.Mobile.CoordinatorHandlers
import OpenMapX.Mobile.StoreWriters

/-!
# What the handlers write

Every handler writes through the same few transactions, and commits only what a
decision about the session it has loaded returned. A relation between tables that
these transactions respect is respected by every occurrence; the reply that a command
leaves behind is the one write that is not among them.
-/

namespace OpenMapX.Mobile.HandlerWrites

open Navigation.TransitTrip SessionStore AlertPort TransitBatch TransitProcessor GroundProcessor
  Coordinator CoordinatorHandlers

inductive Decided (deps : CoordinatorDeps) (current : MobileNavigationSession) :
    RepositoryMutation → Prop where
  | started (decision : PermissionMode) (nowMs : ℤ) :
    Decided deps current (startMutation decision nowMs current)
  | replaced (command : WebCommand) (startPackage : StartPackage)
      (expectedItineraryFingerprint : Option String) (nowMs : ℤ) (mutation : RepositoryMutation)
      (decided : decideReplace deps command startPackage expectedItineraryFingerprint nowMs
        (some current) = .ok (current, mutation)) : Decided deps current mutation
  | walked (payload : TransitPayload) (legIndex : Nat) (walk : WalkRoute) (nowMs : ℤ)
      (mutation : RepositoryMutation) (transit : current.payload = .transit payload)
      (decided : TransitProcessor.repairTransitWalk deps.transit current payload legIndex walk
        nowMs = .ok (.ok mutation)) : Decided deps current mutation
  | acted (cache : TransitItineraryCache) (payload : TransitPayload) (action : ActionCommand)
      (nowMs : ℤ) (mutation : RepositoryMutation) (transit : current.payload = .transit payload)
      (decided : takeAction deps cache current payload action nowMs = .ok mutation) :
      Decided deps current mutation
  | settings (locale : Option SessionStore.Locale) (units : Option Units) (nowMs : ℤ) :
    Decided deps current (settingsMutation locale units nowMs current)
  | fixes (cache : TransitItineraryCache) (fixes : List FixInput) (nowMs : ℤ)
      (mutation : RepositoryMutation)
      (decided : fixesMutation deps cache current fixes nowMs = .ok mutation) :
      Decided deps current mutation
  | rerouted (outcome : RerouteOutcome) (nowMs : ℤ) (jitter01 : ℚ)
      (mutation : RepositoryMutation)
      (decided : rerouteMutation deps outcome nowMs jitter01 current = some mutation) :
      Decided deps current mutation
  | refreshed (outcome : RefreshOutcome) (nowMs : ℤ) (mutation : RepositoryMutation)
      (decided : refreshMutation deps.transit current outcome nowMs = .ok (some mutation)) :
      Decided deps current mutation

def Loaded (deps : CoordinatorDeps) (db : Database) (current : MobileNavigationSession) : Prop :=
  ∃ row, db.active_navigation = some row ∧
    deps.alerts.parseMobileSession row.session_json = .ok current

/-- The transactions of the handlers relate the tables before and after them. The id is
the one that a session is prepared under. -/
structure Respected (deps : CoordinatorDeps) (newSessionId : String)
    (relates : Database → Database → Prop) : Prop where
  refl : ∀ db, relates db db
  trans : ∀ first second third, relates first second → relates second third → relates first third
  load : ∀ nowMs db, relates db (loadActive deps.alerts.parseMobileSession nowMs db).2
  alerts : ∀ sessionId alerts nowMs db, relates db (replaceAlertsIn sessionId alerts nowMs db)
  ended : ∀ sessionId finalStatus nowMs db,
    relates db (SessionStore.terminate deps.alerts.parseMobileSession sessionId finalStatus nowMs
      db).2
  acked : ∀ eventIds db, relates db (ackEvents eventIds db)
  created : ∀ startPackage nowMs session db,
    prepareSession deps startPackage newSessionId .foregroundOnly nowMs = .ok session →
    relates db (createPreparing deps.alerts.parseMobileSession session db).2
  committed : ∀ current mutation mutate nowMs db result after,
    Loaded deps db current → Decided deps current mutation → mutate current = .ok mutation →
    compareAndSwap deps.alerts.parseMobileSession current.sessionId current.revision mutate nowMs
        db = .ok (result, after) →
    relates db after

section

variable {deps : CoordinatorDeps} {ports : PortAnswers} {newSessionId : String}
variable {relates : Database → Database → Prop}

variable {current : Option MobileNavigationSession} {nowMs : ℤ}

theorem load_writes (respected : Respected deps newSessionId relates) {world after : World}
    (loaded : world.load deps nowMs = (current, after)) :
    relates world.phone.database after.phone.database := by
  have wrote := respected.load nowMs world.phone.database
  have same : (world.load deps nowMs).2.phone.database =
      (loadActive deps.alerts.parseMobileSession nowMs world.phone.database).2 := rfl
  rw [← same, loaded] at wrote
  exact wrote

theorem load_finds {world after : World} {current}
    (loaded : world.load deps nowMs = (some current, after)) :
    Loaded deps after.phone.database current ∧ after.phone.database = world.phone.database := by
  have read : loadActive deps.alerts.parseMobileSession nowMs world.phone.database =
      (some current, after.phone.database) := by
    have first : (world.load deps nowMs).1 =
        (loadActive deps.alerts.parseMobileSession nowMs world.phone.database).1 := rfl
    have second : (world.load deps nowMs).2.phone.database =
        (loadActive deps.alerts.parseMobileSession nowMs world.phone.database).2 := rfl
    rw [loaded] at first second
    exact Prod.ext first.symm second.symm
  unfold loadActive inspectActive at read
  cases stored : world.phone.database.active_navigation with
  | none =>
    rw [stored] at read
    cases read
  | some row =>
    rw [stored] at read
    cases parsed : deps.alerts.parseMobileSession row.session_json with
    | error code =>
      simp only [parsed] at read
      cases read
    | ok session =>
      simp only [parsed, Prod.mk.injEq, Option.some.injEq] at read
      apply And.intro
      · apply Exists.intro row
        rw [← read.1, ← read.2]
        exact And.intro stored parsed
      · exact read.2.symm

variable {session : MobileNavigationSession}

theorem load_transit {world after : World}
    {payload} (loaded : world.load deps nowMs = (current, after))
    (found : transitOf current = some (session, payload)) :
    world.load deps nowMs = (some session, after) ∧ session.payload = .transit payload := by
  cases current with
  | none => cases found
  | some other =>
    cases chosen : other.payload with
    | ground groundPayload =>
      simp only [transitOf, Option.bind_some, chosen] at found
      cases found
    | transit transitPayload =>
      simp only [transitOf, Option.bind_some, chosen] at found
      cases found
      exact And.intro loaded chosen

section

variable (respected : Respected deps newSessionId relates) (world : World)
include respected

theorem run_writes (effects) :
    relates world.phone.database (world.run deps ports effects).phone.database := by
  have executed : ∀ (phone : Phone) (effect : SessionEffect),
      relates phone.database
        (SessionEnd.execute deps.alerts ports.moment phone effect).database := by
    intro phone effect
    have loaded := respected.load ports.moment.nowMs phone.database
    cases effect with
    | reconcileAlerts sessionId =>
      apply respected.trans _ _ _ loaded
      have again := respected.load ports.moment.nowMs
        (phone.load deps.alerts ports.moment.nowMs).database
      simp only [SessionEnd.execute]
      unfold AlertPort.reconcile
      split
      · rename_i database read
        rw [read] at again
        exact again
      · rename_i session database read
        rw [read] at again
        dsimp only
        split
        · exact again
        · split
          · exact again
          · split
            · exact again
            · split
              · exact again
              · unfold reconcileDesired
                dsimp only
                split
                · exact again
                · exact respected.trans _ _ _ again (respected.alerts _ _ _ database)
    | cancelSessionAlerts sessionId =>
      exact respected.trans _ _ _ loaded (respected.alerts sessionId [] ports.moment.nowMs _)
    | reconcileSurface => exact loaded
    | startLocation permissionMode => exact loaded
    | updateLocationProfile profile => exact loaded
    | publishSnapshot immediate => exact loaded
    | publishEvent eventId => exact loaded
    | stopLocation => exact respected.refl _
    | speak cueId text locale => exact respected.refl _
    | stopAudio => exact respected.refl _
    | requestReroute requestId => exact respected.refl _
    | requestTransitRefresh requestId => exact respected.refl _
  have folded : ∀ (rest : List SessionEffect) (phone : Phone),
      relates phone.database
        (rest.foldl (SessionEnd.execute deps.alerts ports.moment) phone).database := by
    intro rest
    induction rest with
    | nil =>
      intro phone
      exact respected.refl _
    | cons effect rest ih =>
      intro phone
      exact respected.trans _ _ _ (executed phone effect) (ih _)
  exact folded _ world.phone

theorem end_writes (sessionId : String) (finalStatus : SessionStatus) (nowMs : ℤ) :
    relates world.phone.database (world.end deps sessionId finalStatus nowMs).2.phone.database := by
  have wrote := respected.ended sessionId finalStatus nowMs world.phone.database
  unfold World.end
  dsimp only
  split
  · exact wrote
  · exact wrote

theorem end_run_writes (sessionId : String) (finalStatus : SessionStatus) (nowMs : ℤ) (effects) :
    relates world.phone.database
      ((world.end deps sessionId finalStatus nowMs).2.run deps ports effects).phone.database :=
  respected.trans _ _ _ (end_writes respected world sessionId finalStatus nowMs)
    (run_writes respected _ effects)

end

variable {mutation : RepositoryMutation}

section

variable (respected : Respected deps newSessionId relates)
include respected

theorem swap_writes {world after : World} {current}
    {mutate : MobileNavigationSession → Except Thrown RepositoryMutation} {result}
    (stored : Loaded deps world.phone.database current) (decided : Decided deps current mutation)
    (changes : mutate current = .ok mutation)
    (returned : world.compareAndSwap deps current.sessionId current.revision mutate nowMs =
      (result, after)) : relates world.phone.database after.phone.database := by
  unfold World.compareAndSwap at returned
  split at returned
  · cases returned
    exact respected.refl _
  · rename_i code database swapped
    cases returned
    exact respected.committed _ _ _ _ _ _ _ stored decided changes swapped
  · rename_i session effects database swapped
    cases returned
    exact respected.committed _ _ _ _ _ _ _ stored decided changes swapped

theorem committed_then_writes {world : World} {current}
    {mutate : MobileNavigationSession → Except Thrown RepositoryMutation} (messageId : String)
    (next : MobileNavigationSession → List SessionEffect → World → Handled)
    (stored : Loaded deps world.phone.database current) (decided : Decided deps current mutation)
    (changes : mutate current = .ok mutation) (writes : ∀ session effects after,
      relates after.phone.database (next session effects after).2.phone.database) :
    relates world.phone.database (committedThen messageId
      (world.compareAndSwap deps current.sessionId current.revision mutate nowMs)
      next).2.phone.database := by
  unfold committedThen
  split
  · rename_i thrown after returned
    exact swap_writes respected stored decided changes returned
  · rename_i code after returned
    exact swap_writes respected stored decided changes returned
  · rename_i session effects after returned
    exact respected.trans _ _ _ (swap_writes respected stored decided changes returned)
      (writes session effects after)

theorem decided_then_writes {α : Type} {world : World} (messageId : String)
    (decision : Except Refusal α) (next : α → Handled) (writes : ∀ value, decision = .ok value →
      relates world.phone.database (next value).2.phone.database) : relates world.phone.database
      (decidedThen messageId decision world next).2.phone.database := by
  unfold decidedThen
  split
  · exact respected.refl _
  · exact respected.refl _
  · rename_i value
    exact writes value rfl

end

theorem replaced_current {command startPackage expected}
    (decided : decideReplace deps command startPackage expected nowMs current =
      .ok (session, mutation)) : current = some session := by
  unfold decideReplace at decided
  split at decided
  · cases decided
  · split at decided
    · cases decided
    · split at decided
      · cases decided
      · split at decided
        · cases decided
        · split at decided
          · split at decided
            · cases decided
            · cases decided
              rfl
          · split at decided
            · cases decided
            · cases decided
              rfl
          · cases decided

theorem processed_ok {α : Type} {result} {value : α}
    (returned : processed result = .ok value) : result = .ok (.ok value) := by
  unfold processed at returned
  split at returned
  · cases returned
  · cases returned
  · cases returned
    rfl

theorem walked_current {command} {itineraryFingerprint : String} {legIndex : Nat} {walk}
    (decided : decideWalkRoute deps command itineraryFingerprint legIndex walk nowMs current =
      .ok (session, mutation)) : ∃ payload, transitOf current = some (session, payload) ∧
      TransitProcessor.repairTransitWalk deps.transit session payload legIndex walk nowMs =
        .ok (.ok mutation) := by
  unfold decideWalkRoute at decided
  split at decided
  · rename_i other payload found
    split at decided
    · cases decided
    · split at decided
      · cases decided
      · cases returned : processed (TransitProcessor.repairTransitWalk deps.transit other payload
            legIndex walk nowMs) with
        | error refusal =>
          rw [returned] at decided
          cases decided
        | ok mutation =>
          rw [returned] at decided
          cases decided
          exact Exists.intro payload (And.intro found (processed_ok returned))
  · cases decided

section

variable (respected : Respected deps newSessionId relates) {world : World}

include respected

theorem snapshot_writes :
    relates world.phone.database (snapshot deps ports world).2.phone.database := by
  unfold snapshot
  split
  · rename_i loaded
    exact load_writes respected loaded
  · rename_i loaded
    exact load_writes respected loaded

theorem prepare_writes (messageId : String) (startPackage : StartPackage)
    (fresh : ports.newSessionId = newSessionId) : relates world.phone.database
      (prepare deps messageId startPackage ports world).2.phone.database := by
  unfold prepare
  split
  · exact respected.refl _
  · split
    rename_i existing after loaded
    have wrote := load_writes respected loaded
    split
    · exact wrote
    · split
      · exact wrote
      · rename_i session prepared
        rw [fresh] at prepared
        have created := respected.created startPackage ports.nowMs session after.phone.database
          prepared
        have same : (after.createPreparing deps session).2.phone.database =
            (SessionStore.createPreparing deps.alerts.parseMobileSession session
              after.phone.database).2 := rfl
        rw [← same] at created
        split
        · rename_i code final failed
          rw [failed] at created
          exact respected.trans _ _ _ wrote created
        · rename_i stored effects final stores
          rw [stores] at created
          exact respected.trans _ _ _ wrote created

theorem start_driver_writes (messageId : String) (session effects) : relates world.phone.database
      (startDriver deps messageId ports session effects world).2.phone.database := by
  have ran := @run_writes deps ports newSessionId relates respected world effects
  unfold startDriver
  dsimp only
  split
  · exact respected.trans _ _ _ ran (end_run_writes respected _ _ _ _ _)
  · exact ran

theorem start_writes (messageId : String) (sessionId : Option String) (revision : Option Nat)
    (context) (valid : Bool) : relates world.phone.database
      (start deps messageId sessionId revision context valid ports world).2.phone.database := by
  unfold start
  split
  rename_i current after loaded
  have wrote := load_writes respected loaded
  split
  · exact wrote
  · rename_i session allowed
    have found : current = some session := by
      cases current with
      | none => cases allowed
      | some other =>
        simp only [startRefusal] at allowed
        split at allowed
        · cases allowed
        · split at allowed
          · cases allowed
          · split at allowed
            · cases allowed
            · split at allowed
              · cases allowed
              · cases allowed
                rfl
    rw [found] at loaded
    split
    · exact respected.trans _ _ _ wrote (end_writes respected after _ _ _)
    · rename_i decision decided
      split
      · exact wrote
      · apply respected.trans _ _ _ wrote
        apply committed_then_writes respected messageId _ (load_finds loaded).1
          (.started decision ports.nowMs) rfl
        intro started effects committed
        exact start_driver_writes respected messageId started effects

variable (command : WebCommand)

theorem replace_writes (startPackage : StartPackage) (expected : Option String) :
    relates world.phone.database
      (CoordinatorHandlers.replace deps command startPackage expected ports
        world).2.phone.database := by
  unfold CoordinatorHandlers.replace
  split
  rename_i current after loaded
  apply respected.trans _ _ _ (load_writes respected loaded)
  apply decided_then_writes respected
  intro decided accepted
  have found := replaced_current accepted
  rw [found] at loaded accepted
  have same : (droppedCache decided.1 after).phone = after.phone := by
    unfold droppedCache
    split <;> rfl
  have stored : Loaded deps (droppedCache decided.1 after).phone.database decided.1 := by
    rw [same]
    exact (load_finds loaded).1
  rw [← same]
  apply committed_then_writes respected command.messageId _ stored
    (.replaced command startPackage expected ports.nowMs decided.2 accepted) rfl
  intro session effects committed
  exact respected.refl _

theorem walk_route_writes (itineraryFingerprint : String) (legIndex : Nat) (walk : WalkRoute) :
    relates world.phone.database (CoordinatorHandlers.repairTransitWalk deps command
      itineraryFingerprint legIndex walk ports world).2.phone.database := by
  unfold CoordinatorHandlers.repairTransitWalk
  split
  rename_i current after loaded
  apply respected.trans _ _ _ (load_writes respected loaded)
  apply decided_then_writes respected
  intro decided accepted
  have found := walked_current accepted
  obtain ⟨payload, walks⟩ := found
  have transit := load_transit loaded walks.1
  apply committed_then_writes respected command.messageId _ (load_finds transit.1).1
    (.walked payload legIndex walk ports.nowMs decided.2 transit.2 walks.2) rfl
  intro session effects committed
  exact respected.trans _ _ _ (run_writes respected committed effects)
    (snapshot_writes respected)

theorem action_writes (action : ActionCommand) : relates world.phone.database
      (CoordinatorHandlers.transitAction deps command action ports world).2.phone.database := by
  unfold CoordinatorHandlers.transitAction
  split
  rename_i current after loaded
  have wrote := load_writes respected loaded
  split
  · exact wrote
  · rename_i session payload found
    have transit := load_transit loaded found
    have stored : Loaded deps
        (World.mk after.phone (usedCache deps after.cache session) after.log).phone.database
        session := (load_finds transit.1).1
    split
    · exact wrote
    · exact respected.trans _ _ _ wrote (snapshot_writes respected)
    · split
      · exact wrote
      · apply respected.trans _ _ _ wrote
        change relates
          (World.mk after.phone (usedCache deps after.cache session) after.log).phone.database _
        apply decided_then_writes respected
        intro mutation taken
        apply committed_then_writes respected command.messageId _ stored
          (.acted after.cache payload action ports.nowMs mutation transit.2 taken) rfl
        intro session effects committed
        exact run_writes respected committed effects

theorem settings_write (locale) (units : Option Units) : relates world.phone.database
      (updateSettings deps command locale units ports world).2.phone.database := by
  unfold updateSettings
  split
  · rename_i loaded
    exact load_writes respected loaded
  · rename_i current after loaded
    have wrote := load_writes respected loaded
    split
    · exact wrote
    · apply respected.trans _ _ _ wrote
      apply committed_then_writes respected command.messageId _ (load_finds loaded).1
        (.settings locale units ports.nowMs) rfl
      intro session effects committed
      exact run_writes respected committed effects

theorem terminate_writes (messageId : String) (sessionId : Option String)
    (finalStatus : SessionStatus) :
    relates world.phone.database (CoordinatorHandlers.terminate deps messageId sessionId
      finalStatus ports world).2.phone.database := by
  unfold CoordinatorHandlers.terminate
  split
  · rename_i loaded
    exact load_writes respected loaded
  · rename_i current after loaded
    have wrote := load_writes respected loaded
    split
    · exact wrote
    · split
      rename_i ended final finished
      have ends := end_writes respected after current.sessionId finalStatus ports.nowMs
      rw [finished] at ends
      exact respected.trans _ _ _ wrote
        (respected.trans _ _ _ ends (run_writes respected final ended.2))

theorem route_writes (fresh : ∀ startPackage, command.body = .prepare startPackage →
      ports.newSessionId = newSessionId) :
    relates world.phone.database (route deps command ports world).2.phone.database := by
  unfold route
  split
  · exact respected.refl _
  · exact respected.refl _
  · rename_i startPackage chosen
    exact prepare_writes respected _ _ (fresh startPackage chosen)
  · exact start_writes respected _ _ _ _ _
  · exact replace_writes respected _ _ _
  · exact walk_route_writes respected _ _ _ _
  · exact action_writes respected _ _
  · exact settings_write respected _ _ _
  · exact snapshot_writes respected
  · exact terminate_writes respected _ _ _
  · exact terminate_writes respected _ _ _
  · exact respected.acked _ _
  · exact respected.refl _

theorem surface_stop_writes (expectedSessionId : String) : relates world.phone.database
      (stopFromSurface deps expectedSessionId ports world).2.phone.database := by
  unfold stopFromSurface
  split
  · rename_i loaded
    exact load_writes respected loaded
  · rename_i current after loaded
    have wrote := load_writes respected loaded
    split
    · exact wrote
    · split
      rename_i response final stopped
      have stops := @terminate_writes deps ports newSessionId relates respected after
        "native-surface" (some expectedSessionId) .stopped
      rw [stopped] at stops
      exact respected.trans _ _ _ wrote stops

theorem start_prepared_writes (trip : CarTrip) (prepared : CommandResponse) :
    relates world.phone.database
      (startPrepared deps trip prepared ports world).2.phone.database := by
  unfold startPrepared
  split
  · exact respected.refl _
  · split
    · exact terminate_writes respected _ _ _
    · have starts := @start_writes deps ports newSessionId relates respected world trip.messageId
        prepared.sessionId prepared.revision trip.contextAtStart trip.validBeforeCommit
      split
      · rename_i response after started
        rw [started] at starts
        exact starts
      · rename_i thrown after started
        rw [started] at starts
        exact starts

theorem prepare_car_writes (trip : CarTrip) (fresh : ports.newSessionId = newSessionId) :
    relates world.phone.database (prepareCarTrip deps trip ports world).2.phone.database := by
  unfold prepareCarTrip
  split
  · exact respected.refl _
  · have prepares := @prepare_writes deps ports newSessionId relates respected world
      trip.messageId (.ground trip.startPackage) fresh
    split
    · rename_i prepared after ready
      rw [ready] at prepares
      exact respected.trans _ _ _ prepares (start_prepared_writes respected trip prepared)
    · rename_i thrown after ready
      rw [ready] at prepares
      exact prepares

theorem car_trip_writes (trip : CarTrip) (fresh : ports.newSessionId = newSessionId) :
    relates world.phone.database (startCarTrip deps trip ports world).2.phone.database := by
  unfold startCarTrip
  split
  · exact respected.refl _
  · split
    · exact respected.refl _
    · split
      · rename_i after loaded
        exact respected.trans _ _ _ (load_writes respected loaded)
          (prepare_car_writes respected trip fresh)
      · rename_i current after loaded
        have wrote := load_writes respected loaded
        split
        · exact respected.trans _ _ _ wrote (prepare_car_writes respected trip fresh)
        · split
          · exact wrote
          · apply respected.trans _ _ _ wrote
            exact respected.trans _ _ _ (terminate_writes respected _ _ _)
              (prepare_car_writes respected trip fresh)

theorem commit_batch_writes (session mutation) (stored : Loaded deps world.phone.database session)
    (decided : Decided deps session mutation) : relates world.phone.database
      (commitBatch deps session mutation id ports world).2.phone.database := by
  unfold commitBatch World.commit
  split
  · rename_i committed effects after returned
    exact respected.trans _ _ _ (swap_writes respected stored decided rfl returned)
      (run_writes respected after effects)
  · rename_i after returned
    exact swap_writes respected stored decided rfl returned
  · rename_i result after notCommitted notConflict returned
    exact swap_writes respected stored decided rfl returned

theorem batch_once_writes (batch : LocationBatch) :
    relates world.phone.database (batchOnce deps batch id ports world).2.phone.database := by
  unfold batchOnce
  split
  · rename_i after loaded
    exact respected.trans _ _ _ (load_writes respected loaded) (run_writes respected after _)
  · rename_i session after loaded
    have wrote := load_writes respected loaded
    split
    · split
      rename_i expired final ended
      have ends := end_writes respected after session.sessionId .expired ports.nowMs
      rw [ended] at ends
      exact respected.trans _ _ _ wrote
        (respected.trans _ _ _ ends (run_writes respected final expired.2))
    · split
      · exact respected.trans _ _ _ wrote (run_writes respected after _)
      · split
        · exact wrote
        · dsimp only
          split
          · exact wrote
          · split
            · exact wrote
            · rename_i mutation processed
              have stored : Loaded deps
                  (World.mk after.phone (usedCache deps after.cache session)
                    after.log).phone.database session := (load_finds loaded).1
              exact respected.trans _ _ _ wrote
                (commit_batch_writes respected session mutation stored
                  (.fixes after.cache _ ports.nowMs mutation processed))

theorem batch_writes (batch : LocationBatch) (retryPorts : PortAnswers) :
    relates world.phone.database
      (processBatch deps batch id ports retryPorts world).phone.database := by
  have first := @batch_once_writes deps ports newSessionId relates respected world batch
  unfold processBatch
  split
  · rename_i after finished
    rw [finished] at first
    exact first
  · rename_i after conflicting
    rw [conflicting] at first
    exact respected.trans _ _ _ first (batch_once_writes respected batch)

theorem answer_writes (session mutation) (stored : Loaded deps world.phone.database session)
    (decided : ∀ chosen, mutation = some chosen → Decided deps session chosen) :
    relates world.phone.database
      (commitAnswer deps session mutation ports world).phone.database := by
  unfold commitAnswer World.commit
  split
  · exact respected.refl _
  · rename_i chosen
    split
    · rename_i committed effects after returned
      exact respected.trans _ _ _
        (swap_writes respected stored (decided chosen rfl) rfl returned)
        (run_writes respected after effects)
    · rename_i result after notCommitted returned
      exact swap_writes respected stored (decided chosen rfl) rfl returned

theorem reroute_writes (outcome : RerouteOutcome) (jitter01 : ℚ) : relates world.phone.database
      (commitReroute deps outcome jitter01 ports world).phone.database := by
  unfold commitReroute
  split
  · rename_i loaded
    exact load_writes respected loaded
  · rename_i session after loaded
    apply respected.trans _ _ _ (load_writes respected loaded)
    apply answer_writes respected session _ (load_finds loaded).1
    intro chosen decided
    exact .rerouted outcome ports.nowMs jitter01 chosen decided

theorem refresh_writes (outcome : RefreshOutcome) : relates world.phone.database
      (applyTransitRefresh deps outcome ports world).phone.database := by
  unfold applyTransitRefresh
  split
  · rename_i loaded
    exact load_writes respected loaded
  · rename_i session after loaded
    have wrote := load_writes respected loaded
    split
    · exact wrote
    · rename_i mutation decided
      apply respected.trans _ _ _ wrote
      apply answer_writes respected session _ (load_finds loaded).1
      intro chosen same
      rw [same] at decided
      exact .refreshed outcome ports.nowMs chosen decided

end

end

def newIdOf : Occurrence → Option String
  | .command command ports =>
    match command.body with
    | .prepare _ => some ports.newSessionId
    | _ => none
  | .carTrip _ ports => some ports.newSessionId
  | _ => none

theorem other_id (occurrence : Occurrence) (sessionId : String)
    (other : newIdOf occurrence ≠ some sessionId) : ∃ newSessionId, newSessionId ≠ sessionId ∧
      ∀ id, newIdOf occurrence = some id → id = newSessionId := by
  cases named : newIdOf occurrence with
  | some id =>
    apply Exists.intro id
    apply And.intro
    · intro same
      rw [named, same] at other
      exact other rfl
    · intro another same
      cases same
      rfl
  | none =>
    apply Exists.intro (sessionId ++ "?")
    apply And.intro
    · intro same
      have lengths := congrArg String.length same
      rw [String.length_append] at lengths
      have one : "?".length = 1 := rfl
      omega
    · intro id absent
      cases absent

def Alone : Occurrence → Prop
  | .batch _ meanwhile _ _ => meanwhile = id
  | _ => True

def beforeReply (deps : CoordinatorDeps) (world : World) : Occurrence → World
  | .command command ports =>
    match cachedReply command ports.nowMs world with
    | some _ => world
    | none => (route deps command ports world).2
  | other => step deps world other

theorem occurrence_writes {deps} {relates : Database → Database → Prop} {newSessionId : String}
    (respected : Respected deps newSessionId relates) (world : World) (occurrence : Occurrence)
    (alone : Alone occurrence) (fresh : ∀ id, newIdOf occurrence = some id → id = newSessionId) :
    relates world.phone.database (beforeReply deps world occurrence).phone.database := by
  cases occurrence with
  | command command ports =>
    unfold beforeReply
    dsimp only
    split
    · exact respected.refl _
    · apply route_writes respected command
      intro startPackage chosen
      apply fresh
      simp only [newIdOf, chosen]
  | surfaceStop expectedSessionId ports => exact surface_stop_writes respected expectedSessionId
  | carTrip trip ports => exact car_trip_writes respected trip (fresh _ rfl)
  | batch batch meanwhile ports retryPorts =>
    cases alone
    exact batch_writes respected batch retryPorts
  | reroute outcome jitter01 ports => exact reroute_writes respected outcome jitter01
  | refresh outcome ports => exact refresh_writes respected outcome
  | restart => exact respected.refl _

end OpenMapX.Mobile.HandlerWrites
