import OpenMapX.Mobile.GroundProcessor
import OpenMapX.Mobile.SessionEnd
import OpenMapX.Mobile.TransitProcessor

/-!
# The navigation coordinator

Commands, batches of fixes and remote answers, one after another as the serial queue
runs them. Each handler reads the session, lets a processor decide what it becomes,
commits, and then runs the effects of the commit. What the ports answer while a
handler runs is part of its input, and the log records commits, effects and replies.
-/

namespace OpenMapX.Mobile.Coordinator

open Navigation.TransitTrip Navigation.TransitFix SessionStore AlertPort TransitBatch
  TransitProcessor GroundProcessor

inductive NavigationStartContext where
  | phone (activityVisible : Bool)
  | car (hostAuthorized locationServiceStartAllowed : Bool)
  | background

inductive PermissionState where
  | notDetermined | foreground | background | denied | limited
  deriving DecidableEq

def allowsNavigationStart (context : NavigationStartContext) (permission : PermissionState) :
    Bool :=
  match context with
  | .phone activityVisible => activityVisible
  | .car hostAuthorized locationServiceStartAllowed =>
    hostAuthorized && locationServiceStartAllowed && permission == .background
  | .background => false

inductive StartPackage where
  | ground (startPackage : GroundStartPackage)
  | transit (startPackage : TransitStartPackage)

def StartPackage.kind : StartPackage → SessionKind
  | .ground _ => .ground
  | .transit _ => .transit

structure ActionCommand where
  itineraryFingerprint : String
  actionId : String
  type : RiderActionType
  legIndex : Nat
  expectedPhase : TransitPhase

inductive CommandBody where
  | prepare (startPackage : StartPackage)
  | start
  | replace (startPackage : StartPackage) (expectedItineraryFingerprint : Option String)
  | walkRoute (itineraryFingerprint : String) (legIndex : Nat) (route : WalkRoute)
  | action (action : ActionCommand)
  | settingsUpdate (locale : Option SessionStore.Locale) (units : Option Units)
  | snapshotRequest
  | stop
  | complete
  | eventAck (eventIds : List String)
  /-- `intake.*`, which the shell composes. -/
  | intake
  /-- `location.request`, `settings.open` and `auth.open`. -/
  | auxiliary
  | elsewhere

structure WebCommand where
  messageId : String
  sessionId : Option String
  revision : Option Nat
  body : CommandBody

def MUTATING : CommandBody → Bool
  | .prepare _ => true
  | .start => true
  | .replace _ _ => true
  | .action _ => true
  | .walkRoute _ _ _ => true
  | .settingsUpdate _ _ => true
  | .stop => true
  | .complete => true
  | _ => false

def errorResponse (code messageId : String) : CommandResponse where
  type := "native.error"
  payload := .error code (if messageId = "" then none else some messageId)
  sessionId := none
  revision := none

def sessionResponse (type : String) (session : MobileNavigationSession) : CommandResponse where
  type := type
  payload := .session session.sessionId session.revision
  sessionId := some session.sessionId
  revision := some session.revision

def commitFailureText : CommitFailure → String
  | .revisionConflict => "revision-conflict"
  | .noActiveSession => "no-active-session"
  | .sessionActive => "session-active"
  | .corruptSession => "corrupt-session"

structure CoordinatorDeps where
  alerts : AlertPortDeps
  transit : ProcessorEnvironment
  ground : GroundEngine
  supports : SessionKind → Bool
  snapshotText : MobileNavigationSession → String

structure PortAnswers where
  nowMs : ℤ
  newSessionId : String
  startContext : NavigationStartContext
  permission : PermissionState
  /-- `requestForStart`, with nothing for a denial. -/
  requested : Option PermissionMode
  /-- How many effects failed in `effects.run`. -/
  failedEffects : Nat
  moment : Moment
  auxiliary : Except Thrown (Option CommandResponse)

inductive Happening where
  | committed (effects : List SessionEffect)
  | ran (effects : List SessionEffect)
  | sent (response : CommandResponse) (forMessageId : Option String)
  deriving DecidableEq

structure World where
  phone : Phone
  cache : TransitItineraryCache
  log : List Happening

def World.note (world : World) (happening : Happening) : World :=
  { world with log := world.log ++ [happening] }

/-- The last field of a handler's result is the world after it; a handler that throws
leaves what it has done. -/
abbrev Handled := Except Thrown CommandResponse × World

section

variable (deps : CoordinatorDeps)

def World.load (nowMs : ℤ) (world : World) : Option MobileNavigationSession × World :=
  let (session, database) := loadActive deps.alerts.parseMobileSession nowMs world.phone.database
  (session, { world with phone := { world.phone with database := database } })

/-- `effects.run`. -/
def World.run (ports : PortAnswers) (effects : List SessionEffect) (world : World) : World :=
  { world with phone := SessionEnd.runEffects deps.alerts ports.moment effects world.phone }.note
    (.ran effects)

def World.compareAndSwap (sessionId : String) (expectedRevision : Nat)
    (mutate : MobileNavigationSession → Except Thrown RepositoryMutation) (nowMs : ℤ)
    (world : World) : Except Thrown CommitResult × World :=
  match SessionStore.compareAndSwap deps.alerts.parseMobileSession sessionId expectedRevision
      mutate nowMs world.phone.database with
  | .error thrown => (.error thrown, world)
  | .ok (.failed code, database) =>
    (.ok (.failed code), { world with phone := { world.phone with database := database } })
  | .ok (.ok session effects, database) =>
    (.ok (.ok session effects),
      { world with phone := { world.phone with
          database := database,
          scheduledFor := world.phone.scheduledFor
            ++ (SessionEnd.committedAlerts deps.alerts mutate world.phone.database).map
                fun alert : ScheduledAlertInput => (sessionId, alert.alertId) } }.note
        (.committed effects))

/-- `commit`. -/
def World.commit (current : MobileNavigationSession) (mutation : RepositoryMutation)
    (nowMs : ℤ) (world : World) : Except Thrown CommitResult × World :=
  world.compareAndSwap deps current.sessionId current.revision (fun _ => .ok mutation) nowMs

/-- `repository.terminate`. -/
def World.end (sessionId : String) (finalStatus : SessionStatus) (nowMs : ℤ) (world : World) :
    (Option MobileTerminalAck × List SessionEffect) × World :=
  let (ended, database) := SessionStore.terminate deps.alerts.parseMobileSession sessionId
    finalStatus nowMs world.phone.database
  let after := { world with phone := { world.phone with database := database } }
  (ended, if ended.1.isSome then after.note (.committed ended.2) else after)

def World.createPreparing (session : MobileNavigationSession) (world : World) :
    CommitResult × World :=
  let (created, database) := SessionStore.createPreparing deps.alerts.parseMobileSession session
    world.phone.database
  (created, { world with phone := { world.phone with database := database } })

end

inductive Refusal where
  | code (code : String)
  | thrown (text : Thrown)

def matchesSession (sessionId : Option String) (revision : Option Nat)
    (session : MobileNavigationSession) : Bool :=
  sessionId.all (· == session.sessionId) && revision.all (· == session.revision)

def isTerminal (session : MobileNavigationSession) : Bool :=
  TERMINAL_STATUSES.contains session.status

def isMobileSessionExpired (session : MobileNavigationSession) (nowMs : ℤ) : Bool :=
  decide (session.expiresAtMs ≤ nowMs)

def blocks (existing : Option MobileNavigationSession) (nowMs : ℤ) : Bool :=
  existing.any fun session => !isTerminal session && !isMobileSessionExpired session nowMs

def processed {α : Type} : Except TypeError (Except String α) → Except Refusal α
  | .error _ => .error (.thrown "TypeError")
  | .ok (.error code) => .error (.code code)
  | .ok (.ok value) => .ok value

section

variable (deps : CoordinatorDeps)

/-- `processor.prepare`. -/
def prepareSession (startPackage : StartPackage) (sessionId : String)
    (permissionMode : PermissionMode) (nowMs : ℤ) : Except String MobileNavigationSession :=
  match startPackage with
  | .ground startPackage =>
    (deps.ground.validateGroundStartPackage startPackage).map fun valid =>
      createGroundPreparingSession sessionId valid.1 valid.2 permissionMode nowMs
  | .transit startPackage =>
    match validateTransitStartPackage deps.transit startPackage with
    | .error code => .error code.text
    | .ok startPackage =>
      .ok (createTransitPreparingSession startPackage sessionId permissionMode nowMs)

/-- The checks of `start` before the user is asked. -/
def startRefusal (sessionId : Option String) (revision : Option Nat)
    (context : NavigationStartContext) (permission : PermissionState) :
    Option MobileNavigationSession → Except String MobileNavigationSession
  | none => .error "no-session"
  | some current =>
    if !matchesSession sessionId revision current then .error "revision-conflict"
    else if current.status ≠ .preparing then .error "invalid-state"
    else if !deps.supports current.kind then .error "mode-unsupported"
    else if !allowsNavigationStart context permission then .error "app-not-visible"
    else .ok current

def startDecision (context : NavigationStartContext) (requested : Option PermissionMode) :
    Option PermissionMode :=
  match context with
  | .car _ _ => some .background
  | _ => requested

def startMutation (decision : PermissionMode) (nowMs : ℤ) (session : MobileNavigationSession) :
    RepositoryMutation where
  session := { session with
    revision := session.revision + 1
    status := .active
    updatedAtMs := nowMs
    permissionMode := decision }
  effects := some [.startLocation decision, .publishSnapshot true]
  enqueue := none
  alerts := none

def transitOf (current : Option MobileNavigationSession) :
    Option (MobileNavigationSession × TransitPayload) :=
  current.bind fun session =>
    match session.payload with
    | .ground _ => none
    | .transit payload => some (session, payload)

def fingerprintOf (session : MobileNavigationSession) : Option String :=
  match session.payload with
  | .ground _ => none
  | .transit payload => some payload.startPackage.itineraryFingerprint

def replaceMatches (command : WebCommand) (expectedItineraryFingerprint : Option String)
    (session : MobileNavigationSession) : Bool :=
  ((fingerprintOf session).isSome && command.sessionId == some session.sessionId &&
      expectedItineraryFingerprint == fingerprintOf session)
    || matchesSession command.sessionId command.revision session

def decideReplace (command : WebCommand) (startPackage : StartPackage)
    (expectedItineraryFingerprint : Option String) (nowMs : ℤ) :
    Option MobileNavigationSession →
      Except Refusal (MobileNavigationSession × RepositoryMutation)
  | none => .error (.code "no-session")
  | some current =>
    if !replaceMatches command expectedItineraryFingerprint current then
      .error (.code "revision-conflict")
    else if current.status ≠ .active then .error (.code "invalid-state")
    else if !deps.supports current.kind then .error (.code "mode-unsupported")
    else
      match current.payload, startPackage with
      | .ground payload, .ground replacement =>
        match replaceGround deps.ground current payload replacement nowMs with
        | .error code => .error (.code code)
        | .ok mutation => .ok (current, mutation)
      | .transit payload, .transit replacement =>
        match replace deps.transit current payload replacement nowMs with
        | .error code => .error (.code code)
        | .ok mutation => .ok (current, mutation)
      | _, _ => .error (.code "mode-mismatch")

def decideWalkRoute (command : WebCommand) (itineraryFingerprint : String) (legIndex : Nat)
    (route : WalkRoute) (nowMs : ℤ) (current : Option MobileNavigationSession) :
    Except Refusal (MobileNavigationSession × RepositoryMutation) :=
  match transitOf current with
  | some (session, payload) =>
    if session.status ≠ .active ∨ command.sessionId ≠ some session.sessionId ∨
        payload.startPackage.itineraryFingerprint ≠ itineraryFingerprint then
      .error (.code "revision-conflict")
    else if !deps.supports .transit then .error (.code "mode-unsupported")
    else
      (processed (repairTransitWalk deps.transit session payload legIndex route nowMs)).map
        fun mutation => (session, mutation)
  | none => .error (.code "revision-conflict")

inductive ActionGate where
  | refused (code : String)
  | repeated
  | free
  deriving DecidableEq

def boardPhaseRace (action : ActionCommand) (phase : TransitPhase) : Bool :=
  action.type == .boarding .board &&
    [TransitPhase.walking, .waitingToBoard].contains action.expectedPhase &&
    [TransitPhase.walking, .waitingToBoard].contains phase

def actionGate (sessionId : Option String) (action : ActionCommand)
    (session : MobileNavigationSession) (payload : TransitPayload) : ActionGate :=
  if sessionId ≠ some session.sessionId ∨
      payload.startPackage.itineraryFingerprint ≠ action.itineraryFingerprint then
    .refused "revision-conflict"
  else if payload.tickState.lastActionId = some action.actionId then .repeated
  else if (payload.tickState.phase ≠ action.expectedPhase ∧
        !boardPhaseRace action payload.tickState.phase) ∨
      (session.status ≠ .active ∧ ¬ (session.status = .arrived ∧ action.type = .undo)) then
    .refused "invalid-state"
  else .free

def actionMutation (action : ActionCommand) (outcome : TransitBatchOutcome) :
    RepositoryMutation where
  session := { outcome.session with
    payload := .transit { outcome.payload with
      tickState := { outcome.payload.tickState with lastActionId := some action.actionId } } }
  effects := some outcome.effects
  enqueue := if outcome.enqueue.isEmpty then none else some outcome.enqueue
  alerts := none

def takeAction (cache : TransitItineraryCache) (session : MobileNavigationSession)
    (payload : TransitPayload) (action : ActionCommand) (nowMs : ℤ) :
    Except Refusal RepositoryMutation :=
  (processed (transitAction deps.transit cache session payload
    { type := action.type, legIndex := action.legIndex } nowMs)).map (actionMutation action)

def settingsMutation (locale : Option SessionStore.Locale) (units : Option Units) (nowMs : ℤ)
    (session : MobileNavigationSession) : RepositoryMutation where
  session := { session with
    revision := session.revision + 1
    updatedAtMs := nowMs
    locale := locale.getD session.locale
    units := units.getD session.units }
  effects := some [.publishSnapshot true]
  enqueue := none
  alerts := none

def fixesMutation (cache : TransitItineraryCache) (session : MobileNavigationSession)
    (fixes : List FixInput) (nowMs : ℤ) : Except Thrown RepositoryMutation :=
  match session.payload with
  | .ground payload => processGroundFixes deps.ground session payload fixes nowMs
  | .transit payload =>
    match processFixes deps.transit cache session payload fixes nowMs with
    | .error _ => .error "TypeError"
    | .ok mutation => .ok mutation

def usedCache (cache : TransitItineraryCache) (session : MobileNavigationSession) :
    TransitItineraryCache :=
  match session.payload with
  | .ground _ => cache
  | .transit payload => preparedFor deps.transit.batch.oracles.line cache session payload

end

inductive RerouteAnswer where
  | route (route : GroundStartPackage)
  | failed (code : String)

structure RerouteOutcome where
  requestId : String
  sessionId : String
  answer : RerouteAnswer

def reroutedMutation (payload : GroundPayload) (mutation : RepositoryMutation) :
    RepositoryMutation :=
  { mutation with session := { mutation.session with
      payload := .ground { payload with reroute := onRerouteSucceeded } } }

def failedReroute (session : MobileNavigationSession) (payload : GroundPayload) (code : String)
    (nowMs : ℤ) (jitter01 : ℚ) : RepositoryMutation where
  session := { session with
    revision := session.revision + 1
    updatedAtMs := nowMs
    payload := .ground { payload with
      reroute := onRerouteFailed payload.reroute code nowMs jitter01 } }
  effects := some [.publishSnapshot false]
  enqueue := none
  alerts := none

/-- What `commitReroute` commits for an answer, if it belongs to the session. -/
def rerouteMutation (deps : CoordinatorDeps) (outcome : RerouteOutcome) (nowMs : ℤ)
    (jitter01 : ℚ) (session : MobileNavigationSession) : Option RepositoryMutation :=
  match session.payload with
  | .transit _ => none
  | .ground payload =>
    if session.status ≠ .active ∨ session.sessionId ≠ outcome.sessionId ∨
        payload.reroute.requestId ≠ some outcome.requestId then none
    else
      match outcome.answer with
      | .failed code =>
        if code = "aborted" then none
        else some (failedReroute session payload code nowMs jitter01)
      | .route route =>
        match replaceGround deps.ground session payload route nowMs with
        | .ok mutation =>
          if deps.supports .ground then some (reroutedMutation payload mutation)
          else some (failedReroute session payload "invalid-response" nowMs jitter01)
        | .error _ => some (failedReroute session payload "invalid-response" nowMs jitter01)

end OpenMapX.Mobile.Coordinator
