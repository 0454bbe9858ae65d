import OpenMapX.Mobile.Coordinator
import OpenMapX.Navigation.RiderProgress

/-!
# The handlers of the coordinator

`handleCommand` with its routes, `processBatch` with its retry, the two remote
answers, and the paths that the phone and the car take without a command.
-/

namespace OpenMapX.Mobile.CoordinatorHandlers

open Navigation.TransitTrip Navigation.RiderProgress SessionStore AlertPort TransitBatch
  TransitProcessor GroundProcessor Coordinator

def answer (code messageId : String) (world : World) : Handled :=
  (.ok (errorResponse code messageId), world)

def committedThen (messageId : String) (result : Except Thrown CommitResult × World)
    (next : MobileNavigationSession → List SessionEffect → World → Handled) : Handled :=
  match result with
  | (.error thrown, world) => (.error thrown, world)
  | (.ok (.failed code), world) => answer (commitFailureText code) messageId world
  | (.ok (.ok session effects), world) => next session effects world

def decidedThen {α : Type} (messageId : String) (decision : Except Refusal α) (world : World)
    (next : α → Handled) : Handled :=
  match decision with
  | .error (.code code) => answer code messageId world
  | .error (.thrown text) => (.error text, world)
  | .ok value => next value

section

variable (deps : CoordinatorDeps)

def snapshotResponse (session : MobileNavigationSession) : CommandResponse where
  type := "snapshot.update"
  payload := .snapshot (deps.snapshotText session)
  sessionId := some session.sessionId
  revision := some session.revision

def snapshot (ports : PortAnswers) (world : World) : Handled :=
  match world.load deps ports.nowMs with
  | (none, world) =>
    (.ok { type := "snapshot.update", payload := .snapshot "\x7b\x7d", sessionId := none,
           revision := none }, world)
  | (some current, world) => (.ok (snapshotResponse deps current), world)

def prepare (messageId : String) (startPackage : StartPackage) (ports : PortAnswers)
    (world : World) : Handled :=
  if !deps.supports startPackage.kind then answer "mode-unsupported" messageId world
  else
    match world.load deps ports.nowMs with
    | (existing, world) =>
      if blocks existing ports.nowMs then answer "session-active" messageId world
      else
        match prepareSession deps startPackage ports.newSessionId .foregroundOnly ports.nowMs with
        | .error code => answer code messageId world
        | .ok session =>
          match world.createPreparing deps session with
          | (.failed code, world) => answer (commitFailureText code) messageId world
          | (.ok _ _, world) => (.ok (sessionResponse "session.prepared" session), world)

/-- A driver that cannot be started ends the session that claims to be tracking. -/
def startDriver (messageId : String) (ports : PortAnswers) (session : MobileNavigationSession)
    (effects : List SessionEffect) (world : World) : Handled :=
  let ran := world.run deps ports effects
  if 0 < ports.failedEffects then
    let cleanup := ran.end deps session.sessionId .error ports.nowMs
    answer "driver-start-failed" messageId (cleanup.2.run deps ports cleanup.1.2)
  else (.ok (sessionResponse "session.started" session), ran)

/-- `valid` is asked once the user has decided. -/
def start (messageId : String) (sessionId : Option String) (revision : Option Nat)
    (context : NavigationStartContext) (valid : Bool) (ports : PortAnswers) (world : World) :
    Handled :=
  match world.load deps ports.nowMs with
  | (current, world) =>
    match startRefusal deps sessionId revision context ports.permission current with
    | .error code => answer code messageId world
    | .ok current =>
      match startDecision context ports.requested with
      | none =>
        -- The effects of this termination are dropped.
        answer "permission-denied" messageId
          (world.end deps current.sessionId .error ports.nowMs).2
      | some decision =>
        if !valid then answer "invalid-state" messageId world
        else
          committedThen messageId
            (world.compareAndSwap deps current.sessionId current.revision
              (fun session => .ok (startMutation decision ports.nowMs session)) ports.nowMs)
            (startDriver deps messageId ports)

def droppedCache (session : MobileNavigationSession) (world : World) : World :=
  match session.payload with
  | .ground _ => world
  | .transit _ => { world with cache := emptyCache }

def replace (command : WebCommand) (startPackage : StartPackage)
    (expectedItineraryFingerprint : Option String) (ports : PortAnswers) (world : World) :
    Handled :=
  match world.load deps ports.nowMs with
  | (current, world) =>
    decidedThen command.messageId
      (decideReplace deps command startPackage expectedItineraryFingerprint ports.nowMs current)
      world fun decided =>
        committedThen command.messageId
          ((droppedCache decided.1 world).commit deps decided.1 decided.2 ports.nowMs)
          fun session _ world => (.ok (sessionResponse "session.replaced" session), world)

def repairTransitWalk (command : WebCommand) (itineraryFingerprint : String) (legIndex : Nat)
    (route : WalkRoute) (ports : PortAnswers) (world : World) : Handled :=
  match world.load deps ports.nowMs with
  | (current, world) =>
    decidedThen command.messageId
      (decideWalkRoute deps command itineraryFingerprint legIndex route ports.nowMs current)
      world fun decided =>
        committedThen command.messageId (world.commit deps decided.1 decided.2 ports.nowMs)
          fun _ effects world => snapshot deps ports (world.run deps ports effects)

def transitAction (command : WebCommand) (action : ActionCommand) (ports : PortAnswers)
    (world : World) : Handled :=
  match world.load deps ports.nowMs with
  | (current, world) =>
    match transitOf current with
    | none => answer "no-session" command.messageId world
    | some (session, payload) =>
      match actionGate command.sessionId action session payload with
      | .refused code => answer code command.messageId world
      | .repeated => snapshot deps ports world
      | .free =>
        if !deps.supports .transit then answer "mode-unsupported" command.messageId world
        else
          decidedThen command.messageId
            (takeAction deps world.cache session payload action ports.nowMs)
            { world with cache := usedCache deps world.cache session } fun mutation =>
              committedThen command.messageId
                ({ world with cache := usedCache deps world.cache session }.commit deps session
                  mutation ports.nowMs)
                fun session effects world =>
                  (.ok (snapshotResponse deps session), world.run deps ports effects)

def updateSettings (command : WebCommand) (locale : Option SessionStore.Locale) (units : Option Units)
    (ports : PortAnswers) (world : World) : Handled :=
  match world.load deps ports.nowMs with
  | (none, world) => answer "no-session" command.messageId world
  | (some current, world) =>
    if !matchesSession command.sessionId command.revision current then
      answer "revision-conflict" command.messageId world
    else
      committedThen command.messageId
        (world.compareAndSwap deps current.sessionId current.revision
          (fun session => .ok (settingsMutation locale units ports.nowMs session)) ports.nowMs)
        fun session effects world =>
          (.ok (snapshotResponse deps session), world.run deps ports effects)

def stoppedResponse (sessionId : Option String) (ack : Option MobileTerminalAck)
    (finalStatus : SessionStatus) (revision : Nat) : CommandResponse where
  type := "session.stopped"
  payload := .stopped (sessionId.getD "") ((ack.map MobileTerminalAck.finalStatus).getD finalStatus)
    ((ack.map MobileTerminalAck.finalRevision).getD revision)
  sessionId := sessionId
  revision := none

def terminate (messageId : String) (sessionId : Option String) (finalStatus : SessionStatus)
    (ports : PortAnswers) (world : World) : CommandResponse × World :=
  match world.load deps ports.nowMs with
  | (none, world) =>
    let named := sessionId.filter (· != "")
    (stoppedResponse named (named.bind fun id => readTerminalAck id world.phone.database)
      finalStatus 0, world)
  | (some current, world) =>
    if sessionId.any (· != current.sessionId) then
      (errorResponse "revision-conflict" messageId, world)
    else
      match world.end deps current.sessionId finalStatus ports.nowMs with
      | (ended, world) =>
        (stoppedResponse (some current.sessionId) ended.1 finalStatus current.revision,
          world.run deps ports ended.2)

def answered (handled : Handled) : Except Thrown (Option CommandResponse) × World :=
  (handled.1.map some, handled.2)

def route (command : WebCommand) (ports : PortAnswers) (world : World) :
    Except Thrown (Option CommandResponse) × World :=
  match command.body with
  | .elsewhere => (.ok none, world)
  | .intake => (.ok (some (errorResponse "unsupported-capability" command.messageId)), world)
  | .prepare startPackage =>
    answered (prepare deps command.messageId startPackage ports world)
  | .start =>
    answered (start deps command.messageId command.sessionId command.revision
      ports.startContext true ports world)
  | .replace startPackage expectedItineraryFingerprint =>
    answered (replace deps command startPackage expectedItineraryFingerprint ports world)
  | .walkRoute itineraryFingerprint legIndex walk =>
    answered (repairTransitWalk deps command itineraryFingerprint legIndex walk ports world)
  | .action action => answered (transitAction deps command action ports world)
  | .settingsUpdate locale units => answered (updateSettings deps command locale units ports world)
  | .snapshotRequest => answered (snapshot deps ports world)
  | .stop =>
    let stopped := terminate deps command.messageId command.sessionId .stopped ports world
    (.ok (some stopped.1), stopped.2)
  | .complete =>
    let stopped := terminate deps command.messageId command.sessionId .arrived ports world
    (.ok (some stopped.1), stopped.2)
  | .eventAck eventIds =>
    (.ok none, { world with phone := { world.phone with
      database := ackEvents eventIds world.phone.database } })
  | .auxiliary =>
    (ports.auxiliary.map fun handled =>
      some (handled.getD (errorResponse "unsupported-capability" command.messageId)), world)

def responseOf (command : WebCommand) (routed : Except Thrown (Option CommandResponse)) :
    Option CommandResponse :=
  match routed with
  | .ok response => response
  | .error _ => some (errorResponse "internal-error" command.messageId)

def remember (command : WebCommand) (response : CommandResponse) (nowMs : ℤ) (world : World) :
    World :=
  if MUTATING command.body then
    { world with phone := { world.phone with
        database := rememberCommand command.messageId response.sessionId response nowMs
          world.phone.database } }
  else world

def cachedReply (command : WebCommand) (nowMs : ℤ) (world : World) : Option CommandResponse :=
  if MUTATING command.body then lookupCommand command.messageId nowMs world.phone.database
  else none

def handleCommand (command : WebCommand) (ports : PortAnswers) (world : World) :
    Option CommandResponse × World :=
  match cachedReply command ports.nowMs world with
  | some cached => (some cached, world.note (.sent cached (some command.messageId)))
  | none =>
    match route deps command ports world with
    | (routed, world) =>
      match responseOf command routed with
      | none => (none, world)
      | some response =>
        (some response, (remember command response ports.nowMs world).note
          (.sent response (some command.messageId)))

def stopFromSurface (expectedSessionId : String) (ports : PortAnswers) (world : World) :
    Bool × World :=
  match world.load deps ports.nowMs with
  | (none, world) => (false, world)
  | (some current, world) =>
    if current.sessionId ≠ expectedSessionId then (false, world)
    else
      match terminate deps "native-surface" (some expectedSessionId) .stopped ports world with
      | (response, world) => (true, world.note (.sent response none))

structure CarTrip where
  startPackage : GroundStartPackage
  messageId : String
  replaceSessionId : Option String
  context : NavigationStartContext
  contextAtStart : NavigationStartContext
  validAtFirst : Bool
  validAfterEnding : Bool
  validAfterPreparing : Bool
  validBeforeCommit : Bool

/-- The prepared session is started, or taken back if the start has become invalid. -/
def startPrepared (trip : CarTrip) (prepared : CommandResponse) (ports : PortAnswers)
    (world : World) : Handled :=
  if prepared.type ≠ "session.prepared" then (.ok prepared, world)
  else if !trip.validAfterPreparing then
    answer "invalid-state" ""
      (terminate deps trip.messageId prepared.sessionId .stopped ports world).2
  else
    match start deps trip.messageId prepared.sessionId prepared.revision trip.contextAtStart
        trip.validBeforeCommit ports world with
    | (.ok response, world) =>
      (.ok response, world.note (.sent response (some trip.messageId)))
    | (.error thrown, world) => (.error thrown, world)

def prepareCarTrip (trip : CarTrip) (ports : PortAnswers) (world : World) : Handled :=
  if !trip.validAfterEnding then answer "invalid-state" "" world
  else
    match prepare deps trip.messageId (.ground trip.startPackage) ports world with
    | (.ok prepared, world) => startPrepared deps trip prepared ports world
    | (.error thrown, world) => (.error thrown, world)

def startCarTrip (trip : CarTrip) (ports : PortAnswers) (world : World) : Handled :=
  if !trip.validAtFirst then answer "invalid-state" "" world
  else if !allowsNavigationStart trip.context ports.permission then
    answer "app-not-visible" "" world
  else
    match world.load deps ports.nowMs with
    | (none, world) => prepareCarTrip deps trip ports world
    | (some current, world) =>
      if isTerminal current then prepareCarTrip deps trip ports world
      else if trip.replaceSessionId ≠ some current.sessionId then
        answer "session-active" "" world
      else
        prepareCarTrip deps trip ports
          (terminate deps trip.messageId (some current.sessionId) .stopped ports world).2

structure LocationBatch where
  /-- The fixes that `sanitiseFixes` accepts at a time, after the last accepted one. -/
  sanitiseFixes : ℤ → Option JsNumber → List FixInput

inductive BatchResult where
  | done | conflict
  deriving DecidableEq

def needsScheduleTicks (session : MobileNavigationSession) : Bool := session.kind == .transit

/-- The commit of a batch. `meanwhile` is what another connection has written since the
session was read. -/
def commitBatch (session : MobileNavigationSession) (mutation : RepositoryMutation)
    (meanwhile : Database → Database) (ports : PortAnswers) (world : World) :
    BatchResult × World :=
  match { world with phone := { world.phone with
      database := meanwhile world.phone.database } }.commit deps session mutation ports.nowMs with
  | (.ok (.ok _ effects), world) => (.done, world.run deps ports effects)
  | (.ok (.failed .revisionConflict), world) => (.conflict, world)
  | (_, world) => (.done, world)

def batchOnce (batch : LocationBatch) (meanwhile : Database → Database) (ports : PortAnswers)
    (world : World) : BatchResult × World :=
  match world.load deps ports.nowMs with
  | (none, world) => (.done, world.run deps ports [.reconcileSurface])
  | (some session, world) =>
    if isMobileSessionExpired session ports.nowMs then
      match world.end deps session.sessionId .expired ports.nowMs with
      | (expired, world) => (.done, world.run deps ports expired.2)
    else if session.status ≠ .active then (.done, world.run deps ports [.reconcileSurface])
    else if !deps.supports session.kind then (.done, world)
    else
      let accepted := batch.sanitiseFixes ports.nowMs
        (session.lastAcceptedFix.map FixInput.timestampMs)
      if accepted.isEmpty && !needsScheduleTicks session then (.done, world)
      else
        let used := { world with cache := usedCache deps world.cache session }
        match fixesMutation deps world.cache session accepted ports.nowMs with
        | .error _ => (.done, used)
        | .ok mutation => commitBatch deps session mutation meanwhile ports used

/-- A batch that met a newer revision is tried once more, against that revision. -/
def processBatch (batch : LocationBatch) (meanwhile : Database → Database)
    (ports retryPorts : PortAnswers) (world : World) : World :=
  match batchOnce deps batch meanwhile ports world with
  | (.done, world) => world
  | (.conflict, world) => (batchOnce deps batch id retryPorts world).2

def commitAnswer (session : MobileNavigationSession) (mutation : Option RepositoryMutation)
    (ports : PortAnswers) (world : World) : World :=
  match mutation with
  | none => world
  | some mutation =>
    match world.commit deps session mutation ports.nowMs with
    | (.ok (.ok _ effects), world) => world.run deps ports effects
    | (_, world) => world

def commitReroute (outcome : RerouteOutcome) (jitter01 : ℚ) (ports : PortAnswers)
    (world : World) : World :=
  match world.load deps ports.nowMs with
  | (none, world) => world
  | (some session, world) =>
    commitAnswer deps session (rerouteMutation deps outcome ports.nowMs jitter01 session) ports
      world

def applyTransitRefresh (outcome : RefreshOutcome) (ports : PortAnswers) (world : World) : World :=
  match world.load deps ports.nowMs with
  | (none, world) => world
  | (some session, world) =>
    match refreshMutation deps.transit session outcome ports.nowMs with
    | .error _ => world
    | .ok mutation => commitAnswer deps session mutation ports world

inductive Occurrence where
  | command (command : WebCommand) (ports : PortAnswers)
  | surfaceStop (expectedSessionId : String) (ports : PortAnswers)
  | carTrip (trip : CarTrip) (ports : PortAnswers)
  | batch (batch : LocationBatch) (meanwhile : Database → Database)
      (ports retryPorts : PortAnswers)
  | reroute (outcome : RerouteOutcome) (jitter01 : ℚ) (ports : PortAnswers)
  | refresh (outcome : RefreshOutcome) (ports : PortAnswers)
  | restart

def step (world : World) : Occurrence → World
  | .command command ports => (handleCommand deps command ports world).2
  | .surfaceStop expectedSessionId ports => (stopFromSurface deps expectedSessionId ports world).2
  | .carTrip trip ports => (startCarTrip deps trip ports world).2
  | .batch batch meanwhile ports retryPorts =>
    processBatch deps batch meanwhile ports retryPorts world
  | .reroute outcome jitter01 ports => commitReroute deps outcome jitter01 ports world
  | .refresh outcome ports => applyTransitRefresh deps outcome ports world
  | .restart => { world with cache := emptyCache }

end

def tramEnvironment : ProcessorEnvironment where
  batch := {
    oracles := flatOracles
    dateTime := fun _ => none
    transitCueEffect := fun _ _ => none
    walkCue := fun _ _ _ => none }
  parseStartPackage := some
  refreshTransitCaptures := fun captures _ _ _ => captures
  sameWalk := fun _ _ => true
  numberText := fun _ => "8"

def tramDeps : CoordinatorDeps where
  alerts := {
    parseMobileSession := .ok
    dateTime := fun _ => none
    copy := { title := fun stop => stop, body := fun stop _ _ => stop } }
  transit := tramEnvironment
  ground := {
    validateGroundStartPackage := fun _ => .error "invalid-package"
    sameMode := fun _ _ => true
    processGroundBatch := fun _ _ _ => .error "no ground" }
  supports := fun _ => true
  snapshotText := MobileNavigationSession.sessionId

def tramPackage : TransitStartPackage where
  itinerary := tramTrip
  captures := []
  stopAreas := none
  settings := { voiceEnabled := false, keepScreenOn := false, alightAlertsEnabled := false }
  itineraryFingerprint := "fp"
  locale := .en
  units := .metric

/-- The app is open, and the user answers `requested`. -/
def portsAt (nowMs : ℤ) (newSessionId : String) (requested : Option PermissionMode) :
    PortAnswers where
  nowMs := nowMs
  newSessionId := newSessionId
  startContext := .phone true
  permission := .foreground
  requested := requested
  failedEffects := 0
  moment := { nowMs := nowMs, isAvailable := false }
  auxiliary := .ok none

def fromPage (messageId : String) (sessionId : Option String) (body : CommandBody) : WebCommand where
  messageId := messageId
  sessionId := sessionId
  revision := none
  body := body

def freshWorld : World where
  phone := SessionEnd.freshPhone
  cache := emptyCache
  log := []

def prepareTram : Occurrence :=
  .command (fromPage "m1" none (.prepare (.transit tramPackage))) (portsAt 0 "s1" none)

def startTram (requested : Option PermissionMode) : Occurrence :=
  .command (fromPage "m2" (some "s1") .start) (portsAt 1000 "" requested)

end OpenMapX.Mobile.CoordinatorHandlers
