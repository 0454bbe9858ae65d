import OpenMapX.Mobile.Channel
import OpenMapX.Mobile.Coordinator

/-!
# The native bridge

The one way in from the web document. A message passes the checks on origin, channel,
shape, direction, repetition, handshake, version and capability in this order, and a
handshake is answered only after the shell has described itself, when the document may
have changed. Messages of the shell wait in a queue until there is a handshake.
-/

namespace OpenMapX.Mobile.NativeBridge

open Foundation.JsonValue
open Foundation.JsText (codeUnits)
open Mobile.SessionStore (SessionKind)
open Mobile.Coordinator (PermissionState)
open Channel

def MOBILE_PROTOCOL_MIN : Nat := 3
def MOBILE_PROTOCOL_MAX : Nat := 5

def MAX_QUEUED_OUTBOUND : Nat := 256

structure ProtocolRange where
  min : Nat
  max : Nat

def negotiateMobileProtocol (web native : ProtocolRange) : Option Nat :=
  let lowest := Nat.max web.min native.min
  let highest := Nat.min web.max native.max
  if lowest ≤ highest then some highest else none

/-- The types of commands other than `web.hello`. -/
inductive CommandType where
  | intakeList | intakeRead | intakeComplete | destinationsUpdate | sessionPrepare
  | sessionStart | sessionReplace | transitAction | transitWalkRoute | settingsUpdate
  | snapshotRequest | sessionStop | sessionComplete | eventAck | locationRequest
  | settingsOpen | authOpen | voiceProbe | voiceStart | voiceStop | voiceCancel
  deriving DecidableEq

def CommandType.isIntake : CommandType → Bool
  | .intakeList | .intakeRead | .intakeComplete => true
  | _ => false

inductive NativeToWebType where
  | nativeHello | intakeItems | intakeChunk | intakeCompleted | intakeChanged
  | permissionState | sessionPrepared | sessionStarted | sessionReplaced | sessionStopped
  | snapshotUpdate | navigationEvent | nativeError | locationResult | settingsResult
  | deepLinkOpen | authResult | voiceAvailability | voiceEvent
  deriving DecidableEq

def NativeToWebType.isIntake : NativeToWebType → Bool
  | .intakeItems | .intakeChunk | .intakeCompleted | .intakeChanged => true
  | _ => false

structure WebHello where
  webBuildId : String
  minProtocolVersion : Nat
  maxProtocolVersion : Nat

inductive WebToNativeBody where
  | hello (payload : WebHello)
  | command (type : CommandType) (payload : Json)

structure WebToNativeMessage where
  protocolVersion : Nat
  messageId : String
  sessionId : Option String
  revision : Option Nat
  body : WebToNativeBody

inductive MobileBridgeMessage where
  | webToNative (message : WebToNativeMessage)
  | nativeToWeb (type : NativeToWebType) (payload : Json)

inductive ParseErrorCode where
  | payloadTooLarge | invalidJson | prototypePollution | invalidMessage | wrongChannel
  | timestampOutOfRange | tooManyCoordinates | tooManySteps | tooManyLegs
  deriving DecidableEq

structure ParseOptions where
  expectedNonce : String
  nowMs : Int

inductive BridgeRejectionCode where
  | parse (code : ParseErrorCode)
  | wrongOrigin | noChannel | notACommand | duplicateMessage | handshakeRequired
  | protocolMismatch | unsupportedCapability
  deriving DecidableEq

inductive ReceiveOutcome where
  | handled
  | rejected (code : BridgeRejectionCode)
  | failed
  deriving DecidableEq

inductive SendOutcome where
  | sent | queued | dropped | invalid
  deriving DecidableEq

structure Url where
  protocol : String
  username : String
  password : String
  origin : String
  hostname : String

inductive NavigationDecision where
  | allowInWebview | openSystem | reject
  deriving DecidableEq

def MAX_NAVIGATION_URL_LENGTH : Nat := 8 * 1024

def SYSTEM_SCHEMES : List String := ["https:", "http:", "mailto:", "tel:"]

def NAVIGABLE_SCHEMES : List String := ["https:", "http:"]

/-- `parseUrl` is the runtime's URL parser. -/
def classifyNavigation (parseUrl : String → Option Url) (webOrigin rawUrl : String) :
    NavigationDecision :=
  if rawUrl == "" || MAX_NAVIGATION_URL_LENGTH < (codeUnits rawUrl).length then .reject
  else
    match parseUrl rawUrl, parseUrl webOrigin with
    | some candidate, some product =>
      let elsewhere : NavigationDecision :=
        if SYSTEM_SCHEMES.contains candidate.protocol then .openSystem else .reject
      if candidate.username != "" || candidate.password != "" then .reject
      else if !NAVIGABLE_SCHEMES.contains candidate.protocol then elsewhere
      else if candidate.origin == product.origin then .allowInWebview
      else if candidate.hostname == product.hostname then .reject
      else elsewhere
    | _, _ => .reject

inductive Platform where
  | ios | android

inductive LocationDriver where
  | expo | native

structure ShellCapabilities where
  groundNavigation : Bool
  transitNavigation : Bool
  transitActions : Option Bool
  backgroundLocation : Bool
  localNotifications : Bool
  speech : Bool
  nativeIntake : Option Bool
  carDestinations : Option Bool

structure ShellSession where
  sessionId : String
  revision : Nat
  kind : SessionKind

structure ShellDescription where
  shellVersion : String
  shellBuild : String
  platform : Platform
  capabilities : ShellCapabilities
  permission : PermissionState
  locationDriver : LocationDriver
  activeSession : Option ShellSession

def optionalFlag (name : String) : Option Bool → List (String × Json)
  | none => []
  | some value => [(name, .bool value)]

def ShellCapabilities.toJson (capabilities : ShellCapabilities) : Json :=
  .object ([("groundNavigation", .bool capabilities.groundNavigation),
    ("transitNavigation", .bool capabilities.transitNavigation)] ++
    optionalFlag "transitActions" capabilities.transitActions ++
    [("backgroundLocation", .bool capabilities.backgroundLocation),
    ("localNotifications", .bool capabilities.localNotifications),
    ("speech", .bool capabilities.speech)] ++
    optionalFlag "nativeIntake" capabilities.nativeIntake ++
    optionalFlag "carDestinations" capabilities.carDestinations)

def platformText : Platform → String
  | .ios => "ios"
  | .android => "android"

def permissionText : PermissionState → String
  | .notDetermined => "not-determined"
  | .foreground => "foreground"
  | .background => "background"
  | .denied => "denied"
  | .limited => "limited"

def locationDriverText : LocationDriver → String
  | .expo => "expo"
  | .native => "native"

def sessionKindText : SessionKind → String
  | .ground => "ground"
  | .transit => "transit"

def activeSessionJson : Option ShellSession → Json
  | none => .null
  | some session => .object [("sessionId", .string session.sessionId),
      ("revision", .number session.revision), ("kind", .string (sessionKindText session.kind))]

/-- The payload of `native.hello`. -/
def helloPayload (shell : ShellDescription) (selected : Option Nat) : Json :=
  let legacyCapabilities :=
    { shell.capabilities with nativeIntake := none, carDestinations := none }
  let atLeastFour : Bool := match selected with
    | some version => 4 ≤ version
    | none => false
  .object [("shellVersion", .string shell.shellVersion), ("shellBuild", .string shell.shellBuild),
    ("platform", .string (platformText shell.platform)),
    ("capabilities", if atLeastFour then shell.capabilities.toJson else legacyCapabilities.toJson),
    ("permission", .string (permissionText shell.permission)),
    ("locationDriver", .string (locationDriverText shell.locationDriver)),
    ("activeSession", activeSessionJson shell.activeSession),
    ("selectedProtocolVersion", match selected with
      | some version => .number version
      | none => .null),
    ("minProtocolVersion", .number MOBILE_PROTOCOL_MIN),
    ("maxProtocolVersion", .number MOBILE_PROTOCOL_MAX)]

structure OutboundDraft where
  type : NativeToWebType
  payload : Json
  sessionId : Option String
  revision : Option Nat

structure OutboundMessage where
  protocolVersion : Nat
  type : NativeToWebType
  messageId : String
  channelNonce : String
  sessionId : Option String
  revision : Option Nat
  sentAtMs : Int
  payload : Json

/-- A handshake that waits for the shell's description, with the channel it came on and
the version that was negotiated. -/
structure Greeting where
  command : WebToNativeMessage
  payload : WebHello
  channelNonce : String
  selected : Option Nat

/-- `issued` counts the identifiers that were given out, `injections` the scripts that
were handed to the page. -/
structure BridgeState where
  registry : ChannelRegistry
  queue : List OutboundDraft
  issued : Nat
  injections : List OutboundMessage
  greetings : List Greeting
  dispatching : List WebToNativeMessage

/-- What the bridge is given. Identifiers and the success of an injection go by how many
there were before. -/
structure NativeBridgeDeps where
  webOrigin : String
  parseUrl : String → Option Url
  parseMobileBridgeMessage : String → ParseOptions → Except ParseErrorCode MobileBridgeMessage
  nextMessageId : Nat → String
  nativeToWebSchema : OutboundMessage → Option OutboundMessage
  injectThrows : Nat → Bool

/-- An object spread with one more member: a member of that name keeps its place. -/
def withMember (name : String) (value : Json) (members : List (String × Json)) :
    List (String × Json) :=
  if members.any (fun member => member.1 == name) then
    members.map fun member => if member.1 == name then (name, value) else member
  else members ++ [(name, value)]

def correlatedPayload (payload : Json) (forMessageId : Option String) : Json :=
  match payload, forMessageId with
  | .object members, some id =>
    if id == "" then payload else .object (withMember "forMessageId" (.string id) members)
  | _, _ => payload

def enqueue (state : BridgeState) (message : OutboundDraft) : BridgeState × SendOutcome :=
  let superseded := if message.type = .snapshotUpdate then
      state.queue.filter fun entry => entry.type ≠ .snapshotUpdate
    else state.queue
  if MAX_QUEUED_OUTBOUND ≤ superseded.length then
    match superseded.findIdx? fun entry => entry.type = .snapshotUpdate with
    | none => ({ state with queue := superseded }, .dropped)
    | some droppable =>
      ({ state with queue := superseded.eraseIdx droppable ++ [message] }, .queued)
  else ({ state with queue := superseded ++ [message] }, .queued)

structure EmitOptions where
  immediate : Bool
  protocolVersion : Option Nat

/-- The outcome is `none` where the injection throws. -/
def emit (deps : NativeBridgeDeps) (state : BridgeState) (nowMs : Int) (draft : OutboundDraft)
    (options : EmitOptions) (forMessageId : Option String) : BridgeState × Option SendOutcome :=
  match state.registry with
  | none => (state, some .dropped)
  | some channel =>
    let handshake := state.registry.handshake
    let protocolVersion := (options.protocolVersion.or
      (handshake.map (·.protocolVersion))).getD MOBILE_PROTOCOL_MAX
    if handshake.isSome && protocolVersion < 4 && draft.type.isIntake then
      (state, some .dropped)
    else
      let candidate : OutboundMessage :=
        { protocolVersion := protocolVersion
          type := draft.type
          messageId := deps.nextMessageId state.issued
          channelNonce := channel.nonce
          sessionId := draft.sessionId
          revision := draft.revision
          sentAtMs := nowMs
          payload := correlatedPayload draft.payload forMessageId }
      let state := { state with issued := state.issued + 1 }
      match deps.nativeToWebSchema candidate with
      | none => (state, some .invalid)
      | some validated =>
        if draft.type = .voiceEvent ∧ handshake = none then (state, some .dropped)
        else if options.immediate = false ∧ handshake = none then
          let held := enqueue state
            { type := validated.type, payload := validated.payload
              sessionId := draft.sessionId, revision := draft.revision }
          (held.1, some held.2)
        else if deps.injectThrows state.injections.length then (state, none)
        else ({ state with injections := state.injections ++ [validated] }, some .sent)

def send (deps : NativeBridgeDeps) (state : BridgeState) (nowMs : Int) (draft : OutboundDraft)
    (forMessageId : Option String) : BridgeState × Option SendOutcome :=
  emit deps state nowMs draft { immediate := false, protocolVersion := none } forMessageId

/-- The loop of `flush`: a throwing injection ends it. -/
def flushPending (deps : NativeBridgeDeps) (nowMs : Int) (protocolVersion : Nat) :
    List OutboundDraft → BridgeState → BridgeState × Bool
  | [], state => (state, true)
  | draft :: pending, state =>
    let emitted := emit deps state nowMs draft
      { immediate := false, protocolVersion := some protocolVersion } none
    match emitted.2 with
    | none => (emitted.1, false)
    | some _ => flushPending deps nowMs protocolVersion pending emitted.1

/-- Delivers everything held while the page was not ready. The flag says that no
injection threw. -/
def flush (deps : NativeBridgeDeps) (state : BridgeState) (nowMs : Int) : BridgeState × Bool :=
  match state.registry.handshake with
  | none => (state, true)
  | some handshake =>
    flushPending deps nowMs handshake.protocolVersion state.queue { state with queue := [] }

def errorDraft (code : String) : OutboundDraft :=
  { type := .nativeError, payload := .object [("code", .string code)]
    sessionId := none, revision := none }

/-- `immediate` is set for a handshake, which has no negotiated version. -/
def containDependencyFailure (deps : NativeBridgeDeps) (state : BridgeState) (nowMs : Int)
    (command : WebToNativeMessage) (immediate : Bool) : BridgeState :=
  (emit deps state nowMs (errorDraft "internal-error")
    { immediate := immediate
      protocolVersion := if immediate then some command.protocolVersion else none }
    (some command.messageId)).1

/-- The reporting URL is a necessary check: a subframe can report its document's. -/
def fromProductDocument (deps : NativeBridgeDeps) (url : Option String) : Bool :=
  match url with
  | some url => classifyNavigation deps.parseUrl deps.webOrigin url == .allowInWebview
  | none => false

/-- `receive` up to the point where it waits. The outcome is `none` where the command was
dispatched, the handshake asked the shell to describe itself, or sending the error
threw. -/
def receive (deps : NativeBridgeDeps) (state : BridgeState) (url data : Option String)
    (nowMs : Int) : BridgeState × Option ReceiveOutcome :=
  if fromProductDocument deps url = false then (state, some (.rejected .wrongOrigin))
  else
    match state.registry with
    | none => (state, some (.rejected .noChannel))
    | some channel =>
      match deps.parseMobileBridgeMessage (data.getD "")
          { expectedNonce := channel.nonce, nowMs := nowMs } with
      | .error code => (state, some (.rejected (.parse code)))
      | .ok (.nativeToWeb _ _) => (state, some (.rejected .notACommand))
      | .ok (.webToNative command) =>
        let remembered := state.registry.rememberMessage channel.nonce command.messageId
        if remembered.2 = false then (state, some (.rejected .duplicateMessage))
        else
          let state := { state with registry := remembered.1 }
          match command.body with
          | .hello payload =>
            let selected := negotiateMobileProtocol
              { min := payload.minProtocolVersion, max := payload.maxProtocolVersion }
              { min := MOBILE_PROTOCOL_MIN, max := MOBILE_PROTOCOL_MAX }
            let greeting : Greeting :=
              { command := command, payload := payload, channelNonce := channel.nonce
                selected := selected }
            ({ state with greetings := state.greetings ++ [greeting] }, none)
          | .command type _ =>
            match state.registry.handshake with
            | none => (state, some (.rejected .handshakeRequired))
            | some handshake =>
              if command.protocolVersion ≠ handshake.protocolVersion then
                (state, some (.rejected .protocolMismatch))
              else if type.isIntake ∧ handshake.protocolVersion < 4 then
                let sent := send deps state nowMs (errorDraft "unsupported-capability")
                  (some command.messageId)
                (sent.1, sent.2.map fun _ => .rejected .unsupportedCapability)
              else ({ state with dispatching := state.dispatching ++ [command] }, none)

def answerHello (deps : NativeBridgeDeps) (state : BridgeState) (greeting : Greeting)
    (described : Option ShellDescription) (nowMs : Int) : BridgeState × ReceiveOutcome :=
  match described with
  | none => (containDependencyFailure deps state nowMs greeting.command true, .failed)
  | some shell =>
    if state.registry.isCurrent greeting.channelNonce = false then
      (state, .rejected (.parse .wrongChannel))
    else
      let state := match greeting.selected with
        | none => state
        | some selected =>
          let handshake : ChannelHandshake :=
            { webBuildId := greeting.payload.webBuildId, protocolVersion := selected }
          { state with
            registry := state.registry.completeHandshake greeting.channelNonce handshake }
      let replied := emit deps state nowMs
        { type := .nativeHello, payload := helloPayload shell greeting.selected
          sessionId := none, revision := none }
        { immediate := true
          protocolVersion := some (greeting.selected.getD MOBILE_PROTOCOL_MAX) }
        (some greeting.command.messageId)
      match replied.2 with
      | none => (containDependencyFailure deps replied.1 nowMs greeting.command true, .failed)
      | some _ =>
        if greeting.selected = none then (replied.1, .handled)
        else
          let flushed := flush deps replied.1 nowMs
          if flushed.2 then (flushed.1, .handled)
          else (containDependencyFailure deps flushed.1 nowMs greeting.command true, .failed)

def settleDispatch (deps : NativeBridgeDeps) (state : BridgeState) (command : WebToNativeMessage)
    (succeeded : Bool) (nowMs : Int) : BridgeState × ReceiveOutcome :=
  if succeeded then (state, .handled)
  else (containDependencyFailure deps state nowMs command false, .failed)

inductive BridgeEvent where
  | adoptDocument (nonce : String) (nowMs : Int)
  | invalidate
  | receive (url data : Option String) (nowMs : Int)
  | shellDescribed (index : Nat) (described : Option ShellDescription) (nowMs : Int)
  | dispatchEnded (index : Nat) (succeeded : Bool) (nowMs : Int)
  | send (draft : OutboundDraft) (forMessageId : Option String) (nowMs : Int)
  | flush (nowMs : Int)
  | discardQueue

/-- One step, and the outcome that a call of `receive` comes to in it. -/
def stepOutcome (deps : NativeBridgeDeps) (state : BridgeState) :
    BridgeEvent → BridgeState × Option ReceiveOutcome
  | .adoptDocument nonce nowMs =>
    ({ state with registry := ChannelRegistry.adoptDocument nonce nowMs }, none)
  | .invalidate => ({ state with registry := ChannelRegistry.invalidate }, none)
  | .receive url data nowMs => receive deps state url data nowMs
  | .shellDescribed index described nowMs =>
    match state.greetings[index]? with
    | none => (state, none)
    | some greeting =>
      let answered := answerHello deps { state with greetings := state.greetings.eraseIdx index }
        greeting described nowMs
      (answered.1, some answered.2)
  | .dispatchEnded index succeeded nowMs =>
    match state.dispatching[index]? with
    | none => (state, none)
    | some command =>
      let settled := settleDispatch deps
        { state with dispatching := state.dispatching.eraseIdx index } command succeeded nowMs
      (settled.1, some settled.2)
  | .send draft forMessageId nowMs => ((send deps state nowMs draft forMessageId).1, none)
  | .flush nowMs => ((flush deps state nowMs).1, none)
  | .discardQueue => ({ state with queue := [] }, none)

def step (deps : NativeBridgeDeps) (state : BridgeState) (event : BridgeEvent) : BridgeState :=
  (stepOutcome deps state event).1

def initial : BridgeState :=
  { registry := none, queue := [], issued := 0, injections := [], greetings := []
    dispatching := [] }

end OpenMapX.Mobile.NativeBridge
