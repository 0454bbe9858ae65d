import OpenMapX.Mobile.SessionStore
import OpenMapX.Navigation.TransitFix

/-!
# A batch of fixes of a transit session

`processTransitBatch`: the ticks of a batch, or the one tick of a wake-up or an
action, become one next session with its effects. The texts that are spoken and the
reading of dates are parameters.
-/

namespace OpenMapX.Mobile.TransitBatch

open Foundation.BoundedLedger Navigation.TransitTrip Navigation.StopCursor Navigation.TransitFix
  SessionStore

/-- A cue with its `speak` effect. -/
structure SpokenCue where
  cueId : String
  effect : SessionEffect

structure TransitEnvironment where
  oracles : TransitOracles
  /-- `new Date(text).getTime()`, with no value where that is not a number. -/
  dateTime : String → Option ℤ
  transitCueEffect : MobileNavigationSession → TransitNavigationEvent → Option SpokenCue
  walkCue : MobileNavigationSession → TransitTickState → TransitStep → Option SpokenCue

structure TransitItineraryCache where
  key : Option String
  prepared : List (Option PreparedTransitLeg)
  captures : List LegCapture

def emptyCache : TransitItineraryCache where
  key := none
  prepared := []
  captures := []

def cacheKey (session : MobileNavigationSession) (payload : TransitPayload) : String :=
  session.sessionId ++ ":" ++ payload.startPackage.itineraryFingerprint ++ ":"
    ++ toString (payload.navigationDataRevision.getD 0)

def preparedFor (geometry : LineGeometry) (cache : TransitItineraryCache)
    (session : MobileNavigationSession) (payload : TransitPayload) : TransitItineraryCache :=
  if cache.key = some (cacheKey session payload) then cache
  else
    { key := some (cacheKey session payload),
      prepared := prepareTransitProgress geometry payload.startPackage.itinerary,
      captures := payload.startPackage.captures }

def NEAR_EVENT_SECONDS : ℤ := 300

def transitProfileFor (payload : TransitPayload) : String :=
  match payload.tickState.phase with
  | .walking => "walking"
  | .transferring => "walking"
  | .waitingToBoard => "transit-near-event"
  | .arrived => "walking"
  | .riding =>
    match payload.startPackage.captures.find?
        fun entry => entry.legIndex == payload.tickState.currentLegIndex with
    | some capture =>
      if capture.captured && !capture.stops.isEmpty &&
          decide (capture.stops.length ≤ payload.tickState.stopCursor.getD 1 + 2) then
        "transit-near-event"
      else "transit-cruise"
    | none => "transit-cruise"

def transitProfileForTime (dateTime : String → Option ℤ) (payload : TransitPayload)
    (nowMs : ℤ) : String :=
  let byPhase := transitProfileFor payload
  let leg := payload.startPackage.itinerary.legs[payload.tickState.currentLegIndex]?
  let endsAtMs := ((leg.bind TransitLeg.endTime).filter (· != "")).bind dateTime
  if byPhase ≠ "transit-cruise" then byPhase
  else
    match endsAtMs with
    | some endsAtMs =>
      if endsAtMs - nowMs ≤ NEAR_EVENT_SECONDS * 1000 then "transit-near-event" else byPhase
    | none => byPhase

structure BatchTicks where
  tickState : TransitTickState
  confidence : TransitConfidence
  actionRejected : Bool
  events : List TransitNavigationEvent

def runTicks (oracles : TransitOracles)
    (inputFor : TransitTickState → Option FixInput → TransitTickInput) :
    List (Option FixInput) → BatchTicks → Except TypeError BatchTicks
  | [], ticks => .ok ticks
  | fix :: rest, ticks =>
    match processTransitFix oracles (inputFor ticks.tickState fix) with
    | .error thrown => .error thrown
    | .ok result =>
      runTicks oracles inputFor rest {
        tickState := result.state,
        confidence := result.confidence,
        actionRejected := ticks.actionRejected || result.actionRejected,
        events := ticks.events ++ result.events }

def ticksOf (fixes : List FixInput) : List (Option FixInput) :=
  if fixes.isEmpty then [none] else fixes.map some

def eventType : TransitEventBody → String
  | .board _ => "board"
  | .alight _ => "alight"
  | .arrival _ => "arrival"
  | .platformChange _ _ => "platform-change"
  | .approachingAlight _ _ => "approaching-alight"
  | .transfer _ _ => "transfer"

def CRITICAL_EVENTS : List String :=
  ["board", "platform-change", "approaching-alight", "alight", "transfer", "missed-connection",
    "arrival"]

def legIndexOf : TransitEventBody → Option Nat
  | .board legIndex => some legIndex
  | .alight legIndex => some legIndex
  | .arrival legIndex => some legIndex
  | .platformChange legIndex _ => some legIndex
  | .approachingAlight legIndex _ => some legIndex
  | .transfer _ _ => none

/-- `JSON.stringify` of the fields of an event that travel. -/
def eventPayload (body : TransitEventBody) : String :=
  let type := "\x7b\"type\":\"" ++ eventType body ++ "\""
  match legIndexOf body with
  | some legIndex => type ++ ",\"legIndex\":" ++ toString legIndex ++ "\x7d"
  | none => type ++ "\x7d"

def isArrival (event : TransitNavigationEvent) : Bool :=
  match event.body with
  | .arrival _ => true
  | _ => false

/-- `MOBILE_SESSION_LEDGER_LIMIT`. -/
def LEDGER_LIMIT : Nat := 512

def appendBounded (existing additions : List String) : List String :=
  lastOf LEDGER_LIMIT (additions.foldl
    (fun next id => if next.contains id then next else next ++ [id]) existing)

structure TransitBatchOutcome where
  session : MobileNavigationSession
  payload : TransitPayload
  effects : List SessionEffect
  enqueue : List EnqueuedEvent
  arrived : Bool
  actionRejected : Bool

section

variable (environment : TransitEnvironment)

def tickInputFor (cache : TransitItineraryCache) (payload : TransitPayload)
    (action : Option TransitRiderAction) (nowMs : ℤ) (state : TransitTickState)
    (fix : Option FixInput) : TransitTickInput where
  itinerary := payload.startPackage.itinerary
  captures := cache.captures
  state := state
  fix := fix
  action := action
  nowMs := nowMs
  options := {
    itineraryFingerprint := payload.startPackage.itineraryFingerprint,
    accuracyCapMeters := 100 }
  prepared := some cache.prepared
  stopAreas := payload.startPackage.stopAreas

/-- The tick state with the session's last fix, which the payload does not hold. -/
def liveTickState (session : MobileNavigationSession) (payload : TransitPayload) :
    TransitTickState :=
  { payload.tickState with
    lastAcceptedFix := session.lastAcceptedFix.or payload.tickState.lastAcceptedFix }

def batchTicks (cache : TransitItineraryCache) (session : MobileNavigationSession)
    (payload : TransitPayload) (fixes : List FixInput) (nowMs : ℤ)
    (action : Option TransitRiderAction) : Except TypeError BatchTicks :=
  runTicks environment.oracles (tickInputFor cache payload action nowMs) (ticksOf fixes) {
    tickState := liveTickState session payload,
    confidence := payload.confidence,
    actionRejected := false,
    events := [] }

def walkCueOf (session : MobileNavigationSession) (payload : TransitPayload)
    (tickState : TransitTickState) : Option SpokenCue :=
  if tickState.phase = .walking ∧ tickState.progressConfidence = some .gps then
    let leg := payload.startPackage.itinerary.legs[tickState.currentLegIndex]?
    let step := leg.bind fun leg => leg.steps[tickState.currentWalkStepIndex + 1]?
    step.bind (environment.walkCue session tickState)
  else none

/-- Whether the batch arrives decides the status, else whether the tick has left the
arrival. -/
def nextStatus (arrived : Bool) (phase : TransitPhase) (status : SessionStatus) : SessionStatus :=
  if arrived then .arrived
  else if phase ≠ .arrived ∧ status = .arrived then .active
  else status

def batchOutcome (session : MobileNavigationSession) (payload : TransitPayload) (nowMs : ℤ)
    (ticks : BatchTicks) : TransitBatchOutcome :=
  let tickState := ticks.tickState
  let arrived := ticks.events.any isArrival
  let fresh := ticks.events.filter fun event => !session.cueLedger.events.contains event.id
  let unspoken := fun cue : SpokenCue => !session.cueLedger.spoken.contains cue.cueId
  let cues := ((fresh.filterMap (environment.transitCueEffect session))
    ++ (walkCueOf environment session payload tickState).toList).filter unspoken
  let enqueue := fresh.map fun event => {
    eventId := event.id,
    critical := CRITICAL_EVENTS.contains (eventType event.body),
    payload := eventPayload event.body : EnqueuedEvent }
  let next := { payload with
    tickState := { tickState with lastAcceptedFix := none },
    confidence := ticks.confidence }
  let profile := transitProfileForTime environment.dateTime next nowMs
  { session := { session with
      revision := session.revision + 1,
      updatedAtMs := nowMs,
      status := nextStatus arrived tickState.phase session.status,
      cueLedger := {
        spoken := appendBounded session.cueLedger.spoken (cues.map SpokenCue.cueId),
        events := appendBounded session.cueLedger.events
          (fresh.map TransitNavigationEvent.id) },
      lastAcceptedFix := tickState.lastAcceptedFix.or session.lastAcceptedFix,
      payload := .transit next },
    payload := next,
    effects :=
      (if payload.startPackage.settings.voiceEnabled then cues.map SpokenCue.effect else [])
      ++ (if profile = transitProfileForTime environment.dateTime payload nowMs then []
          else [.updateLocationProfile profile])
      ++ [.reconcileAlerts session.sessionId, .publishSnapshot (arrived || !enqueue.isEmpty)],
    enqueue := enqueue,
    arrived := arrived,
    actionRejected := ticks.actionRejected }

def processTransitBatch (cache : TransitItineraryCache) (session : MobileNavigationSession)
    (payload : TransitPayload) (fixes : List FixInput) (nowMs : ℤ)
    (action : Option TransitRiderAction) : Except TypeError TransitBatchOutcome :=
  (batchTicks environment (preparedFor environment.oracles.line cache session payload) session
    payload fixes nowMs action).map (batchOutcome environment session payload nowMs)

end

end OpenMapX.Mobile.TransitBatch
