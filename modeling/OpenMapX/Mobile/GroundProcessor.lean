import Mathlib.Data.Rat.Floor
import OpenMapX.Foundation.JsonValue
import OpenMapX.Mobile.SessionStore

/-!
# The ground processor

What `GroundNavigationProcessor` returns to the coordinator, and the record of a
reroute. A ground package stays JSON: only the checks of a package and the engine
behind a batch of fixes read it, and both are parameters.
-/

namespace OpenMapX.Mobile.GroundProcessor

open Navigation.TransitTrip SessionStore

abbrev GroundStartPackage := Foundation.JsonValue.Json

def REROUTE_RETRY_DELAYS_MS : List ℤ := [3000, 6000, 12000, 24000, 30000]

def RETRY_JITTER_MS : ℚ := 1000

def MAX_REROUTE_FAILURES : Nat := REROUTE_RETRY_DELAYS_MS.length

def retryDelayMs (attempts : Nat) (jitter01 : ℚ) : ℤ :=
  let index := min (max attempts 1) REROUTE_RETRY_DELAYS_MS.length - 1
  let clamped := min (max jitter01 0) 1
  (REROUTE_RETRY_DELAYS_MS[index]?).getD 0 + ⌊clamped * RETRY_JITTER_MS + 1 / 2⌋

def onRerouteFailed (runtime : RerouteRuntime) (code : String) (nowMs : ℤ) (jitter01 : ℚ) :
    RerouteRuntime :=
  let attempts := runtime.attempts + 1
  { status := if MAX_REROUTE_FAILURES ≤ attempts then .failed else .pending,
    requestId := none,
    attempts := attempts,
    nextAttemptAtMs := some (nowMs + retryDelayMs attempts jitter01),
    lastFailureCode := some (String.ofList (code.toList.take 64)) }

def idleReroute (attempts : Nat) : RerouteRuntime where
  status := .idle
  requestId := none
  attempts := attempts
  nextAttemptAtMs := none
  lastFailureCode := none

def onRerouteSucceeded : RerouteRuntime := idleReroute 0

def pendingReroute (requestId : String) (attempts : Nat) : RerouteRuntime where
  status := .pending
  requestId := some requestId
  attempts := attempts
  nextAttemptAtMs := none
  lastFailureCode := none

structure GroundBatchOutcome where
  arrived : Bool
  needsReroute : Bool
  cueLedger : CueLedger
  lastAcceptedFix : Option FixInput
  effects : List SessionEffect
  enqueue : Option (List EnqueuedEvent)
  alerts : Option (List ScheduledAlertInput)

structure GroundEngine where
  /-- `validateGroundStartPackage`, with the locale and units of a valid package. -/
  validateGroundStartPackage : GroundStartPackage → Except String (SessionStore.Locale × Units)
  sameMode : MobileNavigationSession → GroundStartPackage → Bool
  processGroundBatch : MobileNavigationSession → List FixInput → ℤ →
    Except Thrown GroundBatchOutcome

def GROUND_SESSION_MAX_AGE_MS : ℤ := 24 * 60 * 60 * 1000

def createGroundPreparingSession (sessionId : String) (locale : SessionStore.Locale) (units : Units)
    (permissionMode : PermissionMode) (nowMs : ℤ) : MobileNavigationSession where
  sessionId := sessionId
  revision := 1
  status := .preparing
  startedAtMs := nowMs
  updatedAtMs := nowMs
  expiresAtMs := nowMs + GROUND_SESSION_MAX_AGE_MS
  locale := locale
  units := units
  connectivity := .unknown
  permissionMode := permissionMode
  cueLedger := { spoken := [], events := [] }
  lastAcceptedFix := none
  payload := .ground { reroute := idleReroute 0 }

section

variable (ground : GroundEngine)

def validateGroundReplacement (session : MobileNavigationSession)
    (replacement : GroundStartPackage) : Except String Unit :=
  if session.status ≠ .active ∧ session.status ≠ .preparing then .error "not-active"
  else
    match ground.validateGroundStartPackage replacement with
    | .error code => .error code
    | .ok _ => if ground.sameMode session replacement then .ok () else .error "mode-changed"

def applyGroundReplacement (session : MobileNavigationSession) (payload : GroundPayload)
    (nowMs : ℤ) : RepositoryMutation where
  session := { session with
    revision := session.revision + 1
    updatedAtMs := nowMs
    lastAcceptedFix := none
    payload := .ground { reroute := idleReroute payload.reroute.attempts } }
  effects := some [.publishSnapshot true]
  enqueue := none
  alerts := none

def replaceGround (session : MobileNavigationSession) (payload : GroundPayload)
    (replacement : GroundStartPackage) (nowMs : ℤ) : Except String RepositoryMutation :=
  (validateGroundReplacement ground session replacement).map
    fun _ => applyGroundReplacement session payload nowMs

def rerouteIdFor (sessionId : String) (revision : Nat) : String :=
  sessionId ++ ":reroute:" ++ toString revision

def groundBatchSession (session : MobileNavigationSession) (outcome : GroundBatchOutcome)
    (payload : GroundPayload) (nowMs : ℤ) : MobileNavigationSession :=
  { session with
    revision := session.revision + 1,
    updatedAtMs := nowMs,
    status := if outcome.arrived then .arrived else session.status,
    cueLedger := outcome.cueLedger,
    lastAcceptedFix := outcome.lastAcceptedFix.or session.lastAcceptedFix,
    payload := .ground payload }

def groundBatchMutation (session : MobileNavigationSession) (payload : GroundPayload)
    (nowMs : ℤ) (outcome : GroundBatchOutcome) : RepositoryMutation :=
  if !outcome.needsReroute || outcome.arrived then
    { session := groundBatchSession session outcome payload nowMs,
      effects := some outcome.effects,
      enqueue := outcome.enqueue,
      alerts := outcome.alerts }
  else
    let requestId := rerouteIdFor session.sessionId (session.revision + 1)
    { session := groundBatchSession session outcome
        { reroute := pendingReroute requestId payload.reroute.attempts } nowMs,
      effects := some (outcome.effects ++ [.requestReroute requestId]),
      enqueue := outcome.enqueue,
      alerts := outcome.alerts }

def processGroundFixes (session : MobileNavigationSession) (payload : GroundPayload)
    (fixes : List FixInput) (nowMs : ℤ) : Except Thrown RepositoryMutation :=
  (ground.processGroundBatch session fixes nowMs).map
    (groundBatchMutation session payload nowMs)

end

end OpenMapX.Mobile.GroundProcessor
