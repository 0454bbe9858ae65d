import OpenMapX.Mobile.RefreshState
import OpenMapX.Mobile.TransitBatch

/-!
# The transit processor

`TransitNavigationProcessor`, and the refresh of an itinerary as the coordinator
applies it. A processor receives a session and returns the next one. Parsing a start
package, taking over captures and the comparison of two walks as JSON are parameters.
-/

namespace OpenMapX.Mobile.TransitProcessor

open Foundation.JsText Notifications Navigation.TransitTrip Navigation.StopTargets
  Navigation.StopCursor Navigation.TransitFix SessionStore RefreshState TransitBatch

abbrev Journeys := List (String × List CapturedStop)

structure ProcessorEnvironment where
  batch : TransitEnvironment
  /-- `transitStartPackageSchema.safeParse`. -/
  parseStartPackage : TransitStartPackage → Option TransitStartPackage
  refreshTransitCaptures : List LegCapture → List TransitLeg → Journeys → ℤ → List LegCapture
  sameWalk : TransitLeg → TransitLeg → Bool
  numberText : JsNumber → String

inductive TransitPackageError where
  | invalidPackage | noDestination | noTransitLeg | captureLegMismatch
  deriving DecidableEq

def TransitPackageError.text : TransitPackageError → String
  | .invalidPackage => "invalid-package"
  | .noDestination => "no-destination"
  | .noTransitLeg => "no-transit-leg"
  | .captureLegMismatch => "capture-leg-mismatch"

def validateTransitStartPackage (environment : ProcessorEnvironment)
    (value : TransitStartPackage) : Except TransitPackageError TransitStartPackage :=
  match environment.parseStartPackage value with
  | none => .error .invalidPackage
  | some startPackage =>
    let legs := startPackage.itinerary.legs
    if (legs.getLast?.bind TransitLeg.toStop).isNone then .error .noDestination
    else if !legs.any fun leg => leg.mode != some "walking" && leg.route then
      .error .noTransitLeg
    else if startPackage.captures.any fun capture => decide (legs.length ≤ capture.legIndex) then
      .error .captureLegMismatch
    else .ok startPackage

def freshRefresh (startPackage : TransitStartPackage) (generation : Nat) : RefreshRuntime where
  status :=
    if truthy startPackage.itinerary.refreshToken || !startPackage.captures.isEmpty then .ready
    else .broken
  generation := generation
  requestId := none
  nextAttemptAtMs := none
  attempts := 0
  firstAttemptAtMs := none
  ambiguousAttempts := none

def MOBILE_NAVIGATION_SESSION_MAX_AGE_MS : ℤ := 24 * 60 * 60 * 1000

def createTransitPreparingSession (startPackage : TransitStartPackage) (sessionId : String)
    (permissionMode : PermissionMode) (nowMs : ℤ) : MobileNavigationSession where
  sessionId := sessionId
  revision := 1
  status := .preparing
  startedAtMs := nowMs
  updatedAtMs := nowMs
  expiresAtMs := nowMs + MOBILE_NAVIGATION_SESSION_MAX_AGE_MS
  locale := startPackage.locale
  units := startPackage.units
  connectivity := .unknown
  permissionMode := permissionMode
  cueLedger := { spoken := [], events := [] }
  lastAcceptedFix := none
  payload := .transit {
    startPackage := startPackage
    navigationDataRevision := none
    tickState := freshTransitTickState nowMs startPackage.itinerary
    confidence := .gps
    refreshToken := startPackage.itinerary.refreshToken
    refresh := freshRefresh startPackage 0 }

/-- The package is adopted as a whole: the token and the requests of the old journey
go with it. -/
def applyTransitReplacement (session : MobileNavigationSession) (payload : TransitPayload)
    (startPackage : TransitStartPackage) (nowMs : ℤ) : RepositoryMutation where
  session := { session with
    revision := session.revision + 1
    updatedAtMs := nowMs
    lastAcceptedFix := none
    payload := .transit {
      startPackage := startPackage
      navigationDataRevision := none
      tickState := freshTransitTickState nowMs startPackage.itinerary
      confidence := .gps
      refreshToken := startPackage.itinerary.refreshToken
      refresh := freshRefresh startPackage (payload.refresh.generation + 1) } }
  effects := some [.cancelSessionAlerts session.sessionId, .reconcileAlerts session.sessionId,
    .publishSnapshot true]
  enqueue := none
  alerts := none

/-- `replace`, which drops the prepared itinerary as soon as the package is valid. -/
def replace (environment : ProcessorEnvironment) (session : MobileNavigationSession)
    (payload : TransitPayload) (replacement : TransitStartPackage) (nowMs : ℤ) :
    Except String RepositoryMutation :=
  if session.status ≠ .active ∧ session.status ≠ .preparing then .error "not-active"
  else
    match validateTransitStartPackage environment replacement with
    | .error code => .error code.text
    | .ok startPackage => .ok (applyTransitReplacement session payload startPackage nowMs)

def hasJourneys (payload : TransitPayload) : Bool :=
  payload.startPackage.captures.any fun capture =>
    decide (payload.tickState.currentLegIndex ≤ capture.legIndex)

def tokenlessRefresh (payload : TransitPayload) : RefreshRuntime :=
  if truthy payload.refreshToken then payload.refresh
  else
    let cleared := { payload.refresh with ambiguousAttempts := none, firstAttemptAtMs := none }
    if cleared.status = .broken ∧ hasJourneys payload then
      { cleared with status := .ready, attempts := 0 }
    else cleared

def timedOutRefresh (payload : TransitPayload) (refresh : RefreshRuntime) (nowMs : ℤ) :
    RefreshRuntime :=
  match refresh.nextAttemptAtMs with
  | some deadline =>
    if refresh.status = .inFlight ∧ deadline ≤ nowMs then
      onRefreshFailed refresh .ambiguous nowMs (truthy payload.refreshToken)
    else refresh
  | none => refresh

def requestIdFor (sessionId : String) (refresh : RefreshRuntime) : String :=
  sessionId ++ ":refresh:" ++ toString (refresh.generation + 1)

def decideRefresh (session : MobileNavigationSession) (payload : TransitPayload)
    (arrived : Bool) (nowMs : ℤ) : TransitPayload × Option String :=
  let refresh := timedOutRefresh payload (tokenlessRefresh payload) nowMs
  let held := shouldRefresh {
    runtime := refresh,
    hasToken := truthy payload.refreshToken || hasJourneys payload,
    connectivity := session.connectivity,
    status := session.status,
    nowMs := nowMs }
  if held = some .broken ∧ truthy payload.refreshToken then
    ({ payload with refreshToken := none, refresh := onRefreshSucceeded refresh nowMs }, none)
  else if !arrived ∧ held = none then
    let requestId := requestIdFor session.sessionId refresh
    ({ payload with refresh := onRefreshRequested refresh requestId nowMs }, some requestId)
  else ({ payload with refresh := refresh }, none)

def processFixes (environment : ProcessorEnvironment) (cache : TransitItineraryCache)
    (session : MobileNavigationSession) (payload : TransitPayload) (fixes : List FixInput)
    (nowMs : ℤ) : Except TypeError RepositoryMutation :=
  (processTransitBatch environment.batch cache session payload fixes nowMs none).map
    fun outcome =>
      let (next, requestId) := decideRefresh outcome.session outcome.payload outcome.arrived nowMs
      { session := { outcome.session with payload := .transit next },
        effects := some (outcome.effects ++ (requestId.map SessionEffect.requestTransitRefresh).toList),
        enqueue := if outcome.enqueue.isEmpty then none else some outcome.enqueue,
        alerts := none }

def transitAction (environment : ProcessorEnvironment) (cache : TransitItineraryCache)
    (session : MobileNavigationSession) (payload : TransitPayload)
    (action : TransitRiderAction) (nowMs : ℤ) :
    Except TypeError (Except String TransitBatchOutcome) :=
  (processTransitBatch environment.batch cache session payload [] nowMs (some action)).map
    fun outcome =>
      if outcome.actionRejected then .error "invalid-action"
      else .ok { outcome with
        effects := outcome.effects ++ [.reconcileAlerts session.sessionId] }

structure WalkRoute where
  mode : String
  geometry : List LngLat
  steps : List TransitStep

/-- `repairTransitWalk` of an itinerary: the walk along a new route to the same place. -/
def repairWalk (geometry : LineGeometry) (itinerary : TripItinerary) (index : Nat)
    (route : WalkRoute) : Except TypeError (Option TripItinerary) :=
  match itinerary.legs[index]?, route.geometry.getLast? with
  | some leg, some finish =>
    if leg.mode ≠ some "walking" ∨ route.mode ≠ "walking" ∨ route.geometry.length < 2 then .ok none
    else
      match leg.toStop with
      | none => .error .typeError
      | some target =>
        if !located target || decide (50 < geometry.haversineDistance finish target.location) then
          .ok none
        else .ok (some { itinerary with
          legs := itinerary.legs.modify index fun leg =>
            { leg with geometry := some route.geometry, steps := route.steps } })
  | _, _ => .ok none

def repairTransitWalk (environment : ProcessorEnvironment) (session : MobileNavigationSession)
    (payload : TransitPayload) (legIndex : Nat) (route : WalkRoute) (nowMs : ℤ) :
    Except TypeError (Except String RepositoryMutation) :=
  if payload.tickState.currentLegIndex ≠ legIndex ∨ payload.tickState.phase ≠ .walking then
    .ok (.error "invalid-state")
  else
    (repairWalk environment.batch.oracles.line payload.startPackage.itinerary legIndex route).map
      fun repaired =>
        match repaired with
        | none => .error "invalid-route"
        | some itinerary =>
          .ok {
            session := { session with
              revision := session.revision + 1,
              updatedAtMs := nowMs,
              payload := .transit { payload with
                navigationDataRevision := some (payload.navigationDataRevision.getD 0 + 1),
                startPackage := { payload.startPackage with itinerary := itinerary },
                tickState := { payload.tickState with
                  currentWalkStepIndex := 0,
                  walkRevision := some (payload.tickState.walkRevision.getD 0 + 1),
                  reachedStepEnd := some false,
                  distanceToNextStepMeters := route.steps.head?.map TransitStep.distanceMeters,
                  offPlan := some false } } },
            effects := some [.publishSnapshot true],
            enqueue := none,
            alerts := none }

/-- `onConnectivityRestored`. -/
def onConnectivityRestored (session : MobileNavigationSession) (payload : TransitPayload)
    (nowMs : ℤ) : Option RepositoryMutation :=
  let refresh := payload.refresh
  let held := shouldRefresh {
    runtime := refresh,
    hasToken := truthy payload.refreshToken || hasJourneys payload,
    connectivity := .online,
    status := session.status,
    nowMs := nowMs }
  if refresh.status ≠ .stale ∨ held ≠ none then none
  else
    let requestId := requestIdFor session.sessionId refresh
    some {
      session := { session with
        revision := session.revision + 1,
        updatedAtMs := nowMs,
        connectivity := .online,
        payload := .transit { payload with
          refresh := onRefreshRequested refresh requestId nowMs } },
      effects := some [.requestTransitRefresh requestId],
      enqueue := none,
      alerts := none }

inductive RefreshAnswer where
  | answered (itinerary : TripItinerary) (journeys : Journeys) (capturesOnly : Bool)
  | failed (failure : RefreshFailure)
  | unreachable

structure RefreshOutcome where
  requestId : String
  sessionId : String
  generation : Nat
  answer : RefreshAnswer

section

variable (environment : ProcessorEnvironment)

def stopText (place : Option StopPlace) : String :=
  match place with
  | some place =>
    place.stopId.getD (environment.numberText place.location.lng ++ ","
      ++ environment.numberText place.location.lat)
  | none => "undefined,undefined"

def legText (index : Nat) (leg : TransitLeg) : String :=
  "|".intercalate [toString index, leg.mode.getD "", leg.tripId.getD "",
    stopText environment leg.fromStop, stopText environment leg.toStop,
    leg.scheduledStartTime.getD "", leg.scheduledEndTime.getD ""]

def transitItineraryFingerprint (itinerary : TripItinerary) : String :=
  let canonical := "\n".intercalate
    (itinerary.legs.zipIdx.map fun entry => legText environment entry.2 entry.1)
  let hash := (codeUnits canonical).foldl
    (fun hash unit => Nat.xor hash unit * 0x01000193 % 2 ^ 32) 0x811c9dc5
  "it-" ++ toString36 hash ++ "-" ++ toString itinerary.legs.length

structure MergedRefresh where
  itinerary : TripItinerary
  resetWalk : Bool

/-- `===` of two numbers. -/
def sameNumber (left right : JsNumber) : Bool := left.le right && right.le left

def sameTarget (old fresh : StopPlace) : Bool :=
  sameNumber old.location.lng fresh.location.lng &&
    sameNumber old.location.lat fresh.location.lat && old.platformCode == fresh.platformCode

def mergeTransitRefresh (current next : TripItinerary) (activeLegIndex walkRevision : Nat) :
    Except TypeError (Option MergedRefresh) :=
  if transitItineraryFingerprint environment current ≠ transitItineraryFingerprint environment next
  then .ok none
  else
    match current.legs[activeLegIndex]?, next.legs[activeLegIndex]? with
    | some old, some fresh =>
      if old.mode ≠ some "walking" ∨ fresh.mode ≠ some "walking" then
        .ok (some { itinerary := next, resetWalk := false })
      else
        match old.toStop, fresh.toStop with
        | some oldTarget, some freshTarget =>
          if 0 < walkRevision ∧ sameTarget oldTarget freshTarget then
            .ok (some {
              itinerary := { next with
                legs := next.legs.modify activeLegIndex fun leg =>
                  { leg with geometry := old.geometry, steps := old.steps } },
              resetWalk := false })
          else
            .ok (some {
              itinerary := next,
              resetWalk := !sameTarget oldTarget freshTarget || !environment.sameWalk old fresh })
        | _, _ => .error .typeError
    | _, _ => .ok (some { itinerary := next, resetWalk := false })

def isCurrentRequest (refresh : RefreshRuntime) (outcome : RefreshOutcome) : Bool :=
  refresh.status == .inFlight && refresh.generation == outcome.generation &&
    refresh.requestId == some outcome.requestId

def failedRefresh (payload : TransitPayload) (failure : RefreshFailure) (nowMs : ℤ) :
    TransitPayload :=
  { payload with
    refresh := onRefreshFailed payload.refresh failure nowMs (truthy payload.refreshToken) }

def retireBroken (payload : TransitPayload) : TransitPayload :=
  if payload.refresh.status = .broken then { payload with refreshToken := none } else payload

/-- The payload with a refreshed itinerary, its captures and a walk that starts anew. -/
def adoptRefresh (payload : TransitPayload) (parsed : TransitStartPackage)
    (merged : MergedRefresh) (journeys : Journeys) (capturesOnly : Bool) (nowMs : ℤ) :
    TransitPayload :=
  let startPackage := { parsed with itinerary := merged.itinerary }
  let captured := { startPackage with
    captures := environment.refreshTransitCaptures payload.startPackage.captures
      payload.startPackage.itinerary.legs journeys nowMs }
  let tickState := payload.tickState
  { payload with
    startPackage := (environment.parseStartPackage captured).getD startPackage,
    navigationDataRevision := some (payload.navigationDataRevision.getD 0 + 1),
    refreshToken := if capturesOnly then payload.refreshToken else merged.itinerary.refreshToken,
    refresh := onRefreshSucceeded payload.refresh nowMs,
    tickState := if merged.resetWalk then
      { tickState with
        currentWalkStepIndex := 0,
        reachedStepEnd := some false,
        distanceToNextStepMeters := none,
        walkRevision := some (tickState.walkRevision.getD 0 + 1) }
      else tickState }

def refreshedPayload (payload : TransitPayload) (answer : RefreshAnswer) (nowMs : ℤ) :
    Except TypeError TransitPayload :=
  match answer with
  | .failed failure => .ok (retireBroken (failedRefresh payload failure nowMs))
  | .unreachable => .ok (retireBroken (failedRefresh payload .retryable nowMs))
  | .answered itinerary journeys capturesOnly =>
    match environment.parseStartPackage
        { payload.startPackage with itinerary := itinerary } with
    | none => .ok (retireBroken (failedRefresh payload .rejected nowMs))
    | some parsed =>
      match mergeTransitRefresh environment payload.startPackage.itinerary parsed.itinerary
          payload.tickState.currentLegIndex (payload.tickState.walkRevision.getD 0) with
      | .error thrown => .error thrown
      | .ok none => .ok (retireBroken (failedRefresh payload .rejected nowMs))
      | .ok (some merged) =>
        .ok (adoptRefresh environment payload parsed merged journeys capturesOnly nowMs)

/-- What `applyTransitRefresh` commits for an answer, if it belongs to the session. -/
def refreshMutation (session : MobileNavigationSession) (outcome : RefreshOutcome)
    (nowMs : ℤ) : Except TypeError (Option RepositoryMutation) :=
  match session.payload with
  | .ground _ => .ok none
  | .transit payload =>
    if session.status ≠ .active ∨ session.sessionId ≠ outcome.sessionId then .ok none
    else if !isCurrentRequest payload.refresh outcome then .ok none
    else
      (refreshedPayload environment payload outcome.answer nowMs).map fun next =>
        some {
          session := { session with
            revision := session.revision + 1,
            updatedAtMs := nowMs,
            payload := .transit next },
          effects := some [.reconcileAlerts session.sessionId, .publishSnapshot true],
          enqueue := none,
          alerts := none }

end

end OpenMapX.Mobile.TransitProcessor
