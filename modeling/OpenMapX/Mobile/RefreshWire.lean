import OpenMapX.Mobile.TransitProcessor

/-!
# The wire of a live refresh

What leaves the phone for a refresh and what comes back. A batch of fixes or a regained
connection may ask for a request, which the port sends with the token that the session
holds; answers come back later, in any order, or never. The log records each request
that is sent and how the session settles it.
-/

namespace OpenMapX.Mobile.RefreshWire

open Navigation.TransitTrip SessionStore RefreshState TransitBatch TransitProcessor

/-- A request carries the token of the session, if it has one, or polls journeys only. -/
structure RefreshRequest where
  requestId : String
  generation : Nat
  token : Option String
  sentAtMs : ℤ
  deriving DecidableEq

inductive RefreshReply where
  | itinerary (itinerary : TripItinerary) (journeys : Journeys)
  | failure (failure : RefreshFailure)
  | unreachable

/-- The service marks an answer to a request without a token as one of captures only. -/
def answerOf (request : RefreshRequest) : RefreshReply → RefreshAnswer
  | .itinerary itinerary journeys => .answered itinerary journeys request.token.isNone
  | .failure failure => .failed failure
  | .unreachable => .unreachable

inductive Settlement where
  | rejected | consumed | ambiguous | spared
  deriving DecidableEq

def settlementOf : RefreshReply → Settlement
  | .itinerary _ _ => .consumed
  | .failure .rejected => .rejected
  | .failure .ambiguous => .ambiguous
  | .failure .offline => .spared
  | .failure .retryable => .spared
  | .unreachable => .spared

inductive Entry where
  | sent (request : RefreshRequest)
  | settled (request : RefreshRequest) (settlement : Settlement)
  deriving DecidableEq

def settle : List RefreshRequest → Entry → List RefreshRequest
  | waiting, .sent request => waiting ++ [request]
  | waiting, .settled request _ => waiting.erase request

def outstanding (log : List Entry) : List RefreshRequest := log.foldl settle []

theorem outstanding_snoc (log : List Entry) (entry : Entry) :
    outstanding (log ++ [entry]) = settle (outstanding log) entry := by
  simp [outstanding]

def isAmbiguous (token : String) : Entry → Bool
  | .settled request .ambiguous => request.token == some token
  | _ => false

def ambiguousCount (token : String) (log : List Entry) : Nat := log.countP (isAmbiguous token)

def tokenOf (payload : TransitPayload) : Option String := payload.refreshToken.filter (· != "")

structure Wire where
  session : MobileNavigationSession
  cache : TransitItineraryCache
  clockMs : ℤ
  log : List Entry

/-- `transitRefresh` of the port, for a session that has just been committed. -/
def requestFor (session : MobileNavigationSession) (nowMs : ℤ) (requestId : String) :
    Option RefreshRequest :=
  match session.payload with
  | .ground _ => none
  | .transit payload =>
    if session.status = .active ∧ payload.refresh.requestId = some requestId then
      some {
        requestId := requestId,
        generation := payload.refresh.generation,
        token := tokenOf payload,
        sentAtMs := nowMs }
    else none

def requestedId : SessionEffect → Option String
  | .requestTransitRefresh requestId => some requestId
  | _ => none

def sentBy (session : MobileNavigationSession) (effects : Option (List SessionEffect))
    (nowMs : ℤ) : List Entry :=
  (((effects.getD []).filterMap requestedId).filterMap (requestFor session nowMs)).map .sent

def timesOut (refresh : RefreshRuntime) (nowMs : ℤ) : Bool :=
  match refresh.nextAttemptAtMs with
  | some deadline => refresh.status == .inFlight && decide (deadline ≤ nowMs)
  | none => false

def timedOutBy (refresh : RefreshRuntime) (nowMs : ℤ) (log : List Entry) : List Entry :=
  if timesOut refresh nowMs then (outstanding log).map fun request => .settled request .ambiguous
  else []

inductive WireEvent where
  | fixes (fixes : List FixInput) (nowMs : ℤ)
  | connectivityRestored (nowMs : ℤ)
  | answer (request : RefreshRequest) (reply : RefreshReply) (nowMs : ℤ)

def WireEvent.nowMs : WireEvent → ℤ
  | .fixes _ nowMs => nowMs
  | .connectivityRestored nowMs => nowMs
  | .answer _ _ nowMs => nowMs

section

variable (environment : ProcessorEnvironment)

def fixesStep (wire : Wire) (payload : TransitPayload) (fixes : List FixInput) (nowMs : ℤ) : Wire :=
  let used := preparedFor environment.batch.oracles.line wire.cache wire.session payload
  match processFixes environment wire.cache wire.session payload fixes nowMs with
  | .error _ => { wire with cache := used, clockMs := nowMs }
  | .ok mutation => {
      session := mutation.session,
      cache := used,
      clockMs := nowMs,
      log := wire.log ++ timedOutBy payload.refresh nowMs wire.log
        ++ sentBy mutation.session mutation.effects nowMs }

def restoredStep (wire : Wire) (payload : TransitPayload) (nowMs : ℤ) : Wire :=
  match onConnectivityRestored wire.session payload nowMs with
  | none => { wire with clockMs := nowMs }
  | some mutation => { wire with
      session := mutation.session,
      clockMs := nowMs,
      log := wire.log ++ sentBy mutation.session mutation.effects nowMs }

/-- Only a request that was sent is answered; an answer that the session does not take
leaves everything as it is. -/
def answerStep (wire : Wire) (request : RefreshRequest) (reply : RefreshReply) (nowMs : ℤ) : Wire :=
  if .sent request ∈ wire.log then
    match refreshMutation environment wire.session {
        requestId := request.requestId,
        sessionId := wire.session.sessionId,
        generation := request.generation,
        answer := answerOf request reply } nowMs with
    | .ok (some mutation) => { wire with
        session := mutation.session,
        clockMs := nowMs,
        log := wire.log ++ [.settled request (settlementOf reply)] }
    | _ => { wire with clockMs := nowMs }
  else { wire with clockMs := nowMs }

def wireStep (wire : Wire) (event : WireEvent) : Wire :=
  match wire.session.payload, event with
  | .ground _, event => { wire with clockMs := event.nowMs }
  | .transit payload, .fixes fixes nowMs =>
    if wire.session.status ≠ .active then { wire with clockMs := nowMs }
    else fixesStep environment wire payload fixes nowMs
  | .transit payload, .connectivityRestored nowMs => restoredStep wire payload nowMs
  | .transit _, .answer request reply nowMs => answerStep environment wire request reply nowMs

end

end OpenMapX.Mobile.RefreshWire
