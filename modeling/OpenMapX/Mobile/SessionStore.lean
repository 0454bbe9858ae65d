import Mathlib.Data.List.Sort
import OpenMapX.Navigation.TransitTrip

/-!
# The session store

The tables of `SessionRepository` and the transactions that write them. A
transaction that throws rolls back, so it has no state to return. The session is
stored as its JSON; `parseMobileSession` is what reading that text back gives,
and stays a parameter of every operation that reads the row.
-/

namespace OpenMapX.Mobile.SessionStore

open Navigation.TransitTrip

inductive SessionStatus where
  | preparing | active | arrived | stopped | expired | error
  deriving DecidableEq

def TERMINAL_STATUSES : List SessionStatus := [.arrived, .stopped, .expired, .error]

inductive SessionKind where
  | ground | transit
  deriving DecidableEq

inductive Connectivity where
  | online | offline | unknown
  deriving DecidableEq

inductive PermissionMode where
  | background | foregroundOnly
  deriving DecidableEq

inductive Locale where
  | en | de
  deriving DecidableEq

inductive Units where
  | metric | imperial
  deriving DecidableEq

structure TransitSettings where
  voiceEnabled : Bool
  keepScreenOn : Bool
  alightAlertsEnabled : Bool

structure TransitStartPackage where
  itinerary : TripItinerary
  captures : List LegCapture
  stopAreas : Option TransitStopAreaIndex
  settings : TransitSettings
  itineraryFingerprint : String
  locale : Locale
  units : Units

inductive RefreshStatus where
  | ready | inFlight | stale | broken
  deriving DecidableEq

structure RefreshRuntime where
  status : RefreshStatus
  generation : Nat
  requestId : Option String
  nextAttemptAtMs : Option ℤ
  attempts : Nat
  firstAttemptAtMs : Option ℤ
  ambiguousAttempts : Option Nat
  deriving DecidableEq

structure TransitPayload where
  startPackage : TransitStartPackage
  navigationDataRevision : Option Nat
  tickState : TransitTickState
  confidence : TransitConfidence
  refreshToken : Option String
  refresh : RefreshRuntime

inductive RerouteStatus where
  | idle | pending | inFlight | unavailable | failed
  deriving DecidableEq

structure RerouteRuntime where
  status : RerouteStatus
  requestId : Option String
  attempts : Nat
  nextAttemptAtMs : Option ℤ
  lastFailureCode : Option String
  deriving DecidableEq

/-- Of a ground payload, the part that an answer to a reroute is checked against. -/
structure GroundPayload where
  reroute : RerouteRuntime

inductive SessionPayload where
  | ground (payload : GroundPayload)
  | transit (payload : TransitPayload)

structure CueLedger where
  spoken : List String
  events : List String

structure MobileNavigationSession where
  sessionId : String
  revision : Nat
  status : SessionStatus
  startedAtMs : ℤ
  updatedAtMs : ℤ
  expiresAtMs : ℤ
  locale : Locale
  units : Units
  connectivity : Connectivity
  permissionMode : PermissionMode
  cueLedger : CueLedger
  lastAcceptedFix : Option FixInput
  payload : SessionPayload

def MobileNavigationSession.kind (session : MobileNavigationSession) : SessionKind :=
  match session.payload with
  | .ground _ => .ground
  | .transit _ => .transit

inductive SessionParseCode where
  | invalidSession | unsupportedSchema
  deriving DecidableEq

def SessionParseCode.text : SessionParseCode → String
  | .invalidSession => "invalid-session"
  | .unsupportedSchema => "unsupported-schema"

/-- `parseMobileSession(JSON.stringify(session))`. -/
abbrev ParseMobileSession :=
  MobileNavigationSession → Except SessionParseCode MobileNavigationSession

inductive SessionEffect where
  | reconcileSurface
  | startLocation (permissionMode : PermissionMode)
  | stopLocation
  | updateLocationProfile (profile : String)
  | speak (cueId text : String) (locale : Locale)
  | stopAudio
  | reconcileAlerts (sessionId : String)
  | cancelSessionAlerts (sessionId : String)
  | publishSnapshot (immediate : Bool)
  | publishEvent (eventId : String)
  | requestReroute (requestId : String)
  | requestTransitRefresh (requestId : String)
  deriving DecidableEq

structure EnqueuedEvent where
  eventId : String
  critical : Bool
  payload : String

structure ScheduledAlertInput where
  alertId : String
  legIndex : Nat
  triggerAtMs : ℤ
  deriving DecidableEq

structure RepositoryMutation where
  session : MobileNavigationSession
  effects : Option (List SessionEffect)
  enqueue : Option (List EnqueuedEvent)
  alerts : Option (List ScheduledAlertInput)

inductive CommitFailure where
  | revisionConflict | noActiveSession | sessionActive | corruptSession
  deriving DecidableEq

inductive CommitResult where
  | ok (session : MobileNavigationSession) (effects : List SessionEffect)
  | failed (code : CommitFailure)

/-- A transaction either commits, with its result, or throws and leaves no trace. -/
abbrev Thrown := String

inductive ResponsePayload where
  | error (code : String) (forMessageId : Option String)
  | session (sessionId : String) (revision : Nat)
  | stopped (sessionId : String) (finalStatus : SessionStatus) (revision : Nat)
  | snapshot (snapshot : String)
  deriving DecidableEq

structure CommandResponse where
  type : String
  payload : ResponsePayload
  sessionId : Option String
  revision : Option Nat
  deriving DecidableEq

structure ActiveRow where
  session_id : String
  revision : Nat
  session_json : MobileNavigationSession

structure MobileTerminalAck where
  sessionId : String
  kind : SessionKind
  finalStatus : SessionStatus
  finalRevision : Nat
  completedAtMs : ℤ
  deriving DecidableEq

structure EventRow where
  event_id : String
  session_id : String
  critical : Bool
  sequence : Nat
  created_at_ms : ℤ
  payload_json : String

structure CommandRow where
  message_id : String
  session_id : Option String
  response_json : CommandResponse
  created_at_ms : ℤ
  expires_at_ms : ℤ

inductive AlertState where
  | scheduled | fired | cancelled
  deriving DecidableEq

structure AlertRow where
  alert_id : String
  session_id : String
  leg_index : Nat
  trigger_at_ms : ℤ
  state : AlertState
  updated_at_ms : ℤ
  deriving DecidableEq

structure QuarantineRow where
  id : Nat
  quarantined_at_ms : ℤ
  reason : String
  session_id : Option String

structure Database where
  active_navigation : Option ActiveRow
  terminal_ack : List MobileTerminalAck
  navigation_events : List EventRow
  processed_commands : List CommandRow
  scheduled_alerts : List AlertRow
  quarantined_sessions : List QuarantineRow
  /-- The next `AUTOINCREMENT` id of `quarantined_sessions`. -/
  nextQuarantineId : Nat

def emptyDatabase : Database where
  active_navigation := none
  terminal_ack := []
  navigation_events := []
  processed_commands := []
  scheduled_alerts := []
  quarantined_sessions := []
  nextQuarantineId := 1

def MAX_OUTBOX_EVENTS : Nat := 256
def MAX_PROCESSED_COMMANDS : Nat := 1024
def PROCESSED_COMMAND_TTL_MS : ℤ := 24 * 60 * 60 * 1000
def MAX_QUARANTINE_RECORDS : Nat := 3
def MAX_QUARANTINE_REASON_LENGTH : Nat := 64

def DELETE_ACTIVE (db : Database) : Database := { db with active_navigation := none }

def DELETE_SESSION_EVENTS (sessionId : String) (db : Database) : Database :=
  { db with navigation_events := db.navigation_events.filter (·.session_id != sessionId) }

def DELETE_SESSION_ALERTS (sessionId : String) (db : Database) : Database :=
  { db with scheduled_alerts := db.scheduled_alerts.filter (·.session_id != sessionId) }

def DELETE_SESSION_COMMANDS (sessionId : String) (db : Database) : Database :=
  { db with processed_commands := db.processed_commands.filter (·.session_id != some sessionId) }

def UPSERT_TERMINAL_ACK (ack : MobileTerminalAck) (db : Database) : Database :=
  { db with terminal_ack :=
      if db.terminal_ack.any (·.sessionId == ack.sessionId) then
        -- `kind` is left out of the update list.
        db.terminal_ack.map fun row =>
          if row.sessionId == ack.sessionId then
            { row with finalStatus := ack.finalStatus, finalRevision := ack.finalRevision,
                       completedAtMs := ack.completedAtMs }
          else row
      else db.terminal_ack ++ [ack] }

def INSERT_SCHEDULED_ALERT (alertId sessionId : String) (legIndex : Nat) (triggerAtMs : ℤ)
    (nowMs : ℤ) (db : Database) : Database :=
  { db with scheduled_alerts :=
      if db.scheduled_alerts.any (·.alert_id == alertId) then
        db.scheduled_alerts.map fun row =>
          if row.alert_id == alertId then
            { row with leg_index := legIndex, trigger_at_ms := triggerAtMs,
                       state := .scheduled, updated_at_ms := nowMs }
          else row
      else
        db.scheduled_alerts ++ [
          { alert_id := alertId, session_id := sessionId, leg_index := legIndex,
            trigger_at_ms := triggerAtMs, state := .scheduled, updated_at_ms := nowMs }] }

def INSERT_EVENT (row : EventRow) (db : Database) : Database :=
  if db.navigation_events.any (·.event_id == row.event_id) then db
  else { db with navigation_events := db.navigation_events ++ [row] }

def COUNT_EVENTS (sessionId : String) (db : Database) : Nat :=
  (db.navigation_events.filter (·.session_id == sessionId)).length

def NEXT_EVENT_SEQUENCE (sessionId : String) (db : Database) : Nat :=
  ((db.navigation_events.filter (·.session_id == sessionId)).map (·.sequence)).foldl max 0 + 1

def DELETE_NON_CRITICAL_EVENTS (sessionId : String) (db : Database) : Database :=
  { db with navigation_events :=
      db.navigation_events.filter fun row => !(row.session_id == sessionId && !row.critical) }

def SELECT_EVENTS (sessionId : String) (db : Database) : List EventRow :=
  (db.navigation_events.filter (·.session_id == sessionId)).insertionSort
    fun left right => left.sequence ≤ right.sequence

def DELETE_EVENT (eventId : String) (db : Database) : Database :=
  { db with navigation_events := db.navigation_events.filter (·.event_id != eventId) }

def SELECT_PROCESSED_COMMAND (messageId : String) (db : Database) : Option CommandRow :=
  db.processed_commands.find? (·.message_id == messageId)

def INSERT_PROCESSED_COMMAND (row : CommandRow) (db : Database) : Database :=
  if db.processed_commands.any (·.message_id == row.message_id) then db
  else { db with processed_commands := db.processed_commands ++ [row] }

def DELETE_EXPIRED_COMMANDS (nowMs : ℤ) (db : Database) : Database :=
  { db with processed_commands := db.processed_commands.filter fun row =>
      decide (nowMs < row.expires_at_ms) }

/-- `ORDER BY created_at_ms DESC, message_id DESC`. -/
def processedLater (left right : CommandRow) : Prop :=
  right.created_at_ms < left.created_at_ms
    ∨ left.created_at_ms = right.created_at_ms ∧ right.message_id ≤ left.message_id

instance : DecidableRel processedLater := fun left right =>
  inferInstanceAs (Decidable (right.created_at_ms < left.created_at_ms
    ∨ left.created_at_ms = right.created_at_ms ∧ right.message_id ≤ left.message_id))

def TRIM_PROCESSED_COMMANDS (limit : Nat) (db : Database) : Database :=
  let beyond := ((db.processed_commands.insertionSort processedLater).drop limit).map
    (·.message_id)
  { db with processed_commands := db.processed_commands.filter fun row =>
      !beyond.contains row.message_id }

def SELECT_TERMINAL_ACK (sessionId : String) (db : Database) : Option MobileTerminalAck :=
  db.terminal_ack.find? (·.sessionId == sessionId)

def UPDATE_ALERT_STATE (state : AlertState) (nowMs : ℤ) (alertId : String) (db : Database) :
    Database :=
  { db with scheduled_alerts := db.scheduled_alerts.map fun row =>
      if row.alert_id == alertId then { row with state := state, updated_at_ms := nowMs }
      else row }

/-- `ORDER BY trigger_at_ms ASC, alert_id ASC`. -/
def alertBefore (left right : AlertRow) : Prop :=
  left.trigger_at_ms < right.trigger_at_ms
    ∨ left.trigger_at_ms = right.trigger_at_ms ∧ left.alert_id ≤ right.alert_id

instance : DecidableRel alertBefore := fun left right =>
  inferInstanceAs (Decidable (left.trigger_at_ms < right.trigger_at_ms
    ∨ left.trigger_at_ms = right.trigger_at_ms ∧ left.alert_id ≤ right.alert_id))

def SELECT_SCHEDULED_ALERTS (sessionId : String) (db : Database) : List AlertRow :=
  (db.scheduled_alerts.filter (·.session_id == sessionId)).insertionSort alertBefore

/-- `ORDER BY quarantined_at_ms DESC, id DESC`. -/
def quarantinedLater (left right : QuarantineRow) : Prop :=
  right.quarantined_at_ms < left.quarantined_at_ms
    ∨ left.quarantined_at_ms = right.quarantined_at_ms ∧ right.id ≤ left.id

instance : DecidableRel quarantinedLater := fun left right =>
  inferInstanceAs (Decidable (right.quarantined_at_ms < left.quarantined_at_ms
    ∨ left.quarantined_at_ms = right.quarantined_at_ms ∧ right.id ≤ left.id))

def TRIM_QUARANTINE (limit : Nat) (db : Database) : Database :=
  let kept := ((db.quarantined_sessions.insertionSort quarantinedLater).take limit).map (·.id)
  { db with quarantined_sessions := db.quarantined_sessions.filter (kept.contains ·.id) }

def INSERT_QUARANTINE (nowMs : ℤ) (reason : String) (sessionId : Option String)
    (db : Database) : Database :=
  { db with
    quarantined_sessions := db.quarantined_sessions ++ [
      { id := db.nextQuarantineId, quarantined_at_ms := nowMs, reason := reason,
        session_id := sessionId }],
    nextQuarantineId := db.nextQuarantineId + 1 }

def writeActive (session : MobileNavigationSession) (db : Database) : Database :=
  { db with active_navigation := some {
      session_id := session.sessionId, revision := session.revision, session_json := session } }

def deleteSessionRows (sessionId : String) (db : Database) : Database :=
  DELETE_SESSION_COMMANDS sessionId <| DELETE_SESSION_ALERTS sessionId <|
    DELETE_SESSION_EVENTS sessionId <| DELETE_ACTIVE db

def enqueueEventIn (sessionId : String) (nowMs : ℤ) (event : EnqueuedEvent) (db : Database) :
    Database :=
  let insert := fun db : Database =>
    INSERT_EVENT
      { event_id := event.eventId, session_id := sessionId, critical := event.critical,
        sequence := NEXT_EVENT_SEQUENCE sessionId db, created_at_ms := nowMs,
        payload_json := event.payload } db
  if COUNT_EVENTS sessionId db ≥ MAX_OUTBOX_EVENTS then
    let after := DELETE_NON_CRITICAL_EVENTS sessionId db
    if COUNT_EVENTS sessionId after ≥ MAX_OUTBOX_EVENTS then after else insert after
  else insert db

def replaceAlertsIn (sessionId : String) (alerts : List ScheduledAlertInput) (nowMs : ℤ)
    (db : Database) : Database :=
  alerts.foldl
    (fun db alert =>
      INSERT_SCHEDULED_ALERT alert.alertId sessionId alert.legIndex alert.triggerAtMs nowMs db)
    (DELETE_SESSION_ALERTS sessionId db)

def replaceScheduledAlerts (sessionId : String) (alerts : List ScheduledAlertInput) (nowMs : ℤ)
    (db : Database) : Database :=
  replaceAlertsIn sessionId alerts nowMs db

def listScheduledAlerts (sessionId : String) (db : Database) : List AlertRow :=
  SELECT_SCHEDULED_ALERTS sessionId db

def markAlert (alertId : String) (state : AlertState) (nowMs : ℤ) (db : Database) : Database :=
  UPDATE_ALERT_STATE state nowMs alertId db

def quarantineCorruptSession (sessionId : Option String) (reason : String) (nowMs : ℤ)
    (db : Database) : Database :=
  let recorded := DELETE_ACTIVE <| INSERT_QUARANTINE nowMs
    (String.ofList (reason.toList.take MAX_QUARANTINE_REASON_LENGTH)) sessionId db
  let cleared := match sessionId with
    | some sessionId =>
      if sessionId == "" then recorded
      else DELETE_SESSION_COMMANDS sessionId <| DELETE_SESSION_ALERTS sessionId <|
        DELETE_SESSION_EVENTS sessionId recorded
    | none => recorded
  TRIM_QUARANTINE MAX_QUARANTINE_RECORDS cleared

def enqueueEvent (sessionId : String) (createdAtMs : ℤ) (event : EnqueuedEvent)
    (db : Database) : Database :=
  enqueueEventIn sessionId createdAtMs event db

def listPendingEvents (sessionId : String) (db : Database) : List EventRow :=
  SELECT_EVENTS sessionId db

def ackEvents (eventIds : List String) (db : Database) : Database :=
  eventIds.foldl (fun db id => DELETE_EVENT id db) db

def rememberCommand (messageId : String) (sessionId : Option String)
    (response : CommandResponse) (nowMs : ℤ) (db : Database) : Database :=
  TRIM_PROCESSED_COMMANDS MAX_PROCESSED_COMMANDS <| DELETE_EXPIRED_COMMANDS nowMs <|
    INSERT_PROCESSED_COMMAND
      { message_id := messageId, session_id := sessionId, response_json := response,
        created_at_ms := nowMs, expires_at_ms := nowMs + PROCESSED_COMMAND_TTL_MS } db

def lookupCommand (messageId : String) (nowMs : ℤ) (db : Database) : Option CommandResponse :=
  match SELECT_PROCESSED_COMMAND messageId db with
  | none => none
  | some row => if row.expires_at_ms ≤ nowMs then none else some row.response_json

def readTerminalAck (sessionId : String) (db : Database) : Option MobileTerminalAck :=
  SELECT_TERMINAL_ACK sessionId db

inductive ActiveSessionInspection where
  | none
  | quarantined
  | active (session : MobileNavigationSession)

section

variable (parseMobileSession : ParseMobileSession)

def inspectActive (nowMs : ℤ) (db : Database) : ActiveSessionInspection × Database :=
  match db.active_navigation with
  | none => (.none, db)
  | some row =>
    match parseMobileSession row.session_json with
    | .ok session => (.active session, db)
    | .error code => (.quarantined, quarantineCorruptSession (some row.session_id) code.text nowMs db)

def loadActive (nowMs : ℤ) (db : Database) : Option MobileNavigationSession × Database :=
  match inspectActive parseMobileSession nowMs db with
  | (.active session, db) => (some session, db)
  | (_, db) => (none, db)

def createPreparing (session : MobileNavigationSession) (db : Database) : CommitResult × Database :=
  match db.active_navigation with
  | none => (.ok session [], writeActive session db)
  | some existing =>
    let displace := (CommitResult.ok session [],
      writeActive session (deleteSessionRows existing.session_id db))
    match parseMobileSession existing.session_json with
    | .ok parsed =>
      if TERMINAL_STATUSES.contains parsed.status then displace
      else (.failed .sessionActive, db)
    | .error _ => displace

def compareAndSwap (sessionId : String) (expectedRevision : Nat)
    (mutate : MobileNavigationSession → Except Thrown RepositoryMutation) (nowMs : ℤ)
    (db : Database) : Except Thrown (CommitResult × Database) :=
  match db.active_navigation with
  | none => .ok (.failed .noActiveSession, db)
  | some row =>
    match parseMobileSession row.session_json with
    | .error _ => .ok (.failed .corruptSession, db)
    | .ok current =>
      if current.sessionId ≠ sessionId ∨ current.revision ≠ expectedRevision then
        .ok (.failed .revisionConflict, db)
      else
        match mutate current with
        | .error thrown => .error thrown
        | .ok mutation =>
          if mutation.session.sessionId ≠ sessionId then
            .error "a mutation must not change the session identity"
          else if mutation.session.revision ≠ expectedRevision + 1 then
            .error "a committed mutation must advance the revision by exactly one"
          else
            let written := writeActive mutation.session db
            let queued := (mutation.enqueue.getD []).foldl
              (fun db event => enqueueEventIn sessionId nowMs event db) written
            let stored := match mutation.alerts with
              | some alerts => replaceAlertsIn sessionId alerts nowMs queued
              | none => queued
            .ok (.ok mutation.session (mutation.effects.getD []), stored)

def terminate (sessionId : String) (finalStatus : SessionStatus) (nowMs : ℤ) (db : Database) :
    (Option MobileTerminalAck × List SessionEffect) × Database :=
  match db.active_navigation with
  | none => ((none, []), db)
  | some row =>
    if row.session_id ≠ sessionId then ((none, []), db)
    else
      let next : MobileTerminalAck :=
        { sessionId := sessionId
          -- An unreadable record is acknowledged as a ground one.
          kind := match parseMobileSession row.session_json with
            | .ok session => session.kind
            | .error _ => .ground
          finalStatus := finalStatus
          finalRevision := row.revision
          completedAtMs := nowMs }
      ((some next,
        [.stopLocation, .stopAudio, .cancelSessionAlerts sessionId, .reconcileSurface,
          .publishSnapshot true]),
        deleteSessionRows sessionId (UPSERT_TERMINAL_ACK next db))

end

theorem only_events_of_insert (event : EventRow) (db : Database) :
    ∃ events, INSERT_EVENT event db = { db with navigation_events := events } := by
  unfold INSERT_EVENT
  by_cases known : db.navigation_events.any (·.event_id == event.event_id)
  · exact ⟨db.navigation_events, by simp only [known, if_true]⟩
  · exact ⟨db.navigation_events ++ [event], by simp only [known, Bool.false_eq_true, if_false]⟩

theorem only_events_of_enqueue (sessionId : String) (nowMs : ℤ) (event : EnqueuedEvent)
    (db : Database) :
    ∃ events, enqueueEventIn sessionId nowMs event db = { db with navigation_events := events } := by
  unfold enqueueEventIn
  by_cases full : COUNT_EVENTS sessionId db ≥ MAX_OUTBOX_EVENTS
  · by_cases still : COUNT_EVENTS sessionId (DELETE_NON_CRITICAL_EVENTS sessionId db) ≥
        MAX_OUTBOX_EVENTS
    · simp only [full, still, if_true]
      exact ⟨_, rfl⟩
    · simp only [full, still, if_true, if_false]
      rcases only_events_of_insert _ (DELETE_NON_CRITICAL_EVENTS sessionId db) with
        ⟨events, inserted⟩
      exact ⟨events, by rw [inserted]; rfl⟩
  · simp only [full, if_false]
    exact only_events_of_insert _ db

theorem only_events_of_enqueues (sessionId : String) (nowMs : ℤ) (added : List EnqueuedEvent)
    (db : Database) :
    ∃ events, added.foldl (fun db event => enqueueEventIn sessionId nowMs event db) db =
      { db with navigation_events := events } := by
  induction added generalizing db with
  | nil => exact ⟨db.navigation_events, rfl⟩
  | cons event added ih =>
    rcases only_events_of_enqueue sessionId nowMs event db with ⟨events, first⟩
    rcases ih (enqueueEventIn sessionId nowMs event db) with ⟨later, rest⟩
    exact ⟨later, by rw [List.foldl_cons, rest, first]⟩

theorem only_events_of_ack (eventIds : List String) (db : Database) :
    ∃ events, ackEvents eventIds db = { db with navigation_events := events } := by
  unfold ackEvents
  induction eventIds generalizing db with
  | nil => exact ⟨db.navigation_events, rfl⟩
  | cons id eventIds ih =>
    rcases ih (DELETE_EVENT id db) with ⟨later, rest⟩
    exact ⟨later, by rw [List.foldl_cons, rest]; rfl⟩

theorem only_alerts_of_replace (sessionId : String) (alerts) (nowMs : ℤ) (db : Database) :
    ∃ rows, replaceAlertsIn sessionId alerts nowMs db = { db with scheduled_alerts := rows } := by
  have inserted : ∀ start : Database, ∃ rows, alerts.foldl
      (fun db alert =>
        INSERT_SCHEDULED_ALERT alert.alertId sessionId alert.legIndex alert.triggerAtMs nowMs db)
      start = { start with scheduled_alerts := rows } := by
    induction alerts with
    | nil => exact fun start => ⟨start.scheduled_alerts, rfl⟩
    | cons alert alerts ih =>
      intro start
      rcases ih (INSERT_SCHEDULED_ALERT alert.alertId sessionId alert.legIndex
        alert.triggerAtMs nowMs start) with ⟨rows, rest⟩
      exact ⟨rows, by rw [List.foldl_cons, rest]; rfl⟩
  rcases inserted (DELETE_SESSION_ALERTS sessionId db) with ⟨rows, replaced⟩
  exact ⟨rows, by rw [replaceAlertsIn, replaced]; rfl⟩

theorem only_commands_of_remember (messageId : String) (sessionId : Option String)
    (response : CommandResponse) (nowMs : ℤ) (db : Database) :
    ∃ commands, rememberCommand messageId sessionId response nowMs db =
      { db with processed_commands := commands } := by
  simp only [rememberCommand, TRIM_PROCESSED_COMMANDS, DELETE_EXPIRED_COMMANDS,
    INSERT_PROCESSED_COMMAND]
  split_ifs <;> exact ⟨_, rfl⟩

end OpenMapX.Mobile.SessionStore
