import OpenMapX.Mobile.Notifications
import OpenMapX.Mobile.SessionStore

/-!
# The alighting alert

`computeAlightAlert` decides which notification a session should hold, and the
alert port keeps the scheduled_alerts rows and the operating system in step with it.
`dateTime` is `new Date(text).getTime()`, with no value where that is `NaN`.
-/

namespace OpenMapX.Mobile.AlertPort

open Foundation.JsText Navigation.TransitTrip Notifications SessionStore

def SCHEDULE_FALLBACK_LEAD_MS : ℤ := 3 * 60000
def MIN_LEAD_MS : ℤ := 5000
def MAX_NAME_LENGTH : Nat := 120

def isControlCodePoint (code : Nat) : Bool :=
  code ≤ 0x1f || code == 0x7f || code == 0x2028 || code == 0x2029

def boundedName (value : Option String) (limit : Nat) : Option String :=
  match value with
  | none => none
  | some text =>
    let cleaned := trim (collapseWhiteSpace false
      (text.toList.map fun c => if isControlCodePoint c.toNat then ' ' else c))
    let length := (cleaned.flatMap codeUnitsOf).length
    if length = 0 ∨ limit < length then none else some (String.ofList cleaned)

inductive AlertBasis where
  | captured | schedule
  deriving DecidableEq

structure AlightAlert extends ScheduledNotification where
  legIndex : Nat
  basis : AlertBasis
  deriving DecidableEq

structure AlightAlertCopy where
  title : String → String
  body : String → AlertBasis → Option String → String

section

variable (dateTime : String → Option ℤ)

def parseTime (value : Option String) : Option ℤ := value.bind dateTime

def capturedTrigger (payload : TransitPayload) (legIndex : Nat) : Option ℤ :=
  match payload.startPackage.captures.find? (·.legIndex == legIndex) with
  | none => none
  | some capture =>
    if capture.captured ∧ 2 ≤ capture.stops.length then
      (capture.stops[capture.stops.length - 2]?).bind fun penultimate =>
        (parseTime dateTime penultimate.expectedDeparture).or
          (parseTime dateTime penultimate.scheduledDeparture)
    else none

def triggerFor (payload : TransitPayload) (leg : TransitLeg) (legIndex : Nat) :
    Option (ℤ × AlertBasis) :=
  match capturedTrigger dateTime payload legIndex with
  | some atMs => some (atMs, .captured)
  | none =>
    match (parseTime dateTime leg.endTime).or (parseTime dateTime leg.scheduledEndTime) with
    | none => none
    | some arrivalMs => some (arrivalMs - SCHEDULE_FALLBACK_LEAD_MS, .schedule)

def computeAlightAlert (session : MobileNavigationSession) (payload : TransitPayload)
    (nowMs : ℤ) (copy : AlightAlertCopy) : Except Thrown (Option AlightAlert) :=
  if ¬ payload.startPackage.settings.alightAlertsEnabled then .ok none
  else if session.status ≠ .active ∧ session.status ≠ .preparing then .ok none
  else if payload.tickState.phase ≠ .riding then .ok none
  else
    let legIndex := payload.tickState.currentLegIndex
    match payload.startPackage.itinerary.legs[legIndex]? with
    | none => .ok none
    | some leg =>
      if leg.mode = some "walking" ∨ ¬ leg.route then .ok none
      else if leg.cancelled then .ok none
      else
        match boundedName (leg.toStop.bind (·.name)) MAX_NAME_LENGTH,
            triggerFor dateTime payload leg legIndex with
        | some stop, some (atMs, basis) =>
          if atMs - nowMs < MIN_LEAD_MS then .ok none
          else if atMs ≥ session.expiresAtMs then .ok none
          else
            let platform := boundedName (leg.toStop.bind (·.platformCode)) 64
            match notificationIdFor session.sessionId .alight
                (payload.startPackage.itineraryFingerprint ++ ":" ++ toString legIndex) with
            | .error message => .error message
            | .ok id => .ok (some
              { id := id, category := .alight, legIndex := legIndex, basis := basis,
                triggerAtMs := atMs, title := copy.title stop,
                body := copy.body stop basis platform })
        | _, _ => .ok none

def alertHasChanged (current : Option AlertRow) (next : Option AlightAlert) : Bool :=
  match current, next with
  | none, none => false
  | none, some _ => true
  | some _, none => true
  | some current, some next =>
    current.alert_id != next.id
      || decide (MIN_LEAD_MS ≤ abs (current.trigger_at_ms - next.triggerAtMs))

end

/-- The tables, the operating system, and for the record every alert that was put
in the table or handed to the system, with the session it was for. -/
structure Phone where
  database : Database
  system : System
  scheduledFor : List (String × String)

structure AlertPortDeps where
  parseMobileSession : ParseMobileSession
  dateTime : String → Option ℤ
  copy : AlightAlertCopy

structure Moment where
  nowMs : ℤ
  isAvailable : Bool

def Phone.load (deps : AlertPortDeps) (nowMs : ℤ) (phone : Phone) : Phone :=
  { phone with database := (loadActive deps.parseMobileSession nowMs phone.database).2 }

def Phone.replaceAlerts (sessionId : String) (alerts : List ScheduledAlertInput) (nowMs : ℤ)
    (phone : Phone) : Phone :=
  { phone with
    database := replaceScheduledAlerts sessionId alerts nowMs phone.database,
    scheduledFor := phone.scheduledFor ++ alerts.map fun alert => (sessionId, alert.alertId) }

def Phone.reconcileSystem (sessionId : String) (desired : Option AlightAlert) (phone : Phone) :
    Phone :=
  { phone with
    system := (Notifications.reconcile (desired.toList.map (·.toScheduledNotification)) phone.system).2,
    scheduledFor := phone.scheduledFor ++ desired.toList.map fun alert => (sessionId, alert.id) }

def alertInput (alert : AlightAlert) : ScheduledAlertInput :=
  { alertId := alert.id, legIndex := alert.legIndex, triggerAtMs := alert.triggerAtMs }

/-- The part of `reconcile` after the policy has answered. -/
def reconcileDesired (sessionId : String) (desired : Option AlightAlert) (nowMs : ℤ)
    (phone : Phone) : Phone :=
  let recorded := listScheduledAlerts sessionId phone.database
  let current := recorded.find? (·.state == .scheduled)
  if ¬ alertHasChanged current desired then phone.reconcileSystem sessionId desired
  else
    (phone.replaceAlerts sessionId (desired.toList.map alertInput) nowMs).reconcileSystem
      sessionId desired

def reconcile (deps : AlertPortDeps) (moment : Moment) (sessionId : String)
    (phone : Phone) : Phone :=
  match loadActive deps.parseMobileSession moment.nowMs phone.database with
  | (none, database) => { phone with database := database }
  | (some session, database) =>
    let phone := { phone with database := database }
    if session.sessionId ≠ sessionId then phone
    else
      match session.payload with
      | .ground _ => phone
      | .transit payload =>
        if ¬ moment.isAvailable then phone
        else
          match computeAlightAlert deps.dateTime session payload moment.nowMs deps.copy with
          | .error _ => phone
          | .ok desired => reconcileDesired sessionId desired moment.nowMs phone

def cancelSession (moment : Moment) (sessionId : String) (phone : Phone) : Phone :=
  let recorded := listScheduledAlerts sessionId phone.database
  let cancelled :=
    { phone with
      system := Notifications.cancelSession (recorded.map AlertRow.alert_id) phone.system }
  cancelled.replaceAlerts sessionId [] moment.nowMs

def cancelOrphanedAlerts (deps : AlertPortDeps) (moment : Moment) (phone : Phone) : Nat × Phone :=
  let (active, database) := loadActive deps.parseMobileSession moment.nowMs phone.database
  let known := match active with
    | some session => listScheduledAlerts session.sessionId database
    | none => []
  let keep := known.map AlertRow.alert_id
  let orphans := phone.system.pending.filter fun id => !keep.contains id
  (orphans.length,
    { phone with database := database,
                 system := Notifications.cancelSession orphans phone.system })

end OpenMapX.Mobile.AlertPort
