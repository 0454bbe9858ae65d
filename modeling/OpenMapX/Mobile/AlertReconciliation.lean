import OpenMapX.Foundation.Runs
import OpenMapX.Mobile.AlertPort

/-!
# Reconciling the alert of a session

Repeated reconciliations of one session, each with the alert the policy asks for.
`planReconciliation` compares identifiers only. A request that is already pending
under the alert's identifier keeps the time it was booked for, whatever the row says.
-/

namespace OpenMapX.Mobile.AlertReconciliation

open Foundation.Runs Notifications SessionStore AlertPort List

structure Call where
  desired : Option AlightAlert
  nowMs : ℤ

def reconcileCall (sessionId : String) (phone : Phone) (call : Call) : Phone :=
  reconcileDesired sessionId call.desired call.nowMs phone

def reconcileAll (sessionId : String) (calls : List Call) (start : Phone) : Phone :=
  calls.foldl (reconcileCall sessionId) start

/-- The table names this session only, with at most one row, which is scheduled. -/
structure Recorded (sessionId : String) (database : Database) : Prop where
  single : database.scheduled_alerts.length ≤ 1
  own : ∀ row ∈ database.scheduled_alerts, row.session_id = sessionId ∧ row.state = .scheduled

/-- The operating system holds the desired request and no other of this app, at the
time of the session's one row, which is close to the desired time. -/
def Agrees (sessionId : String) (phone : Phone) : Option AlightAlert → Prop
  | none =>
    (∀ entry ∈ phone.system, isOpenMapXNotificationId entry.identifier = false) ∧
      listScheduledAlerts sessionId phone.database = []
  | some alert =>
    ∃ row, listScheduledAlerts sessionId phone.database = [row] ∧
      row.alert_id = alert.id ∧ row.state = .scheduled ∧
      (∀ entry ∈ phone.system, isOpenMapXNotificationId entry.identifier = true →
        entry = { identifier := alert.id, triggerAtMs := row.trigger_at_ms }) ∧
      alert.id ∈ phone.system.pending ∧
      abs (row.trigger_at_ms - alert.triggerAtMs) < MIN_LEAD_MS

def currentRow (sessionId : String) (database : Database) : Option AlertRow :=
  (listScheduledAlerts sessionId database).find? (·.state == .scheduled)

/-- The time that the row will hold once `alert` is reconciled. -/
def rowTimeFor (sessionId : String) (database : Database) (alert : AlightAlert) : ℤ :=
  let current := currentRow sessionId database
  if alertHasChanged current (some alert) then alert.triggerAtMs
  else (current.map (·.trigger_at_ms)).getD alert.triggerAtMs

/-- What is pending under the alert's identifier is booked for the time the row will
hold, and if nothing is, that time is exactly the desired one. -/
def Bookable (sessionId : String) (phone : Phone) : Option AlightAlert → Prop
  | none => True
  | some alert =>
    (∀ entry ∈ phone.system, entry.identifier = alert.id →
      entry.triggerAtMs = rowTimeFor sessionId phone.database alert) ∧
    (alert.id ∉ phone.system.pending →
      alert.triggerAtMs = rowTimeFor sessionId phone.database alert)

def Ours (call : Call) : Prop :=
  ∀ alert, call.desired = some alert → isOpenMapXNotificationId alert.id = true

theorem mem_cancel (system : System) (id : String) (entry) :
    entry ∈ cancel id system ↔ entry ∈ system ∧ entry.identifier ≠ id := by
  simp [cancel, mem_filter]

theorem mem_cancel_all (ids : List String) (system : System) (entry) :
    entry ∈ ids.foldl (fun system id => cancel id system) system ↔
      entry ∈ system ∧ entry.identifier ∉ ids := by
  induction ids generalizing system with
  | nil => simp
  | cons id ids ih =>
    rw [foldl_cons, ih, mem_cancel, mem_cons, not_or]
    tauto

theorem mem_schedule (request) (system : System) (entry) : entry ∈ schedule request system ↔
      (entry ∈ system ∧ entry.identifier ≠ request.id) ∨
        entry = { identifier := request.id, triggerAtMs := request.triggerAtMs } := by
  simp [schedule, mem_append, mem_filter]

theorem mem_pending (system : System) (id : String) :
    id ∈ system.pending ↔ ∃ entry ∈ system, entry.identifier = id := by
  simp [System.pending, mem_map]

theorem mem_reconcile_none (system : System) (entry) :
    entry ∈ (Notifications.reconcile [] system).2 ↔
      entry ∈ system ∧ isOpenMapXNotificationId entry.identifier = false := by
  have cancelled := mem_cancel_all (planReconciliation [] system.pending
    isOpenMapXNotificationId).toCancel system entry
  have settled : (Notifications.reconcile [] system).2 =
      (planReconciliation [] system.pending isOpenMapXNotificationId).toCancel.foldl
        (fun system id => cancel id system) system := rfl
  rw [settled, cancelled]
  apply and_congr_right
  intro held
  have pending : entry.identifier ∈ system.pending := (mem_pending _ _).mpr ⟨entry, held, rfl⟩
  simp [planReconciliation, mem_filter, pending]

theorem mem_reconcile_one (record) (system : System) (entry) :
    entry ∈ (Notifications.reconcile [record] system).2 ↔ (entry ∈ system ∧
        (isOpenMapXNotificationId entry.identifier = true → entry.identifier = record.id)) ∨
      (record.id ∉ system.pending ∧
        entry = { identifier := record.id, triggerAtMs := record.triggerAtMs }) := by
  let kept := (planReconciliation [record] system.pending isOpenMapXNotificationId).toCancel.foldl
    (fun system id => cancel id system) system
  have mem_kept : entry ∈ kept ↔ entry ∈ system ∧
      (isOpenMapXNotificationId entry.identifier = true → entry.identifier = record.id) := by
    rw [mem_cancel_all]
    apply and_congr_right
    intro held
    have pending : entry.identifier ∈ system.pending := (mem_pending _ _).mpr ⟨entry, held, rfl⟩
    by_cases named : entry.identifier = record.id <;>
      simp [planReconciliation, mem_filter, pending, named]
  by_cases already : record.id ∈ system.pending
  · have settled : (Notifications.reconcile [record] system).2 = kept := by
      simp [Notifications.reconcile, planReconciliation, already, kept]
    rw [settled, mem_kept]
    simp [already]
  · have settled : (Notifications.reconcile [record] system).2 = schedule record kept := by
      simp [Notifications.reconcile, planReconciliation, already, kept]
    rw [settled, mem_schedule, mem_kept]
    have elsewhere : entry ∈ system → entry.identifier ≠ record.id := by
      intro held same
      exact already ((mem_pending _ _).mpr ⟨entry, held, same⟩)
    constructor
    · rintro (⟨held, -⟩ | booked)
      · exact Or.inl held
      · exact Or.inr ⟨already, booked⟩
    · rintro (held | ⟨-, booked⟩)
      · exact Or.inl ⟨held, elsewhere held.1⟩
      · exact Or.inr booked

variable (sessionId : String) (desired : Option AlightAlert) (nowMs : ℤ)

section

variable (database : Database) (recorded : Recorded sessionId database)
include recorded

theorem rows_cases : database.scheduled_alerts = [] ∨
      ∃ row, database.scheduled_alerts = [row] ∧ row.session_id = sessionId ∧
        row.state = .scheduled := by
  cases rows : database.scheduled_alerts with
  | nil => exact Or.inl rfl
  | cons row rest =>
    have short := recorded.single
    rw [rows, length_cons] at short
    have alone : rest = [] := length_eq_zero_iff.mp (by omega)
    have mine := recorded.own row (by simp [rows])
    exact Or.inr ⟨row, by rw [alone], mine.1, mine.2⟩

theorem listed_rows : listScheduledAlerts sessionId database = database.scheduled_alerts := by
  rcases rows_cases sessionId database recorded with empty | ⟨row, rows, mine, -⟩
  · simp [listScheduledAlerts, SELECT_SCHEDULED_ALERTS, empty]
  · simp [listScheduledAlerts, SELECT_SCHEDULED_ALERTS, rows, mine]

theorem current_row : currentRow sessionId database = database.scheduled_alerts.head? := by
  rw [currentRow, listed_rows sessionId database recorded]
  rcases rows_cases sessionId database recorded with empty | ⟨row, rows, -, state⟩
  · simp [empty]
  · simp [rows, state]

end

def rowOf (sessionId : String) (nowMs : ℤ) (alert : AlightAlert) : AlertRow where
  alert_id := alert.id
  session_id := sessionId
  leg_index := alert.legIndex
  trigger_at_ms := alert.triggerAtMs
  state := .scheduled
  updated_at_ms := nowMs

theorem replaced_rows (desired : Option AlightAlert)
    (database : Database) (recorded : Recorded sessionId database) :
    (replaceScheduledAlerts sessionId (desired.toList.map alertInput) nowMs
      database).scheduled_alerts = desired.toList.map (rowOf sessionId nowMs) := by
  have cleared : (DELETE_SESSION_ALERTS sessionId database).scheduled_alerts = [] := by
    simp only [DELETE_SESSION_ALERTS, filter_eq_nil_iff]
    intro row held
    simp [(recorded.own row held).1]
  cases desired with
  | none => simpa [replaceScheduledAlerts, replaceAlertsIn] using cleared
  | some alert =>
    simp [replaceScheduledAlerts, replaceAlertsIn, INSERT_SCHEDULED_ALERT, cleared, alertInput,
      rowOf]

theorem reconcileDesired_cases (phone : Phone) :
    (alertHasChanged (currentRow sessionId phone.database) desired = false ∧
      reconcileDesired sessionId desired nowMs phone = phone.reconcileSystem sessionId desired) ∨
    (alertHasChanged (currentRow sessionId phone.database) desired = true ∧
      reconcileDesired sessionId desired nowMs phone =
        (phone.replaceAlerts sessionId (desired.toList.map alertInput) nowMs).reconcileSystem
          sessionId desired) := by
  unfold reconcileDesired currentRow
  cases changed : alertHasChanged
      ((listScheduledAlerts sessionId phone.database).find? (·.state == .scheduled)) desired with
  | false => exact Or.inl ⟨rfl, by simp [changed]⟩
  | true => exact Or.inr ⟨rfl, by simp [changed]⟩

theorem recorded_after (call : Call) (phone : Phone) (recorded : Recorded sessionId phone.database)
    : Recorded sessionId (reconcileCall sessionId phone call).database := by
  rcases reconcileDesired_cases sessionId call.desired call.nowMs phone with
    ⟨-, kept⟩ | ⟨-, rewritten⟩
  · rw [reconcileCall, kept]
    exact recorded
  · have rows := replaced_rows sessionId call.nowMs call.desired phone.database recorded
    rw [reconcileCall, rewritten]
    constructor
    · have counted : (call.desired.toList.map (rowOf sessionId call.nowMs)).length ≤ 1 := by
        cases call.desired <;> simp
      simpa only [Phone.reconcileSystem, Phone.replaceAlerts, rows] using counted
    · intro row held
      simp only [Phone.reconcileSystem, Phone.replaceAlerts, rows, mem_map] at held
      rcases held with ⟨alert, -, rfl⟩
      exact ⟨rfl, rfl⟩

theorem system_after (phone : Phone) : (reconcileDesired sessionId desired nowMs phone).system =
      (Notifications.reconcile (desired.toList.map (·.toScheduledNotification))
        phone.system).2 := by
  rcases reconcileDesired_cases sessionId desired nowMs phone with ⟨-, kept⟩ | ⟨-, rewritten⟩
  · rw [kept]
    rfl
  · rw [rewritten]
    rfl

theorem listed_after (phone : Phone) (recorded : Recorded sessionId phone.database) :
    listScheduledAlerts sessionId (reconcileDesired sessionId desired nowMs phone).database =
      (reconcileDesired sessionId desired nowMs phone).database.scheduled_alerts :=
  listed_rows sessionId _ (recorded_after sessionId ⟨desired, nowMs⟩ phone recorded)

theorem agrees_without_alert (phone : Phone) (recorded : Recorded sessionId phone.database) :
    Agrees sessionId (reconcileDesired sessionId none nowMs phone) none := by
  have current := current_row sessionId phone.database recorded
  constructor
  · rw [system_after]
    intro entry held
    exact ((mem_reconcile_none phone.system entry).mp held).2
  · rw [listed_after sessionId none nowMs phone recorded]
    rcases reconcileDesired_cases sessionId none nowMs phone with
      ⟨unchanged, kept⟩ | ⟨-, rewritten⟩
    · rw [kept]
      rcases rows_cases sessionId phone.database recorded with empty | ⟨row, rows, -, -⟩
      · exact empty
      · rw [current, rows] at unchanged
        cases unchanged
    · rw [rewritten]
      exact replaced_rows sessionId nowMs none phone.database recorded

section

variable (alert : AlightAlert) (nowMs : ℤ) (phone : Phone)
  (recorded : Recorded sessionId phone.database)
include recorded

theorem row_after : ∃ row, listScheduledAlerts sessionId
        (reconcileDesired sessionId (some alert) nowMs phone).database = [row] ∧
      row.alert_id = alert.id ∧ row.state = .scheduled ∧
      row.trigger_at_ms = rowTimeFor sessionId phone.database alert ∧
      abs (row.trigger_at_ms - alert.triggerAtMs) < MIN_LEAD_MS := by
  have current := current_row sessionId phone.database recorded
  rw [listed_after sessionId (some alert) nowMs phone recorded]
  rcases reconcileDesired_cases sessionId (some alert) nowMs phone with
    ⟨unchanged, kept⟩ | ⟨changed, rewritten⟩
  · rw [kept]
    rcases rows_cases sessionId phone.database recorded with empty | ⟨row, rows, -, state⟩
    · rw [current, empty] at unchanged
      cases unchanged
    · have same : row.alert_id = alert.id ∧
          abs (row.trigger_at_ms - alert.triggerAtMs) < MIN_LEAD_MS := by
        rw [current, rows] at unchanged
        simpa [alertHasChanged] using unchanged
      refine ⟨row, rows, same.1, state, ?_, same.2⟩
      rw [current, rows, head?_cons] at unchanged
      simp [rowTimeFor, current, rows, unchanged]
  · rw [rewritten]
    refine ⟨rowOf sessionId nowMs alert, ?_, rfl, rfl, ?_, ?_⟩
    · exact replaced_rows sessionId nowMs (some alert) phone.database recorded
    · simp [rowTimeFor, changed, rowOf]
    · simp [rowOf, MIN_LEAD_MS]

theorem agrees_with_alert_iff (ours : isOpenMapXNotificationId alert.id = true) :
    Agrees sessionId (reconcileDesired sessionId (some alert) nowMs phone) (some alert) ↔
      Bookable sessionId phone (some alert) := by
  rcases row_after sessionId alert nowMs phone recorded with
    ⟨row, listed, identified, scheduled, timed, near⟩
  have held_after := mem_reconcile_one alert.toScheduledNotification phone.system
  constructor
  · rintro ⟨other, listed_other, -, -, only, -, -⟩
    rw [listed, List.cons.injEq] at listed_other
    rw [← listed_other.1, system_after] at only
    constructor
    · intro entry held named
      have kept := (held_after entry).mpr (Or.inl ⟨held, fun _ => named⟩)
      have booked := only entry kept (by rw [named]; exact ours)
      rw [booked, timed]
    · intro absent
      have added := (held_after ⟨alert.id, alert.triggerAtMs⟩).mpr (Or.inr ⟨absent, rfl⟩)
      have booked := only _ added ours
      rw [← timed]
      exact congrArg PendingNotification.triggerAtMs booked
  · rintro ⟨booked, missing⟩
    refine ⟨row, listed, identified, scheduled, ?_, ?_, near⟩
    · rw [system_after]
      intro entry held mine
      rcases (held_after entry).mp held with ⟨before, named⟩ | ⟨absent, added⟩
      · have same := named mine
        rw [timed, ← booked entry before same, ← same]
      · rw [added, timed, ← missing absent]
    · rw [system_after, mem_pending]
      by_cases already : alert.id ∈ phone.system.pending
      · rcases (mem_pending _ _).mp already with ⟨entry, before, named⟩
        exact ⟨entry, (held_after entry).mpr (Or.inl ⟨before, fun _ => named⟩), named⟩
      · exact ⟨_, (held_after _).mpr (Or.inr ⟨already, rfl⟩), rfl⟩

end

theorem agrees_after_call_iff (call : Call) (phone : Phone)
    (recorded : Recorded sessionId phone.database) (ours : Ours call) :
    Agrees sessionId (reconcileCall sessionId phone call) call.desired ↔
      Bookable sessionId phone call.desired := by
  unfold reconcileCall
  cases wanted : call.desired with
  | none => exact iff_of_true (agrees_without_alert sessionId call.nowMs phone recorded) trivial
  | some alert =>
    exact agrees_with_alert_iff sessionId alert call.nowMs phone recorded (ours alert wanted)

def lateAlert (triggerAtMs : ℤ) : AlightAlert where
  id := "omx-alight-00000000000000"
  category := .alight
  triggerAtMs := triggerAtMs
  title := "Get off"
  body := "Hauptbahnhof"
  legIndex := 0
  basis := .captured

def untouchedPhone : Phone where
  database := emptyDatabase
  system := []
  scheduledFor := []

def onTime : Call := { desired := some (lateAlert 1000000), nowMs := 0 }
def delayed : Call := { desired := some (lateAlert 1600000), nowMs := 30000 }

theorem untouched_recorded : Recorded "session-t1" untouchedPhone.database :=
  ⟨by decide, by intro row held; cases held⟩

end OpenMapX.Mobile.AlertReconciliation
