import OpenMapX.Mobile.AlertPort

/-!
# Ending a session

Commits, alert reconciliations and terminations, each with its effects run through
`EffectRunner`, over the tables and the operating system together. A notification
outlives its session exactly when it is pending as `terminate` is called: the
transaction takes the rows that the cancelling effect reads.
-/

namespace OpenMapX.Mobile.SessionEnd

open Navigation.TransitTrip Notifications SessionStore AlertPort List

def ORDER : SessionEffect → Nat
  | .stopLocation => 0
  | .startLocation _ => 1
  | .updateLocationProfile _ => 2
  | .cancelSessionAlerts _ => 3
  | .reconcileAlerts _ => 4
  | .stopAudio => 5
  | .speak _ _ _ => 6
  | .requestReroute _ => 7
  | .requestTransitRefresh _ => 8
  | .reconcileSurface => 9
  | .publishEvent _ => 10
  | .publishSnapshot _ => 11

/-- Outside the alert port an effect touches the stores only by reading the session,
which may quarantine it. Remote work answers later, in commits of its own. -/
def execute (deps : AlertPortDeps) (moment : Moment) (phone : Phone) : SessionEffect → Phone
  | .reconcileSurface => phone.load deps moment.nowMs
  | .startLocation _ => phone.load deps moment.nowMs
  | .stopLocation => phone
  | .updateLocationProfile _ => phone.load deps moment.nowMs
  | .speak _ _ _ => phone
  | .stopAudio => phone
  | .reconcileAlerts sessionId =>
    AlertPort.reconcile deps moment sessionId (phone.load deps moment.nowMs)
  | .cancelSessionAlerts sessionId =>
    AlertPort.cancelSession moment sessionId (phone.load deps moment.nowMs)
  | .publishSnapshot _ => phone.load deps moment.nowMs
  | .publishEvent _ => phone.load deps moment.nowMs
  | .requestReroute _ => phone
  | .requestTransitRefresh _ => phone

def runEffects (deps : AlertPortDeps) (moment : Moment) (effects : List SessionEffect)
    (phone : Phone) : Phone :=
  (effects.insertionSort fun left right => ORDER left ≤ ORDER right).foldl
    (execute deps moment) phone

inductive Step where
  | createPreparing (session : MobileNavigationSession)
  | commit (sessionId : String) (expectedRevision : Nat)
      (mutate : MobileNavigationSession → Except Thrown RepositoryMutation) (moment : Moment)
  | reconcile (sessionId : String) (moment : Moment)
  | terminate (sessionId : String) (finalStatus : SessionStatus) (moment : Moment)
  | cancelOrphanedAlerts (moment : Moment)
  | markAlert (alertId : String) (state : AlertState) (nowMs : ℤ)
  | loadActive (nowMs : ℤ)
  | delivered (id : String)

def committedAlerts (deps : AlertPortDeps)
    (mutate : MobileNavigationSession → Except Thrown RepositoryMutation) (database : Database) :
    List ScheduledAlertInput :=
  match database.active_navigation with
  | none => []
  | some row =>
    match deps.parseMobileSession row.session_json with
    | .error _ => []
    | .ok current =>
      match mutate current with
      | .error _ => []
      | .ok mutation => mutation.alerts.getD []

def step (deps : AlertPortDeps) (phone : Phone) : Step → Phone
  | .createPreparing session =>
    { phone with
      database := (createPreparing deps.parseMobileSession session phone.database).2 }
  | .commit sessionId expectedRevision mutate moment =>
    match compareAndSwap deps.parseMobileSession sessionId expectedRevision mutate moment.nowMs
        phone.database with
    | .error _ => phone
    | .ok (.failed _, database) => { phone with database := database }
    | .ok (.ok _ effects, database) =>
      runEffects deps moment effects
        { phone with
          database := database,
          scheduledFor := phone.scheduledFor
            ++ (committedAlerts deps mutate phone.database).map
                fun alert => (sessionId, alert.alertId) }
  | .reconcile sessionId moment => AlertPort.reconcile deps moment sessionId phone
  | .terminate sessionId finalStatus moment =>
    let ended := terminate deps.parseMobileSession sessionId finalStatus moment.nowMs phone.database
    runEffects deps moment ended.1.2 { phone with database := ended.2 }
  | .cancelOrphanedAlerts moment => (AlertPort.cancelOrphanedAlerts deps moment phone).2
  | .markAlert alertId state nowMs =>
    { phone with database := markAlert alertId state nowMs phone.database }
  | .loadActive nowMs => phone.load deps nowMs
  | .delivered id => { phone with system := cancel id phone.system }

def run (deps : AlertPortDeps) (steps : List Step) (start : Phone) : Phone :=
  steps.foldl (step deps) start

def NothingPending (sessionId : String) (phone : Phone) : Prop :=
  ∀ id, (sessionId, id) ∈ phone.scheduledFor → id ∉ phone.system.pending

/-- Once the effects of a `terminate` have run, nothing of its session is pending. -/
def EndingsLeaveNothing (deps : AlertPortDeps) (start : Phone) (steps : List Step) : Prop :=
  ∀ before sessionId finalStatus moment,
    before ++ [Step.terminate sessionId finalStatus moment] <+: steps →
      NothingPending sessionId
        (run deps (before ++ [Step.terminate sessionId finalStatus moment]) start)

/-- As a `terminate` is called, nothing of its session is pending. -/
def EndingsFindNothing (deps : AlertPortDeps) (start : Phone) (steps : List Step) : Prop :=
  ∀ before sessionId finalStatus moment,
    before ++ [Step.terminate sessionId finalStatus moment] <+: steps →
      NothingPending sessionId (run deps before start)

theorem load_without_session (deps : AlertPortDeps) (nowMs : ℤ) (phone : Phone)
    (empty : phone.database.active_navigation = none) : phone.load deps nowMs = phone := by
  simp [Phone.load, loadActive, inspectActive, empty]

theorem alerts_of_deleted_session (sessionId : String) (db : Database) :
    listScheduledAlerts sessionId (deleteSessionRows sessionId db) = [] := by
  have none_left : (DELETE_SESSION_ALERTS sessionId (DELETE_SESSION_EVENTS sessionId
      (DELETE_ACTIVE db))).scheduled_alerts.filter (·.session_id == sessionId) = [] := by
    rw [filter_eq_nil_iff]
    intro row member
    have differs := (mem_filter.mp member).2
    simpa using differs
  simp only [listScheduledAlerts, SELECT_SCHEDULED_ALERTS, deleteSessionRows,
    DELETE_SESSION_COMMANDS, none_left, insertionSort_nil]

def endingEffects (sessionId : String) : List SessionEffect :=
  [.stopLocation, .stopAudio, .cancelSessionAlerts sessionId, .reconcileSurface,
    .publishSnapshot true]

theorem terminate_cases (parseMobileSession) (sessionId : String)
    (finalStatus : SessionStatus) (nowMs : ℤ) (db : Database) :
    (∃ ack, terminate parseMobileSession sessionId finalStatus nowMs db =
        ((some ack, endingEffects sessionId),
          deleteSessionRows sessionId (UPSERT_TERMINAL_ACK ack db))) ∨
      terminate parseMobileSession sessionId finalStatus nowMs db = ((none, []), db) := by
  unfold terminate
  cases db.active_navigation with
  | none => exact Or.inr rfl
  | some row =>
    by_cases same : row.session_id = sessionId
    · simp only [same, ne_eq, not_true_eq_false, if_false]
      exact Or.inl ⟨_, rfl⟩
    · right
      simp [same]

theorem mem_pending_cancelSession (moment : Moment) (sessionId id : String) (phone : Phone) :
    id ∈ (AlertPort.cancelSession moment sessionId phone).system.pending ↔
      id ∈ phone.system.pending ∧
        id ∉ (listScheduledAlerts sessionId phone.database).map AlertRow.alert_id := by
  exact Notifications.mem_pending_cancelSession _ _ _

theorem ending_effects_keep (deps : AlertPortDeps) (moment : Moment) (sessionId : String)
    (phone : Phone) (empty : phone.database.active_navigation = none)
    (forgotten : listScheduledAlerts sessionId phone.database = []) :
    (∀ id, id ∈ (runEffects deps moment (endingEffects sessionId) phone).system.pending ↔
        id ∈ phone.system.pending) ∧
      (runEffects deps moment (endingEffects sessionId) phone).scheduledFor =
        phone.scheduledFor := by
  let cancelled := AlertPort.cancelSession moment sessionId phone
  have still_empty : cancelled.database.active_navigation = none := empty
  have ordered : (endingEffects sessionId).insertionSort
      (fun left right => ORDER left ≤ ORDER right) =
      [.stopLocation, .cancelSessionAlerts sessionId, .stopAudio, .reconcileSurface,
        .publishSnapshot true] := by
    simp [endingEffects, ORDER, List.insertionSort, List.orderedInsert]
  have ran : runEffects deps moment (endingEffects sessionId) phone = cancelled := by
    rw [runEffects, ordered]
    simp only [foldl_cons, foldl_nil, execute, load_without_session deps _ phone empty]
    rw [load_without_session deps _ cancelled still_empty,
      load_without_session deps _ cancelled still_empty]
  rw [ran]
  constructor
  · intro id
    rw [mem_pending_cancelSession, forgotten]
    simp
  · exact append_nil _

section

variable (deps : AlertPortDeps) (phone : Phone) (sessionId : String) (finalStatus : SessionStatus)
  (moment : Moment)
include deps phone sessionId finalStatus moment

/-- The transaction of `terminate` deletes the rows that its effect would cancel from,
so that ending a session leaves the operating system as it was. -/
theorem terminate_cancels_nothing :
    let ended := step deps phone (.terminate sessionId finalStatus moment)
    (∀ id, id ∈ ended.system.pending ↔ id ∈ phone.system.pending) ∧
      ended.scheduledFor = phone.scheduledFor := by
  intro ended
  rcases terminate_cases deps.parseMobileSession sessionId finalStatus moment.nowMs
      phone.database with ⟨ack, acknowledged⟩ | ignored
  · have ran : ended = runEffects deps moment (endingEffects sessionId)
        { phone with
          database := deleteSessionRows sessionId (UPSERT_TERMINAL_ACK ack phone.database) } := by
      simp only [ended, step, acknowledged]
    rw [ran]
    exact ending_effects_keep deps moment sessionId _ rfl
      (alerts_of_deleted_session sessionId _)
  · have unchanged : ended = phone := by
      simp only [ended, step, ignored]
      rfl
    rw [unchanged]
    exact ⟨fun id => Iff.rfl, rfl⟩

theorem nothing_pending_after_terminate :
    NothingPending sessionId (step deps phone (.terminate sessionId finalStatus moment)) ↔
      NothingPending sessionId phone := by
  have kept := terminate_cancels_nothing deps phone sessionId finalStatus moment
  simp only [NothingPending, kept.1, kept.2]

end

/-- In every run, the endings leave nothing pending exactly where they find nothing. -/
theorem endings_leave_nothing_iff (deps : AlertPortDeps) (start : Phone) (steps : List Step) :
    EndingsLeaveNothing deps start steps ↔ EndingsFindNothing deps start steps := by
  have last : ∀ before sessionId finalStatus moment,
      run deps (before ++ [Step.terminate sessionId finalStatus moment]) start =
        step deps (run deps before start) (.terminate sessionId finalStatus moment) := by
    intro before sessionId finalStatus moment
    simp [run, foldl_append]
  constructor
  · intro leave before sessionId finalStatus moment reached
    have after := leave before sessionId finalStatus moment reached
    rw [last, nothing_pending_after_terminate] at after
    exact after
  · intro find before sessionId finalStatus moment reached
    rw [last, nothing_pending_after_terminate]
    exact find before sessionId finalStatus moment reached

def ridingItinerary : TripItinerary where
  refreshToken := none
  legs := [{ mode := some "rail", route := true, tripId := some "trip-1",
             fromStop := none,
             toStop := some { name := some "Hauptbahnhof", stopId := none,
                              location := { lng := .nan, lat := .nan },
                              platformCode := none, scheduledPlatformCode := none },
             startTime := none, endTime := some "2026-08-09T08:40:00Z",
             scheduledStartTime := none, scheduledEndTime := none,
             geometry := none, steps := [], cancelled := false,
             interlineWithPrevious := false }]

def ridingSession : MobileNavigationSession where
  sessionId := "session-t1"
  revision := 0
  status := .active
  startedAtMs := 1786262400000
  updatedAtMs := 1786263600000
  expiresAtMs := 1786307880000
  locale := .en
  units := .metric
  connectivity := .online
  permissionMode := .background
  cueLedger := { spoken := [], events := [] }
  lastAcceptedFix := none
  payload := .transit
    { startPackage :=
        { itinerary := ridingItinerary
          captures := []
          stopAreas := none
          settings := { voiceEnabled := true, keepScreenOn := true, alightAlertsEnabled := true }
          itineraryFingerprint := "fp"
          locale := .en
          units := .metric }
      navigationDataRevision := none
      tickState := { freshTransitTickState 1786263600000 ridingItinerary with phase := .riding }
      confidence := .gps
      refreshToken := none
      refresh :=
        { status := .broken, generation := 0, requestId := none, nextAttemptAtMs := none,
          attempts := 0, firstAttemptAtMs := none, ambiguousAttempts := none } }

def ridingDeps : AlertPortDeps where
  parseMobileSession := .ok
  dateTime := fun text => if text = "2026-08-09T08:40:00Z" then some 1786264800000 else none
  copy := { title := fun stop => "Get off at " ++ stop, body := fun stop _ _ => stop }

def freshPhone : Phone where
  database := emptyDatabase
  system := []
  scheduledFor := []

def beforeStopping : List Step :=
  [.createPreparing ridingSession,
    .reconcile "session-t1" { nowMs := 1786263600000, isAvailable := true }]

def stopping : Step :=
  .terminate "session-t1" .stopped { nowMs := 1786263600000, isAvailable := true }

/-- The alert of 08:37 is still pending after the rider stopped at 08:20. -/
theorem stopped_ride_keeps_alert : ¬ EndingsLeaveNothing ridingDeps freshPhone
      (beforeStopping ++ [stopping]) := by
  have remains :
      (run ridingDeps (beforeStopping ++ [stopping]) freshPhone).scheduledFor.any (fun entry =>
        entry.1 == "session-t1" &&
          (run ridingDeps (beforeStopping ++ [stopping]) freshPhone).system.pending.contains
            entry.2) = true := by
    decide +kernel
  intro leave
  have nothing := leave _ _ _ _ (prefix_refl _)
  rcases any_eq_true.mp remains with ⟨⟨session, id⟩, member, pending⟩
  simp only [Bool.and_eq_true, beq_iff_eq, contains_iff_mem] at pending
  rcases pending with ⟨rfl, pending⟩
  exact nothing id member pending

end OpenMapX.Mobile.SessionEnd
