import OpenMapX.Foundation.Runs
import OpenMapX.Mobile.SessionStore

/-!
# Writers of the session store

Transactions of any number of writers, in any order, on one database. Each is atomic,
and one that throws leaves the tables as they were.
-/

namespace OpenMapX.Mobile.StoreWriters

open Foundation.Runs SessionStore List

inductive Transaction where
  | createPreparing (session : MobileNavigationSession)
  | compareAndSwap (sessionId : String) (expectedRevision : Nat)
      (mutate : MobileNavigationSession → Except Thrown RepositoryMutation) (nowMs : ℤ)
  | terminate (sessionId : String) (finalStatus : SessionStatus) (nowMs : ℤ)
  | replaceScheduledAlerts (sessionId : String) (alerts : List ScheduledAlertInput) (nowMs : ℤ)
  | markAlert (alertId : String) (state : AlertState) (nowMs : ℤ)
  | enqueueEvent (sessionId : String) (createdAtMs : ℤ) (event : EnqueuedEvent)
  | ackEvents (eventIds : List String)
  | rememberCommand (messageId : String) (sessionId : Option String)
      (response : CommandResponse) (nowMs : ℤ)
  | quarantineCorruptSession (sessionId : Option String) (reason : String) (nowMs : ℤ)

def committed : Except Thrown (CommitResult × Database) → Database → Database
  | .ok (_, after), _ => after
  | .error _, before => before

def perform (parseMobileSession : ParseMobileSession) (db : Database) : Transaction → Database
  | .createPreparing session => (createPreparing parseMobileSession session db).2
  | .compareAndSwap sessionId expectedRevision mutate nowMs =>
    committed (compareAndSwap parseMobileSession sessionId expectedRevision mutate nowMs db) db
  | .terminate sessionId finalStatus nowMs =>
    (terminate parseMobileSession sessionId finalStatus nowMs db).2
  | .replaceScheduledAlerts sessionId alerts nowMs =>
    replaceScheduledAlerts sessionId alerts nowMs db
  | .markAlert alertId state nowMs => markAlert alertId state nowMs db
  | .enqueueEvent sessionId createdAtMs event => enqueueEvent sessionId createdAtMs event db
  | .ackEvents eventIds => ackEvents eventIds db
  | .rememberCommand messageId sessionId response nowMs =>
    rememberCommand messageId sessionId response nowMs db
  | .quarantineCorruptSession sessionId reason nowMs =>
    quarantineCorruptSession sessionId reason nowMs db

def ReadsBack (parseMobileSession : ParseMobileSession) : Prop :=
  ∀ stored session, parseMobileSession stored = .ok session →
    session.sessionId = stored.sessionId ∧ session.revision = stored.revision

/-- The swap from `revision` commits in this state. -/
def Commits (parseMobileSession : ParseMobileSession) (db : Database) (sessionId : String)
    (revision : Nat) (mutate : MobileNavigationSession → Except Thrown RepositoryMutation)
    (nowMs : ℤ) : Prop :=
  ∃ session effects after,
    compareAndSwap parseMobileSession sessionId revision mutate nowMs db =
      .ok (.ok session effects, after)

def RowsAgree (db : Database) : Prop :=
  ∀ row, db.active_navigation = some row →
    row.session_id = row.session_json.sessionId ∧ row.revision = row.session_json.revision

def Creates (sessionId : String) : Transaction → Prop
  | .createPreparing session => session.sessionId = sessionId
  | _ => False

variable (parseMobileSession : ParseMobileSession) (sessionId : String)
variable (finalStatus : SessionStatus) (nowMs : ℤ) (db : Database)

@[simp] theorem active_of_enqueue (event : EnqueuedEvent) (db : Database) :
    (enqueueEventIn sessionId nowMs event db).active_navigation = db.active_navigation := by
  rcases only_events_of_enqueue sessionId nowMs event db with ⟨events, queued⟩
  rw [queued]

@[simp] theorem active_of_enqueues (added : List EnqueuedEvent) (db : Database) :
    (added.foldl (fun db event => enqueueEventIn sessionId nowMs event db) db).active_navigation =
      db.active_navigation := by
  rcases only_events_of_enqueues sessionId nowMs added db with ⟨events, queued⟩
  rw [queued]

@[simp] theorem active_of_replace (alerts : List ScheduledAlertInput) (nowMs : ℤ) (db : Database) :
    (replaceAlertsIn sessionId alerts nowMs db).active_navigation = db.active_navigation := by
  rcases only_alerts_of_replace sessionId alerts nowMs db with ⟨rows, replaced⟩
  rw [replaced]

@[simp] theorem active_of_ack (eventIds : List String) (db : Database) :
    (ackEvents eventIds db).active_navigation = db.active_navigation := by
  rcases only_events_of_ack eventIds db with ⟨events, acked⟩
  rw [acked]

@[simp] theorem active_of_remember (messageId : String) (sessionId : Option String)
    (response : CommandResponse) (nowMs : ℤ) (db : Database) :
    (rememberCommand messageId sessionId response nowMs db).active_navigation =
      db.active_navigation := by
  rcases only_commands_of_remember messageId sessionId response nowMs db with ⟨rows, remembered⟩
  rw [remembered]

theorem active_of_quarantine (sessionId : Option String) (reason : String) (nowMs : ℤ)
    (db : Database) :
    (quarantineCorruptSession sessionId reason nowMs db).active_navigation = none := by
  cases sessionId with
  | none => rfl
  | some sessionId =>
    simp only [quarantineCorruptSession]
    split_ifs <;> rfl

theorem createPreparing_cases (session) (db : Database) :
    (∃ row live, db.active_navigation = some row ∧ parseMobileSession row.session_json = .ok live ∧
      TERMINAL_STATUSES.contains live.status = false ∧
      createPreparing parseMobileSession session db = (.failed .sessionActive, db)) ∨
    ((∀ row live, db.active_navigation = some row → parseMobileSession row.session_json = .ok live →
        TERMINAL_STATUSES.contains live.status = true) ∧
      ∃ cleared : Database, createPreparing parseMobileSession session db =
        (.ok session [], writeActive session cleared) ∧
        (cleared = db ∧ db.active_navigation = none ∨ ∃ row, db.active_navigation = some row ∧
            cleared = deleteSessionRows row.session_id db)) := by
  unfold createPreparing
  cases stored : db.active_navigation with
  | none =>
    right
    exact ⟨by simp, db, rfl, Or.inl ⟨rfl, rfl⟩⟩
  | some row =>
    cases parsed : parseMobileSession row.session_json with
    | error code =>
      right
      refine ⟨?_, deleteSessionRows row.session_id db, ?_, Or.inr ⟨row, rfl, rfl⟩⟩
      · intro other live same read
        cases same
        rw [parsed] at read
        cases read
      · simp only [parsed]
    | ok live =>
      cases terminal : TERMINAL_STATUSES.contains live.status with
      | false =>
        left
        refine ⟨row, live, rfl, parsed, terminal, ?_⟩
        simp only [parsed, terminal, Bool.false_eq_true, if_false]
      | true =>
        right
        refine ⟨?_, deleteSessionRows row.session_id db, ?_, Or.inr ⟨row, rfl, rfl⟩⟩
        · intro other found same read
          cases same
          rw [parsed, Except.ok.injEq] at read
          rw [← read, terminal]
        · simp only [parsed, terminal, if_true]

theorem compareAndSwap_cases
    (revision : Nat) (mutate : MobileNavigationSession → Except Thrown RepositoryMutation)
    (nowMs : ℤ) (db : Database) : (∃ row current mutation queued,
      db.active_navigation = some row ∧ parseMobileSession row.session_json = .ok current ∧
      current.sessionId = sessionId ∧ current.revision = revision ∧ mutate current = .ok mutation ∧
      mutation.session.sessionId = sessionId ∧ mutation.session.revision = revision + 1 ∧
      queued = (mutation.enqueue.getD []).foldl
        (fun db event => enqueueEventIn sessionId nowMs event db)
        (writeActive mutation.session db) ∧
      compareAndSwap parseMobileSession sessionId revision mutate nowMs db =
        .ok (.ok mutation.session (mutation.effects.getD []), (mutation.alerts.map fun alerts =>
            replaceAlertsIn sessionId alerts nowMs queued).getD queued)) ∨
    (∃ code, compareAndSwap parseMobileSession sessionId revision mutate nowMs db =
      .ok (.failed code, db)) ∨
    (∃ thrown, compareAndSwap parseMobileSession sessionId revision mutate nowMs db =
      .error thrown) := by
  unfold compareAndSwap
  cases stored : db.active_navigation with
  | none => exact Or.inr (Or.inl ⟨_, rfl⟩)
  | some row =>
    cases parsed : parseMobileSession row.session_json with
    | error code => exact Or.inr (Or.inl ⟨.corruptSession, by simp only [parsed]⟩)
    | ok current =>
      by_cases stale : current.sessionId ≠ sessionId ∨ current.revision ≠ revision
      · exact Or.inr (Or.inl ⟨.revisionConflict, by simp only [parsed, if_pos stale]⟩)
      · have same : current.sessionId = sessionId ∧ current.revision = revision := by
          simpa only [not_or, not_not] using stale
        cases changed : mutate current with
        | error thrown =>
          exact Or.inr (Or.inr ⟨thrown, by simp only [parsed, if_neg stale, changed]⟩)
        | ok mutation =>
          by_cases renamed : mutation.session.sessionId ≠ sessionId
          · exact Or.inr (Or.inr ⟨_, by
              simp only [parsed, if_neg stale, changed, if_pos renamed]
              rfl⟩)
          · by_cases skipped : mutation.session.revision ≠ revision + 1
            · exact Or.inr (Or.inr ⟨_, by
                simp only [parsed, if_neg stale, changed, if_neg renamed, if_pos skipped]
                rfl⟩)
            · left
              refine ⟨row, current, mutation, _, rfl, parsed, same.1, same.2, changed,
                not_not.mp renamed, not_not.mp skipped, rfl, ?_⟩
              simp only [parsed, if_neg stale, changed, if_neg renamed, if_neg skipped]
              cases mutation.alerts <;> rfl

theorem terminate_cases : (∃ row ack, db.active_navigation = some row ∧ row.session_id = sessionId ∧
      ack.sessionId = sessionId ∧ ack.finalStatus = finalStatus ∧
      ack.finalRevision = row.revision ∧ ack.completedAtMs = nowMs ∧
      (terminate parseMobileSession sessionId finalStatus nowMs db).2 =
        deleteSessionRows sessionId (UPSERT_TERMINAL_ACK ack db)) ∨
    ((∀ row, db.active_navigation = some row → row.session_id ≠ sessionId) ∧
      (terminate parseMobileSession sessionId finalStatus nowMs db).2 = db) := by
  unfold terminate
  cases stored : db.active_navigation with
  | none =>
    right
    exact ⟨by simp, rfl⟩
  | some row =>
    by_cases other : row.session_id ≠ sessionId
    · right
      refine ⟨?_, by simp only [if_pos other]⟩
      intro found same
      cases same
      exact other
    · left
      exact ⟨row, _, rfl, not_not.mp other, rfl, rfl, rfl, rfl, by simp only [if_neg other]; rfl⟩

theorem perform_swap_failed (revision : Nat)
    (mutate : MobileNavigationSession → Except Thrown RepositoryMutation) (nowMs : ℤ)
    (db : Database) (lost : ¬ Commits parseMobileSession db sessionId revision mutate nowMs) :
    perform parseMobileSession db (.compareAndSwap sessionId revision mutate nowMs) = db := by
  rcases compareAndSwap_cases parseMobileSession sessionId revision mutate nowMs db with
    ⟨_, _, _, _, -, -, -, -, -, -, -, -, swapped⟩ | ⟨code, failed⟩ | ⟨thrown, failed⟩
  · exact absurd ⟨_, _, _, swapped⟩ lost
  · simp only [perform, failed, committed]
  · simp only [perform, failed, committed]

theorem swap_rows (readsBack : ReadsBack parseMobileSession) (sessionId : String) (revision : Nat)
    (mutate : MobileNavigationSession → Except Thrown RepositoryMutation) (nowMs : ℤ)
    (db : Database) (agree : RowsAgree db)
    (commits : Commits parseMobileSession db sessionId revision mutate nowMs) : ∃ before after,
      db.active_navigation = some before ∧ before.session_id = sessionId ∧
      before.revision = revision ∧ (perform parseMobileSession db
        (.compareAndSwap sessionId revision mutate nowMs)).active_navigation = some after ∧
      after.session_id = sessionId ∧ after.revision = revision + 1 ∧
      after.session_id = after.session_json.sessionId ∧
      after.revision = after.session_json.revision := by
  rcases commits with ⟨session, effects, result, swapped⟩
  rcases compareAndSwap_cases parseMobileSession sessionId revision mutate nowMs db with
    ⟨row, current, mutation, queued, stored, parsed, named, numbered, -, kept, advanced,
      queue, committing⟩ | ⟨code, failed⟩ | ⟨thrown, failed⟩
  · have columns := agree row stored
    have read := readsBack row.session_json current parsed
    have queued_row : queued.active_navigation =
        some ⟨mutation.session.sessionId, mutation.session.revision, mutation.session⟩ := by
      rw [queue, active_of_enqueues]
      rfl
    refine ⟨row, ⟨mutation.session.sessionId, mutation.session.revision, mutation.session⟩,
      stored, ?_, ?_, ?_, kept, advanced, rfl, rfl⟩
    · rw [columns.1, ← read.1, named]
    · rw [columns.2, ← read.2, numbered]
    · simp only [perform, committing, committed]
      cases mutation.alerts with
      | none => simpa using queued_row
      | some alerts => simpa using queued_row
  · rw [failed] at swapped
    cases swapped
  · rw [failed] at swapped
    cases swapped

theorem row_after (transaction : Transaction) :
    (perform parseMobileSession db transaction).active_navigation = none ∨
    (perform parseMobileSession db transaction).active_navigation = db.active_navigation ∨
    (∃ session, transaction = .createPreparing session ∧
      (perform parseMobileSession db transaction).active_navigation =
        some ⟨session.sessionId, session.revision, session⟩) ∨ (∃ sessionId revision mutate nowMs,
      transaction = .compareAndSwap sessionId revision mutate nowMs ∧
      Commits parseMobileSession db sessionId revision mutate nowMs) := by
  cases transaction with
  | createPreparing session =>
    rcases createPreparing_cases parseMobileSession session db with
      ⟨row, live, -, -, -, refused⟩ | ⟨-, cleared, created, -⟩
    · exact Or.inr (Or.inl (by simp only [perform, refused]))
    · exact Or.inr (Or.inr (Or.inl ⟨session, rfl, by simp only [perform, created]; rfl⟩))
  | compareAndSwap sessionId revision mutate nowMs =>
    by_cases commits : Commits parseMobileSession db sessionId revision mutate nowMs
    · exact Or.inr (Or.inr (Or.inr ⟨_, _, _, _, rfl, commits⟩))
    · right; left
      rw [perform_swap_failed parseMobileSession sessionId revision mutate nowMs db commits]
  | terminate sessionId finalStatus nowMs =>
    rcases terminate_cases parseMobileSession sessionId finalStatus nowMs db with
      ⟨_, ack, -, -, -, -, -, -, ended⟩ | ⟨-, ignored⟩
    · left
      simp only [perform, ended]
      rfl
    · right; left
      simp only [perform, ignored]
  | replaceScheduledAlerts sessionId alerts nowMs =>
    exact Or.inr (Or.inl (active_of_replace sessionId alerts nowMs db))
  | markAlert alertId state nowMs => exact Or.inr (Or.inl rfl)
  | enqueueEvent sessionId createdAtMs event =>
    exact Or.inr (Or.inl (active_of_enqueue sessionId createdAtMs event db))
  | ackEvents eventIds => exact Or.inr (Or.inl (active_of_ack eventIds db))
  | rememberCommand messageId sessionId response nowMs =>
    exact Or.inr (Or.inl (active_of_remember messageId sessionId response nowMs db))
  | quarantineCorruptSession sessionId reason nowMs =>
    exact Or.inl (active_of_quarantine sessionId reason nowMs db)

section

variable (readsBack : ReadsBack parseMobileSession)
include readsBack

theorem rows_agree_after (db : Database) (transaction : Transaction)
    (agree : RowsAgree db) : RowsAgree (perform parseMobileSession db transaction) := by
  intro row stored
  rcases row_after parseMobileSession db transaction with
    gone | kept | ⟨session, -, created⟩ | ⟨sessionId, revision, mutate, nowMs, swap, commits⟩
  · rw [gone] at stored
    cases stored
  · rw [kept] at stored
    exact agree row stored
  · rw [created] at stored
    cases stored
    exact ⟨rfl, rfl⟩
  · rw [swap] at stored
    rcases swap_rows parseMobileSession readsBack sessionId revision mutate nowMs db agree
      commits with ⟨_, after, -, -, -, left_behind, -, -, columns⟩
    rw [left_behind] at stored
    cases stored
    exact columns

theorem rows_agree_in_run (transactions : List Transaction) :
    RowsAgree (run (perform parseMobileSession) transactions emptyDatabase) := by
  apply run_keeps (fun db transaction =>
    rows_agree_after parseMobileSession readsBack db transaction)
  intro row stored
  cases stored

def Beyond (sessionId : String) (revision : Nat) (db : Database) : Prop :=
  ∀ row, db.active_navigation = some row → row.session_id = sessionId → revision < row.revision

theorem beyond_after (sessionId : String) (revision : Nat)
    (db : Database) (transaction : Transaction) (other : ¬ Creates sessionId transaction)
    (state : RowsAgree db ∧ Beyond sessionId revision db) :
    RowsAgree (perform parseMobileSession db transaction) ∧
      Beyond sessionId revision (perform parseMobileSession db transaction) := by
  refine ⟨rows_agree_after parseMobileSession readsBack db transaction state.1, ?_⟩
  intro row stored mine
  rcases row_after parseMobileSession db transaction with
    gone | kept | ⟨session, create, created⟩ | ⟨swapped, from_revision, mutate, nowMs, swap, commits⟩
  · rw [gone] at stored
    cases stored
  · rw [kept] at stored
    exact state.2 row stored mine
  · rw [created] at stored
    cases stored
    rw [create] at other
    exact absurd mine other
  · rw [swap] at stored
    rcases swap_rows parseMobileSession readsBack swapped from_revision mutate nowMs db state.1
      commits with ⟨before, after, found, named, numbered, left_behind, renamed, advanced, -⟩
    rw [left_behind] at stored
    cases stored
    have older := state.2 before found (by rw [named, ← renamed, mine])
    omega

theorem no_commit_beyond (sessionId : String) (revision : Nat)
    (mutate : MobileNavigationSession → Except Thrown RepositoryMutation) (nowMs : ℤ)
    (db : Database) (agree : RowsAgree db) (beyond : Beyond sessionId revision db) :
    ¬ Commits parseMobileSession db sessionId revision mutate nowMs := by
  intro commits
  rcases swap_rows parseMobileSession readsBack sessionId revision mutate nowMs db agree
    commits with ⟨before, after, found, named, numbered, -⟩
  have later := beyond before found named
  omega

end

def AcksDistinct (db : Database) : Prop := (db.terminal_ack.map (·.sessionId)).Nodup

theorem acks_after_upsert (ack : MobileTerminalAck) (db : Database) (distinct : AcksDistinct db) :
    AcksDistinct (UPSERT_TERMINAL_ACK ack db) := by
  unfold AcksDistinct UPSERT_TERMINAL_ACK
  by_cases known : db.terminal_ack.any (·.sessionId == ack.sessionId)
  · simp only [known, if_true, map_map]
    have same : ((fun row : MobileTerminalAck => row.sessionId) ∘ fun row =>
        if row.sessionId == ack.sessionId then
          { row with finalStatus := ack.finalStatus, finalRevision := ack.finalRevision,
                     completedAtMs := ack.completedAtMs }
        else row) = fun row => row.sessionId := by
      funext row
      simp only [Function.comp_apply]
      split_ifs <;> rfl
    rw [same]
    exact distinct
  · simp only [known, Bool.false_eq_true, if_false, map_append, map_cons, map_nil]
    rw [nodup_append]
    refine ⟨distinct, by simp, ?_⟩
    intro old member new added same
    rw [mem_singleton] at added
    rcases mem_map.mp member with ⟨row, held, named⟩
    apply known
    rw [any_eq_true]
    exact ⟨row, held, by simp [named, same, added]⟩

theorem acks_after (transaction : Transaction) (distinct : AcksDistinct db) :
    AcksDistinct (perform parseMobileSession db transaction) := by
  cases transaction with
  | createPreparing session =>
    rcases createPreparing_cases parseMobileSession session db with
      ⟨_, _, -, -, -, refused⟩ | ⟨-, cleared, created, ⟨rfl, -⟩ | ⟨row, -, rfl⟩⟩
    · simp only [perform, refused]
      exact distinct
    · simp only [perform, created]
      exact distinct
    · simp only [perform, created]
      exact distinct
  | compareAndSwap sessionId revision mutate nowMs =>
    rcases compareAndSwap_cases parseMobileSession sessionId revision mutate nowMs db with
      ⟨_, _, mutation, queued, -, -, -, -, -, -, -, queue, swapped⟩ | ⟨code, failed⟩ |
        ⟨thrown, failed⟩
    · rcases only_events_of_enqueues sessionId nowMs (mutation.enqueue.getD [])
        (writeActive mutation.session db) with ⟨events, added⟩
      rw [added] at queue
      simp only [perform, swapped, committed]
      cases mutation.alerts with
      | none =>
        rw [queue]
        exact distinct
      | some alerts =>
        rcases only_alerts_of_replace sessionId alerts nowMs queued with ⟨rows, replaced⟩
        simp only [Option.map_some, Option.getD_some]
        rw [replaced, queue]
        exact distinct
    · simp only [perform, failed, committed]
      exact distinct
    · simp only [perform, failed, committed]
      exact distinct
  | terminate sessionId finalStatus nowMs =>
    rcases terminate_cases parseMobileSession sessionId finalStatus nowMs db with
      ⟨_, ack, -, -, -, -, -, -, ended⟩ | ⟨-, ignored⟩
    · simp only [perform, ended]
      exact acks_after_upsert ack db distinct
    · simp only [perform, ignored]
      exact distinct
  | replaceScheduledAlerts sessionId alerts nowMs =>
    rcases only_alerts_of_replace sessionId alerts nowMs db with ⟨rows, replaced⟩
    simp only [perform, replaceScheduledAlerts, replaced]
    exact distinct
  | markAlert alertId state nowMs => exact distinct
  | enqueueEvent sessionId createdAtMs event =>
    rcases only_events_of_enqueue sessionId createdAtMs event db with ⟨events, queued⟩
    simp only [perform, enqueueEvent, queued]
    exact distinct
  | ackEvents eventIds =>
    rcases only_events_of_ack eventIds db with ⟨events, acked⟩
    simp only [perform, acked]
    exact distinct
  | rememberCommand messageId sessionId response nowMs =>
    rcases only_commands_of_remember messageId sessionId response nowMs db with
      ⟨commands, remembered⟩
    simp only [perform, remembered]
    exact distinct
  | quarantineCorruptSession sessionId reason nowMs =>
    have kept : (quarantineCorruptSession sessionId reason nowMs db).terminal_ack =
        db.terminal_ack := by
      cases sessionId with
      | none => rfl
      | some sessionId =>
        simp only [quarantineCorruptSession]
        split_ifs <;> rfl
    simp only [perform, AcksDistinct, kept]
    exact distinct

theorem acked_after_terminate (row : ActiveRow)
    (stored : db.active_navigation = some row) (mine : row.session_id = sessionId) :
    ∃ ack ∈ (perform parseMobileSession db (.terminate sessionId finalStatus nowMs)).terminal_ack,
      ack.sessionId = sessionId ∧ ack.finalStatus = finalStatus ∧
        ack.finalRevision = row.revision ∧ ack.completedAtMs = nowMs := by
  rcases terminate_cases parseMobileSession sessionId finalStatus nowMs db with
    ⟨other, ack, found, -, named, status, revision, completed, ended⟩ | ⟨gone, -⟩
  · rw [stored, Option.some.injEq] at found
    subst found
    have rows : (perform parseMobileSession db
        (.terminate sessionId finalStatus nowMs)).terminal_ack =
          (UPSERT_TERMINAL_ACK ack db).terminal_ack := by
      simp only [perform, ended]
      rfl
    rw [rows, UPSERT_TERMINAL_ACK]
    by_cases known : db.terminal_ack.any (·.sessionId == ack.sessionId)
    · simp only [known, if_true]
      rcases any_eq_true.mp known with ⟨old, member, same⟩
      refine ⟨_, mem_map.mpr ⟨old, member, rfl⟩, ?_⟩
      simp only [same, if_true]
      exact ⟨by rw [← named]; simpa using same, status, revision, completed⟩
    · simp only [known, Bool.false_eq_true, if_false]
      exact ⟨ack, mem_append_right _ (mem_singleton_self _), named, status, revision,
        completed⟩
  · exact absurd mine (gone row stored)

def Gone (sessionId : String) (db : Database) : Prop :=
  ∀ row, db.active_navigation = some row → row.session_id ≠ sessionId

theorem terminate_gone (gone : Gone sessionId db) :
    perform parseMobileSession db (.terminate sessionId finalStatus nowMs) = db := by
  rcases terminate_cases parseMobileSession sessionId finalStatus nowMs db with
    ⟨row, _, stored, mine, -⟩ | ⟨-, ignored⟩
  · exact absurd mine (gone row stored)
  · simp only [perform, ignored]

theorem gone_after_terminate :
    Gone sessionId (perform parseMobileSession db (.terminate sessionId finalStatus nowMs)) := by
  rcases terminate_cases parseMobileSession sessionId finalStatus nowMs db with
    ⟨_, ack, -, -, -, -, -, -, ended⟩ | ⟨other, ignored⟩
  · intro row stored
    simp only [perform, ended] at stored
    cases stored
  · simp only [perform, ignored]
    exact other

theorem gone_after (readsBack : ReadsBack parseMobileSession) (sessionId : String) (db : Database)
    (transaction : Transaction) (other : ¬ Creates sessionId transaction)
    (state : RowsAgree db ∧ Gone sessionId db) :
    RowsAgree (perform parseMobileSession db transaction) ∧
      Gone sessionId (perform parseMobileSession db transaction) := by
  refine ⟨rows_agree_after parseMobileSession readsBack db transaction state.1, ?_⟩
  intro row stored mine
  rcases row_after parseMobileSession db transaction with
    gone | kept | ⟨session, create, created⟩ | ⟨swapped, revision, mutate, nowMs, swap, commits⟩
  · rw [gone] at stored
    cases stored
  · rw [kept] at stored
    exact state.2 row stored mine
  · rw [created] at stored
    cases stored
    rw [create] at other
    exact other mine
  · rw [swap] at stored
    rcases swap_rows parseMobileSession readsBack swapped revision mutate nowMs db state.1
      commits with ⟨before, after, found, named, -, left_behind, renamed, -⟩
    rw [left_behind] at stored
    cases stored
    exact state.2 before found (by rw [named, ← renamed, mine])

def Reached (parseMobileSession : ParseMobileSession) (db : Database) : Prop :=
  ∃ transactions, db = run (perform parseMobileSession) transactions emptyDatabase

/-- Each session's history is one chain of revisions, in every state that is reached. -/
structure SerialisesWriters (parseMobileSession : ParseMobileSession) (db : Database) : Prop where
  one_row : RowsAgree db
  advances : ∀ sessionId revision mutate nowMs,
    Commits parseMobileSession db sessionId revision mutate nowMs →
      ∃ before after,
        db.active_navigation = some before ∧ before.session_id = sessionId ∧
        before.revision = revision ∧
        (perform parseMobileSession db
          (.compareAndSwap sessionId revision mutate nowMs)).active_navigation = some after ∧
        after.session_id = sessionId ∧ after.revision = revision + 1
  one_winner : ∀ sessionId revision mutate nowMs,
    Commits parseMobileSession db sessionId revision mutate nowMs →
      ∀ between, (∀ transaction ∈ between, ¬ Creates sessionId transaction) →
        ∀ other later, ¬ Commits parseMobileSession
          (run (perform parseMobileSession) between (perform parseMobileSession db
            (.compareAndSwap sessionId revision mutate nowMs))) sessionId revision other later
  never_displaced : ∀ row live, db.active_navigation = some row →
    parseMobileSession row.session_json = .ok live →
    TERMINAL_STATUSES.contains live.status = false →
      ∀ session, createPreparing parseMobileSession session db = (.failed .sessionActive, db)
  no_trace : ∀ sessionId revision mutate nowMs,
    ¬ Commits parseMobileSession db sessionId revision mutate nowMs →
      perform parseMobileSession db (.compareAndSwap sessionId revision mutate nowMs) = db
  one_ack : AcksDistinct db
  acknowledged : ∀ row sessionId finalStatus nowMs, db.active_navigation = some row →
    row.session_id = sessionId →
      ∃ ack ∈ (perform parseMobileSession db
          (.terminate sessionId finalStatus nowMs)).terminal_ack,
        ack.sessionId = sessionId ∧ ack.finalStatus = finalStatus ∧
          ack.finalRevision = row.revision ∧ ack.completedAtMs = nowMs
  ends_once : ∀ sessionId finalStatus nowMs between,
    (∀ transaction ∈ between, ¬ Creates sessionId transaction) →
      ∀ other later, perform parseMobileSession
          (run (perform parseMobileSession) between
            (perform parseMobileSession db (.terminate sessionId finalStatus nowMs)))
          (.terminate sessionId other later) =
        run (perform parseMobileSession) between
          (perform parseMobileSession db (.terminate sessionId finalStatus nowMs))

theorem store_serialises_writers (parseMobileSession : ParseMobileSession)
    (readsBack : ReadsBack parseMobileSession) (db : Database)
    (reached : Reached parseMobileSession db) : SerialisesWriters parseMobileSession db := by
  rcases reached with ⟨transactions, rfl⟩
  have agree := rows_agree_in_run parseMobileSession readsBack transactions
  have distinct : AcksDistinct (run (perform parseMobileSession) transactions emptyDatabase) :=
    run_keeps (fun db transaction => acks_after parseMobileSession db transaction) _ _ (by
      simp [AcksDistinct, emptyDatabase])
  constructor
  · exact agree
  · intro sessionId revision mutate nowMs commits
    rcases swap_rows parseMobileSession readsBack sessionId revision mutate nowMs _ agree commits
      with ⟨before, after, found, named, numbered, left_behind, renamed, advanced, -⟩
    exact ⟨before, after, found, named, numbered, left_behind, renamed, advanced⟩
  · intro sessionId revision mutate nowMs commits between others other later
    have past : Beyond sessionId revision (perform parseMobileSession
        (run (perform parseMobileSession) transactions emptyDatabase)
        (.compareAndSwap sessionId revision mutate nowMs)) := by
      rcases swap_rows parseMobileSession readsBack sessionId revision mutate nowMs _ agree
        commits with ⟨_, after, -, -, -, left_behind, -, advanced, -⟩
      intro row stored _
      rw [left_behind] at stored
      cases stored
      omega
    have after_between := run_invariant
      (fun db transaction allowed state =>
        beyond_after parseMobileSession readsBack sessionId revision db transaction allowed state)
      between others _ ⟨rows_agree_after parseMobileSession readsBack _ _ agree, past⟩
    exact no_commit_beyond parseMobileSession readsBack sessionId revision other later _
      after_between.1 after_between.2
  · intro row live stored parsed alive session
    rcases createPreparing_cases parseMobileSession session
        (run (perform parseMobileSession) transactions emptyDatabase) with
      ⟨_, _, -, -, -, refused⟩ | ⟨finished, -⟩
    · exact refused
    · have ended := finished row live stored parsed
      rw [alive] at ended
      cases ended
  · intro sessionId revision mutate nowMs lost
    exact perform_swap_failed parseMobileSession sessionId revision mutate nowMs _ lost
  · exact distinct
  · intro row sessionId finalStatus nowMs stored mine
    exact acked_after_terminate parseMobileSession sessionId finalStatus nowMs _ row stored mine
  · intro sessionId finalStatus nowMs between others other later
    have after_between := run_invariant
      (fun db transaction allowed state =>
        gone_after parseMobileSession readsBack sessionId db transaction allowed state)
      between others _ ⟨rows_agree_after parseMobileSession readsBack _ _ agree,
        gone_after_terminate parseMobileSession sessionId finalStatus nowMs _⟩
    exact terminate_gone parseMobileSession sessionId other later _ after_between.2

def preparedSession : MobileNavigationSession where
  sessionId := "session-1"
  revision := 1
  status := .preparing
  startedAtMs := 0
  updatedAtMs := 0
  expiresAtMs := 86400000
  locale := .en
  units := .metric
  connectivity := .unknown
  permissionMode := .foregroundOnly
  cueLedger := { spoken := [], events := [] }
  lastAcceptedFix := none
  payload := .ground { reroute := { status := .idle, requestId := none, attempts := 0,
                                    nextAttemptAtMs := none, lastFailureCode := none } }

theorem prepared_store_serialises : SerialisesWriters .ok
      (run (perform .ok) [.createPreparing preparedSession] emptyDatabase) := by
  apply store_serialises_writers
  · intro stored session read
    cases read
    exact ⟨rfl, rfl⟩
  · exact ⟨[.createPreparing preparedSession], rfl⟩

end OpenMapX.Mobile.StoreWriters
