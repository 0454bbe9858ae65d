import Mathlib.Data.List.Dedup
import OpenMapX.Mobile.StoreWriters

/-!
# Remembered replies

What becomes of the table of replies: a session that leaves the store takes the
replies that name it along, an expired reply goes, and of more than the limit the
oldest go. Nothing else removes a reply, and only `rememberCommand` adds one.
-/

namespace OpenMapX.Mobile.RememberedReplies

open SessionStore StoreWriters List

def storedId (db : Database) : Option String := db.active_navigation.map ActiveRow.session_id

/-- The stored session stays, leaves, or is a new one, and only the replies that name a
session that leaves are removed. -/
structure Fades (newSessionId : String) (before after : Database) : Prop where
  agree : RowsAgree after
  sublist : after.processed_commands.Sublist before.processed_commands
  stored : storedId after = storedId before ∨ storedId after = none ∨
    storedId after = some newSessionId
  dropped : ∀ row ∈ before.processed_commands, row ∉ after.processed_commands →
    ∃ sessionId, row.session_id = some sessionId ∧
      (sessionId = newSessionId ∨
        storedId before = some sessionId ∧ storedId after ≠ some sessionId)

section

variable (newSessionId : String)

theorem Fades.refl {db} (agree : RowsAgree db) : Fades newSessionId db db where
  agree := agree
  sublist := List.Sublist.refl _
  stored := Or.inl rfl
  dropped := by
    intro row member absent
    exact absurd member absent

variable {newSessionId}

theorem Fades.still_gone {before after} {sessionId : String}
    (fades : Fades newSessionId before after) (other : sessionId ≠ newSessionId)
    (gone : storedId before ≠ some sessionId) : storedId after ≠ some sessionId := by
  intro back
  rcases fades.stored with same | changed
  · exact gone (same ▸ back)
  · rcases changed with nothing | fresh
    · rw [nothing] at back
      cases back
    · rw [fresh] at back
      cases back
      exact other rfl

theorem Fades.trans {first second third} (before : Fades newSessionId first second)
    (after : Fades newSessionId second third) : Fades newSessionId first third where
  agree := after.agree
  sublist := after.sublist.trans before.sublist
  stored := by
    rcases after.stored with same | changed
    · rw [same]
      exact before.stored
    · exact Or.inr changed
  dropped := by
    intro row member absent
    by_cases kept : row ∈ second.processed_commands
    · have dropped := after.dropped row kept absent
      obtain ⟨sessionId, found⟩ := dropped
      apply Exists.intro sessionId
      apply And.intro found.1
      by_cases other : sessionId = newSessionId
      · exact Or.inl other
      · have left := found.2.resolve_left other
        apply Or.inr
        apply And.intro _ left.2
        by_contra absentBefore
        exact before.still_gone other absentBefore left.1
    · have dropped := before.dropped row member kept
      obtain ⟨sessionId, found⟩ := dropped
      apply Exists.intro sessionId
      apply And.intro found.1
      by_cases other : sessionId = newSessionId
      · exact Or.inl other
      · have left := found.2.resolve_left other
        exact Or.inr (And.intro left.1 (after.still_gone other left.2))

theorem Fades.same {before after} (agree : RowsAgree before)
    (sameRow : after.active_navigation = before.active_navigation)
    (sameReplies : after.processed_commands = before.processed_commands) :
    Fades newSessionId before after where
  agree := by
    intro row stored
    exact agree row (sameRow ▸ stored)
  sublist := by rw [sameReplies]
  stored := by
    apply Or.inl
    rw [storedId, storedId, sameRow]
  dropped := by
    intro row member absent
    rw [sameReplies] at absent
    exact absurd member absent

variable (parseMobileSession : ParseMobileSession) (sessionId : String)

theorem Fades.ended {before after}
    (stored : storedId before = some sessionId) (gone : after.active_navigation = none)
    (replies : after.processed_commands =
      before.processed_commands.filter (·.session_id != some sessionId)) :
    Fades newSessionId before after where
  agree := by
    intro row found
    rw [gone] at found
    cases found
  sublist := by
    rw [replies]
    exact filter_sublist
  stored := by
    apply Or.inr
    apply Or.inl
    rw [storedId, gone]
    rfl
  dropped := by
    intro row member absent
    apply Exists.intro sessionId
    rw [replies, mem_filter] at absent
    have named : row.session_id = some sessionId := by
      by_contra other
      exact absent (And.intro member (by simpa using other))
    apply And.intro named
    apply Or.inr
    apply And.intro stored
    rw [storedId, gone]
    intro back
    cases back

theorem quarantine_fades (db : Database) (row : ActiveRow) (reason : String) (nowMs : ℤ)
    (stored : db.active_navigation = some row) :
    Fades newSessionId db (quarantineCorruptSession (some row.session_id) reason nowMs db) := by
  have id : storedId db = some row.session_id := by
    rw [storedId, stored]
    rfl
  by_cases named : row.session_id = ""
  · exact {
      agree := by
        intro other found
        rw [active_of_quarantine] at found
        cases found
      sublist := by
        simp only [quarantineCorruptSession, named]
        exact List.Sublist.refl _
      stored := by
        apply Or.inr
        apply Or.inl
        rw [storedId, active_of_quarantine]
        rfl
      dropped := by
        intro other member absent
        simp only [quarantineCorruptSession, named] at absent
        exact absurd member absent }
  · apply Fades.ended row.session_id id
    · exact active_of_quarantine _ _ _ _
    · have other : (row.session_id == "") = false := by
        simpa using named
      simp only [quarantineCorruptSession, other]
      rfl

theorem load_fades (nowMs : ℤ) (db : Database)
    (agree : RowsAgree db) : Fades newSessionId db (loadActive parseMobileSession nowMs db).2 := by
  unfold loadActive inspectActive
  cases stored : db.active_navigation with
  | none => exact Fades.refl newSessionId agree
  | some row =>
    dsimp only
    cases parsed : parseMobileSession row.session_json with
    | ok session => exact Fades.refl newSessionId agree
    | error code => exact quarantine_fades db row code.text nowMs stored

theorem terminate_fades
    (finalStatus : SessionStatus) (nowMs : ℤ) (db : Database) (agree : RowsAgree db) :
    Fades newSessionId db (terminate parseMobileSession sessionId finalStatus nowMs db).2 := by
  have cases := terminate_cases parseMobileSession sessionId finalStatus nowMs db
  rcases cases with ended | ignored
  · obtain ⟨row, found⟩ := ended
    obtain ⟨ack, found⟩ := found
    rw [found.2.2.2.2.2.2]
    apply Fades.ended sessionId
    · rw [storedId, found.1, ← found.2.1]
      rfl
    · rfl
    · rfl
  · rw [ignored.2]
    exact Fades.refl newSessionId agree

theorem commands_of_enqueues (nowMs : ℤ) (added : List EnqueuedEvent) (db : Database) :
    (added.foldl (fun db event => enqueueEventIn sessionId nowMs event db) db).processed_commands =
      db.processed_commands := by
  have queued := only_events_of_enqueues sessionId nowMs added db
  obtain ⟨events, same⟩ := queued
  rw [same]

theorem commands_of_alerts (alerts) (nowMs : ℤ) (db : Database) :
    (replaceAlertsIn sessionId alerts nowMs db).processed_commands = db.processed_commands := by
  have replaced := only_alerts_of_replace sessionId alerts nowMs db
  obtain ⟨rows, same⟩ := replaced
  rw [same]

theorem alerts_fade (alerts) (nowMs : ℤ) (db : Database) (agree : RowsAgree db) :
    Fades newSessionId db (replaceAlertsIn sessionId alerts nowMs db) :=
  Fades.same agree (active_of_replace sessionId alerts nowMs db)
    (commands_of_alerts sessionId alerts nowMs db)

theorem swap_fades (readsBack : ReadsBack parseMobileSession) (sessionId : String) (revision : Nat)
    (mutate : MobileNavigationSession → Except Thrown RepositoryMutation) (nowMs : ℤ)
    (db : Database) (agree : RowsAgree db) (result : CommitResult) (after : Database)
    (swapped : compareAndSwap parseMobileSession sessionId revision mutate nowMs db =
      .ok (result, after)) : Fades newSessionId db after := by
  rcases compareAndSwap_cases parseMobileSession sessionId revision mutate nowMs db with
    ⟨row, current, mutation, queued, stored, parsed, named, -, -, kept, -, queue, committing⟩ |
    ⟨code, failed⟩ | ⟨thrown, failed⟩
  · have columns := (agree row stored).1
    have read := (readsBack row.session_json current parsed).1
    have same : row.session_id = sessionId := by rw [columns, ← read, named]
    have written : Fades newSessionId db queued := {
      agree := by
        intro other found
        rw [queue, active_of_enqueues] at found
        cases found
        exact And.intro rfl rfl
      sublist := by
        rw [queue, commands_of_enqueues]
        exact List.Sublist.refl _
      stored := by
        apply Or.inl
        rw [storedId, storedId, queue, active_of_enqueues, stored]
        exact congrArg some (kept.trans same.symm)
      dropped := by
        intro other member absent
        rw [queue, commands_of_enqueues] at absent
        exact absurd member absent }
    rw [committing] at swapped
    cases swapped
    cases mutation.alerts with
    | none => exact written
    | some alerts => exact written.trans (alerts_fade sessionId alerts nowMs queued written.agree)
  · rw [failed] at swapped
    cases swapped
    exact Fades.refl newSessionId agree
  · rw [failed] at swapped
    cases swapped

theorem create_fades (session)
    (db : Database) (agree : RowsAgree db) (named : session.sessionId = newSessionId) :
    Fades newSessionId db (createPreparing parseMobileSession session db).2 := by
  have cases := createPreparing_cases parseMobileSession session db
  have written : ∀ cleared : Database, storedId (writeActive session cleared) =
      some newSessionId := by
    intro cleared
    rw [← named]
    rfl
  have agrees : ∀ cleared : Database, RowsAgree (writeActive session cleared) := by
    intro cleared row stored
    cases stored
    exact And.intro rfl rfl
  rcases cases with ⟨row, live, -, -, -, refused⟩ | ⟨-, cleared, created, which⟩
  · rw [refused]
    exact Fades.refl newSessionId agree
  · rw [created]
    rcases which with empty | displaced
    · rw [empty.1]
      exact {
        agree := agrees db
        sublist := List.Sublist.refl _
        stored := Or.inr (Or.inr (written db))
        dropped := by
          intro row member absent
          exact absurd member absent }
    · obtain ⟨row, found⟩ := displaced
      have leaves : Fades newSessionId db (deleteSessionRows row.session_id db) := by
        apply Fades.ended row.session_id
        · rw [storedId, found.1]
          rfl
        · rfl
        · rfl
      rw [found.2]
      exact {
        agree := agrees _
        sublist := leaves.sublist
        stored := Or.inr (Or.inr (written _))
        dropped := by
          intro other member absent
          have dropped := leaves.dropped other member absent
          obtain ⟨sessionId, found⟩ := dropped
          apply Exists.intro sessionId
          apply And.intro found.1
          by_cases same : sessionId = newSessionId
          · exact Or.inl same
          · apply Or.inr
            apply And.intro (found.2.resolve_left same).1
            rw [written]
            intro back
            cases back
            exact same rfl }

end

structure Recorded (history : List (String × ℤ)) (replies : List CommandRow) : Prop where
  distinct : (replies.map CommandRow.message_id).Nodup
  delivered : ∀ row ∈ replies, (row.message_id, row.created_at_ms) ∈ history
  lasting : ∀ row ∈ replies,
    row.expires_at_ms = row.created_at_ms + PROCESSED_COMMAND_TTL_MS

def messagesSince (time : ℤ) (history : List (String × ℤ)) : List String :=
  (history.filter fun entry => decide (time ≤ entry.2)).map Prod.fst

section

variable {history : List (String × ℤ)} {replies : List CommandRow}

variable (recorded : Recorded history replies)
include recorded

theorem Recorded.sublist {fewer}
    (sublist : fewer.Sublist replies) : Recorded history fewer where
  distinct := recorded.distinct.sublist (sublist.map _)
  delivered := by
    intro row member
    exact recorded.delivered row (sublist.subset member)
  lasting := by
    intro row member
    exact recorded.lasting row (sublist.subset member)

theorem Recorded.longer (later) : Recorded (history ++ later) replies where
  distinct := recorded.distinct
  delivered := by
    intro row member
    exact mem_append_left later (recorded.delivered row member)
  lasting := recorded.lasting

theorem Recorded.same_row {row other} (first : row ∈ replies) (second : other ∈ replies)
    (same : row.message_id = other.message_id) : row = other :=
  inj_on_of_nodup_map recorded.distinct first second same

omit recorded

theorem insert_recorded (messageId : String) (sessionId : Option String)
    (response : CommandResponse) (nowMs : ℤ) (db : Database)
    (recorded : Recorded history db.processed_commands) : Recorded (history ++ [(messageId, nowMs)])
      (INSERT_PROCESSED_COMMAND
        { message_id := messageId, session_id := sessionId, response_json := response,
          created_at_ms := nowMs, expires_at_ms := nowMs + PROCESSED_COMMAND_TTL_MS }
        db).processed_commands := by
  unfold INSERT_PROCESSED_COMMAND
  split
  · exact recorded.longer _
  · rename_i unknown
    have absent : ∀ row ∈ db.processed_commands, row.message_id ≠ messageId := by
      intro row member same
      apply unknown
      rw [any_eq_true]
      apply Exists.intro row
      exact And.intro member (by simpa using same)
    exact {
      distinct := by
        rw [map_append, nodup_append]
        apply And.intro recorded.distinct
        apply And.intro (nodup_singleton _)
        intro id member other single same
        have named := mem_map.mp member
        obtain ⟨row, found⟩ := named
        apply absent row found.1
        rw [found.2, same]
        exact mem_singleton.mp single
      delivered := by
        intro row member
        apply Or.elim (mem_append.mp member)
        · intro old
          exact mem_append_left _ (recorded.delivered row old)
        · intro new
          rw [mem_singleton.mp new]
          exact mem_append_right _ (mem_singleton_self _)
      lasting := by
        intro row member
        apply Or.elim (mem_append.mp member)
        · intro old
          exact recorded.lasting row old
        · intro new
          rw [mem_singleton.mp new] }

instance : Std.Total processedLater where
  total left right := by
    unfold processedLater
    rcases lt_trichotomy left.created_at_ms right.created_at_ms with older | same | younger
    · exact Or.inr (Or.inl older)
    · rcases String.le_total left.message_id right.message_id with first | second
      · exact Or.inr (Or.inr (And.intro same.symm first))
      · exact Or.inl (Or.inr (And.intro same second))
    · exact Or.inl (Or.inl younger)

instance : IsTrans CommandRow processedLater where
  trans first second third before after := by
    unfold processedLater at before after ⊢
    rcases before with younger | level
    · apply Or.inl
      rcases after with still | level
      · exact lt_trans still younger
      · exact level.1 ▸ younger
    · rcases after with older | other
      · apply Or.inl
        rw [level.1]
        exact older
      · exact Or.inr (And.intro (level.1.trans other.1)
          (String.le_trans other.2 level.2))

theorem trim_keeps (limit : Nat) (recorded : Recorded history replies) (row : CommandRow)
    (member : row ∈ replies) (few : (messagesSince row.created_at_ms history).dedup.length ≤ limit)
    : row.message_id ∉ ((replies.insertionSort processedLater).drop limit).map
      CommandRow.message_id := by
  intro beyond
  have sorted := pairwise_insertionSort processedLater replies
  have perm := perm_insertionSort processedLater replies
  have named := mem_map.mp beyond
  obtain ⟨other, found⟩ := named
  have same : other = row := recorded.same_row
    (perm.subset (mem_of_mem_drop found.1)) member found.2
  rw [same] at found
  have long : limit < (replies.insertionSort processedLater).length := by
    by_contra short
    rw [drop_eq_nil_of_le (Nat.le_of_not_lt short)] at found
    cases found.1
  let younger := (replies.insertionSort processedLater).take limit ++ [row]
  have within : younger.Subperm replies := by
    have sub : younger.Sublist (replies.insertionSort processedLater) := by
      conv_rhs => rw [← take_append_drop limit (replies.insertionSort processedLater)]
      exact (List.Sublist.refl _).append (singleton_sublist.mpr found.1)
    exact sub.subperm.trans perm.subperm
  have ids : (younger.map CommandRow.message_id).Nodup :=
    (recorded.distinct.perm (perm.symm.map _)).sublist (by
      apply List.Sublist.map
      conv_rhs => rw [← take_append_drop limit (replies.insertionSort processedLater)]
      exact (List.Sublist.refl _).append (singleton_sublist.mpr found.1))
  have since : younger.map CommandRow.message_id ⊆
      (messagesSince row.created_at_ms history).dedup := by
    intro id listed
    have chosen := mem_map.mp listed
    obtain ⟨young, is⟩ := chosen
    have recent : row.created_at_ms ≤ young.created_at_ms := by
      apply Or.elim (mem_append.mp is.1)
      · intro taken
        rw [← take_append_drop limit (replies.insertionSort processedLater),
          pairwise_append] at sorted
        have later := sorted.2.2 young taken row found.1
        unfold processedLater at later
        omega
      · intro last
        rw [mem_singleton.mp last]
    have listed := recorded.delivered young (within.subset is.1)
    rw [mem_dedup, messagesSince, mem_map]
    apply Exists.intro (young.message_id, young.created_at_ms)
    apply And.intro _ is.2
    rw [mem_filter]
    exact And.intro listed (by simpa using recent)
  have count := (subperm_of_subset ids since).length_le
  have size : younger.length = limit + 1 := by
    rw [length_append, length_take, Nat.min_eq_left (Nat.le_of_lt long)]
    rfl
  rw [length_map, size] at count
  omega

theorem remember_recorded (messageId : String) (sessionId : Option String)
    (response : CommandResponse) (nowMs : ℤ) (db : Database)
    (recorded : Recorded history db.processed_commands) : Recorded (history ++ [(messageId, nowMs)])
      (rememberCommand messageId sessionId response nowMs db).processed_commands := by
  apply (insert_recorded messageId sessionId response nowMs db recorded).sublist
  exact filter_sublist.trans filter_sublist

theorem remember_keeps (messageId : String) (sessionId : Option String) (response : CommandResponse)
    (nowMs : ℤ) (db : Database) (recorded : Recorded history db.processed_commands)
    (row : CommandRow) (member : row ∈ (INSERT_PROCESSED_COMMAND
      { message_id := messageId, session_id := sessionId, response_json := response,
        created_at_ms := nowMs, expires_at_ms := nowMs + PROCESSED_COMMAND_TTL_MS }
      db).processed_commands) (unexpired : nowMs < row.expires_at_ms)
    (few : (messagesSince row.created_at_ms (history ++ [(messageId, nowMs)])).dedup.length ≤
      MAX_PROCESSED_COMMANDS) :
    row ∈ (rememberCommand messageId sessionId response nowMs db).processed_commands := by
  have inserted := insert_recorded messageId sessionId response nowMs db recorded
  have alive : row ∈ (DELETE_EXPIRED_COMMANDS nowMs (INSERT_PROCESSED_COMMAND
      { message_id := messageId, session_id := sessionId, response_json := response,
        created_at_ms := nowMs, expires_at_ms := nowMs + PROCESSED_COMMAND_TTL_MS }
      db)).processed_commands := by
    apply mem_filter.mpr
    exact And.intro member (by simpa using unexpired)
  have kept := trim_keeps MAX_PROCESSED_COMMANDS (inserted.sublist filter_sublist) row alive
    few
  apply mem_filter.mpr
  apply And.intro alive
  rw [Bool.not_eq_true', Bool.eq_false_iff]
  intro beyond
  exact kept (contains_iff_mem.mp beyond)

theorem lookup_finds (nowMs : ℤ) (db : Database)
    (recorded : Recorded history db.processed_commands) (row : CommandRow)
    (member : row ∈ db.processed_commands) (unexpired : nowMs < row.expires_at_ms) :
    lookupCommand row.message_id nowMs db = some row.response_json := by
  have found : SELECT_PROCESSED_COMMAND row.message_id db = some row := by
    unfold SELECT_PROCESSED_COMMAND
    cases searched : db.processed_commands.find? (·.message_id == row.message_id) with
    | none =>
      have absent := find?_eq_none.mp searched row member
      simp at absent
    | some other =>
      have named := find?_some searched
      have same : other.message_id = row.message_id := by simpa using named
      rw [recorded.same_row (mem_of_find?_eq_some searched) member same]
  unfold lookupCommand
  rw [found]
  dsimp only
  rw [if_neg (not_le_of_gt unexpired)]

theorem lookup_unknown (messageId : String) (nowMs : ℤ) (db : Database)
    (recorded : Recorded history db.processed_commands)
    (unknown : messageId ∉ history.map Prod.fst) : lookupCommand messageId nowMs db = none := by
  have absent : SELECT_PROCESSED_COMMAND messageId db = none := by
    apply find?_eq_none.mpr
    intro row member same
    apply unknown
    rw [mem_map]
    apply Exists.intro (row.message_id, row.created_at_ms)
    exact And.intro (recorded.delivered row member) (by simpa using same)
  unfold lookupCommand
  rw [absent]

end

end OpenMapX.Mobile.RememberedReplies
