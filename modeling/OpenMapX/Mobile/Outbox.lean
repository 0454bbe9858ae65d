import OpenMapX.Mobile.StoreWriters

/-!
# The event outbox

The events of a session that the page has not acknowledged. Rows are appended, and
removed anywhere, and every new row takes the next sequence number after those that
are left. The listing is therefore the table's own order.
-/

namespace OpenMapX.Mobile.Outbox

open Foundation.Runs SessionStore StoreWriters List

inductive Step where
  | enqueue (sessionId : String) (createdAtMs : ℤ) (event : EnqueuedEvent)
  | ack (eventIds : List String)
  | createPreparing (session : MobileNavigationSession)
  | terminate (sessionId : String) (finalStatus : SessionStatus) (nowMs : ℤ)
  | quarantine (sessionId : Option String) (reason : String) (nowMs : ℤ)

def step (parseMobileSession : ParseMobileSession) (db : Database) : Step → Database
  | .enqueue sessionId createdAtMs event => enqueueEvent sessionId createdAtMs event db
  | .ack eventIds => ackEvents eventIds db
  | .createPreparing session => (createPreparing parseMobileSession session db).2
  | .terminate sessionId finalStatus nowMs =>
    (terminate parseMobileSession sessionId finalStatus nowMs db).2
  | .quarantine sessionId reason nowMs => quarantineCorruptSession sessionId reason nowMs db

def listed (sessionId : String) (db : Database) : List String :=
  (listPendingEvents sessionId db).map (·.event_id)

def before (parseMobileSession : ParseMobileSession) (steps : List Step) (index : Nat) : Database :=
  run (step parseMobileSession) (steps.take index) emptyDatabase

/-- The step is the enqueue that appended this row, which has been stored ever since. -/
structure StoredBy (parseMobileSession : ParseMobileSession) (steps : List Step)
    (sessionId : String) (row : EventRow) (index : Nat) : Prop where
  called : ∃ createdAtMs event, steps[index]? = some (.enqueue sessionId createdAtMs event) ∧
    row.event_id = event.eventId ∧ row.critical = event.critical ∧
    row.created_at_ms = createdAtMs ∧ row.payload_json = event.payload
  appended : ∃ kept : List EventRow, (∀ other ∈ kept, other.event_id ≠ row.event_id) ∧
    (before parseMobileSession steps (index + 1)).navigation_events = kept ++ [row]
  since : ∀ later, index < later → later ≤ steps.length →
    row ∈ (before parseMobileSession steps later).navigation_events

def endedSession (parseMobileSession : ParseMobileSession) (db : Database) : Step → Option String
  | .createPreparing session =>
    match createPreparing parseMobileSession session db with
    | (.ok _ _, _) => db.active_navigation.map (·.session_id)
    | (.failed _, _) => none
  | .terminate sessionId _ _ =>
    if db.active_navigation.map (·.session_id) = some sessionId then some sessionId else none
  | .quarantine sessionId _ _ => sessionId
  | _ => none

/-- Events are stored once, each session's in the order of its numbers, and no session
has more than the limit. -/
structure InOrder (events : List EventRow) : Prop where
  once : (events.map (·.event_id)).Nodup
  numbered : events.Pairwise fun left right =>
    left.session_id = right.session_id → left.sequence < right.sequence
  bounded : ∀ sessionId,
    (events.filter (·.session_id == sessionId)).length ≤ MAX_OUTBOX_EVENTS

theorem in_order_sublist {fewer events} (sublist : fewer.Sublist events)
    (inOrder : InOrder events) : InOrder fewer := by
  constructor
  · exact inOrder.once.sublist (sublist.map _)
  · exact inOrder.numbered.sublist sublist
  · intro sessionId
    exact le_trans (sublist.filter _).length_le (inOrder.bounded sessionId)

variable (parseMobileSession : ParseMobileSession) (sessionId : String) (db : Database)
variable (steps : List Step) (next : Step)

theorem listing_is_filter (inOrder : InOrder db.navigation_events) :
    listPendingEvents sessionId db = db.navigation_events.filter (·.session_id == sessionId) := by
  apply List.Pairwise.insertionSort_eq
  have numbered := inOrder.numbered.filter (fun row => row.session_id == sessionId)
  apply numbered.imp_of_mem
  intro left right left_member right_member smaller
  have left_session : left.session_id = sessionId := by
    simpa using (mem_filter.mp left_member).2
  have right_session : right.session_id = sessionId := by
    simpa using (mem_filter.mp right_member).2
  exact le_of_lt (smaller (by rw [left_session, right_session]))

theorem le_foldl_max (numbers : List Nat) (start : Nat) :
    start ≤ numbers.foldl max start ∧ ∀ number ∈ numbers, number ≤ numbers.foldl max start := by
  induction numbers generalizing start with
  | nil => simp
  | cons first rest ih =>
    have next := ih (max start first)
    constructor
    · exact le_trans (le_max_left _ _) next.1
    · intro number member
      rcases mem_cons.mp member with rfl | member
      · exact le_trans (le_max_right _ _) next.1
      · exact next.2 number member

theorem sequence_lt_next (row : EventRow) (member : row ∈ db.navigation_events)
    (mine : row.session_id = sessionId) : row.sequence < NEXT_EVENT_SEQUENCE sessionId db := by
  unfold NEXT_EVENT_SEQUENCE
  apply Nat.lt_succ_of_le
  apply (le_foldl_max _ 0).2
  apply mem_map.mpr
  exact ⟨row, mem_filter.mpr ⟨member, by simp [mine]⟩, rfl⟩

def newRow (sessionId : String) (createdAtMs : ℤ) (event : EnqueuedEvent) (db : Database) :
    EventRow where
  event_id := event.eventId
  session_id := sessionId
  critical := event.critical
  sequence := NEXT_EVENT_SEQUENCE sessionId db
  created_at_ms := createdAtMs
  payload_json := event.payload

/-- An enqueue may drop the session's non-critical rows, and then appends its own row
unless its identifier is stored or there is still no room. -/
theorem enqueue_cases (createdAtMs : ℤ) (event : EnqueuedEvent) (db : Database) : ∃ room : Database,
      (room = db ∨ room = DELETE_NON_CRITICAL_EVENTS sessionId db) ∧
      ((enqueueEvent sessionId createdAtMs event db).navigation_events = room.navigation_events ∨
        (COUNT_EVENTS sessionId room < MAX_OUTBOX_EVENTS ∧
          (∀ row ∈ room.navigation_events, row.event_id ≠ event.eventId) ∧
          (enqueueEvent sessionId createdAtMs event db).navigation_events =
            room.navigation_events ++ [newRow sessionId createdAtMs event room])) := by
  have inserted : ∀ room : Database, COUNT_EVENTS sessionId room < MAX_OUTBOX_EVENTS →
      (INSERT_EVENT (newRow sessionId createdAtMs event room) room).navigation_events =
          room.navigation_events ∨
        (COUNT_EVENTS sessionId room < MAX_OUTBOX_EVENTS ∧
          (∀ row ∈ room.navigation_events, row.event_id ≠ event.eventId) ∧
          (INSERT_EVENT (newRow sessionId createdAtMs event room) room).navigation_events =
            room.navigation_events ++ [newRow sessionId createdAtMs event room]) := by
    intro room free
    unfold INSERT_EVENT
    by_cases known : room.navigation_events.any
        (·.event_id == (newRow sessionId createdAtMs event room).event_id)
    · left
      simp only [known, if_true]
    · right
      refine ⟨free, ?_, by simp only [known, Bool.false_eq_true, if_false]⟩
      intro row member same
      apply known
      rw [any_eq_true]
      exact ⟨row, member, by simp [newRow, same]⟩
  unfold enqueueEvent enqueueEventIn
  by_cases full : COUNT_EVENTS sessionId db ≥ MAX_OUTBOX_EVENTS
  · refine ⟨DELETE_NON_CRITICAL_EVENTS sessionId db, Or.inr rfl, ?_⟩
    by_cases still : COUNT_EVENTS sessionId (DELETE_NON_CRITICAL_EVENTS sessionId db) ≥
        MAX_OUTBOX_EVENTS
    · left
      simp only [full, still, if_true]
    · simp only [full, still, if_true, if_false]
      exact inserted _ (not_le.mp still)
  · refine ⟨db, Or.inl rfl, ?_⟩
    simp only [full, if_false]
    exact inserted db (not_le.mp full)

theorem room_sublist (db room : Database)
    (rooms : room = db ∨ room = DELETE_NON_CRITICAL_EVENTS sessionId db) :
    room.navigation_events.Sublist db.navigation_events := by
  rcases rooms with rfl | rfl
  · exact List.Sublist.refl _
  · exact filter_sublist

theorem in_order_append (createdAtMs : ℤ) (event : EnqueuedEvent)
    (room : Database) (inOrder : InOrder room.navigation_events)
    (free : COUNT_EVENTS sessionId room < MAX_OUTBOX_EVENTS)
    (fresh : ∀ row ∈ room.navigation_events, row.event_id ≠ event.eventId) :
    InOrder (room.navigation_events ++ [newRow sessionId createdAtMs event room]) := by
  constructor
  · rw [map_append, nodup_append]
    refine ⟨inOrder.once, by simp, ?_⟩
    intro old member new added same
    rcases mem_map.mp member with ⟨row, held, named⟩
    have new_id : new = event.eventId := by simpa [newRow] using added
    exact fresh row held (by rw [named, same, new_id])
  · rw [pairwise_append]
    refine ⟨inOrder.numbered, pairwise_singleton _ _, ?_⟩
    intro row member new added same
    rw [mem_singleton] at added
    subst added
    exact sequence_lt_next sessionId room row member same
  · intro other
    rw [filter_append, length_append]
    by_cases mine : sessionId = other
    · subst mine
      have one : ([newRow sessionId createdAtMs event room].filter
          (·.session_id == sessionId)).length = 1 := by simp [newRow]
      rw [one]
      exact free
    · have none_added : [newRow sessionId createdAtMs event room].filter
          (·.session_id == other) = [] := by simp [newRow, mine]
      rw [none_added]
      exact inOrder.bounded other

theorem events_of_quarantine (sessionId : Option String) (reason : String) (nowMs : ℤ)
    (db : Database) : (quarantineCorruptSession sessionId reason nowMs db).navigation_events =
        db.navigation_events ∨ ∃ named, sessionId = some named ∧
        (quarantineCorruptSession sessionId reason nowMs db).navigation_events =
          db.navigation_events.filter (·.session_id != named) := by
  cases sessionId with
  | none => exact Or.inl rfl
  | some named =>
    by_cases blank : named = ""
    · left
      simp [quarantineCorruptSession, blank, TRIM_QUARANTINE, DELETE_ACTIVE, INSERT_QUARANTINE]
    · right
      refine ⟨named, rfl, ?_⟩
      simp [quarantineCorruptSession, blank, TRIM_QUARANTINE, DELETE_ACTIVE, INSERT_QUARANTINE,
        DELETE_SESSION_COMMANDS, DELETE_SESSION_ALERTS, DELETE_SESSION_EVENTS]

theorem ack_filters (eventIds : List String) (db : Database) :
    (ackEvents eventIds db).navigation_events =
      db.navigation_events.filter fun row => !eventIds.contains row.event_id := by
  unfold ackEvents
  induction eventIds generalizing db with
  | nil => simp
  | cons id eventIds ih =>
    rw [foldl_cons, ih]
    simp only [DELETE_EVENT, filter_filter]
    congr 1
    funext row
    by_cases same : row.event_id = id <;> simp [same]

theorem step_removes
    (plain : ∀ sessionId createdAtMs event, next ≠ .enqueue sessionId createdAtMs event) :
    (step parseMobileSession db next).navigation_events.Sublist db.navigation_events ∧
      ∀ row ∈ db.navigation_events, row ∈ (step parseMobileSession db next).navigation_events ∨
        (∃ eventIds, next = .ack eventIds ∧ row.event_id ∈ eventIds) ∨
        endedSession parseMobileSession db next = some row.session_id := by
  have filtered : ∀ keep : EventRow → Bool,
      (step parseMobileSession db next).navigation_events = db.navigation_events.filter keep →
      (∀ row ∈ db.navigation_events, keep row = false →
        (∃ eventIds, next = .ack eventIds ∧ row.event_id ∈ eventIds) ∨
        endedSession parseMobileSession db next = some row.session_id) →
      (step parseMobileSession db next).navigation_events.Sublist db.navigation_events ∧
      ∀ row ∈ db.navigation_events,
        row ∈ (step parseMobileSession db next).navigation_events ∨
        (∃ eventIds, next = .ack eventIds ∧ row.event_id ∈ eventIds) ∨
        endedSession parseMobileSession db next = some row.session_id := by
    intro keep equal reason
    rw [equal]
    refine ⟨filter_sublist, ?_⟩
    intro row member
    cases kept : keep row with
    | true => exact Or.inl (mem_filter.mpr ⟨member, kept⟩)
    | false => exact Or.inr (reason row member kept)
  have untouched : (step parseMobileSession db next).navigation_events =
      db.navigation_events →
      (step parseMobileSession db next).navigation_events.Sublist db.navigation_events ∧
      ∀ row ∈ db.navigation_events,
        row ∈ (step parseMobileSession db next).navigation_events ∨
        (∃ eventIds, next = .ack eventIds ∧ row.event_id ∈ eventIds) ∨
        endedSession parseMobileSession db next = some row.session_id := by
    intro equal
    rw [equal]
    exact ⟨List.Sublist.refl _, fun row member => Or.inl member⟩
  cases next with
  | enqueue sessionId createdAtMs event => exact absurd rfl (plain sessionId createdAtMs event)
  | ack eventIds =>
    apply filtered _ (ack_filters eventIds db)
    intro row _ dropped
    exact Or.inl ⟨eventIds, rfl, by simpa using dropped⟩
  | createPreparing session =>
    rcases createPreparing_cases parseMobileSession session db with
      ⟨_, _, -, -, -, refused⟩ | ⟨-, cleared, created, ⟨rfl, -⟩ | ⟨row, stored, rfl⟩⟩
    · apply untouched
      simp only [step, refused]
    · apply untouched
      simp only [step, created]
      rfl
    · apply filtered (·.session_id != row.session_id)
      · simp only [step, created]
        rfl
      · intro other _ dropped
        have mine : other.session_id = row.session_id := by simpa using dropped
        right
        simp only [endedSession, created, stored, Option.map_some, mine]
  | terminate sessionId finalStatus nowMs =>
    rcases terminate_cases parseMobileSession sessionId finalStatus nowMs db with
      ⟨row, ack, stored, named, -, -, -, -, ended⟩ | ⟨-, ignored⟩
    · apply filtered (·.session_id != sessionId)
      · simp only [step, ended]
        rfl
      · intro other _ dropped
        have mine : other.session_id = sessionId := by simpa using dropped
        right
        simp only [endedSession, stored, Option.map_some, named, if_true, mine]
    · apply untouched
      simp only [step, ignored]
  | quarantine sessionId reason nowMs =>
    rcases events_of_quarantine sessionId reason nowMs db with equal | ⟨named, same, equal⟩
    · exact untouched equal
    · apply filtered _ equal
      intro other _ dropped
      have mine : other.session_id = named := by simpa using dropped
      right
      rw [mine]
      exact same

theorem step_events : ∃ kept : List EventRow, kept.Sublist db.navigation_events ∧
      ((step parseMobileSession db next).navigation_events = kept ∨
        ∃ sessionId createdAtMs event, ∃ room : Database,
          next = .enqueue sessionId createdAtMs event ∧ room.navigation_events = kept ∧
          COUNT_EVENTS sessionId room < MAX_OUTBOX_EVENTS ∧
          (∀ row ∈ kept, row.event_id ≠ event.eventId) ∧
          (step parseMobileSession db next).navigation_events =
            kept ++ [newRow sessionId createdAtMs event room]) := by
  have plain_case : (∀ sessionId createdAtMs event,
      next ≠ .enqueue sessionId createdAtMs event) → ∃ kept : List EventRow,
        kept.Sublist db.navigation_events ∧
          (step parseMobileSession db next).navigation_events = kept := by
    intro plain
    exact ⟨_, (step_removes parseMobileSession db next plain).1, rfl⟩
  cases next with
  | enqueue sessionId createdAtMs event =>
    rcases enqueue_cases sessionId createdAtMs event db with
      ⟨room, rooms, dropped | ⟨free, fresh, appended⟩⟩
    · exact ⟨room.navigation_events, room_sublist sessionId db room rooms, Or.inl dropped⟩
    · exact ⟨room.navigation_events, room_sublist sessionId db room rooms,
        Or.inr ⟨sessionId, createdAtMs, event, room, rfl, rfl, free, fresh, appended⟩⟩
  | ack eventIds =>
    rcases plain_case (by simp) with ⟨kept, sublist, equal⟩
    exact ⟨kept, sublist, Or.inl equal⟩
  | createPreparing session =>
    rcases plain_case (by simp) with ⟨kept, sublist, equal⟩
    exact ⟨kept, sublist, Or.inl equal⟩
  | terminate sessionId finalStatus nowMs =>
    rcases plain_case (by simp) with ⟨kept, sublist, equal⟩
    exact ⟨kept, sublist, Or.inl equal⟩
  | quarantine sessionId reason nowMs =>
    rcases plain_case (by simp) with ⟨kept, sublist, equal⟩
    exact ⟨kept, sublist, Or.inl equal⟩

theorem in_order_after (inOrder : InOrder db.navigation_events) :
    InOrder (step parseMobileSession db next).navigation_events := by
  rcases step_events parseMobileSession db next with
    ⟨kept, sublist, equal | ⟨sessionId, createdAtMs, event, room, -, rooms, free, fresh, equal⟩⟩
  · rw [equal]
    exact in_order_sublist sublist inOrder
  · rw [equal]
    subst rooms
    exact in_order_append sessionId createdAtMs event room
      (in_order_sublist sublist inOrder) free fresh

theorem in_order_in_run :
    InOrder (run (step parseMobileSession) steps emptyDatabase).navigation_events :=
  run_keeps (fun db next => in_order_after parseMobileSession db next) steps emptyDatabase
    { once := nodup_nil
      numbered := List.Pairwise.nil
      bounded := fun _ => Nat.zero_le _ }

theorem critical_stays (row : EventRow) (member : row ∈ db.navigation_events)
    (critical : row.critical = true) : row ∈ (step parseMobileSession db next).navigation_events ∨
      (∃ eventIds, next = .ack eventIds ∧ row.event_id ∈ eventIds) ∨
      endedSession parseMobileSession db next = some row.session_id := by
  by_cases plain : ∀ sessionId createdAtMs event, next ≠ .enqueue sessionId createdAtMs event
  · exact (step_removes parseMobileSession db next plain).2 row member
  · left
    rw [not_forall] at plain
    rcases plain with ⟨sessionId, plain⟩
    simp only [not_forall, not_not] at plain
    rcases plain with ⟨createdAtMs, event, rfl⟩
    rcases enqueue_cases sessionId createdAtMs event db with ⟨room, rooms, result⟩
    have kept : row ∈ room.navigation_events := by
      rcases rooms with rfl | rfl
      · exact member
      · exact mem_filter.mpr ⟨member, by simp [critical]⟩
    rcases result with equal | ⟨-, -, equal⟩
    · simpa only [step, equal] using kept
    · simp only [step, equal]
      exact mem_append_left _ kept

theorem before_snoc (index : Nat) (within : index ≤ steps.length) :
    before parseMobileSession (steps ++ [next]) index = before parseMobileSession steps index := by
  unfold before
  rw [take_append_of_le_length within]

theorem before_end : before parseMobileSession steps steps.length =
      run (step parseMobileSession) steps emptyDatabase := by
  unfold before
  rw [take_length]

theorem stored_by_snoc (sessionId : String) (row : EventRow) (index : Nat)
    (stored : StoredBy parseMobileSession steps sessionId row index)
    (still : row ∈ (run (step parseMobileSession) (steps ++ [next])
      emptyDatabase).navigation_events) :
    StoredBy parseMobileSession (steps ++ [next]) sessionId row index := by
  rcases stored.called with ⟨createdAtMs, event, called, contents⟩
  have within : index < steps.length := (List.getElem?_eq_some_iff.mp called).1
  constructor
  · refine ⟨createdAtMs, event, ?_, contents⟩
    rw [getElem?_append_left within]
    exact called
  · rcases stored.appended with ⟨kept, others, appended⟩
    refine ⟨kept, others, ?_⟩
    rw [before_snoc parseMobileSession steps next (index + 1) within]
    exact appended
  · intro later after bounded
    by_cases last : later ≤ steps.length
    · rw [before_snoc parseMobileSession steps next later last]
      exact stored.since later after last
    · have whole : later = (steps ++ [next]).length := by
        simp only [length_append, length_cons, length_nil] at bounded ⊢
        omega
      rw [whole, before_end]
      exact still

theorem rows_in_stored_order (sessionId : String) : ∃ stamped : List (EventRow × Nat),
      stamped.map Prod.fst =
        (run (step parseMobileSession) steps emptyDatabase).navigation_events.filter
          (·.session_id == sessionId) ∧ stamped.Pairwise (fun left right => left.2 < right.2) ∧
      ∀ entry ∈ stamped, StoredBy parseMobileSession steps sessionId entry.1 entry.2 := by
  induction steps using List.reverseRecOn with
  | nil => exact ⟨[], rfl, List.Pairwise.nil, by simp⟩
  | append_singleton steps next ih =>
    rcases ih with ⟨stamped, rows, increasing, stored⟩
    rcases step_events parseMobileSession
        (run (step parseMobileSession) steps emptyDatabase) next with
      ⟨kept, sublist, result⟩
    have selected := sublist.filter (fun row : EventRow => row.session_id == sessionId)
    rw [← rows, sublist_map_iff] at selected
    rcases selected with ⟨fewer, fewer_sublist, fewer_rows⟩
    have after : (run (step parseMobileSession) (steps ++ [next])
        emptyDatabase).navigation_events = (step parseMobileSession
          (run (step parseMobileSession) steps emptyDatabase) next).navigation_events := by
      rw [run_snoc]
    have fewer_increasing := increasing.sublist fewer_sublist
    have carried : (∀ row ∈ kept, row ∈ (run (step parseMobileSession) (steps ++ [next])
        emptyDatabase).navigation_events) → ∀ entry ∈ fewer,
        StoredBy parseMobileSession (steps ++ [next]) sessionId entry.1 entry.2 := by
      intro still entry member
      apply stored_by_snoc parseMobileSession steps next sessionId entry.1 entry.2
        (stored entry (fewer_sublist.subset member))
      apply still
      have listed_row : entry.1 ∈ fewer.map Prod.fst := mem_map_of_mem member
      rw [← fewer_rows] at listed_row
      exact (mem_filter.mp listed_row).1
    rcases result with equal | ⟨owner, createdAtMs, event, room, called, rooms, free, fresh, equal⟩
    · refine ⟨fewer, ?_, fewer_increasing, ?_⟩
      · rw [after, equal, fewer_rows]
      · apply carried
        intro row member
        rw [after, equal]
        exact member
    · have still : ∀ row ∈ kept, row ∈ (run (step parseMobileSession) (steps ++ [next])
          emptyDatabase).navigation_events := by
        intro row member
        rw [after, equal]
        exact mem_append_left _ member
      by_cases mine : owner = sessionId
      · subst mine
        refine ⟨fewer ++ [(newRow owner createdAtMs event room, steps.length)], ?_, ?_, ?_⟩
        · rw [after, equal, filter_append, fewer_rows, map_append]
          simp [newRow]
        · rw [pairwise_append]
          refine ⟨fewer_increasing, pairwise_singleton _ _, ?_⟩
          intro entry member last added
          rw [mem_singleton] at added
          subst added
          rcases (stored entry (fewer_sublist.subset member)).called with ⟨_, _, at_index, -⟩
          exact (List.getElem?_eq_some_iff.mp at_index).1
        · intro entry member
          rcases mem_append.mp member with old | added
          · exact carried still entry old
          · rw [mem_singleton] at added
            subst added
            have end_state : before parseMobileSession (steps ++ [next]) (steps.length + 1) =
                run (step parseMobileSession) (steps ++ [next]) emptyDatabase := by
              have whole := before_end parseMobileSession (steps ++ [next])
              rwa [length_append] at whole
            constructor
            · exact ⟨createdAtMs, event, by simp [called], rfl, rfl, rfl, rfl⟩
            · exact ⟨kept, fresh, by rw [end_state, after, equal]⟩
            · intro later past bounded
              have whole : later = steps.length + 1 := by
                simp only [length_append, length_cons, length_nil] at bounded
                omega
              rw [whole, end_state, after, equal]
              exact mem_append_right _ (mem_singleton_self _)
      · refine ⟨fewer, ?_, fewer_increasing, carried still⟩
        rw [after, equal, filter_append, fewer_rows]
        simp [newRow, mine]

structure KeepsEvents (parseMobileSession : ParseMobileSession) (steps : List Step)
    (sessionId : String) : Prop where
  bounded : (listPendingEvents sessionId
    (run (step parseMobileSession) steps emptyDatabase)).length ≤ MAX_OUTBOX_EVENTS
  once : (listed sessionId (run (step parseMobileSession) steps emptyDatabase)).Nodup
  ordered : ∃ stamped : List (EventRow × Nat),
    stamped.map Prod.fst =
      listPendingEvents sessionId (run (step parseMobileSession) steps emptyDatabase) ∧
    stamped.Pairwise (fun left right => left.2 < right.2) ∧
    ∀ entry ∈ stamped, StoredBy parseMobileSession steps sessionId entry.1 entry.2
  critical : ∀ row ∈ listPendingEvents sessionId
      (run (step parseMobileSession) steps emptyDatabase), row.critical = true →
    ∀ next, row ∈ listPendingEvents sessionId
        (run (step parseMobileSession) (steps ++ [next]) emptyDatabase) ∨
      (∃ eventIds, next = .ack eventIds ∧ row.event_id ∈ eventIds) ∨
      endedSession parseMobileSession
        (run (step parseMobileSession) steps emptyDatabase) next = some sessionId

/-- In every run, a session's events are bounded, listed once and in the order of the
enqueues that appended them, and the critical ones stay. -/
theorem outbox_keeps_events (parseMobileSession : ParseMobileSession) (steps : List Step)
    (sessionId : String) : KeepsEvents parseMobileSession steps sessionId := by
  have inOrder := in_order_in_run parseMobileSession steps
  have listing := listing_is_filter sessionId _ inOrder
  constructor
  · rw [listing]
    exact inOrder.bounded sessionId
  · rw [listed, listing]
    exact inOrder.once.sublist (filter_sublist.map _)
  · rw [listing]
    exact rows_in_stored_order parseMobileSession steps sessionId
  · intro row member critical next
    rw [listing] at member
    have stored := (mem_filter.mp member).1
    have mine : row.session_id = sessionId := by simpa using (mem_filter.mp member).2
    have stays := critical_stays parseMobileSession _ next row stored critical
    rw [mine] at stays
    rcases stays with still | gone
    · left
      rw [listing_is_filter sessionId _ (in_order_in_run parseMobileSession (steps ++ [next])),
        run_snoc]
      exact mem_filter.mpr ⟨still, by simp [mine]⟩
    · exact Or.inr gone

def routineEvent (eventId : String) : EnqueuedEvent where
  eventId := eventId
  critical := false
  payload := "{}"

/-- `A` is acknowledged and then enqueued again, behind `B`. -/
def returningEvent : List Step :=
  [.enqueue "session-1" 0 (routineEvent "A"), .enqueue "session-1" 1 (routineEvent "B"),
    .ack ["A"], .enqueue "session-1" 2 (routineEvent "A")]

def enqueues (sessionId eventId : String) : Step → Bool
  | .enqueue session _ event => session == sessionId && event.eventId == eventId
  | _ => false

def firstEnqueued (steps : List Step) (sessionId eventId : String) : Nat :=
  steps.findIdx (enqueues sessionId eventId)

theorem returning_event_is_listed_last :
    ¬ ∀ (parseMobileSession : ParseMobileSession) (steps : List Step) (sessionId : String),
      (listed sessionId (run (step parseMobileSession) steps emptyDatabase)).Pairwise
        fun left right =>
          firstEnqueued steps sessionId left < firstEnqueued steps sessionId right := by
  intro ordered
  have both := ordered .ok returningEvent "session-1"
  revert both
  decide +kernel

end OpenMapX.Mobile.Outbox
