import OpenMapX.Mobile.CommandReplay
import OpenMapX.Mobile.RefreshMoves

/-!
# Late answers

Requests leave the queue and come back later, in any order, again and again, or never.
An answer changes the tables only if the stored session waits for it: the record of the
refresh tells, whose generation is never that of an older request again.
-/

namespace OpenMapX.Mobile.LateAnswers

open Foundation.Runs Navigation.TransitTrip Navigation.RiderProgress SessionStore StoreWriters
  RefreshState TransitProcessor Coordinator CoordinatorHandlers HandlerWrites RememberedReplies
  CommandReplay RefreshMoves List

def ReadsSame (parseMobileSession : ParseMobileSession) : Prop :=
  ∀ stored session, parseMobileSession stored = .ok session → session = stored

theorem ReadsSame.reads_back {parseMobileSession}
    (readsSame : ReadsSame parseMobileSession) : ReadsBack parseMobileSession := by
  intro stored session parsed
  rw [readsSame stored session parsed]
  exact And.intro rfl rfl

section

variable (deps : CoordinatorDeps)

def RecordOf (sessionId : String) (db : Database) (refresh : RefreshRuntime) : Prop :=
  ∃ session payload, Loaded deps db session ∧ session.sessionId = sessionId ∧
    session.payload = .transit payload ∧ payload.refresh = refresh

/-- The record of the session, if it has one, has moved there from the one before. -/
def Moves (sessionId : String) (before after : Database) : Prop :=
  ∀ refresh, RecordOf deps sessionId after refresh →
    ∃ earlier, RecordOf deps sessionId before earlier ∧ RecordMoves earlier refresh

variable {deps}

variable {db : Database}

theorem loaded_unique {session other}
    (first : Loaded deps db session) (second : Loaded deps db other) : session = other := by
  rcases first with ⟨row, stored, parsed⟩
  rcases second with ⟨again, storedAgain, parsedAgain⟩
  rw [stored, Option.some.injEq] at storedAgain
  rw [← storedAgain, parsed, Except.ok.injEq] at parsedAgain
  exact parsedAgain

variable {sessionId : String}

theorem record_unique {refresh other} (first : RecordOf deps sessionId db refresh)
    (second : RecordOf deps sessionId db other) : refresh = other := by
  rcases first with ⟨session, payload, loaded, -, transit, is⟩
  rcases second with ⟨again, payloadAgain, loadedAgain, -, transitAgain, isAgain⟩
  have same := loaded_unique loaded loadedAgain
  rw [← same, transit] at transitAgain
  cases transitAgain
  exact is.symm.trans isAgain

theorem record_stored (readsSame : ReadsSame deps.alerts.parseMobileSession) (agree : RowsAgree db)
    {refresh} (record : RecordOf deps sessionId db refresh) : storedId db = some sessionId := by
  rcases record with ⟨session, payload, ⟨row, stored, parsed⟩, named, -, -⟩
  rw [storedId, stored, Option.map_some, (agree row stored).1, ← named,
    readsSame row.session_json session parsed]

variable {session : MobileNavigationSession} {before after : Database}

section

variable (rows : ∀ row, after.active_navigation = some row → before.active_navigation = some row)
include rows

theorem loaded_of_row (loaded : Loaded deps after session) : Loaded deps before session := by
  obtain ⟨row, found⟩ := loaded
  exact Exists.intro row (And.intro (rows row found.1) found.2)

theorem Moves.kept : Moves deps sessionId before after := by
  intro refresh record
  rcases record with ⟨session, payload, loaded, rest⟩
  apply Exists.intro refresh
  apply And.intro
  · exact Exists.intro session (Exists.intro payload
      (And.intro (loaded_of_row rows loaded) rest))
  · exact RecordMoves.refl refresh

end

theorem Moves.same_row (same : after.active_navigation = before.active_navigation) :
    Moves deps sessionId before after := by
  apply Moves.kept
  intro row stored
  rw [← same]
  exact stored

theorem Moves.trans {first second third} (before : Moves deps sessionId first second)
    (after : Moves deps sessionId second third) : Moves deps sessionId first third := by
  intro refresh record
  obtain ⟨middle, found⟩ := after refresh record
  obtain ⟨earlier, was⟩ := before middle found.1
  exact Exists.intro earlier (And.intro was.1 (was.2.trans found.2))

variable {mutate : MobileNavigationSession → Except Thrown RepositoryMutation} {nowMs : ℤ}

theorem swap_row {current mutation db after effects} (loaded : Loaded deps db current)
    (changes : mutate current = .ok mutation)
    (swapped : compareAndSwap deps.alerts.parseMobileSession current.sessionId current.revision
      mutate nowMs db = .ok (.ok session effects, after)) : after.active_navigation =
      some ⟨mutation.session.sessionId, mutation.session.revision, mutation.session⟩ := by
  rcases compareAndSwap_cases deps.alerts.parseMobileSession current.sessionId current.revision
      mutate nowMs db with
    ⟨row, read, chosen, queued, stored, parsed, -, -, changed, -, -, queue, committing⟩ |
      ⟨code, failed⟩ | ⟨thrown, failed⟩
  · have same : read = current :=
      loaded_unique (Exists.intro row (And.intro stored parsed)) loaded
    rw [same, changes, Except.ok.injEq] at changed
    have queuedRow : queued.active_navigation =
        some ⟨chosen.session.sessionId, chosen.session.revision, chosen.session⟩ := by
      rw [queue, active_of_enqueues]
      rfl
    rw [committing] at swapped
    cases swapped
    rw [changed]
    cases chosen.alerts with
    | none => exact queuedRow
    | some alerts =>
      rw [Option.map_some, Option.getD_some, active_of_replace]
      exact queuedRow
  · rw [failed] at swapped
    cases swapped
  · rw [failed] at swapped
    cases swapped

theorem swap_failed_same {parseMobileSession} {revision : Nat} {db after code}
    (swapped : compareAndSwap parseMobileSession sessionId revision mutate nowMs db =
      .ok (.failed code, after)) : after = db := by
  rcases compareAndSwap_cases parseMobileSession sessionId revision mutate nowMs db with
    ⟨_, _, _, _, -, -, -, -, -, -, -, -, committing⟩ | ⟨code, failed⟩ | ⟨thrown, failed⟩
  · rw [committing] at swapped
    cases swapped
  · rw [failed] at swapped
    cases swapped
    rfl
  · rw [failed] at swapped
    cases swapped

theorem record_written (readsSame : ReadsSame deps.alerts.parseMobileSession) {written refresh}
    (row : db.active_navigation = some ⟨written.sessionId, written.revision, written⟩)
    (record : RecordOf deps sessionId db refresh) : written.sessionId = sessionId ∧
      ∃ payload, written.payload = .transit payload ∧ payload.refresh = refresh := by
  rcases record with ⟨session, payload, ⟨found, stored, parsed⟩, named, transit, is⟩
  rw [row, Option.some.injEq] at stored
  rw [← stored] at parsed
  rw [readsSame _ _ parsed] at named transit
  exact And.intro named (Exists.intro payload (And.intro transit is))

theorem swap_moves (readsSame : ReadsSame deps.alerts.parseMobileSession) (sessionId : String)
    {current mutation db after result} (loaded : Loaded deps db current)
    (moves : SessionMoves current mutation.session) (changes : mutate current = .ok mutation)
    (swapped : compareAndSwap deps.alerts.parseMobileSession current.sessionId current.revision
      mutate nowMs db = .ok (result, after)) : Moves deps sessionId db after := by
  cases result with
  | failed code =>
    rw [swap_failed_same swapped]
    exact Moves.same_row rfl
  | ok session effects =>
    intro refresh record
    have written := record_written readsSame (swap_row loaded changes swapped) record
    obtain ⟨payload, transit⟩ := written.2
    obtain ⟨before, was⟩ := moves.moves payload transit.1
    apply Exists.intro before.refresh
    apply And.intro
    · apply Exists.intro current
      apply Exists.intro before
      exact And.intro loaded (And.intro (moves.named.symm.trans written.1)
        (And.intro was.1 rfl))
    · rw [← transit.2]
      exact was.2

theorem load_row (parseMobileSession) (nowMs : ℤ) (db : Database) (row : ActiveRow)
    (stored : (loadActive parseMobileSession nowMs db).2.active_navigation = some row) :
    db.active_navigation = some row := by
  unfold loadActive inspectActive at stored
  cases found : db.active_navigation with
  | none =>
    rw [found] at stored
    dsimp only at stored
    rw [found] at stored
    cases stored
  | some old =>
    rw [found] at stored
    cases parsed : parseMobileSession old.session_json with
    | error code =>
      simp only [parsed] at stored
      rw [active_of_quarantine] at stored
      cases stored
    | ok session =>
      simp only [parsed] at stored
      rw [found] at stored
      exact stored

section

variable (readsSame : ReadsSame deps.alerts.parseMobileSession)
include readsSame

theorem moves_respected
    {sessionId newSessionId : String} (other : newSessionId ≠ sessionId) :
    Respected deps newSessionId (Moves deps sessionId) where
  refl := fun _ => Moves.same_row rfl
  trans := fun _ _ _ before after => before.trans after
  load := fun nowMs db => Moves.kept (load_row deps.alerts.parseMobileSession nowMs db)
  alerts := fun named alerts nowMs db => Moves.same_row (active_of_replace named alerts nowMs db)
  ended := by
    intro named finalStatus nowMs db
    rcases terminate_cases deps.alerts.parseMobileSession named finalStatus nowMs db with
      ⟨row, ack, -, -, -, -, -, -, ended⟩ | ⟨-, ignored⟩
    · rw [ended]
      apply Moves.kept
      intro left stored
      cases stored
    · rw [ignored]
      exact Moves.same_row rfl
  acked := fun eventIds db => Moves.same_row (active_of_ack eventIds db)
  created := by
    intro startPackage nowMs session db prepared
    have named := prepared_named deps prepared
    rcases createPreparing_cases deps.alerts.parseMobileSession session db with
      ⟨row, live, -, -, -, refused⟩ | ⟨-, cleared, created, -⟩
    · rw [refused]
      exact Moves.same_row rfl
    · rw [created]
      intro refresh record
      rcases record with ⟨found, payload, ⟨row, stored, parsed⟩, same, -, -⟩
      cases stored
      rw [readsSame _ _ parsed] at same
      exact absurd (named.symm.trans same) other
  committed := by
    intro current mutation mutate nowMs db result after loaded decided changes swapped
    exact swap_moves readsSame sessionId loaded (commits_move decided) changes swapped

theorem step_moves (world : World) (occurrence : Occurrence) (alone : Alone occurrence)
    (sessionId : String) (other : newIdOf occurrence ≠ some sessionId) :
    Moves deps sessionId world.phone.database (step deps world occurrence).phone.database := by
  obtain ⟨newSessionId, named⟩ := other_id occurrence sessionId other
  have wrote := occurrence_writes (moves_respected readsSame named.1) world occurrence alone
    named.2
  rcases step_replies deps world occurrence with same | replied
  · rw [same]
    exact wrote
  · rcases replied with ⟨command, ports, response, -, -, -, -, remembered⟩
    rw [remembered]
    exact wrote.trans (Moves.same_row (active_of_remember _ _ _ _ _))

def newIds (occurrences : List Occurrence) : List String := occurrences.filterMap newIdOf

theorem run_moves (sessionId : String) (start : World) (occurrences : List Occurrence)
    (alone : ∀ occurrence ∈ occurrences, Alone occurrence) (other : sessionId ∉ newIds occurrences)
    : Moves deps sessionId start.phone.database
      (run (step deps) occurrences start).phone.database := by
  induction occurrences generalizing start with
  | nil => exact Moves.same_row rfl
  | cons occurrence rest ih =>
    have differs : newIdOf occurrence ≠ some sessionId := by
      intro same
      apply other
      exact mem_filterMap.mpr (Exists.intro occurrence
        (And.intro mem_cons_self same))
    have first := step_moves readsSame start occurrence (alone _ mem_cons_self) sessionId
      differs
    apply first.trans
    apply ih
    · intro later member
      exact alone later (mem_cons_of_mem _ member)
    · intro member
      apply other
      rcases mem_filterMap.mp member with ⟨later, within, named⟩
      exact mem_filterMap.mpr (Exists.intro later
        (And.intro (mem_cons_of_mem _ within) named))

theorem run_known (start : World) (agree : RowsAgree start.phone.database)
    (occurrences : List Occurrence) (alone : ∀ occurrence ∈ occurrences, Alone occurrence) :
    RowsAgree (run (step deps) occurrences start).phone.database ∧
      ∀ sessionId, storedId (run (step deps) occurrences start).phone.database = some sessionId →
        sessionId ∈ (storedId start.phone.database).toList ++ newIds occurrences := by
  induction occurrences using List.reverseRecOn with
  | nil =>
    apply And.intro agree
    intro sessionId stored
    rw [run_nil] at stored
    simp [stored]
  | append_singleton earlier occurrence ih =>
    have before := ih (by intro other member; exact alone other (by simp [member]))
    have aloneLast : Alone occurrence := alone occurrence (by simp)
    rw [run_snoc]
    have faded : ∀ newSessionId, (∀ id, newIdOf occurrence = some id → id = newSessionId) →
        Fades newSessionId (run (step deps) earlier start).phone.database
          (beforeReply deps (run (step deps) earlier start) occurrence).phone.database := by
      intro newSessionId fresh
      exact before_reply_fades deps readsSame.reads_back _ occurrence aloneLast newSessionId
        fresh before.1
    apply And.intro
    · have agreed := (faded ((newIdOf occurrence).getD "")
        (by intro id named; rw [named]; rfl)).agree
      rcases step_replies deps (run (step deps) earlier start) occurrence with same | replied
      · rw [same]
        exact agreed
      · rcases replied with ⟨command, ports, response, -, -, -, -, remembered⟩
        rw [remembered, commands_of_remember]
        exact agreed
    · intro sessionId stored
      rw [step_stored] at stored
      have grown : newIds (earlier ++ [occurrence]) =
          newIds earlier ++ (newIdOf occurrence).toList := by
        unfold newIds
        rw [filterMap_append]
        cases named : newIdOf occurrence with
        | none => simp [named]
        | some id => simp [named]
      rw [grown, ← append_assoc]
      by_cases own : newIdOf occurrence = some sessionId
      · apply mem_append_right
        simp [own]
      · apply mem_append_left
        apply before.2
        obtain ⟨newSessionId, named⟩ := other_id occurrence sessionId own
        by_contra absent
        exact (faded newSessionId named.2).still_gone (Ne.symm named.1) absent stored

end

def RefreshApplied (deps : CoordinatorDeps) (world : World) (outcome : RefreshOutcome)
    (ports : PortAnswers) : Prop :=
  (applyTransitRefresh deps outcome ports world).phone.database ≠
    (world.load deps ports.nowMs).2.phone.database

def RerouteApplied (deps : CoordinatorDeps) (world : World) (outcome : RerouteOutcome)
    (jitter01 : ℚ) (ports : PortAnswers) : Prop :=
  (commitReroute deps outcome jitter01 ports world).phone.database ≠
    (world.load deps ports.nowMs).2.phone.database

def AwaitsRefresh (deps : CoordinatorDeps) (db : Database) (outcome : RefreshOutcome) : Prop :=
  ∃ session payload, Loaded deps db session ∧ session.status = .active ∧
    session.sessionId = outcome.sessionId ∧ session.payload = .transit payload ∧
    payload.refresh.status = .inFlight ∧ payload.refresh.generation = outcome.generation ∧
    payload.refresh.requestId = some outcome.requestId

def AwaitsReroute (deps : CoordinatorDeps) (db : Database) (outcome : RerouteOutcome) : Prop :=
  ∃ session payload, Loaded deps db session ∧ session.status = .active ∧
    session.sessionId = outcome.sessionId ∧ session.payload = .ground payload ∧
    payload.reroute.requestId = some outcome.requestId

variable {world : World} {ports : PortAnswers}

theorem commit_cases (session mutation) (nowMs : ℤ) {result} {after : World}
    (returned : world.commit deps session mutation nowMs = (result, after)) :
    (after.phone.database = world.phone.database ∧
      ∀ committed effects, result ≠ .ok (.ok committed effects)) ∨
    ∃ committed effects, result = .ok (.ok committed effects) ∧
      compareAndSwap deps.alerts.parseMobileSession session.sessionId session.revision
        (fun _ => .ok mutation) nowMs world.phone.database =
          .ok (.ok committed effects, after.phone.database) := by
  unfold World.commit World.compareAndSwap at returned
  split at returned
  · cases returned
    exact Or.inl (And.intro rfl (by simp))
  · rename_i code database swapped
    cases returned
    exact Or.inl (And.intro (swap_failed_same swapped) (by simp))
  · rename_i committed effects database swapped
    cases returned
    apply Or.inr
    apply Exists.intro committed
    apply Exists.intro effects
    exact And.intro rfl swapped

theorem answer_applied {mutation}
    (applied : (commitAnswer deps session mutation ports world).phone.database ≠
      world.phone.database) : ∃ chosen committed effects, ∃ final : World, mutation = some chosen ∧
      compareAndSwap deps.alerts.parseMobileSession session.sessionId session.revision
        (fun _ => .ok chosen) ports.nowMs world.phone.database =
          .ok (.ok committed effects, final.phone.database) ∧
      commitAnswer deps session mutation ports world = final.run deps ports effects := by
  unfold commitAnswer at applied ⊢
  cases mutation with
  | none => exact absurd rfl applied
  | some chosen =>
    dsimp only at applied ⊢
    cases returned : world.commit deps session chosen ports.nowMs with
    | mk result after =>
      rw [returned] at applied
      rcases commit_cases session chosen ports.nowMs returned with same | committed
      · exfalso
        split at applied
        · rename_i committed effects final is
          cases is
          exact same.2 committed effects rfl
        · rename_i other final notCommitted is
          cases is
          exact applied same.1
      · rcases committed with ⟨stored, effects, is, swapped⟩
        rw [is]
        exact ⟨chosen, stored, effects, after, rfl, swapped, rfl⟩

variable {outcome : RefreshOutcome}

theorem refresh_applied (applied : RefreshApplied deps world outcome ports) :
    ∃ session mutation committed effects, ∃ final : World,
      Loaded deps world.phone.database session ∧
      refreshMutation deps.transit session outcome ports.nowMs = .ok (some mutation) ∧
      compareAndSwap deps.alerts.parseMobileSession session.sessionId session.revision
        (fun _ => .ok mutation) ports.nowMs world.phone.database =
          .ok (.ok committed effects, final.phone.database) ∧
      applyTransitRefresh deps outcome ports world = final.run deps ports effects := by
  unfold RefreshApplied applyTransitRefresh at applied
  unfold applyTransitRefresh
  cases loaded : world.load deps ports.nowMs with
  | mk current after =>
    rw [loaded] at applied
    cases current with
    | none => exact absurd rfl applied
    | some session =>
      have found := load_finds loaded
      dsimp only at applied ⊢
      cases decided : refreshMutation deps.transit session outcome ports.nowMs with
      | error thrown =>
        rw [decided] at applied
        exact absurd rfl applied
      | ok mutation =>
        rw [decided] at applied
        rcases answer_applied applied with
          ⟨chosen, committed, effects, final, is, swapped, ran⟩
        rw [is] at decided ran ⊢
        rw [found.2] at swapped
        exact ⟨session, chosen, committed, effects, final, found.2 ▸ found.1, decided,
          swapped, ran⟩

theorem refresh_awaited (applied : RefreshApplied deps world outcome ports) :
    AwaitsRefresh deps world.phone.database outcome := by
  rcases refresh_applied applied with
    ⟨session, mutation, committed, effects, final, loaded, decided, swapped, ran⟩
  rcases refreshed_session decided with
    ⟨payload, next, transit, active, named, current, returned, is⟩
  unfold isCurrentRequest at current
  simp only [Bool.and_eq_true, beq_iff_eq] at current
  exact ⟨session, payload, loaded, active, named, transit, current.1.1, current.1.2, current.2⟩

theorem refresh_landed (readsSame : ReadsSame deps.alerts.parseMobileSession)
    (applied : RefreshApplied deps world outcome ports) (refresh : RefreshRuntime)
    (record : RecordOf deps outcome.sessionId
      (applyTransitRefresh deps outcome ports world).phone.database refresh) :
    outcome.generation ≤ refresh.generation ∧
      (refresh.status = .inFlight → outcome.generation < refresh.generation) := by
  rcases refresh_applied applied with
    ⟨session, mutation, committed, effects, final, loaded, decided, swapped, ran⟩
  rcases refreshed_session decided with
    ⟨payload, next, transit, active, named, current, returned, is⟩
  rw [ran] at record
  obtain ⟨newSessionId, other⟩ := other_id .restart outcome.sessionId (by simp [newIdOf])
  have wrote := @run_writes deps ports newSessionId _ (moves_respected readsSame other.1) final
    effects
  obtain ⟨landed, found⟩ := wrote refresh record
  have written := record_written readsSame (swap_row loaded rfl swapped) found.1
  obtain ⟨stored, payloadIs⟩ := written.2
  rw [is] at payloadIs
  cases payloadIs.1
  have lands := refreshed_lands _ _ _ _ _ returned
  unfold isCurrentRequest at current
  simp only [Bool.and_eq_true, beq_iff_eq] at current
  have generation : landed.generation = outcome.generation := by
    rw [← payloadIs.2, lands.1, current.1.2]
  rw [← generation]
  apply And.intro found.2.grows
  intro flying
  rcases found.2.inFlight flying with still | grown
  · rw [← payloadIs.2] at still
    exact absurd still.1 lands.2
  · exact grown

theorem reroute_awaited {outcome} {jitter01 : ℚ}
    (applied : RerouteApplied deps world outcome jitter01 ports) :
    AwaitsReroute deps world.phone.database outcome := by
  unfold RerouteApplied commitReroute at applied
  cases loaded : world.load deps ports.nowMs with
  | mk current after =>
    rw [loaded] at applied
    cases current with
    | none => exact absurd rfl applied
    | some session =>
      have found := load_finds loaded
      dsimp only at applied
      rcases answer_applied applied with
        ⟨chosen, committed, effects, final, decided, swapped, ran⟩
      unfold rerouteMutation at decided
      split at decided
      · cases decided
      · rename_i payload ground
        split at decided
        · cases decided
        · rename_i waits
          simp only [not_or, not_not] at waits
          exact ⟨session, payload, found.2 ▸ found.1, waits.1, waits.2.1, ground, waits.2.2⟩

variable {response : CommandResponse}

theorem refused_not_replaced {code messageId : String}
    (returned : (answer code messageId world).1 = .ok response) :
    response.type ≠ "session.replaced" := by
  cases returned
  simp [errorResponse]

theorem replace_committed {command startPackage expected}
    (returned : (CoordinatorHandlers.replace deps command startPackage expected ports world).1 =
      .ok response) (accepted : response.type = "session.replaced") :
    ∃ session mutation committed effects, Loaded deps world.phone.database session ∧
      decideReplace deps command startPackage expected ports.nowMs (some session) =
        .ok (session, mutation) ∧
      compareAndSwap deps.alerts.parseMobileSession session.sessionId session.revision
        (fun _ => .ok mutation) ports.nowMs world.phone.database = .ok (.ok committed effects,
          (CoordinatorHandlers.replace deps command startPackage expected ports
            world).2.phone.database) := by
  unfold CoordinatorHandlers.replace at returned ⊢
  cases loaded : world.load deps ports.nowMs with
  | mk current after =>
    rw [loaded] at returned
    dsimp only at returned ⊢
    cases decided : decideReplace deps command startPackage expected ports.nowMs current with
    | error refusal =>
      rw [decided] at returned
      cases refusal with
      | code code => exact absurd accepted (refused_not_replaced returned)
      | thrown text => cases returned
    | ok chosen =>
      rw [decided] at returned
      simp only [decidedThen] at returned ⊢
      have named := replaced_current decided
      rw [named] at loaded decided
      have found := load_finds loaded
      have same : (droppedCache chosen.1 after).phone.database = world.phone.database := by
        rw [← found.2]
        unfold droppedCache
        split <;> rfl
      cases swapped : (droppedCache chosen.1 after).commit deps chosen.1 chosen.2
          ports.nowMs with
      | mk result final =>
        rw [swapped] at returned
        rcases commit_cases chosen.1 chosen.2 ports.nowMs swapped with failed | committed
        · cases result with
          | error thrown => cases returned
          | ok result =>
            cases result with
            | failed code => exact absurd accepted (refused_not_replaced returned)
            | ok session effects => exact absurd rfl (failed.2 session effects)
        · rcases committed with ⟨session, effects, is, stored⟩
          rw [same] at stored
          rw [is]
          exact ⟨chosen.1, chosen.2, session, effects, found.2 ▸ found.1, decided, stored⟩

theorem replacement_grows (readsSame : ReadsSame deps.alerts.parseMobileSession)
    {command startPackage expected} (replaces : command.body = .replace startPackage expected)
    (unknown : cachedReply command ports.nowMs world = none)
    (reply : (handleCommand deps command ports world).1 = some response)
    (accepted : response.type = "session.replaced") {after}
    (record : RecordOf deps sessionId (handleCommand deps command ports world).2.phone.database
      after) : ∃ before, RecordOf deps sessionId world.phone.database before ∧
      before.generation < after.generation := by
  have routed : route deps command ports world =
      answered (CoordinatorHandlers.replace deps command startPackage expected ports world) := by
    simp only [route, replaces]
  unfold handleCommand at reply record
  rw [unknown, routed] at reply record
  cases returned : (CoordinatorHandlers.replace deps command startPackage expected ports
      world).1 with
  | error thrown =>
    simp only [answered, returned, Except.map, responseOf, Option.some.injEq] at reply
    rw [← reply] at accepted
    simp [errorResponse] at accepted
  | ok given =>
    simp only [answered, returned, Except.map, responseOf, Option.some.injEq] at reply record
    rw [reply] at returned
    rcases replace_committed returned accepted with
      ⟨session, mutation, committed, effects, loaded, decided, swapped⟩
    have kept : RecordOf deps sessionId (CoordinatorHandlers.replace deps command startPackage
        expected ports world).2.phone.database after := by
      rcases record with ⟨found, payload, stored, rest⟩
      refine ⟨found, payload, loaded_of_row ?_ stored, rest⟩
      intro row is
      unfold World.note remember at is
      split at is
      · rw [active_of_remember] at is
        exact is
      · exact is
    have written := record_written readsSame (swap_row loaded rfl swapped) kept
    obtain ⟨payload, transit⟩ := written.2
    obtain ⟨before, was⟩ := replaced_grows decided payload transit.1
    apply Exists.intro before.refresh
    apply And.intro
    · have named := (replaced_moves decided).named
      exact ⟨session, before, loaded, named.symm.trans written.1, was.1, rfl⟩
    · rw [← transit.2]
      exact was.2

structure AnswersInTime (deps : CoordinatorDeps) (occurrences : List Occurrence)
    (start : World) : Prop where
  refreshes : ∀ earlier outcome ports,
    earlier ++ [Occurrence.refresh outcome ports] <+: occurrences →
    RefreshApplied deps (run (step deps) earlier start) outcome ports →
    AwaitsRefresh deps (run (step deps) earlier start).phone.database outcome
  once : ∀ earlier between outcome again ports portsAgain,
    earlier ++ [Occurrence.refresh outcome ports] ++ between ++
      [Occurrence.refresh again portsAgain] <+: occurrences →
    again.sessionId = outcome.sessionId → again.generation = outcome.generation →
    RefreshApplied deps (run (step deps) earlier start) outcome ports →
    ¬ RefreshApplied deps
      (run (step deps) (earlier ++ [.refresh outcome ports] ++ between) start) again portsAgain
  grows : ∀ earlier later, earlier ++ later <+: occurrences → ∀ sessionId before after,
    RecordOf deps sessionId (run (step deps) earlier start).phone.database before →
    RecordOf deps sessionId (run (step deps) (earlier ++ later) start).phone.database after →
    before.generation ≤ after.generation
  requests : ∀ earlier later, earlier ++ later <+: occurrences → ∀ sessionId before after,
    RecordOf deps sessionId (run (step deps) earlier start).phone.database before →
    RecordOf deps sessionId (run (step deps) (earlier ++ later) start).phone.database after →
    after.status = .inFlight →
    before.status = .inFlight ∧ after.generation = before.generation ∧
        after.requestId = before.requestId ∨
      before.generation < after.generation
  sent : ∀ session payload arrived nowMs requestId,
    (decideRefresh session payload arrived nowMs).2 = some requestId →
    payload.refresh.generation <
        (decideRefresh session payload arrived nowMs).1.refresh.generation ∧
      (decideRefresh session payload arrived nowMs).1.refresh.status = .inFlight ∧
      (decideRefresh session payload arrived nowMs).1.refresh.requestId = some requestId
  replacements : ∀ earlier command ports startPackage expected response,
    earlier ++ [Occurrence.command command ports] <+: occurrences →
    command.body = .replace startPackage expected →
    cachedReply command ports.nowMs (run (step deps) earlier start) = none →
    (handleCommand deps command ports (run (step deps) earlier start)).1 = some response →
    response.type = "session.replaced" → ∀ sessionId before after,
    RecordOf deps sessionId (run (step deps) earlier start).phone.database before →
    RecordOf deps sessionId
      (run (step deps) (earlier ++ [.command command ports]) start).phone.database after →
    before.generation < after.generation
  reroutes : ∀ earlier outcome jitter01 ports,
    earlier ++ [Occurrence.reroute outcome jitter01 ports] <+: occurrences →
    RerouteApplied deps (run (step deps) earlier start) outcome jitter01 ports →
    AwaitsReroute deps (run (step deps) earlier start).phone.database outcome

variable {start : World}

theorem later_fresh (readsSame : ReadsSame deps.alerts.parseMobileSession)
    (agree : RowsAgree start.phone.database) (earlier later : List Occurrence)
    (alone : ∀ occurrence ∈ earlier, Alone occurrence)
    (fresh : ((storedId start.phone.database).toList ++ newIds (earlier ++ later)).Nodup)
    (stored : storedId (run (step deps) earlier start).phone.database = some sessionId) :
    sessionId ∉ newIds later := by
  have known := (run_known readsSame start agree earlier alone).2 sessionId stored
  have parted : newIds (earlier ++ later) = newIds earlier ++ newIds later := filterMap_append
  rw [parted, ← append_assoc] at fresh
  intro again
  exact (nodup_append.mp fresh).2.2 sessionId known sessionId again rfl

end

/-- In every run, however late and however often answers come: an answer to a refresh
changes the tables only while the stored session waits for it, each request is answered
once, and the generation of a session grows with every request and every replacement. -/
theorem late_answers_dropped (deps : CoordinatorDeps)
    (readsSame : ReadsSame deps.alerts.parseMobileSession) (start : World)
    (agree : RowsAgree start.phone.database) (occurrences : List Occurrence)
    (alone : ∀ occurrence ∈ occurrences, Alone occurrence)
    (fresh : ((storedId start.phone.database).toList ++ newIds occurrences).Nodup) :
    AnswersInTime deps occurrences start := by
  have known : ∀ earlier later sessionId, earlier ++ later <+: occurrences →
      storedId (run (step deps) earlier start).phone.database = some sessionId →
      sessionId ∉ newIds later ∧ ∀ occurrence ∈ later, Alone occurrence := by
    intro earlier later sessionId reached stored
    have part : List.Sublist ((storedId start.phone.database).toList ++ newIds (earlier ++ later))
        ((storedId start.phone.database).toList ++ newIds occurrences) :=
      List.Sublist.append (List.Sublist.refl _) (reached.sublist.filterMap newIdOf)
    apply And.intro
    · apply later_fresh readsSame agree earlier later _ (part.nodup fresh) stored
      intro other member
      exact alone other (reached.subset (mem_append_left _ member))
    · intro other member
      exact alone other (reached.subset (mem_append_right _ member))
  have agreed : ∀ earlier, earlier <+: occurrences →
      RowsAgree (run (step deps) earlier start).phone.database := by
    intro earlier reached
    exact (run_known readsSame start agree earlier
      (by intro other member; exact alone other (reached.subset member))).1
  have moved : ∀ earlier later, earlier ++ later <+: occurrences → ∀ sessionId before after,
      RecordOf deps sessionId (run (step deps) earlier start).phone.database before →
      RecordOf deps sessionId (run (step deps) (earlier ++ later) start).phone.database after →
      RecordMoves before after := by
    intro earlier later reached sessionId before after first second
    have stored := record_stored readsSame
      (agreed earlier ((prefix_append earlier later).trans reached)) first
    have others := known earlier later sessionId reached stored
    rw [run_append] at second
    obtain ⟨was, found⟩ := run_moves readsSame sessionId _ later others.2 others.1 after second
    rw [record_unique first found.1]
    exact found.2
  exact {
    refreshes := by
      intro earlier outcome ports _ applied
      exact refresh_awaited applied
    once := by
      intro earlier between outcome again ports portsAgain reached named generation applied
        appliedAgain
      have parted : earlier ++ ([.refresh outcome ports] ++ between) <+: occurrences := by
        rw [← append_assoc]
        exact (prefix_append _ _).trans reached
      rcases refresh_awaited applied with ⟨session, payload, loaded, -, is, transit, -, -, -⟩
      have stored := record_stored readsSame
        (agreed earlier ((prefix_append _ _).trans parted))
        ⟨session, payload, loaded, is, transit, rfl⟩
      have others := known earlier _ outcome.sessionId parted stored
      rcases refresh_awaited appliedAgain with
        ⟨later, payloadLater, loadedLater, -, isLater, transitLater, flying, numbered, -⟩
      rw [run_append, run_snoc] at loadedLater
      have moves := run_moves readsSame outcome.sessionId
        (step deps (run (step deps) earlier start) (.refresh outcome ports)) between
        (by intro other member; exact others.2 other (mem_append_right _ member))
        (by
          intro member
          apply others.1
          unfold newIds at member ⊢
          rw [filterMap_append]
          exact mem_append_right _ member)
      cases moves payloadLater.refresh
          ⟨later, payloadLater, loadedLater, isLater.trans named, transitLater, rfl⟩ with
      | intro landed found =>
        have lands := refresh_landed readsSame applied landed found.1
        rw [generation] at numbered
        have grows := found.2.grows
        rcases found.2.inFlight flying with still | grown
        · have later := lands.2 still.1
          omega
        · omega
    grows := by
      intro earlier later reached sessionId before after first second
      exact (moved earlier later reached sessionId before after first second).grows
    requests := by
      intro earlier later reached sessionId before after first second flying
      exact (moved earlier later reached sessionId before after first second).inFlight flying
    sent := decided_sends
    replacements := by
      intro earlier command ports startPackage expected response _ replaces unknown reply accepted
        sessionId before after first second
      rw [run_snoc] at second
      obtain ⟨was, found⟩ := replacement_grows readsSame replaces unknown reply accepted second
      rw [record_unique first found.1]
      exact found.2
    reroutes := by
      intro earlier outcome jitter01 ports _ applied
      exact reroute_awaited applied }

def refreshableTrip : TripItinerary := { tramTrip with refreshToken := some "t1" }

def requestedRefresh : List Occurrence :=
  [.command (fromPage "m1" none
      (.prepare (.transit { tramPackage with itinerary := refreshableTrip })))
      (portsAt 0 "s1" none),
    startTram (some .background),
    .batch { sanitiseFixes := fun _ _ => [] } id (portsAt 2000 "" none) (portsAt 2000 "" none)]

def tramAnswer : RefreshOutcome where
  requestId := "s1:refresh:1"
  sessionId := "s1"
  generation := 1
  answer := .answered { refreshableTrip with refreshToken := some "t2" } [] false

theorem tram_refresh_applied :
    RefreshApplied tramDeps (run (step tramDeps) requestedRefresh freshWorld) tramAnswer
      (portsAt 3000 "" none) := by
  intro same
  have revisions := congrArg (fun db => db.active_navigation.map ActiveRow.revision) same
  revert revisions
  decide +kernel

/-- The answer is taken when it comes, and dropped when it comes again. -/
theorem tram_answered_once :
    RefreshApplied tramDeps (run (step tramDeps) requestedRefresh freshWorld) tramAnswer
        (portsAt 3000 "" none) ∧ ¬ RefreshApplied tramDeps (run (step tramDeps)
          (requestedRefresh ++ [.refresh tramAnswer (portsAt 3000 "" none)] ++ []) freshWorld)
        tramAnswer (portsAt 4000 "" none) := by
  have late := late_answers_dropped tramDeps
    (by intro stored session parsed; cases parsed; rfl) freshWorld
    (by intro row stored; cases stored)
    (requestedRefresh ++ [.refresh tramAnswer (portsAt 3000 "" none)] ++ [] ++
      [.refresh tramAnswer (portsAt 4000 "" none)])
    (by
      intro occurrence member
      simp only [requestedRefresh, startTram, append_nil, cons_append, nil_append,
        mem_cons, not_mem_nil, or_false] at member
      rcases member with rfl | rfl | rfl | rfl | rfl
      · trivial
      · trivial
      · rfl
      · trivial
      · trivial)
    (by decide)
  apply And.intro tram_refresh_applied
  exact late.once requestedRefresh [] tramAnswer tramAnswer _ _ (prefix_refl _) rfl rfl
    tram_refresh_applied

end OpenMapX.Mobile.LateAnswers
