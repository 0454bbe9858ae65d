import OpenMapX.Mobile.HandlerWrites
import OpenMapX.Mobile.RememberedReplies

/-!
# Commands that come again

A command that is delivered again within the lifetime of its reply changes no table
and is answered as before, as long as the session that the reply names does not leave
the store in between: it takes its replies along.
-/

namespace OpenMapX.Mobile.CommandReplay

open Foundation.Runs SessionStore StoreWriters Coordinator CoordinatorHandlers HandlerWrites
  RememberedReplies List Prod

/-- The messages whose replies are remembered, each with the time it was handled. -/
def deliveredBy : Occurrence → List (String × ℤ)
  | .command command ports =>
    if MUTATING command.body then [(command.messageId, ports.nowMs)] else []
  | _ => []

def delivered (occurrences : List Occurrence) : List (String × ℤ) := occurrences.flatMap deliveredBy

theorem delivered_snoc (earlier : List Occurrence) (occurrence : Occurrence) :
    delivered (earlier ++ [occurrence]) = delivered earlier ++ deliveredBy occurrence := by
  simp [delivered]

section

variable (deps : CoordinatorDeps)

theorem prepared_named {startPackage} {sessionId : String} {permissionMode} {nowMs : ℤ} {session}
    (prepared : prepareSession deps startPackage sessionId permissionMode nowMs = .ok session) :
    session.sessionId = sessionId := by
  cases startPackage with
  | ground startPackage =>
    simp only [prepareSession] at prepared
    cases valid : deps.ground.validateGroundStartPackage startPackage with
    | error code =>
      rw [valid] at prepared
      cases prepared
    | ok value =>
      rw [valid] at prepared
      cases prepared
      rfl
  | transit startPackage =>
    simp only [prepareSession] at prepared
    split at prepared
    · cases prepared
    · cases prepared
      rfl

theorem fades_respected (readsBack : ReadsBack deps.alerts.parseMobileSession)
    (newSessionId : String) :
    Respected deps newSessionId
      (fun before after => RowsAgree before → Fades newSessionId before after) where
  refl := by
    intro db agree
    exact Fades.refl newSessionId agree
  trans := by
    intro first second third before after agree
    have faded := before agree
    exact faded.trans (after faded.agree)
  load := by
    intro nowMs db agree
    exact load_fades deps.alerts.parseMobileSession nowMs db agree
  alerts := by
    intro sessionId alerts nowMs db agree
    exact alerts_fade sessionId alerts nowMs db agree
  ended := by
    intro sessionId finalStatus nowMs db agree
    exact terminate_fades deps.alerts.parseMobileSession sessionId finalStatus nowMs db agree
  acked := by
    intro eventIds db agree
    have acked := only_events_of_ack eventIds db
    obtain ⟨events, same⟩ := acked
    rw [same]
    exact Fades.same agree rfl rfl
  created := by
    intro startPackage nowMs session db prepared agree
    exact create_fades deps.alerts.parseMobileSession session db agree
      (prepared_named deps prepared)
  committed := by
    intro current mutation mutate nowMs db result after stored decided changes swapped agree
    exact swap_fades deps.alerts.parseMobileSession readsBack current.sessionId current.revision
      mutate nowMs db agree result after swapped

theorem step_replies (world : World) (occurrence : Occurrence) :
    (step deps world occurrence).phone.database =
        (beforeReply deps world occurrence).phone.database ∨
      ∃ command ports response, occurrence = .command command ports ∧
        MUTATING command.body = true ∧ cachedReply command ports.nowMs world = none ∧
        (handleCommand deps command ports world).1 = some response ∧
        (step deps world occurrence).phone.database =
          rememberCommand command.messageId response.sessionId response ports.nowMs
            (beforeReply deps world occurrence).phone.database := by
  cases occurrence with
  | command command ports =>
    unfold step beforeReply handleCommand
    dsimp only
    cases looked : cachedReply command ports.nowMs world with
    | some cached => exact Or.inl rfl
    | none =>
      dsimp only
      cases reply : responseOf command (route deps command ports world).1 with
      | none => exact Or.inl rfl
      | some response =>
        dsimp only [World.note]
        cases mutating : MUTATING command.body with
        | false =>
          apply Or.inl
          simp [remember, mutating]
        | true =>
          apply Or.inr
          apply Exists.intro command
          apply Exists.intro ports
          apply Exists.intro response
          simp [remember, mutating, looked, reply]
  | surfaceStop expectedSessionId ports => exact Or.inl rfl
  | carTrip trip ports => exact Or.inl rfl
  | batch batch meanwhile ports retryPorts => exact Or.inl rfl
  | reroute outcome jitter01 ports => exact Or.inl rfl
  | refresh outcome ports => exact Or.inl rfl
  | restart => exact Or.inl rfl

theorem before_reply_fades (readsBack : ReadsBack deps.alerts.parseMobileSession) (world : World)
    (occurrence : Occurrence) (alone : Alone occurrence) (newSessionId : String)
    (fresh : ∀ id, newIdOf occurrence = some id → id = newSessionId)
    (agree : RowsAgree world.phone.database) : Fades newSessionId world.phone.database
      (beforeReply deps world occurrence).phone.database :=
  occurrence_writes (fades_respected deps readsBack newSessionId) world occurrence alone fresh
    agree

theorem commands_of_remember (messageId : String) (sessionId : Option String)
    (response : CommandResponse) (nowMs : ℤ) (db : Database) :
    RowsAgree (rememberCommand messageId sessionId response nowMs db) ↔ RowsAgree db := by
  unfold RowsAgree
  rw [active_of_remember]

structure Kept (history : List (String × ℤ)) (world : World) : Prop where
  agree : RowsAgree world.phone.database
  recorded : Recorded history world.phone.database.processed_commands

theorem step_kept (readsBack : ReadsBack deps.alerts.parseMobileSession) (world : World)
    (occurrence : Occurrence) (alone : Alone occurrence) (history) (kept : Kept history world) :
    Kept (history ++ deliveredBy occurrence) (step deps world occurrence) := by
  have faded := before_reply_fades deps readsBack world occurrence alone
    ((newIdOf occurrence).getD "") (by intro id named; rw [named]; rfl) kept.agree
  have before : Kept history (beforeReply deps world occurrence) := {
    agree := faded.agree
    recorded := kept.recorded.sublist faded.sublist }
  rcases step_replies deps world occurrence with same | replied
  · exact {
      agree := by rw [same]; exact before.agree
      recorded := by rw [same]; exact before.recorded.longer _ }
  · rcases replied with ⟨command, ports, response, chosen, mutating, -, -, remembered⟩
    have entry : deliveredBy occurrence = [(command.messageId, ports.nowMs)] := by
      rw [chosen]
      simp [deliveredBy, mutating]
    exact {
      agree := by
        rw [remembered, commands_of_remember]
        exact before.agree
      recorded := by
        rw [remembered, entry]
        exact remember_recorded _ _ _ _ _ before.recorded }

theorem run_kept (readsBack : ReadsBack deps.alerts.parseMobileSession) (start : World)
    (history) (kept : Kept history start) (occurrences : List Occurrence)
    (alone : ∀ occurrence ∈ occurrences, Alone occurrence) :
    Kept (history ++ delivered occurrences) (run (step deps) occurrences start) := by
  induction occurrences using List.reverseRecOn with
  | nil =>
    rw [run_nil]
    simpa [delivered] using kept
  | append_singleton earlier occurrence ih =>
    rw [run_snoc, delivered_snoc, ← append_assoc]
    apply step_kept deps readsBack
    · exact alone occurrence (by simp)
    · apply ih
      intro other member
      exact alone other (by simp [member])

def StaysStored (sessionId : String) (world : World) (occurrence : Occurrence) : Prop :=
  newIdOf occurrence ≠ some sessionId ∧
    (storedId world.phone.database = some sessionId →
      storedId (step deps world occurrence).phone.database = some sessionId)

theorem stored_of_remember (messageId : String) (sessionId : Option String)
    (response : CommandResponse) (nowMs : ℤ) (db : Database) :
    storedId (rememberCommand messageId sessionId response nowMs db) = storedId db := by
  rw [storedId, storedId, active_of_remember]

theorem step_stored (world : World) (occurrence : Occurrence) :
    storedId (step deps world occurrence).phone.database =
      storedId (beforeReply deps world occurrence).phone.database := by
  rcases step_replies deps world occurrence with same | replied
  · rw [same]
  · rcases replied with ⟨command, ports, response, -, -, -, -, remembered⟩
    rw [remembered, stored_of_remember]

variable (readsBack : ReadsBack deps.alerts.parseMobileSession)
include readsBack

section

variable (world : World) (occurrence : Occurrence) (alone : Alone occurrence)
include alone

theorem before_reply_keeps (agree : RowsAgree world.phone.database) (row : CommandRow)
    (member : row ∈ world.phone.database.processed_commands)
    (stays : ∀ sessionId, row.session_id = some sessionId →
      StaysStored deps sessionId world occurrence) :
    row ∈ (beforeReply deps world occurrence).phone.database.processed_commands := by
  by_contra absent
  -- whatever id a preparation may take, the row goes with a session that leaves
  have dropped : ∀ newSessionId, (∀ id, newIdOf occurrence = some id → id = newSessionId) →
      ∃ sessionId, row.session_id = some sessionId ∧
        (sessionId = newSessionId ∨ storedId world.phone.database = some sessionId ∧
          storedId (beforeReply deps world occurrence).phone.database ≠ some sessionId) := by
    intro newSessionId fresh
    exact (before_reply_fades deps readsBack world occurrence alone newSessionId fresh
      agree).dropped row member absent
  obtain ⟨sessionId, found⟩ := dropped ((newIdOf occurrence).getD "") (by intro id named; rw [named]; rfl)
  have kept := stays sessionId found.1
  obtain ⟨newSessionId, other⟩ := other_id occurrence sessionId kept.1
  obtain ⟨left, leaves⟩ := dropped newSessionId other.2
  have same : left = sessionId := by
    have names := leaves.1.symm.trans found.1
    cases names
    rfl
  rw [same] at leaves
  have ended := leaves.2.resolve_left (Ne.symm other.1)
  apply ended.2
  rw [← step_stored]
  exact kept.2 ended.1

theorem step_keeps_reply (history) (kept : Kept history world) (row : CommandRow)
    (member : row ∈ world.phone.database.processed_commands)
    (stays : ∀ sessionId, row.session_id = some sessionId →
      StaysStored deps sessionId world occurrence)
    (unexpired : ∀ time ∈ (deliveredBy occurrence).map snd, time < row.expires_at_ms)
    (few : (messagesSince row.created_at_ms (history ++ deliveredBy occurrence)).dedup.length ≤
      MAX_PROCESSED_COMMANDS) :
    row ∈ (step deps world occurrence).phone.database.processed_commands := by
  have before := before_reply_keeps deps readsBack world occurrence alone kept.agree row member
    stays
  have faded := before_reply_fades deps readsBack world occurrence alone
    ((newIdOf occurrence).getD "") (by intro id named; rw [named]; rfl) kept.agree
  rcases step_replies deps world occurrence with same | replied
  · rw [same]
    exact before
  · rcases replied with ⟨command, ports, response, chosen, mutating, -, -, remembered⟩
    have entry : deliveredBy occurrence = [(command.messageId, ports.nowMs)] := by
      rw [chosen]
      simp [deliveredBy, mutating]
    rw [remembered]
    apply remember_keeps _ _ _ _ _ (kept.recorded.sublist faded.sublist)
    · unfold INSERT_PROCESSED_COMMAND
      split
      · exact before
      · exact mem_append_left _ before
    · apply unexpired
      rw [entry]
      exact mem_singleton_self _
    · rw [← entry]
      exact few

end

omit readsBack in
theorem fewer_messages (time : ℤ) (history later) : (messagesSince time history).dedup.length ≤
      (messagesSince time (history ++ later)).dedup.length := by
  have within : (messagesSince time history).dedup ⊆
      (messagesSince time (history ++ later)).dedup := by
    intro id member
    rw [mem_dedup] at member ⊢
    rw [messagesSince, filter_append, map_append]
    exact mem_append_left _ member
  exact (subperm_of_subset (nodup_dedup _) within).length_le

theorem run_keeps_reply (start : World) (history) (kept : Kept history start) (row : CommandRow)
    (member : row ∈ start.phone.database.processed_commands) (between : List Occurrence)
    (alone : ∀ occurrence ∈ between, Alone occurrence)
    (stays : ∀ sessionId, row.session_id = some sessionId → ∀ before occurrence,
      before ++ [occurrence] <+: between →
      StaysStored deps sessionId (run (step deps) before start) occurrence)
    (unexpired : ∀ time ∈ (delivered between).map snd, time < row.expires_at_ms)
    (few : (messagesSince row.created_at_ms (history ++ delivered between)).dedup.length ≤
      MAX_PROCESSED_COMMANDS) :
    row ∈ (run (step deps) between start).phone.database.processed_commands := by
  induction between using List.reverseRecOn with
  | nil => exact member
  | append_singleton before occurrence ih =>
    have allAlone : ∀ other ∈ before, Alone other := by
      intro other listed
      exact alone other (by simp [listed])
    rw [delivered_snoc] at unexpired few
    rw [← append_assoc] at few
    rw [run_snoc]
    apply step_keeps_reply deps readsBack _ _ (alone occurrence (by simp)) _
      (run_kept deps readsBack start history kept before allAlone) row
    · apply ih allAlone
      · intro sessionId named earlier other reached
        exact stays sessionId named earlier other
          (reached.trans (prefix_append before [occurrence]))
      · intro time listed
        apply unexpired
        rw [map_append]
        exact mem_append_left _ listed
      · exact Nat.le_trans (fewer_messages _ _ _) few
    · intro sessionId named
      exact stays sessionId named before occurrence (prefix_refl _)
    · intro time listed
      apply unexpired
      rw [map_append]
      exact mem_append_right _ listed
    · exact few

omit readsBack

theorem mutating_answers (command : WebCommand) (ports : PortAnswers) (world : World)
    (mutating : MUTATING command.body = true) :
    ∃ response, responseOf command (route deps command ports world).1 = some response := by
  have either : ∀ handled : Handled, ∃ response,
      responseOf command (answered handled).1 = some response := by
    intro handled
    cases handled with
    | mk result after =>
      cases result with
      | error thrown => exact Exists.intro _ rfl
      | ok response => exact Exists.intro response rfl
  unfold route
  split
  · rename_i body
    rw [body] at mutating
    cases mutating
  · rename_i body
    rw [body] at mutating
    cases mutating
  · exact either _
  · exact either _
  · exact either _
  · exact either _
  · exact either _
  · exact either _
  · rename_i body
    rw [body] at mutating
    cases mutating
  · exact Exists.intro _ rfl
  · exact Exists.intro _ rfl
  · rename_i body
    rw [body] at mutating
    cases mutating
  · rename_i body
    rw [body] at mutating
    cases mutating

def replyRow (command : WebCommand) (response : CommandResponse) (nowMs : ℤ) : CommandRow where
  message_id := command.messageId
  session_id := response.sessionId
  response_json := response
  created_at_ms := nowMs
  expires_at_ms := nowMs + PROCESSED_COMMAND_TTL_MS

theorem first_delivery (readsBack : ReadsBack deps.alerts.parseMobileSession) (world : World)
    (command : WebCommand) (ports : PortAnswers) (mutating : MUTATING command.body = true) (history)
    (kept : Kept history world) (first : command.messageId ∉ history.map fst)
    (few : (messagesSince ports.nowMs
      (history ++ deliveredBy (.command command ports))).dedup.length ≤ MAX_PROCESSED_COMMANDS) :
    ∃ response, (handleCommand deps command ports world).1 = some response ∧
      replyRow command response ports.nowMs ∈
        (step deps world (.command command ports)).phone.database.processed_commands := by
  have unknown : cachedReply command ports.nowMs world = none := by
    unfold cachedReply
    rw [if_pos mutating]
    exact lookup_unknown command.messageId ports.nowMs _ kept.recorded first
  have answers := mutating_answers deps command ports world mutating
  obtain ⟨response, reply⟩ := answers
  apply Exists.intro response
  have faded := before_reply_fades deps readsBack world (.command command ports) trivial
    ((newIdOf (.command command ports)).getD "") (by intro id named; rw [named]; rfl)
    kept.agree
  have recorded := kept.recorded.sublist faded.sublist
  have routed : beforeReply deps world (.command command ports) =
      (route deps command ports world).2 := by
    simp only [beforeReply, unknown]
  rw [routed] at recorded
  have entry : deliveredBy (.command command ports) =
      [(command.messageId, ports.nowMs)] := by
    simp [deliveredBy, mutating]
  rw [entry] at few
  apply And.intro
  · simp only [handleCommand, unknown, reply]
  · have remembered : (step deps world (.command command ports)).phone.database =
        rememberCommand command.messageId response.sessionId response ports.nowMs
          (route deps command ports world).2.phone.database := by
      simp [step, handleCommand, unknown, reply, remember, mutating, World.note]
    rw [remembered]
    apply remember_keeps _ _ _ _ _ recorded
    · unfold INSERT_PROCESSED_COMMAND
      split
      · rename_i known
        rw [any_eq_true] at known
        obtain ⟨row, found⟩ := known
        apply absurd _ first
        rw [mem_map]
        apply Exists.intro (row.message_id, row.created_at_ms)
        exact And.intro (recorded.delivered row found.1) (by simpa using found.2)
      · exact mem_append_right _ (mem_singleton_self _)
    · unfold replyRow
      dsimp only
      have lifetime : 0 < PROCESSED_COMMAND_TTL_MS := by decide
      omega
    · exact few

theorem repetition_answered (world : World) (command : WebCommand) (again : PortAnswers)
    (mutating : MUTATING command.body = true) (history)
    (kept : Kept history world) (response : CommandResponse) (nowMs : ℤ)
    (member : replyRow command response nowMs ∈ world.phone.database.processed_commands)
    (within : again.nowMs < nowMs + PROCESSED_COMMAND_TTL_MS) :
    (handleCommand deps command again world).1 = some response ∧
      (handleCommand deps command again world).2.phone = world.phone := by
  have cached : cachedReply command again.nowMs world = some response := by
    unfold cachedReply
    rw [if_pos mutating]
    exact lookup_finds again.nowMs _ kept.recorded (replyRow command response nowMs) member within
  unfold handleCommand
  rw [cached]
  exact And.intro rfl rfl

end

/-- While its reply lives, a command is executed once: however often it is delivered in
the course of other occurrences, a repetition finds the first answer and changes no
table, unless the session that the answer names has left the store in between. -/
theorem commands_execute_once (deps : CoordinatorDeps)
    (readsBack : ReadsBack deps.alerts.parseMobileSession) (start : World)
    (agree : RowsAgree start.phone.database) (empty : start.phone.database.processed_commands = [])
    (earlier between : List Occurrence) (command : WebCommand) (ports again : PortAnswers)
    (mutating : MUTATING command.body = true)
    (alone : ∀ occurrence ∈ earlier ++ between, Alone occurrence)
    (first : command.messageId ∉ (delivered earlier).map fst)
    (lifetime : ∀ time ∈ (delivered between).map snd,
      time < ports.nowMs + PROCESSED_COMMAND_TTL_MS)
    (within : again.nowMs < ports.nowMs + PROCESSED_COMMAND_TTL_MS)
    (few : (messagesSince ports.nowMs (delivered
      (earlier ++ [.command command ports] ++ between))).dedup.length < MAX_PROCESSED_COMMANDS)
    (stays : ∀ response sessionId,
      (handleCommand deps command ports (run (step deps) earlier start)).1 = some response →
      response.sessionId = some sessionId → ∀ before occurrence,
      before ++ [occurrence] <+: between →
      StaysStored deps sessionId
        (run (step deps) (earlier ++ [.command command ports] ++ before) start) occurrence) :
    (handleCommand deps command again (run (step deps)
        (earlier ++ [.command command ports] ++ between) start)).1 =
      (handleCommand deps command ports (run (step deps) earlier start)).1 ∧
    (handleCommand deps command again (run (step deps)
        (earlier ++ [.command command ports] ++ between) start)).2.phone.database =
      (run (step deps) (earlier ++ [.command command ports] ++ between) start).phone.database := by
  have initially : Kept [] start := {
    agree := agree
    recorded := {
      distinct := by rw [empty]; exact nodup_nil
      delivered := by rw [empty]; simp
      lasting := by rw [empty]; simp } }
  have keptBefore := run_kept deps readsBack start [] initially earlier
    (by intro other member; exact alone other (by simp [member]))
  rw [nil_append] at keptBefore
  have keptFirst := step_kept deps readsBack _ (.command command ports) trivial _ keptBefore
  have fewAll : (messagesSince ports.nowMs (delivered earlier ++
      deliveredBy (.command command ports) ++ delivered between)).dedup.length ≤
      MAX_PROCESSED_COMMANDS := by
    have split : delivered (earlier ++ [.command command ports] ++ between) =
        delivered earlier ++ deliveredBy (.command command ports) ++ delivered between := by
      simp [delivered]
    rw [split] at few
    exact Nat.le_of_lt few
  have delivery := first_delivery deps readsBack _ command ports mutating _ keptBefore first
    (Nat.le_trans (fewer_messages _ _ _) fewAll)
  obtain ⟨response, answered⟩ := delivery
  have aloneBetween : ∀ other ∈ between, Alone other := by
    intro other member
    exact alone other (by simp [member])
  have stayed := run_keeps_reply deps readsBack _ _ keptFirst
    (replyRow command response ports.nowMs) answered.2 between aloneBetween
    (by
      intro sessionId named before occurrence reached
      have remains := stays response sessionId answered.1 named before occurrence reached
      rw [run_append, run_snoc] at remains
      exact remains)
    lifetime fewAll
  have keptLast := run_kept deps readsBack _ _ keptFirst between aloneBetween
  rw [run_append, run_snoc, answered.1]
  have repeated := repetition_answered deps _ command again mutating _ keptLast response
    ports.nowMs stayed within
  exact And.intro repeated.1 (congrArg (·.database) repeated.2)

def preparation : WebCommand := fromPage "m1" none (.prepare (.transit tramPackage))

theorem tram_prepared_once :
    (handleCommand tramDeps preparation (portsAt 2000 "s2" none) (run (step tramDeps)
        ([] ++ [.command preparation (portsAt 0 "s1" none)] ++ [startTram (some .background)])
        freshWorld)).1 =
      (handleCommand tramDeps preparation (portsAt 0 "s1" none) freshWorld).1 := by
  have once := commands_execute_once tramDeps
    (by intro stored session parsed; cases parsed; exact And.intro rfl rfl) freshWorld
    (by intro row stored; cases stored) rfl [] [startTram (some .background)] preparation
    (portsAt 0 "s1" none) (portsAt 2000 "s2" none) rfl
    (by intro occurrence member; rw [mem_singleton.mp member]; trivial)
    (by simp [delivered]) (by decide) (by decide) (by decide +kernel)
    (by
      intro response sessionId answered named before occurrence reached
      have shape : before = [] ∧ occurrence = startTram (some .background) := by
        cases before with
        | nil => simpa using reached
        | cons head rest => simp at reached
      have id : sessionId = "s1" := by
        have same : (handleCommand tramDeps preparation (portsAt 0 "s1" none)
            freshWorld).1.bind CommandResponse.sessionId = some "s1" := by decide +kernel
        have given : (handleCommand tramDeps preparation (portsAt 0 "s1" none)
            freshWorld).1 = some response := answered
        rw [given] at same
        simpa [named] using same
      rw [shape.1, shape.2, id]
      apply And.intro
      · decide
      · intro _
        decide +kernel)
  exact once.1

/-- The page stops the session and sends its preparation once more: a second session is
prepared. -/
theorem stopped_tram_prepared_again :
    (handleCommand tramDeps preparation (portsAt 2000 "s2" none) (run (step tramDeps)
        [.command preparation (portsAt 0 "s1" none),
          .command (fromPage "m2" (some "s1") .stop) (portsAt 1000 "" none)] freshWorld)).1 ≠
      (handleCommand tramDeps preparation (portsAt 0 "s1" none) freshWorld).1 ∧
    storedId (handleCommand tramDeps preparation (portsAt 2000 "s2" none) (run (step tramDeps)
        [.command preparation (portsAt 0 "s1" none),
          .command (fromPage "m2" (some "s1") .stop) (portsAt 1000 "" none)]
        freshWorld)).2.phone.database = some "s2" := by
  decide +kernel

end OpenMapX.Mobile.CommandReplay
