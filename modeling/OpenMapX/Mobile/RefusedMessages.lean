import OpenMapX.Foundation.Runs
import OpenMapX.Mobile.NativeBridge

/-!
# Refused messages

A refusal before the message is remembered leaves the channel as it was. One that comes
later, for want of a handshake, of its version or of a capability, has added the message
to the remembered ones, and the channel takes the same message for a repetition when it
is delivered again.
-/

namespace OpenMapX.Mobile.RefusedMessages

open Foundation.Runs Foundation.JsonValue Channel NativeBridge

variable (deps : NativeBridgeDeps)

theorem enqueue_registry (state : BridgeState) (message : OutboundDraft) :
    (enqueue state message).1.registry = state.registry := by
  unfold enqueue
  dsimp only
  generalize (if message.type = .snapshotUpdate then _ else _) = superseded
  split
  · split <;> rfl
  · rfl

section

variable (state : BridgeState) (nowMs : Int)

theorem emit_registry (draft : OutboundDraft) (options : EmitOptions) (forMessageId : Option String)
    : (emit deps state nowMs draft options forMessageId).1.registry = state.registry := by
  unfold emit
  split
  · rfl
  · dsimp only
    split
    · rfl
    · split
      · rfl
      · split
        · rfl
        · split
          · exact enqueue_registry _ _
          · split <;> rfl

theorem send_registry (draft : OutboundDraft) (forMessageId : Option String) :
    (send deps state nowMs draft forMessageId).1.registry = state.registry :=
  emit_registry deps state nowMs draft _ forMessageId

theorem contain_registry (command) (immediate : Bool) :
    (containDependencyFailure deps state nowMs command immediate).registry = state.registry :=
  emit_registry deps state nowMs _ _ _

end

theorem flushPending_registry (nowMs : Int) (protocolVersion : Nat) (pending) (state : BridgeState)
    : (flushPending deps nowMs protocolVersion pending state).1.registry = state.registry := by
  induction pending generalizing state with
  | nil => rfl
  | cons draft pending ih =>
    unfold flushPending
    dsimp only
    split
    · exact emit_registry deps state nowMs draft _ none
    · rw [ih]
      exact emit_registry deps state nowMs draft _ none

theorem flush_registry (state : BridgeState) (nowMs : Int) :
    (flush deps state nowMs).1.registry = state.registry := by
  unfold flush
  split
  · rfl
  · exact flushPending_registry deps nowMs _ _ _

theorem settle_registry (state : BridgeState) (command) (succeeded : Bool) (nowMs : Int) :
    (settleDispatch deps state command succeeded nowMs).1.registry = state.registry := by
  unfold settleDispatch
  split
  · rfl
  · exact contain_registry deps state nowMs command false

section

variable (state : BridgeState) (greeting : Greeting) (described : Option ShellDescription)
  (nowMs : Int)

theorem answer_seen :
    (answerHello deps state greeting described nowMs).1.registry.seen = state.registry.seen := by
  unfold answerHello
  split
  · dsimp only
    rw [contain_registry]
  · split
    · rfl
    · dsimp only
      cases greeting.selected with
      | none =>
        dsimp only
        split
        · rw [contain_registry, emit_registry]
        · rw [if_pos rfl, emit_registry]
      | some selected =>
        dsimp only
        split
        · rw [contain_registry, emit_registry]
          exact complete_seen _ _ _
        · rw [if_neg (by simp)]
          split
          · rw [flush_registry, emit_registry]
            exact complete_seen _ _ _
          · rw [contain_registry, flush_registry, emit_registry]
            exact complete_seen _ _ _

theorem answer_rejected (code)
    (rejected : (answerHello deps state greeting described nowMs).2 = .rejected code) :
    (answerHello deps state greeting described nowMs).1 = state ∧
      state.registry.isCurrent greeting.channelNonce = false := by
  unfold answerHello at rejected ⊢
  split
  · cases rejected
  · split
    · rename_i shell gone
      exact ⟨rfl, gone⟩
    · rename_i shell current
      dsimp only at rejected
      rw [if_neg current] at rejected
      generalize emit deps _ nowMs _ _ _ = replied at rejected
      split at rejected
      · cases rejected
      · split at rejected
        · cases rejected
        · generalize flush deps replied.1 nowMs = flushed at rejected
          cases sent : flushed.2 <;> simp [sent] at rejected

end

/-- The message comes from the product's document on its channel and is a command. -/
structure Arrives (state : BridgeState) (url data : Option String) (nowMs : Int)
    (channel : BridgeChannel) (command : WebToNativeMessage) : Prop where
  origin : fromProductDocument deps url = true
  current : state.registry = some channel
  parsed : deps.parseMobileBridgeMessage (data.getD "")
    { expectedNonce := channel.nonce, nowMs := nowMs } = .ok (.webToNative command)

def Admits (handshake : Option ChannelHandshake) (command : WebToNativeMessage) : Prop :=
  match command.body with
  | .hello _ => True
  | .command type _ => ∃ agreed, handshake = some agreed ∧
    command.protocolVersion = agreed.protocolVersion ∧
    ¬ (type.isIntake ∧ agreed.protocolVersion < 4)

/-- The injection of the error that answers a command without its capability throws. -/
def ReplyThrows (state : BridgeState) (nowMs : Int) (channel : BridgeChannel)
    (command : WebToNativeMessage) : Prop :=
  ∃ agreed type payload, channel.handshake = some agreed ∧ command.body = .command type payload ∧
    command.protocolVersion = agreed.protocolVersion ∧
    type.isIntake ∧ agreed.protocolVersion < 4 ∧
    (send deps
      { state with registry := (state.registry.rememberMessage channel.nonce command.messageId).1 }
      nowMs (errorDraft "unsupported-capability") (some command.messageId)).2 = none

section

variable {deps} {state : BridgeState} {url data : Option String} {nowMs : Int}
variable {channel : BridgeChannel} {command : WebToNativeMessage}

theorem receive_elsewhere (elsewhere : ¬ ∃ channel command,
    Arrives deps state url data nowMs channel command) :
    ∃ code, receive deps state url data nowMs = (state, some (.rejected code)) := by
  unfold receive
  split
  · exact ⟨.wrongOrigin, rfl⟩
  · rename_i origin
    split
    · exact ⟨.noChannel, rfl⟩
    · rename_i channel current
      split
      · rename_i code parsed
        exact ⟨.parse code, rfl⟩
      · exact ⟨.notACommand, rfl⟩
      · rename_i command parsed
        apply absurd _ elsewhere
        apply Exists.intro channel
        apply Exists.intro command
        apply Arrives.mk
        · exact Bool.eq_true_of_not_eq_false origin
        · exact current
        · exact parsed

variable (arrives : Arrives deps state url data nowMs channel command)
include arrives

theorem receive_arrived : receive deps state url data nowMs =
      (let remembered := state.registry.rememberMessage channel.nonce command.messageId
      if remembered.2 = false then (state, some (.rejected .duplicateMessage))
      else
        let state := { state with registry := remembered.1 }
        match command.body with
        | .hello payload =>
          let selected := negotiateMobileProtocol
            { min := payload.minProtocolVersion, max := payload.maxProtocolVersion }
            { min := MOBILE_PROTOCOL_MIN, max := MOBILE_PROTOCOL_MAX }
          let greeting : Greeting :=
            { command := command, payload := payload, channelNonce := channel.nonce
              selected := selected }
          ({ state with greetings := state.greetings ++ [greeting] }, none)
        | .command type _ =>
          match state.registry.handshake with
          | none => (state, some (.rejected .handshakeRequired))
          | some handshake =>
            if command.protocolVersion ≠ handshake.protocolVersion then
              (state, some (.rejected .protocolMismatch))
            else if type.isIntake ∧ handshake.protocolVersion < 4 then
              let sent := send deps state nowMs (errorDraft "unsupported-capability")
                (some command.messageId)
              (sent.1, sent.2.map fun _ => .rejected .unsupportedCapability)
            else ({ state with dispatching := state.dispatching ++ [command] }, none)) := by
  unfold receive
  rw [arrives.origin, if_neg Bool.noConfusion, arrives.current]
  dsimp only
  rw [arrives.parsed] <;> rfl

theorem receive_repeated (known : command.messageId ∈ channel.seenMessageIds) :
    receive deps state url data nowMs = (state, some (.rejected .duplicateMessage)) := by
  rw [receive_arrived arrives, arrives.current]
  simp only [remember_seen known, if_true]

section

variable (fresh : command.messageId ∉ channel.seenMessageIds)
include fresh

theorem arrives_new :
    (state.registry.rememberMessage channel.nonce command.messageId).2 = true := by
  rw [arrives.current]
  exact remember_fresh fresh

theorem receive_admitted (admits : Admits channel.handshake command) :
    (receive deps state url data nowMs).2 = none ∧ (receive deps state url data nowMs).1.registry =
      (state.registry.rememberMessage channel.nonce command.messageId).1 := by
  have new := arrives_new arrives fresh
  rw [receive_arrived arrives]
  dsimp only
  rw [if_neg (by rw [new]; decide)]
  unfold Admits at admits
  cases body : command.body with
  | hello payload => exact ⟨rfl, rfl⟩
  | command type payload =>
    rw [body] at admits
    obtain ⟨agreed, checks⟩ := admits
    have handshake : ((state.registry.rememberMessage channel.nonce
        command.messageId).1).handshake = some agreed := by
      rw [remember_handshake, arrives.current]
      exact checks.1
    dsimp only
    rw [handshake]
    dsimp only
    rw [if_neg (not_not.mpr checks.2.1), if_neg checks.2.2]
    exact ⟨rfl, rfl⟩

theorem receive_late
    (barred : ¬ Admits channel.handshake command) : (receive deps state url data nowMs).1.registry =
      (state.registry.rememberMessage channel.nonce command.messageId).1 ∧
    ((∃ code, (receive deps state url data nowMs).2 = some (.rejected code)) ↔
      ¬ ReplyThrows deps state nowMs channel command) := by
  have new := arrives_new arrives fresh
  rw [receive_arrived arrives]
  dsimp only
  rw [if_neg (by rw [new]; decide)]
  unfold Admits at barred
  cases body : command.body with
  | hello payload =>
    rw [body] at barred
    exact absurd trivial barred
  | command type payload =>
    rw [body] at barred
    have handshake : ((state.registry.rememberMessage channel.nonce
        command.messageId).1).handshake = channel.handshake := by
      rw [remember_handshake, arrives.current]
      rfl
    dsimp only
    rw [handshake]
    cases given : channel.handshake with
    | none =>
      apply And.intro rfl
      apply iff_of_true ⟨_, rfl⟩
      intro throws
      obtain ⟨agreed, rest⟩ := throws
      obtain ⟨other, rest⟩ := rest
      obtain ⟨content, facts⟩ := rest
      rw [given] at facts
      cases facts.1
    | some agreed =>
      dsimp only
      by_cases version : command.protocolVersion = agreed.protocolVersion
      · rw [if_neg (not_not.mpr version)]
        have old : type.isIntake = true ∧ agreed.protocolVersion < 4 := by
          by_contra recent
          exact barred ⟨agreed, given, version, recent⟩
        rw [if_pos old]
        apply And.intro (send_registry deps _ _ _ _)
        cases sent : (send deps
          { state with registry :=
            (state.registry.rememberMessage channel.nonce command.messageId).1 }
          nowMs (errorDraft "unsupported-capability") (some command.messageId)).2 with
        | none =>
          apply iff_of_false
          · simp
          · rw [not_not]
            exact ⟨agreed, type, payload, given, body, version, old.1, old.2, sent⟩
        | some outcome =>
          apply iff_of_true
          · exact ⟨.unsupportedCapability, rfl⟩
          · intro throws
            obtain ⟨other, rest⟩ := throws
            obtain ⟨otherType, rest⟩ := rest
            obtain ⟨content, facts⟩ := rest
            rw [sent] at facts
            cases facts.2.2.2.2.2
      · rw [if_pos version]
        apply And.intro rfl
        apply iff_of_true ⟨_, rfl⟩
        intro throws
        obtain ⟨other, rest⟩ := throws
        obtain ⟨otherType, content, facts⟩ := rest
        rw [given] at facts
        have same : agreed = other := Option.some.inj facts.1
        rw [same] at version
        exact version facts.2.2.1

end

omit arrives

end

def Rejected (state : BridgeState) (event : BridgeEvent) : Prop :=
  ∃ code, (stepOutcome deps state event).2 = some (.rejected code)

/-- A refusal in the step leaves the channel as it was, and a handshake is refused only
when the channel that remembered it is not the live one any more. -/
structure Harmless (state : BridgeState) (event : BridgeEvent) : Prop where
  unchanged : Rejected deps state event → (step deps state event).registry = state.registry
  gone : ∀ index described nowMs greeting, event = .shellDescribed index described nowMs →
    state.greetings[index]? = some greeting → Rejected deps state event →
    state.registry.isCurrent greeting.channelNonce = false

/-- A command arrives for the first time and the handshake of its channel does not let it
through: there is none, it has another version, or one too old for the command. -/
def LateRefusal (state : BridgeState) (event : BridgeEvent) : Prop :=
  ∃ url data nowMs channel command, event = .receive url data nowMs ∧
    Arrives deps state url data nowMs channel command ∧
    command.messageId ∉ channel.seenMessageIds ∧
    ¬ Admits channel.handshake command ∧ ¬ ReplyThrows deps state nowMs channel command

variable {deps}

theorem receive_cases (state : BridgeState) (url data : Option String) (nowMs : Int) :
    ((receive deps state url data nowMs).1 = state ∧
      ∃ code, (receive deps state url data nowMs).2 = some (.rejected code)) ∨
    (∃ channel command, Arrives deps state url data nowMs channel command ∧
      command.messageId ∉ channel.seenMessageIds ∧ (receive deps state url data nowMs).1.registry =
        (state.registry.rememberMessage channel.nonce command.messageId).1 ∧
      ((∃ code, (receive deps state url data nowMs).2 = some (.rejected code)) ↔
        LateRefusal deps state (.receive url data nowMs))) := by
  by_cases arrival : ∃ channel command, Arrives deps state url data nowMs channel command
  · obtain ⟨channel, command, arrives⟩ := arrival
    by_cases known : command.messageId ∈ channel.seenMessageIds
    · apply Or.inl
      rw [receive_repeated arrives known]
      exact ⟨rfl, _, rfl⟩
    · apply Or.inr
      have unique : ∀ other otherCommand,
          Arrives deps state url data nowMs other otherCommand →
          other = channel ∧ otherCommand = command := by
        intro other otherCommand also
        have same : other = channel := Option.some.inj (also.current.symm.trans arrives.current)
        have parsed := also.parsed
        rw [same, arrives.parsed] at parsed
        injection parsed with inner
        injection inner with commands
        exact ⟨same, commands.symm⟩
      by_cases admits : Admits channel.handshake command
      · have admitted := receive_admitted arrives known admits
        apply Exists.intro channel
        apply Exists.intro command
        apply And.intro arrives
        apply And.intro known
        apply And.intro admitted.2
        apply iff_of_false
        · rw [admitted.1]
          simp
        · intro late
          rcases late with ⟨_, _, _, other, otherCommand, same, also, _, barred, _⟩
          injection same with urls datas times
          rw [← urls, ← datas, ← times] at also
          have both := unique other otherCommand also
          rw [both.1, both.2] at barred
          exact barred admits
      · have late := receive_late arrives known admits
        apply Exists.intro channel
        apply Exists.intro command
        apply And.intro arrives
        apply And.intro known
        apply And.intro late.1
        rw [late.2]
        constructor
        · intro replied
          exact ⟨url, data, nowMs, channel, command, rfl, arrives, known, admits, replied⟩
        · intro refusal
          rcases refusal with ⟨_, _, _, other, otherCommand, same, also, _, _, replied⟩
          injection same with urls datas times
          rw [← urls, ← datas, ← times] at also
          have both := unique other otherCommand also
          rw [both.1, both.2, ← times] at replied
          exact replied
  · apply Or.inl
    obtain ⟨code, refused⟩ := receive_elsewhere arrival
    rw [refused]
    exact ⟨rfl, code, rfl⟩

theorem harmless_iff (state : BridgeState) (event : BridgeEvent) :
    Harmless deps state event ↔ ¬ LateRefusal deps state event := by
  have elsewhere : (∀ url data nowMs, event ≠ .receive url data nowMs) →
      ¬ LateRefusal deps state event := by
    intro other late
    rcases late with ⟨url, data, nowMs, _, _, same, _⟩
    exact other url data nowMs same
  have silent : (∀ url data nowMs, event ≠ .receive url data nowMs) →
      ¬ Rejected deps state event → (Harmless deps state event ↔ ¬ LateRefusal deps state event) := by
    intro other quiet
    apply iff_of_true _ (elsewhere other)
    apply Harmless.mk
    · intro rejected
      exact absurd rejected quiet
    · intro index described nowMs greeting _ _ rejected
      exact absurd rejected quiet
  cases event with
  | adoptDocument nonce nowMs =>
    apply silent (by simp)
    rintro ⟨code, given⟩
    cases given
  | invalidate =>
    apply silent (by simp)
    rintro ⟨code, given⟩
    cases given
  | send draft forMessageId nowMs =>
    apply silent (by simp)
    rintro ⟨code, given⟩
    cases given
  | flush nowMs =>
    apply silent (by simp)
    rintro ⟨code, given⟩
    cases given
  | discardQueue =>
    apply silent (by simp)
    rintro ⟨code, given⟩
    cases given
  | dispatchEnded index succeeded nowMs =>
    apply silent (by simp)
    rintro ⟨code, given⟩
    unfold stepOutcome settleDispatch at given
    dsimp only at given
    split at given
    · cases given
    · split at given <;> cases given
  | shellDescribed index described nowMs =>
    apply iff_of_true _ (elsewhere (by simp))
    have answer : ∀ greeting, state.greetings[index]? = some greeting →
        Rejected deps state (.shellDescribed index described nowMs) →
        (step deps state (.shellDescribed index described nowMs)).registry = state.registry ∧
        state.registry.isCurrent greeting.channelNonce = false := by
      intro greeting waiting rejected
      obtain ⟨code, given⟩ := rejected
      unfold step
      unfold stepOutcome at given ⊢
      dsimp only at given ⊢
      rw [waiting] at given ⊢
      have refused := answer_rejected deps _ greeting described nowMs code
        (Option.some.inj given)
      apply And.intro _ refused.2
      dsimp only
      rw [refused.1]
    apply Harmless.mk
    · intro rejected
      cases waiting : state.greetings[index]? with
      | none =>
        obtain ⟨code, given⟩ := rejected
        unfold stepOutcome at given
        dsimp only at given
        rw [waiting] at given
        cases given
      | some greeting => exact (answer greeting waiting rejected).1
    · intro otherIndex otherDescribed otherNow greeting same waiting rejected
      injection same with indices
      rw [← indices] at waiting
      exact (answer greeting waiting rejected).2
  | receive url data nowMs =>
    have gone : ∀ index described later greeting,
        BridgeEvent.receive url data nowMs = .shellDescribed index described later →
        state.greetings[index]? = some greeting →
        Rejected deps state (.receive url data nowMs) →
        state.registry.isCurrent greeting.channelNonce = false := by
      intro index described later greeting same
      cases same
    rcases receive_cases state url data nowMs with early | later
    · apply iff_of_true
      · apply Harmless.mk _ gone
        intro _
        exact congrArg BridgeState.registry early.1
      · rintro ⟨_, _, _, channel, command, same, arrives, fresh, barred, replied⟩
        injection same with urls datas times
        rw [← urls, ← datas, ← times] at arrives
        have late := receive_late arrives fresh barred
        rw [early.1] at late
        have new := arrives_new arrives fresh
        exact remember_accepted_ne _ _ _ new late.1.symm
    · rcases later with ⟨channel, command, arrives, fresh, registry, rejects⟩
      rw [← rejects]
      have new := arrives_new arrives fresh
      constructor
      · intro harmless rejected
        have unchanged := harmless.unchanged rejected
        unfold step stepOutcome at unchanged
        dsimp only at unchanged
        rw [registry] at unchanged
        exact remember_accepted_ne _ _ _ new unchanged
      · intro passed
        apply Harmless.mk _ gone
        intro rejected
        exact absurd rejected passed

def arrived (deps : NativeBridgeDeps) (state : BridgeState) (url data : Option String)
    (nowMs : Int) : Option WebToNativeMessage :=
  if fromProductDocument deps url = false then none
  else
    match state.registry with
    | none => none
    | some channel =>
      match deps.parseMobileBridgeMessage (data.getD "")
          { expectedNonce := channel.nonce, nowMs := nowMs } with
      | .ok (.webToNative command) => some command
      | _ => none

theorem arrived_of_arrives {state url data} {nowMs : Int} {channel command}
    (arrives : Arrives deps state url data nowMs channel command) :
    arrived deps state url data nowMs = some command := by
  unfold arrived
  rw [arrives.origin, if_neg Bool.noConfusion, arrives.current]
  dsimp only
  rw [arrives.parsed] <;> rfl

def acceptedAfter (deps : NativeBridgeDeps) (state : BridgeState) (accepted : List String) :
    BridgeEvent → List String
  | .adoptDocument _ _ => []
  | .invalidate => []
  | .receive url data nowMs =>
    match (receive deps state url data nowMs).2, arrived deps state url data nowMs with
    | some (.rejected _), _ => accepted
    | _, some command => accepted ++ [command.messageId]
    | _, none => accepted
  | _ => accepted

structure Tracked where
  state : BridgeState
  accepted : List String

def trackedStep (deps : NativeBridgeDeps) (tracked : Tracked) (event : BridgeEvent) : Tracked :=
  { state := step deps tracked.state event
    accepted := acceptedAfter deps tracked.state tracked.accepted event }

def tracked (deps : NativeBridgeDeps) (events : List BridgeEvent) : Tracked :=
  run (trackedStep deps) events { state := initial, accepted := [] }

def acceptedIds (deps : NativeBridgeDeps) (events : List BridgeEvent) : List String :=
  (tracked deps events).accepted

theorem tracked_state (events : List BridgeEvent) (start : Tracked) :
    (run (trackedStep deps) events start).state = run (step deps) events start.state := by
  induction events generalizing start with
  | nil => rfl
  | cons event events ih =>
    rw [run_cons, run_cons, ih]
    rfl

theorem tracked_step_seen (current : Tracked) (event : BridgeEvent)
    (allowed : ¬ LateRefusal deps current.state event)
    (known : ∀ id ∈ current.state.registry.seen, id ∈ current.accepted) :
    ∀ id ∈ (trackedStep deps current event).state.registry.seen,
      id ∈ (trackedStep deps current event).accepted := by
  have kept : (step deps current.state event).registry.seen = current.state.registry.seen →
      acceptedAfter deps current.state current.accepted event = current.accepted →
      ∀ id ∈ (trackedStep deps current event).state.registry.seen,
        id ∈ (trackedStep deps current event).accepted := by
    intro sameSeen sameAccepted id member
    unfold trackedStep at member ⊢
    dsimp only at member ⊢
    rw [sameSeen] at member
    rw [sameAccepted]
    exact known id member
  cases event with
  | adoptDocument nonce nowMs =>
    intro id member
    cases member
  | invalidate =>
    intro id member
    cases member
  | send draft forMessageId nowMs =>
    apply kept _ rfl
    exact congrArg ChannelRegistry.seen (send_registry deps current.state nowMs draft forMessageId)
  | flush nowMs =>
    apply kept _ rfl
    exact congrArg ChannelRegistry.seen (flush_registry deps current.state nowMs)
  | discardQueue => exact kept rfl rfl
  | dispatchEnded index succeeded nowMs =>
    apply kept _ rfl
    unfold step stepOutcome
    dsimp only
    split
    · rfl
    · exact congrArg ChannelRegistry.seen (settle_registry deps _ _ succeeded nowMs)
  | shellDescribed index described nowMs =>
    apply kept _ rfl
    unfold step stepOutcome
    dsimp only
    split
    · rfl
    · exact answer_seen deps _ _ described nowMs
  | receive url data nowMs =>
    rcases receive_cases current.state url data nowMs with early | later
    · apply kept
      · exact congrArg (fun state => state.registry.seen) early.1
      · obtain ⟨code, rejected⟩ := early.2
        unfold acceptedAfter
        dsimp only
        rw [rejected]
    · rcases later with ⟨channel, command, arrives, fresh, registry, rejects⟩
      have passed : ¬ ∃ code,
          (receive deps current.state url data nowMs).2 = some (.rejected code) := by
        rw [rejects]
        exact allowed
      have accepted : acceptedAfter deps current.state current.accepted (.receive url data nowMs) =
          current.accepted ++ [command.messageId] := by
        unfold acceptedAfter
        dsimp only
        rw [arrived_of_arrives arrives]
        split
        · rename_i code rejected
          exact absurd ⟨code, rejected⟩ passed
        · rename_i given _
          cases given
          rfl
        · rename_i given _
          cases given
      intro id member
      unfold trackedStep step stepOutcome at member
      dsimp only at member
      rw [registry] at member
      unfold trackedStep
      dsimp only
      rw [accepted, List.mem_append, List.mem_singleton]
      rcases remember_seen_subset _ _ _ member with earlier | new
      · exact Or.inl (known id earlier)
      · exact Or.inr new.1

/-- Every refusal in the run leaves the channel as it was, and a command that the current
document has not got through before is let through as soon as nothing else bars it. -/
structure RefusalsLeaveChannel (deps : NativeBridgeDeps) (events : List BridgeEvent) : Prop where
  harmless : ∀ earlier event, earlier ++ [event] <+: events →
    Harmless deps (run (step deps) earlier initial) event
  redelivered : ∀ reached, reached <+: events → ∀ url data nowMs channel command,
    Arrives deps (run (step deps) reached initial) url data nowMs channel command →
    Admits channel.handshake command → command.messageId ∉ acceptedIds deps reached →
    (receive deps (run (step deps) reached initial) url data nowMs).2 = none

theorem seen_accepted (events : List BridgeEvent)
    (allowed : ∀ earlier event, earlier ++ [event] <+: events →
      ¬ LateRefusal deps (run (step deps) earlier initial) event)
    (reached : List BridgeEvent) (within : reached <+: events) :
    ∀ id ∈ (run (step deps) reached initial).registry.seen, id ∈ acceptedIds deps reached := by
  have guarded := @run_guarded _ _ (trackedStep deps)
    (fun current => ∀ id ∈ current.state.registry.seen, id ∈ current.accepted)
    (fun current event => ¬ LateRefusal deps current.state event)
    (fun current event permitted known => tracked_step_seen current event permitted known)
    events { state := initial, accepted := [] } (by intro id member; cases member)
    (by
      intro earlier event inside
      rw [tracked_state]
      exact allowed earlier event inside)
    reached within
  rw [tracked_state] at guarded
  exact guarded

theorem refusals_leave_channel_iff (deps : NativeBridgeDeps) (events : List BridgeEvent) :
    RefusalsLeaveChannel deps events ↔ ∀ earlier event, earlier ++ [event] <+: events →
      ¬ LateRefusal deps (run (step deps) earlier initial) event := by
  constructor
  · intro claim earlier event inside
    exact (harmless_iff _ event).mp (claim.harmless earlier event inside)
  · intro allowed
    apply RefusalsLeaveChannel.mk
    · intro earlier event inside
      exact (harmless_iff _ event).mpr (allowed earlier event inside)
    · intro reached within url data nowMs channel command arrives admits unaccepted
      have fresh : command.messageId ∉ channel.seenMessageIds := by
        intro seen
        apply unaccepted
        apply seen_accepted events allowed reached within
        rw [arrives.current]
        exact seen
      exact (receive_admitted arrives fresh admits).1

def helloText : String :=
  "\x7b\"protocolVersion\":5,\"type\":\"web.hello\",\"messageId\":\"h\"," ++
  "\"channelNonce\":\"n\",\"sentAtMs\":0,\"payload\":\x7b\"webBuildId\":\"b\"," ++
  "\"minProtocolVersion\":3,\"maxProtocolVersion\":5\x7d\x7d"

def requestText : String :=
  "\x7b\"protocolVersion\":5,\"type\":\"snapshot.request\",\"messageId\":\"m\"," ++
  "\"channelNonce\":\"n\",\"sentAtMs\":0,\"payload\":\x7b\x7d\x7d"

def helloCommand : WebToNativeMessage :=
  { protocolVersion := 5, messageId := "h", sessionId := none, revision := none
    body := .hello { webBuildId := "b", minProtocolVersion := 3, maxProtocolVersion := 5 } }

def requestCommand : WebToNativeMessage :=
  { protocolVersion := 5, messageId := "m", sessionId := none, revision := none
    body := .command .snapshotRequest (.object []) }

def productUrl : Url :=
  { protocol := "https:", username := "", password := "", origin := "https://openmapx.com"
    hostname := "openmapx.com" }

/-- The environment of the run: what the parsers make of the texts that occur in it. -/
def productDeps : NativeBridgeDeps :=
  { webOrigin := "https://openmapx.com"
    parseUrl := fun url => if url == "https://openmapx.com" then some productUrl else none
    parseMobileBridgeMessage := fun raw options =>
      if options.expectedNonce != "n" then .error .wrongChannel
      else if 300000 < options.nowMs.natAbs then .error .timestampOutOfRange
      else if raw == helloText then .ok (.webToNative helloCommand)
      else if raw == requestText then .ok (.webToNative requestCommand)
      else .error .invalidJson
    nextMessageId := fun count => toString count
    nativeToWebSchema := some
    injectThrows := fun _ => false }

def productShell : ShellDescription :=
  { shellVersion := "1", shellBuild := "1", platform := .android
    capabilities :=
      { groundNavigation := true, transitNavigation := true, transitActions := some true
        backgroundLocation := true, localNotifications := true, speech := true
        nativeIntake := some true, carDestinations := some true }
    permission := .foreground, locationDriver := .expo, activeSession := none }

def request : BridgeEvent := .receive (some "https://openmapx.com") (some requestText) 0

/-- The request comes before the handshake, and once more when that is complete. -/
def earlyRequest : List BridgeEvent :=
  [.adoptDocument "n" 0, request, .receive (some "https://openmapx.com") (some helloText) 0,
    .shellDescribed 0 (some productShell) 0]

/-- The request is refused for want of a handshake, the refusal has added it to the
remembered messages, and after the handshake it is refused as a repetition. -/
theorem early_request_never_handled : ¬ RefusalsLeaveChannel productDeps earlyRequest ∧
    (stepOutcome productDeps (run (step productDeps) [.adoptDocument "n" 0] initial) request).2 =
      some (.rejected .handshakeRequired) ∧
    ((run (step productDeps) earlyRequest initial).registry.handshake.map
      (·.protocolVersion)) = some 5 ∧
    (stepOutcome productDeps (run (step productDeps) earlyRequest initial) request).2 =
      some (.rejected .duplicateMessage) := by
  have refused : (stepOutcome productDeps
      (run (step productDeps) [.adoptDocument "n" 0] initial) request).2 =
      some (.rejected .handshakeRequired) := by
    decide +kernel
  apply And.intro
  · intro claim
    have harmless := claim.harmless [.adoptDocument "n" 0] request
      ⟨[.receive (some "https://openmapx.com") (some helloText) 0,
        .shellDescribed 0 (some productShell) 0], rfl⟩
    have unchanged := harmless.unchanged ⟨_, refused⟩
    revert unchanged
    decide +kernel
  · apply And.intro refused
    apply And.intro
    · decide +kernel
    · decide +kernel

end OpenMapX.Mobile.RefusedMessages
