import OpenMapX.Foundation.Runs
import OpenMapX.Mobile.OutboundSending

/-!
# Runs of the outbound queue

Beside the bridge a book is kept of what was offered to the queue, what it took and what was
delivered. Every message that the queue took and that is no snapshot is handed to the page by
the next flush, in the order in which it was sent.
-/

namespace OpenMapX.Mobile.OutboundRuns

open Foundation.Runs Foundation.JsonValue Channel NativeBridge OutboundQueue OutboundSending List

section

variable {deps : NativeBridgeDeps} {parsePayload : NativeToWebType → Json → Option Json}

structure BridgeOk (parsePayload : NativeToWebType → Json → Option Json)
    (state : BridgeState) : Prop where
  nonce : ∀ channel, state.registry = some channel → boundedId channel.nonce = true
  version : ∀ handshake, state.registry.handshake = some handshake →
    1 ≤ handshake.protocolVersion ∧ handshake.protocolVersion ≤ 64
  greetings : ∀ greeting ∈ state.greetings, ∀ selected, greeting.selected = some selected →
    1 ≤ selected ∧ selected ≤ 64
  readable : ∀ draft ∈ state.queue, Readable parsePayload draft
  idle : state.registry.handshake ≠ none → state.queue = []

/-- The call of `send` that an event makes for a message that may have to wait. -/
def sendCall (state : BridgeState) : BridgeEvent → Option (Int × OutboundDraft × Option String)
  | .send draft forMessageId nowMs => some (nowMs, draft, forMessageId)
  | .dispatchEnded index succeeded nowMs =>
    if succeeded then none
    else state.dispatching[index]?.map fun command =>
      (nowMs, errorDraft "internal-error", some command.messageId)
  | _ => none

def offerBy (deps : NativeBridgeDeps) (state : BridgeState) (event : BridgeEvent) :
    Option OutboundDraft :=
  (sendCall state event).bind fun call => offerOf deps state call.1 call.2.1 call.2.2

def directBy (deps : NativeBridgeDeps) (state : BridgeState) (event : BridgeEvent) :
    Option OutboundDraft :=
  (sendCall state event).bind fun call => directOf deps state call.1 call.2.1 call.2.2

def flushedWith (state : BridgeState) : BridgeEvent → Option Nat
  | .flush _ => state.registry.handshake.map (·.protocolVersion)
  | .shellDescribed index described _ =>
    match state.greetings[index]?, described with
    | some greeting, some _ =>
      if state.registry.isCurrent greeting.channelNonce then
        greeting.selected.bind fun selected =>
          (state.registry.completeHandshake greeting.channelNonce
            { webBuildId := greeting.payload.webBuildId
              protocolVersion := selected }).handshake.map (·.protocolVersion)
      else none
    | _, _ => none
  | _ => none

def empties (state : BridgeState) : BridgeEvent → Bool
  | .discardQueue => true
  | event => (flushedWith state event).isSome

/-- The drafts that an event hands to the page, apart from the bridge's own answers. -/
def deliveredBy (deps : NativeBridgeDeps) (state : BridgeState) (event : BridgeEvent) :
    List OutboundDraft :=
  match flushedWith state event with
  | some protocolVersion => state.queue.filter (passes protocolVersion)
  | none => (directBy deps state event).toList

def queueAfter (deps : NativeBridgeDeps) (state : BridgeState) (event : BridgeEvent) :
    List OutboundDraft :=
  if empties state event then []
  else ((offerBy deps state event).map fun message =>
    (enqueueDraft state.queue message).1).getD state.queue

structure Served (deps : NativeBridgeDeps) (state : BridgeState) (event : BridgeEvent)
    (after : BridgeState) : Prop where
  queue : after.queue = queueAfter deps state event
  injections : ∃ own messages, after.injections = state.injections ++ own ++ messages ∧
    (∀ message ∈ own, message.type = .nativeHello ∨ message.type = .nativeError) ∧
    messages.map draftOf = deliveredBy deps state event

theorem negotiated_range {web} {selected : Nat} (given : negotiateMobileProtocol web
      { min := MOBILE_PROTOCOL_MIN, max := MOBILE_PROTOCOL_MAX } = some selected) :
    1 ≤ selected ∧ selected ≤ 64 := by
  unfold negotiateMobileProtocol at given
  dsimp only at given
  split at given
  · rename_i overlap
    have lowest := Nat.le_max_right web.min MOBILE_PROTOCOL_MIN
    have highest := Nat.min_le_right web.max MOBILE_PROTOCOL_MAX
    rw [← Option.some.inj given]
    exact ⟨le_trans (by decide) (le_trans lowest overlap), le_trans highest (by decide)⟩
  · cases given

theorem remember_nonce {registry : ChannelRegistry} {nonce messageId : String}
    {channel : BridgeChannel} (given : (registry.rememberMessage nonce messageId).1 = some channel)
    : ∃ before, registry = some before ∧ channel.nonce = before.nonce ∧
      channel.handshake = before.handshake := by
  cases registry with
  | none => cases given
  | some before =>
    refine ⟨before, rfl, ?_⟩
    unfold ChannelRegistry.rememberMessage at given
    dsimp only at given
    split at given
    · cases given
      exact ⟨rfl, rfl⟩
    · split at given
      · cases given
        exact ⟨rfl, rfl⟩
      · cases given
        exact ⟨rfl, rfl⟩

theorem complete_current {registry : ChannelRegistry} {nonce : String}
    (current : registry.isCurrent nonce = true) (given : ChannelHandshake) :
    ∃ before channel, registry = some before ∧
      registry.completeHandshake nonce given = some channel ∧ channel.nonce = before.nonce ∧
      (before.handshake = none ∧ channel.handshake = some given ∨
        before.handshake ≠ none ∧ channel.handshake = before.handshake) := by
  cases registry with
  | none => cases current
  | some before =>
    have same : before.nonce = nonce := by
      simpa [ChannelRegistry.isCurrent] using current
    unfold ChannelRegistry.completeHandshake
    dsimp only
    rw [if_neg (by simp [same])]
    cases shaken : before.handshake with
    | none => exact ⟨before, _, rfl, rfl, rfl, Or.inl ⟨shaken, rfl⟩⟩
    | some earlier =>
      refine ⟨before, before, rfl, rfl, rfl, Or.inr ⟨?_, rfl⟩⟩
      rw [shaken]
      simp

variable {message : OutboundDraft}

theorem enqueue_readable {queue} (readable : ∀ draft ∈ queue, Readable parsePayload draft)
    (own : Readable parsePayload message) :
    ∀ draft ∈ (enqueueDraft queue message).1, Readable parsePayload draft := by
  intro draft member
  have within := (enqueue_sublist queue message).subset member
  unfold heldAfter at within
  split at within
  · rcases mem_append.mp within with earlier | new
    · exact readable draft earlier
    · rw [mem_singleton.mp new]
      exact own
  · exact readable draft within

variable {state : BridgeState}

theorem send_ok (supplied : Supplied deps parsePayload) (ok : BridgeOk parsePayload state)
    (nowMs : Int) (draft : OutboundDraft) (forMessageId : Option String) :
    BridgeOk parsePayload (send deps state nowMs draft forMessageId).1 := by
  have sent := send_effect supplied state nowMs draft forMessageId
  constructor
  · rw [sent.registry]
    exact ok.nonce
  · rw [sent.registry]
    exact ok.version
  · rw [sent.greetings]
    exact ok.greetings
  · rw [sent.queue]
    unfold offerOf
    split
    · cases read : checked deps state nowMs draft none forMessageId with
      | none => exact ok.readable
      | some validated =>
        exact enqueue_readable ok.readable (checked_readable supplied read)
    · exact ok.readable
  · rw [sent.registry]
    intro shaken
    rw [sent.queue]
    unfold offerOf
    rw [if_neg shaken]
    exact ok.idle shaken

variable {event : BridgeEvent}

theorem served_answers {state after own} (noCall : sendCall state event = none)
    (noFlush : flushedWith state event = none) (kept : empties state event = false)
    (queue : after.queue = state.queue) (injections : after.injections = state.injections ++ own)
    (answers : ∀ message ∈ own, message.type = .nativeHello ∨ message.type = .nativeError) :
    Served deps state event after := by
  constructor
  · unfold queueAfter offerBy
    rw [kept, noCall, queue]
    rfl
  · refine ⟨own, [], ?_, answers, ?_⟩
    · rw [injections, append_nil]
    · unfold deliveredBy directBy
      rw [noFlush, noCall]
      rfl

theorem served_still {state after}
    (noCall : sendCall state event = none) (noFlush : flushedWith state event = none)
    (kept : empties state event = false) (queue : after.queue = state.queue)
    (injections : after.injections = state.injections) : Served deps state event after := by
  apply served_answers noCall noFlush kept queue
  · exact injections.trans (append_nil _).symm
  · intro message member
    cases member

theorem served_call {state before} (supplied : Supplied deps parsePayload) {nowMs : Int}
    {draft forMessageId} (call : sendCall state event = some (nowMs, draft, forMessageId))
    (noFlush : flushedWith state event = none) (kept : empties state event = false)
    (registry : before.registry = state.registry) (issued : before.issued = state.issued)
    (queue : before.queue = state.queue) (injections : before.injections = state.injections) :
    Served deps state event (send deps before nowMs draft forMessageId).1 := by
  have sent := send_effect supplied before nowMs draft forMessageId
  have read : checked deps before nowMs draft none forMessageId =
      checked deps state nowMs draft none forMessageId := by
    unfold checked versionOf candidateOf
    rw [registry, issued]
  have offered : offerOf deps before nowMs draft forMessageId =
      offerOf deps state nowMs draft forMessageId := by
    unfold offerOf
    rw [registry, read]
  have direct : directOf deps before nowMs draft forMessageId =
      directOf deps state nowMs draft forMessageId := by
    unfold directOf
    rw [registry, read]
  constructor
  · rw [sent.queue, offered, queue]
    unfold queueAfter offerBy
    rw [kept, call]
    rfl
  · obtain ⟨messages, handed, drafts⟩ := sent.injections
    refine ⟨[], messages, ?_, by simp, ?_⟩
    · rw [handed, injections, append_nil]
    · rw [drafts, direct]
      unfold deliveredBy directBy
      rw [noFlush, call]
      rfl

theorem flush_effect (supplied : Supplied deps parsePayload) {state} {nowMs : Int}
    (timely : safeTime nowMs = true) {channel}
    (document : state.registry = some channel) (nonce : boundedId channel.nonce = true)
    {handshake} (shaken : state.registry.handshake = some handshake)
    (atLeast : 1 ≤ handshake.protocolVersion) (atMost : handshake.protocolVersion ≤ 64)
    (readable : ∀ draft ∈ state.queue, Readable parsePayload draft) :
    ∃ after messages, flush deps state nowMs = (after, true) ∧
      after.registry = state.registry ∧ after.greetings = state.greetings ∧ after.queue = [] ∧
      after.injections = state.injections ++ messages ∧
      messages.map draftOf = state.queue.filter (passes handshake.protocolVersion) := by
  unfold flush
  rw [shaken]
  exact flush_pending_effect supplied nonce timely atLeast atMost state.queue readable
    { state with queue := [] } document (by
      change state.registry.handshake ≠ none
      rw [shaken]
      simp)

theorem remembered_ok (ok : BridgeOk parsePayload state)
    (nonce messageId : String) (greetings : List Greeting) (dispatching : List WebToNativeMessage)
    (ranges : ∀ greeting ∈ greetings, ∀ selected, greeting.selected = some selected →
      1 ≤ selected ∧ selected ≤ 64) :
    BridgeOk parsePayload
      { state with
        registry := (state.registry.rememberMessage nonce messageId).1
        greetings := greetings
        dispatching := dispatching } := by
  constructor
  · intro channel given
    obtain ⟨before, document, same, -⟩ := remember_nonce given
    rw [same]
    exact ok.nonce before document
  · intro handshake given
    rw [remember_handshake] at given
    exact ok.version handshake given
  · exact ranges
  · exact ok.readable
  · intro shaken
    rw [remember_handshake] at shaken
    exact ok.idle shaken

theorem receive_served (supplied : Supplied deps parsePayload)
    (ok : BridgeOk parsePayload state) (url data : Option String) (nowMs : Int) :
    BridgeOk parsePayload (receive deps state url data nowMs).1 ∧
      Served deps state (.receive url data nowMs) (receive deps state url data nowMs).1 := by
  have unchanged : Served deps state (.receive url data nowMs) state :=
    served_still rfl rfl rfl rfl rfl
  unfold receive
  split
  · exact ⟨ok, unchanged⟩
  · split
    · exact ⟨ok, unchanged⟩
    · rename_i channel document
      split
      · exact ⟨ok, unchanged⟩
      · exact ⟨ok, unchanged⟩
      · rename_i command parsed
        dsimp only
        split
        · exact ⟨ok, unchanged⟩
        · split
          · rename_i payload hello
            refine ⟨?_, served_still rfl rfl rfl rfl rfl⟩
            apply remembered_ok ok
            refine forall_mem_append.mpr ⟨ok.greetings, forall_mem_singleton.mpr ?_⟩
            intro selected given
            exact negotiated_range given
          · have kept := remembered_ok ok channel.nonce command.messageId state.greetings
              state.dispatching ok.greetings
            have quiet : Served deps state (.receive url data nowMs)
                { state with registry :=
                    (state.registry.rememberMessage channel.nonce command.messageId).1 } :=
              served_still rfl rfl rfl rfl rfl
            split
            · exact ⟨kept, quiet⟩
            · rename_i handshake shaken
              split
              · exact ⟨kept, quiet⟩
              · split
                · have sent := send_effect supplied
                    { state with registry :=
                      (state.registry.rememberMessage channel.nonce command.messageId).1 }
                    nowMs (errorDraft "unsupported-capability") (some command.messageId)
                  have ready : ((state.registry.rememberMessage channel.nonce
                      command.messageId).1).handshake ≠ none := by
                    rw [shaken]
                    simp
                  refine ⟨send_ok supplied kept nowMs _ _, ?_⟩
                  obtain ⟨messages, handed, drafts⟩ := sent.injections
                  refine served_answers rfl rfl rfl ?_ handed ?_
                  · rw [sent.queue]
                    unfold offerOf
                    rw [if_neg ready]
                    rfl
                  · intro message member
                    apply Or.inr
                    have given : draftOf message ∈ messages.map draftOf :=
                      mem_map_of_mem member
                    rw [drafts] at given
                    unfold directOf at given
                    rw [if_neg ready, Option.mem_toList, Option.map_eq_some_iff] at given
                    obtain ⟨validated, read, same⟩ := given
                    have type := congrArg OutboundDraft.type same
                    exact type.symm.trans (checked_type supplied read)
                · refine ⟨remembered_ok ok channel.nonce command.messageId state.greetings
                    (state.dispatching ++ [command]) ok.greetings, ?_⟩
                  exact served_still rfl rfl rfl rfl rfl

theorem contained_answers (supplied : Supplied deps parsePayload) (state : BridgeState)
    (nowMs : Int) (command) :
    ∃ own, (containDependencyFailure deps state nowMs command true).registry = state.registry ∧
      (containDependencyFailure deps state nowMs command true).greetings = state.greetings ∧
      (containDependencyFailure deps state nowMs command true).queue = state.queue ∧
      (containDependencyFailure deps state nowMs command true).injections =
        state.injections ++ own ∧ ∀ message ∈ own, message.type = .nativeError := by
  obtain ⟨after, outcome, own, emitted, registry, greetings, queue, injections, types⟩ :=
    immediate_effect supplied state nowMs (errorDraft "internal-error")
      (some command.protocolVersion) (some command.messageId)
  unfold containDependencyFailure
  rw [if_pos rfl, emitted]
  exact ⟨own, registry, greetings, queue, injections, types⟩

section

variable {state after : BridgeState} (ok : BridgeOk parsePayload state)
include ok

theorem same_ok (registry : after.registry = state.registry) (queue : after.queue = state.queue)
    (greetings : ∀ greeting ∈ after.greetings, greeting ∈ state.greetings) :
    BridgeOk parsePayload after := by
  constructor
  · rw [registry]
    exact ok.nonce
  · rw [registry]
    exact ok.version
  · intro greeting member
    exact ok.greetings greeting (greetings greeting member)
  · rw [queue]
    exact ok.readable
  · rw [registry, queue]
    exact ok.idle

theorem unshaken_ok
    (nonce : ∀ channel, after.registry = some channel → boundedId channel.nonce = true)
    (unshaken : after.registry.handshake = none) (queue : after.queue = state.queue)
    (greetings : after.greetings = state.greetings) : BridgeOk parsePayload after := by
  constructor
  · exact nonce
  · intro handshake given
    rw [unshaken] at given
    cases given
  · rw [greetings]
    exact ok.greetings
  · rw [queue]
    exact ok.readable
  · intro shaken
    exact absurd unshaken shaken

theorem shaken_ok {channel handshake} (registry : after.registry = some channel)
    (nonce : boundedId channel.nonce = true) (given : channel.handshake = some handshake)
    (range : 1 ≤ handshake.protocolVersion ∧ handshake.protocolVersion ≤ 64)
    (queue : after.queue = [])
    (greetings : ∀ greeting ∈ after.greetings, greeting ∈ state.greetings) :
    BridgeOk parsePayload after := by
  constructor
  · intro other same
    rw [registry] at same
    rw [← Option.some.inj same]
    exact nonce
  · intro other same
    rw [registry] at same
    have equal : handshake = other := Option.some.inj (given.symm.trans same)
    rw [← equal]
    exact range
  · intro other member
    exact ok.greetings other (greetings other member)
  · rw [queue]
    simp
  · intro _
    exact queue

end

theorem completed_handshake (ok : BridgeOk parsePayload state) {index : Nat} {greeting : Greeting}
    (asked : state.greetings[index]? = some greeting)
    (current : state.registry.isCurrent greeting.channelNonce = true) {selected : Nat}
    (chosen : greeting.selected = some selected) : ∃ channel handshake,
      state.registry.completeHandshake greeting.channelNonce
        { webBuildId := greeting.payload.webBuildId, protocolVersion := selected } = some channel ∧
      boundedId channel.nonce = true ∧ channel.handshake = some handshake ∧
      1 ≤ handshake.protocolVersion ∧ handshake.protocolVersion ≤ 64 := by
  obtain ⟨before, channel, document, completed, sameNonce, shaken⟩ :=
    complete_current current
      { webBuildId := greeting.payload.webBuildId, protocolVersion := selected }
  have nonce : boundedId channel.nonce = true := by
    rw [sameNonce]
    exact ok.nonce before document
  rcases shaken with first | again
  · have range := ok.greetings greeting (mem_of_getElem? asked) selected chosen
    exact ⟨channel, _, completed, nonce, first.2, range⟩
  · obtain ⟨earlier, known⟩ := Option.ne_none_iff_exists'.mp again.1
    have range := ok.version earlier (by rw [document]; exact known)
    exact ⟨channel, earlier, completed, nonce, again.2.trans known, range⟩

section

variable (supplied : Supplied deps parsePayload) (ok : BridgeOk parsePayload state)
include supplied ok

theorem hello_served {index : Nat} {greeting} (asked : state.greetings[index]? = some greeting)
    (described : Option ShellDescription) {nowMs : Int} (timely : safeTime nowMs = true) :
    BridgeOk parsePayload (answerHello deps
        { state with greetings := state.greetings.eraseIdx index } greeting described nowMs).1 ∧
      Served deps state (.shellDescribed index described nowMs) (answerHello deps
        { state with greetings := state.greetings.eraseIdx index } greeting described nowMs).1 := by
  have fewer : ∀ other ∈ state.greetings.eraseIdx index, other ∈ state.greetings :=
    fun other member => (eraseIdx_sublist state.greetings index).subset member
  unfold answerHello
  cases described with
  | none =>
    have noFlush : flushedWith state (.shellDescribed index none nowMs) = none := by
      simp [flushedWith, asked]
    obtain ⟨own, registry, greetings, queue, injections, types⟩ := contained_answers supplied
      { state with greetings := state.greetings.eraseIdx index } nowMs greeting.command
    refine ⟨same_ok ok registry queue (by rw [greetings]; exact fewer), ?_⟩
    exact served_answers rfl noFlush (by simp [empties, noFlush]) queue injections
      fun message member => Or.inr (types message member)
  | some shell =>
    dsimp only
    cases current : state.registry.isCurrent greeting.channelNonce with
    | false =>
      have noFlush : flushedWith state (.shellDescribed index (some shell) nowMs) = none := by
        simp [flushedWith, asked, current]
      rw [if_pos rfl]
      refine ⟨same_ok ok rfl rfl fewer, ?_⟩
      exact served_still rfl noFlush (by simp [empties, noFlush]) rfl rfl
    | true =>
      rw [if_neg (by simp)]
      cases chosen : greeting.selected with
      | none =>
        have noFlush : flushedWith state (.shellDescribed index (some shell) nowMs) =
            none := by
          simp [flushedWith, asked, current, chosen]
        obtain ⟨after, outcome, own, emitted, registry, greetings, queue, injections, types⟩ :=
          immediate_effect supplied
            { state with greetings := state.greetings.eraseIdx index } nowMs
            { type := .nativeHello, payload := helloPayload shell none
              sessionId := none, revision := none }
            (some MOBILE_PROTOCOL_MAX) (some greeting.command.messageId)
        dsimp only
        rw [Option.getD_none, emitted]
        dsimp only
        rw [if_pos rfl]
        refine ⟨same_ok ok registry queue (by rw [greetings]; exact fewer), ?_⟩
        exact served_answers rfl noFlush (by simp [empties, noFlush]) queue injections
          fun message member => Or.inl (types message member)
      | some selected =>
        obtain ⟨channel, handshake, completed, nonce, given, atLeast, atMost⟩ :=
          completed_handshake ok asked current chosen
        have flushed : flushedWith state (.shellDescribed index (some shell) nowMs) =
            some handshake.protocolVersion := by
          simp only [flushedWith, asked, current, chosen, if_true, Option.bind_some]
          rw [completed]
          change (channel.handshake).map _ = _
          rw [given]
          rfl
        obtain ⟨after, outcome, own, emitted, registry, greetings, queue, injections, types⟩ :=
          immediate_effect supplied
            { state with
              greetings := state.greetings.eraseIdx index
              registry := state.registry.completeHandshake greeting.channelNonce
                { webBuildId := greeting.payload.webBuildId
                  protocolVersion := selected } } nowMs
            { type := .nativeHello, payload := helloPayload shell (some selected)
              sessionId := none, revision := none }
            (some selected) (some greeting.command.messageId)
        obtain ⟨last, messages, done, lastRegistry, lastGreetings, lastQueue, lastInjections,
            drafts⟩ := @flush_effect deps parsePayload supplied after nowMs timely channel
          (registry.trans completed) nonce handshake
          (by rw [registry, completed]; exact given) atLeast atMost
          (by rw [queue]; exact ok.readable)
        dsimp only
        rw [Option.getD_some, emitted]
        dsimp only
        rw [if_neg (by simp), done]
        dsimp only
        rw [if_pos rfl]
        have finalRegistry : last.registry = some channel :=
          lastRegistry.trans (registry.trans completed)
        refine ⟨?_, ?_, ?_⟩
        · apply shaken_ok ok finalRegistry nonce given ⟨atLeast, atMost⟩ lastQueue
          rw [lastGreetings, greetings]
          exact fewer
        · rw [lastQueue]
          unfold queueAfter
          rw [if_pos (by simp [empties, flushed])]
        · refine ⟨own, messages, ?_, fun message member => Or.inl (types message member), ?_⟩
          · rw [lastInjections, injections]
          · rw [drafts, queue]
            unfold deliveredBy
            rw [flushed]

theorem step_served (event : BridgeEvent) (timely : Timely event) :
    BridgeOk parsePayload (step deps state event) ∧
      Served deps state event (step deps state event) := by
  cases event with
  | adoptDocument nonce nowMs =>
    refine ⟨unshaken_ok ok ?_ rfl rfl rfl, served_still rfl rfl rfl rfl rfl⟩
    intro channel given
    cases given
    exact timely
  | invalidate =>
    refine ⟨unshaken_ok ok ?_ rfl rfl rfl, served_still rfl rfl rfl rfl rfl⟩
    intro channel given
    cases given
  | receive url data nowMs => exact receive_served supplied ok url data nowMs
  | shellDescribed index described nowMs =>
    cases asked : state.greetings[index]? with
    | none =>
      have unmoved : step deps state (.shellDescribed index described nowMs) = state := by
        unfold step stepOutcome
        dsimp only
        rw [asked]
      have noFlush : flushedWith state (.shellDescribed index described nowMs) = none := by
        simp [flushedWith, asked]
      rw [unmoved]
      exact ⟨ok, served_still rfl noFlush (by simp [empties, noFlush]) rfl rfl⟩
    | some greeting =>
      have moved : step deps state (.shellDescribed index described nowMs) =
          (answerHello deps { state with greetings := state.greetings.eraseIdx index }
            greeting described nowMs).1 := by
        unfold step stepOutcome
        dsimp only
        rw [asked]
      rw [moved]
      exact hello_served supplied ok asked described timely
  | dispatchEnded index succeeded nowMs =>
    cases running : state.dispatching[index]? with
    | none =>
      have unmoved : step deps state (.dispatchEnded index succeeded nowMs) = state := by
        unfold step stepOutcome
        dsimp only
        rw [running]
      have noCall : sendCall state (.dispatchEnded index succeeded nowMs) = none := by
        simp [sendCall, running]
      rw [unmoved]
      exact ⟨ok, served_still noCall rfl rfl rfl rfl⟩
    | some command =>
      have moved : step deps state (.dispatchEnded index succeeded nowMs) =
          (settleDispatch deps
            { state with dispatching := state.dispatching.eraseIdx index } command succeeded
            nowMs).1 := by
        unfold step stepOutcome
        dsimp only
        rw [running]
      rw [moved]
      have before : BridgeOk parsePayload
          { state with dispatching := state.dispatching.eraseIdx index } :=
        same_ok ok rfl rfl fun _ member => member
      cases succeeded with
      | true =>
        exact ⟨before,
          served_still rfl rfl rfl rfl rfl⟩
      | false =>
        have call : sendCall state (.dispatchEnded index false nowMs) =
            some (nowMs, errorDraft "internal-error", some command.messageId) := by
          simp [sendCall, running]
        exact ⟨send_ok supplied before nowMs _ _,
          served_call supplied call rfl rfl rfl rfl rfl rfl⟩
  | send draft forMessageId nowMs =>
    exact ⟨send_ok supplied ok nowMs draft forMessageId,
      served_call supplied rfl rfl rfl rfl rfl rfl rfl⟩
  | flush nowMs =>
    cases shaken : state.registry.handshake with
    | none =>
      have unmoved : step deps state (.flush nowMs) = state := by
        unfold step stepOutcome flush
        rw [shaken]
      have noFlush : flushedWith state (.flush nowMs) = none := by
        simp [flushedWith, shaken]
      rw [unmoved]
      exact ⟨ok, served_still rfl noFlush (by simp [empties, noFlush]) rfl rfl⟩
    | some handshake =>
      have flushed : flushedWith state (.flush nowMs) = some handshake.protocolVersion := by
        simp [flushedWith, shaken]
      obtain ⟨channel, document⟩ : ∃ channel, state.registry = some channel := by
        cases registry : state.registry with
        | none =>
          rw [registry] at shaken
          cases shaken
        | some channel => exact ⟨channel, rfl⟩
      have range := ok.version handshake shaken
      obtain ⟨after, messages, done, registry, greetings, queue, injections, drafts⟩ :=
        flush_effect supplied timely document (ok.nonce channel document) shaken range.1 range.2
          ok.readable
      have moved : step deps state (.flush nowMs) = after := by
        unfold step stepOutcome
        dsimp only
        rw [done]
      rw [moved]
      have idle : state.queue = [] := ok.idle (by rw [shaken]; simp)
      refine ⟨same_ok ok registry (queue.trans idle.symm) (by rw [greetings]; simp), ?_, ?_⟩
      · rw [queue]
        unfold queueAfter
        rw [if_pos (by simp [empties, flushed])]
      · refine ⟨[], messages, by rw [injections, append_nil], by simp, ?_⟩
        rw [drafts]
        unfold deliveredBy
        rw [flushed]
  | discardQueue =>
    refine ⟨?_, rfl, [], [], by simp [step, stepOutcome], by simp, rfl⟩
    constructor
    · exact ok.nonce
    · exact ok.version
    · exact ok.greetings
    · intro draft member
      cases member
    · intro _
      rfl

end

/-- What the queue was offered and what it took since it was last emptied, and all drafts that
were taken and delivered. -/
structure Book where
  offered : List OutboundDraft
  held : List OutboundDraft
  accepted : List OutboundDraft
  delivered : List OutboundDraft

def emptyBook : Book := ⟨[], [], [], []⟩

def queuedBy (deps : NativeBridgeDeps) (state : BridgeState) (event : BridgeEvent) :
    Option OutboundDraft :=
  (offerBy deps state event).filter fun message =>
    (enqueueDraft state.queue message).2 = .queued

def bookAfter (deps : NativeBridgeDeps) (state : BridgeState) (event : BridgeEvent)
    (book : Book) : Book where
  offered := if empties state event then []
    else book.offered ++ (offerBy deps state event).toList
  held := if empties state event then [] else book.held ++ (queuedBy deps state event).toList
  accepted := book.accepted ++ (queuedBy deps state event).toList ++
    (directBy deps state event).toList
  delivered := book.delivered ++ deliveredBy deps state event

def watch (deps : NativeBridgeDeps) (watched : BridgeState × Book) (event : BridgeEvent) :
    BridgeState × Book :=
  (step deps watched.1 event, bookAfter deps watched.1 event watched.2)

structure Agrees (parsePayload : NativeToWebType → Json → Option Json)
    (watched : BridgeState × Book) : Prop where
  bridge : BridgeOk parsePayload watched.1
  queue : Holds watched.1.queue watched.2.offered watched.2.held
  order : (watched.2.delivered ++ watched.1.queue).Sublist watched.2.accepted

theorem emptied_offers_nothing {state event} (emptied : empties state event = true) :
    offerBy deps state event = none ∧ directBy deps state event = none := by
  cases event with
  | send draft forMessageId nowMs => cases emptied
  | dispatchEnded index succeeded nowMs => cases emptied
  | adoptDocument nonce nowMs => exact ⟨rfl, rfl⟩
  | invalidate => exact ⟨rfl, rfl⟩
  | receive url data nowMs => exact ⟨rfl, rfl⟩
  | shellDescribed index described nowMs => exact ⟨rfl, rfl⟩
  | flush nowMs => exact ⟨rfl, rfl⟩
  | discardQueue => exact ⟨rfl, rfl⟩

theorem unflushed (kept : empties state event = false) : flushedWith state event = none := by
  cases event with
  | discardQueue => cases kept
  | _ => exact Option.isSome_eq_false_iff.mp kept |> Option.isNone_iff_eq_none.mp

theorem flushed_empties {protocolVersion : Nat}
    (flushed : flushedWith state event = some protocolVersion) : empties state event = true := by
  cases event with
  | discardQueue => cases flushed
  | _ => exact Option.isSome_iff_exists.mpr ⟨protocolVersion, flushed⟩

theorem offered_not_direct (offered : offerBy deps state event = some message) :
    directBy deps state event = none := by
  unfold offerBy at offered
  unfold directBy
  cases call : sendCall state event with
  | none => rfl
  | some given =>
    rw [call, Option.bind_some] at offered
    unfold offerOf at offered
    rw [Option.bind_some]
    unfold directOf
    split at offered
    · rename_i waiting
      exact if_pos waiting
    · cases offered

theorem direct_ready (direct : directBy deps state event = some message) :
    state.registry.handshake ≠ none := by
  unfold directBy at direct
  cases call : sendCall state event with
  | none =>
    rw [call] at direct
    cases direct
  | some given =>
    rw [call, Option.bind_some] at direct
    unfold directOf at direct
    split at direct
    · cases direct
    · assumption

theorem filter_sublist_of_deliver {delivered queue accepted : List OutboundDraft}
    (order : (delivered ++ queue).Sublist accepted) (kept : OutboundDraft → Bool) :
    (delivered ++ queue.filter kept).Sublist accepted :=
  (List.Sublist.append_left filter_sublist delivered).trans order

theorem watch_agrees (supplied : Supplied deps parsePayload) (watched)
    (event : BridgeEvent) (timely : Timely event) (agrees : Agrees parsePayload watched) :
    Agrees parsePayload (watch deps watched event) := by
  obtain ⟨state, book⟩ := watched
  obtain ⟨bridge, held, order⟩ := agrees
  dsimp only at bridge held order
  have served := step_served supplied bridge event timely
  have queue := served.2.queue
  unfold queueAfter at queue
  cases emptied : empties state event with
  | true =>
    have nothing := @emptied_offers_nothing deps state event emptied
    rw [emptied, if_pos rfl] at queue
    refine ⟨served.1, ?_, ?_⟩
    · unfold watch bookAfter
      dsimp only
      rw [queue, emptied, if_pos rfl, if_pos rfl]
      exact nothing_held
    · have delivers : (book.delivered ++ deliveredBy deps state event).Sublist
          book.accepted := by
        unfold deliveredBy
        cases flushedWith state event with
        | some version => exact filter_sublist_of_deliver order _
        | none =>
          rw [nothing.2]
          simpa using (sublist_append_left book.delivered state.queue).trans order
      unfold watch bookAfter queuedBy
      dsimp only
      rw [queue, nothing.1, nothing.2]
      simpa using delivers
  | false =>
    rw [emptied, if_neg Bool.false_ne_true] at queue
    have delivers : deliveredBy deps state event = (directBy deps state event).toList := by
      unfold deliveredBy
      rw [unflushed emptied]
    cases offered : offerBy deps state event with
    | some message =>
      have noDirect := offered_not_direct offered
      rw [offered, Option.map_some, Option.getD_some] at queue
      have took : ∀ list, list ++ (queuedBy deps state event).toList =
          heldAfter state.queue list message := by
        intro list
        unfold queuedBy heldAfter
        rw [offered]
        by_cases taken : (enqueueDraft state.queue message).2 = .queued
        · rw [Option.filter_some_pos (by simpa using taken), if_pos taken]
          rfl
        · rw [Option.filter_some_neg (by simpa using taken), if_neg taken]
          exact append_nil list
      refine ⟨served.1, ?_, ?_⟩
      · unfold watch bookAfter
        dsimp only
        rw [queue, emptied, offered, took, if_neg Bool.false_ne_true,
          if_neg Bool.false_ne_true]
        exact enqueue_holds message held
      · unfold watch bookAfter
        dsimp only
        rw [queue, delivers, noDirect, Option.toList_none, append_nil, append_nil]
        have grown := List.Sublist.append_left (enqueue_sublist state.queue message)
          book.delivered
        refine grown.trans ?_
        rw [← took, ← append_assoc]
        exact List.Sublist.append_right order _
    | none =>
      have nothing : queuedBy deps state event = none := by
        unfold queuedBy
        rw [offered]
        rfl
      rw [offered, Option.map_none, Option.getD_none] at queue
      refine ⟨served.1, ?_, ?_⟩
      · unfold watch bookAfter
        dsimp only
        rw [queue, emptied, offered, nothing]
        simpa using held
      · unfold watch bookAfter
        dsimp only
        rw [queue, delivers, nothing, Option.toList_none, append_nil]
        cases direct : directBy deps state event with
        | none => simpa using order
        | some message =>
          have idle := bridge.idle (direct_ready direct)
          rw [idle, append_nil] at order ⊢
          exact List.Sublist.append_right order _

def watched (deps : NativeBridgeDeps) (events : List BridgeEvent) : BridgeState × Book :=
  run (watch deps) events (initial, emptyBook)

theorem watched_state (events : List BridgeEvent) :
    (watched deps events).1 = run (step deps) events initial := by
  unfold watched
  induction events using List.reverseRecOn with
  | nil => rfl
  | append_singleton earlier event ih =>
    rw [run_snoc, run_snoc, ← ih]
    rfl

theorem initial_agrees : Agrees parsePayload (initial, emptyBook) := by
  refine ⟨?_, nothing_held, List.Sublist.refl _⟩
  constructor
  · intro channel given
    cases given
  · intro handshake given
    cases given
  · intro greeting member
    cases member
  · intro draft member
    cases member
  · intro _
    rfl

theorem run_agrees (supplied : Supplied deps parsePayload) (events : List BridgeEvent)
    (timely : ∀ event ∈ events, Timely event) : Agrees parsePayload (watched deps events) :=
  run_invariant (fun watched event allowed => watch_agrees supplied watched event allowed)
    events timely _ initial_agrees

theorem queued_report (supplied : Supplied deps parsePayload) (state : BridgeState)
    (draft : OutboundDraft) (forMessageId : Option String) (nowMs : Int) :
    (send deps state nowMs draft forMessageId).2 = some .queued ↔
      (queuedBy deps state (.send draft forMessageId nowMs)).isSome = true := by
  rw [(send_effect supplied state nowMs draft forMessageId).queued]
  unfold queuedBy offerBy
  change _ ↔ ((offerOf deps state nowMs draft forMessageId).filter _).isSome = true
  rw [Option.isSome_iff_exists]
  constructor
  · intro taken
    obtain ⟨message, offered, queued⟩ := taken
    exact ⟨message, Option.filter_eq_some_iff.mpr ⟨offered, by simpa using queued⟩⟩
  · intro taken
    obtain ⟨message, given⟩ := taken
    have both := Option.filter_eq_some_iff.mp given
    exact ⟨message, both.1, by simpa using both.2⟩

theorem flush_delivers {state : BridgeState} {book : Book} {event : BridgeEvent}
    (held : Holds state.queue book.offered book.held) {protocolVersion : Nat}
    (flushed : flushedWith state event = some protocolVersion) :
    (deliveredBy deps state event).filter isCritical =
      (book.held.filter isCritical).filter (passes protocolVersion) := by
  unfold deliveredBy
  rw [flushed, ← held.critical]
  dsimp only
  rw [filter_filter, filter_filter]
  apply filter_congr
  intro draft _
  exact Bool.and_comm _ _

theorem passes_new {protocolVersion : Nat} (new : 4 ≤ protocolVersion)
    (drafts : List OutboundDraft) : drafts.filter (passes protocolVersion) = drafts := by
  apply filter_eq_self.mpr
  intro draft _
  simp [passes, Nat.not_lt.mpr new]

/-- In every run the queue is bounded and holds at most the newest snapshot; what it reported
as queued is delivered once by the next flush, unless it is about the intake and the page
speaks an old version; and what is delivered keeps the order in which it was sent. -/
theorem outbound_queue_kept (supplied : Supplied deps parsePayload) (events : List BridgeEvent)
    (timely : ∀ event ∈ events, Timely event) :
    (∀ reached, reached <+: events →
      let state := run (step deps) reached initial
      let book := (watched deps reached).2
      Holds state.queue book.offered book.held ∧
      (book.delivered ++ state.queue).Sublist book.accepted) ∧
    (∀ reached event, reached ++ [event] <+: events →
      let state := run (step deps) reached initial
      let book := (watched deps reached).2
      let after := step deps state event
      (∀ draft forMessageId nowMs, event = .send draft forMessageId nowMs →
        ((send deps state nowMs draft forMessageId).2 = some .queued ↔
          (queuedBy deps state event).isSome = true)) ∧
      (∃ own messages, after.injections = state.injections ++ own ++ messages ∧
        (∀ message ∈ own, message.type = .nativeHello ∨ message.type = .nativeError) ∧
        messages.map draftOf = deliveredBy deps state event) ∧
      (∀ protocolVersion, flushedWith state event = some protocolVersion →
        after.queue = [] ∧
        (deliveredBy deps state event).filter isCritical =
          (book.held.filter isCritical).filter (passes protocolVersion) ∧
        (4 ≤ protocolVersion → (deliveredBy deps state event).filter isCritical =
          book.held.filter isCritical))) := by
  have each : ∀ reached, reached <+: events → Agrees parsePayload (watched deps reached) :=
    fun reached within => run_agrees supplied reached
      fun event member => timely event (within.subset member)
  constructor
  · intro reached within state book
    have agrees := each reached within
    have same : (watched deps reached).1 = state := watched_state reached
    have held := agrees.queue
    have order := agrees.order
    rw [same] at held order
    exact ⟨held, order⟩
  · intro reached event within state book after
    have agrees := each reached ((prefix_append reached [event]).trans within)
    have same : (watched deps reached).1 = state := watched_state reached
    have bridge := agrees.bridge
    have held := agrees.queue
    rw [same] at bridge held
    have allowed : Timely event := timely event (within.subset (by simp))
    have served := (step_served supplied bridge event allowed).2
    refine ⟨?_, served.injections, ?_⟩
    · intro draft forMessageId nowMs given
      rw [given]
      exact queued_report supplied state draft forMessageId nowMs
    · intro protocolVersion flushed
      have delivers := @flush_delivers deps state book event held protocolVersion flushed
      refine ⟨?_, delivers, ?_⟩
      · rw [served.queue]
        unfold queueAfter
        exact if_pos (flushed_empties flushed)
      · intro new
        rw [delivers, passes_new new]

end

def legacyHello : WebToNativeMessage where
  protocolVersion := 3
  messageId := "h"
  sessionId := none
  revision := none
  body := .hello { webBuildId := "b", minProtocolVersion := 3, maxProtocolVersion := 3 }

def legacyUrl : Url where
  protocol := "https:"
  username := ""
  password := ""
  origin := "https://openmapx.com"
  hostname := "openmapx.com"

/-- A shell whose page sends one text, its greeting, and takes payloads as they are. -/
def legacyDeps : NativeBridgeDeps where
  webOrigin := "https://openmapx.com"
  parseUrl := fun _ => some legacyUrl
  parseMobileBridgeMessage := fun _ _ => .ok (.webToNative legacyHello)
  nextMessageId := fun _ => "n"
  nativeToWebSchema := nativeToWeb fun _ payload => some payload
  injectThrows := fun _ => false

def legacyShell : ShellDescription where
  shellVersion := "1"
  shellBuild := "1"
  platform := .android
  capabilities :=
    { groundNavigation := true, transitNavigation := true, transitActions := none
      backgroundLocation := true, localNotifications := true, speech := true
      nativeIntake := some true, carDestinations := none }
  permission := .foreground
  locationDriver := .expo
  activeSession := none

theorem legacy_supplied : Supplied legacyDeps fun _ payload => some payload where
  schema := rfl
  again := fun _ _ _ _ => rfl
  ids := fun _ => (by decide +kernel : boundedId "n" = true)
  injects := fun _ => rfl

def intakeChanged : OutboundDraft where
  type := .intakeChanged
  payload := .object [("pendingCount", .number 1)]
  sessionId := none
  revision := none

def shellPermission : OutboundDraft where
  type := .permissionState
  payload := .object [("permission", .string "foreground")]
  sessionId := none
  revision := none

def earlyAnnouncement : List BridgeEvent :=
  [.adoptDocument "channel" 0, .send intakeChanged none 0, .send shellPermission none 0,
    .receive (some "https://openmapx.com") (some "") 0, .shellDescribed 0 (some legacyShell) 0]

/-- The announcement is queued, and the flush for a page of version 3 drops it. -/
theorem announcement_never_delivered :
    (send legacyDeps (run (step legacyDeps) [.adoptDocument "channel" 0] initial) 0 intakeChanged
      none).2 = some .queued ∧ (run (step legacyDeps) earlyAnnouncement initial).queue.length = 0 ∧
    (run (step legacyDeps) earlyAnnouncement initial).injections.map (·.type) =
      [.nativeHello, .permissionState] := by
  refine ⟨by decide +kernel, by decide +kernel, by decide +kernel⟩

/-- The flush delivers the other message that the queue took. -/
theorem early_permission_delivered :
    (deliveredBy legacyDeps (run (step legacyDeps) (earlyAnnouncement.take 4) initial)
        (.shellDescribed 0 (some legacyShell) 0)).filter isCritical =
      ((watched legacyDeps (earlyAnnouncement.take 4)).2.held.filter isCritical).filter
        (passes 3) := by
  have timely : ∀ event ∈ earlyAnnouncement, Timely event := by
    intro event member
    simp only [earlyAnnouncement, mem_cons, not_mem_nil, or_false] at member
    rcases member with rfl | rfl | rfl | rfl | rfl <;> simp only [Timely] <;> decide +kernel
  have kept := (outbound_queue_kept legacy_supplied earlyAnnouncement timely).2
    (earlyAnnouncement.take 4) (.shellDescribed 0 (some legacyShell) 0) prefix_rfl
  exact (kept.2.2 3 (by decide +kernel)).2.1

end OpenMapX.Mobile.OutboundRuns
