import OpenMapX.Mobile.OutboundQueue

/-!
# Sending to the page

What `emit` comes to: a draft is refused, offered to the queue or handed to the page. A draft
that the queue holds was checked once and is accepted again when the queue is flushed.
-/

namespace OpenMapX.Mobile.OutboundSending

open Foundation.JsonValue
open Foundation.JsText (codeUnits)
open Channel NativeBridge OutboundQueue List

def MAX_ID_LENGTH : Nat := 128

def MAX_SAFE_INTEGER : Nat := 2 ^ 53 - 1

def boundedId (text : String) : Bool :=
  decide (1 ≤ (codeUnits text).length) && decide ((codeUnits text).length ≤ MAX_ID_LENGTH)

def safeTime (nowMs : Int) : Bool := decide (0 ≤ nowMs) && decide (nowMs ≤ MAX_SAFE_INTEGER)

/-- The members around the payload that `envelope` checks. -/
def envelopeOk (message : OutboundMessage) : Bool :=
  decide (1 ≤ message.protocolVersion) && decide (message.protocolVersion ≤ 64) &&
    boundedId message.messageId && boundedId message.channelNonce &&
    message.sessionId.all boundedId && message.revision.all (fun value => value ≤ MAX_SAFE_INTEGER)
    && safeTime message.sentAtMs

/-- `nativeToWebSchema`, with the schemas of the payloads by the type of the message. -/
def nativeToWeb (parsePayload : NativeToWebType → Json → Option Json)
    (message : OutboundMessage) : Option OutboundMessage :=
  if envelopeOk message then
    (parsePayload message.type message.payload).map fun payload =>
      { message with payload := payload }
  else none

/-- What the bridge is given: the schema, whose payloads it accepts again, identifiers of the
length that it asks for, and a page that every script reaches. -/
structure Supplied (deps : NativeBridgeDeps)
    (parsePayload : NativeToWebType → Json → Option Json) : Prop where
  schema : deps.nativeToWebSchema = nativeToWeb parsePayload
  again : ∀ type payload parsed, parsePayload type payload = some parsed →
    parsePayload type parsed = some parsed
  ids : ∀ issued, boundedId (deps.nextMessageId issued) = true
  injects : ∀ earlier, deps.injectThrows earlier = false

def Timely : BridgeEvent → Prop
  | .adoptDocument nonce _ => boundedId nonce = true
  | .receive _ _ nowMs => safeTime nowMs = true
  | .shellDescribed _ _ nowMs => safeTime nowMs = true
  | .dispatchEnded _ _ nowMs => safeTime nowMs = true
  | .send _ _ nowMs => safeTime nowMs = true
  | .flush nowMs => safeTime nowMs = true
  | .invalidate => True
  | .discardQueue => True

def draftOf (message : OutboundMessage) : OutboundDraft where
  type := message.type
  payload := message.payload
  sessionId := message.sessionId
  revision := message.revision

section

variable (deps : NativeBridgeDeps)

def versionOf (state : BridgeState) (protocolVersion : Option Nat) : Nat :=
  (protocolVersion.or (state.registry.handshake.map (·.protocolVersion))).getD
    MOBILE_PROTOCOL_MAX

def candidateOf (state : BridgeState) (channel : BridgeChannel) (nowMs : Int)
    (draft : OutboundDraft) (protocolVersion : Nat) (forMessageId : Option String) :
    OutboundMessage where
  protocolVersion := protocolVersion
  type := draft.type
  messageId := deps.nextMessageId state.issued
  channelNonce := channel.nonce
  sessionId := draft.sessionId
  revision := draft.revision
  sentAtMs := nowMs
  payload := correlatedPayload draft.payload forMessageId

def checked (state : BridgeState) (nowMs : Int) (draft : OutboundDraft)
    (protocolVersion : Option Nat) (forMessageId : Option String) : Option OutboundMessage :=
  match state.registry with
  | none => none
  | some channel =>
    if state.registry.handshake.isSome && decide (versionOf state protocolVersion < 4) &&
        draft.type.isIntake then none
    else if draft.type = .voiceEvent ∧ state.registry.handshake = none then none
    else deps.nativeToWebSchema (candidateOf deps state channel nowMs draft
      (versionOf state protocolVersion) forMessageId)

structure SameBridge (state after : BridgeState) : Prop where
  registry : after.registry = state.registry
  greetings : after.greetings = state.greetings
  dispatching : after.dispatching = state.dispatching
  queue : after.queue = state.queue
  injections : after.injections = state.injections

variable {deps} {parsePayload : NativeToWebType → Json → Option Json}

theorem checked_draft (supplied : Supplied deps parsePayload) {message validated}
    (read : deps.nativeToWebSchema message = some validated) : envelopeOk message = true ∧
      ∃ payload, parsePayload message.type message.payload = some payload ∧
        validated = { message with payload := payload } := by
  rw [supplied.schema] at read
  unfold nativeToWeb at read
  cases fits : envelopeOk message with
  | false =>
    rw [fits, if_neg Bool.false_ne_true] at read
    cases read
  | true =>
    rw [fits, if_pos rfl] at read
    obtain ⟨payload, parsed, same⟩ := Option.map_eq_some_iff.mp read
    exact ⟨rfl, payload, parsed, same.symm⟩

/-- What `emit` does: it refuses the draft, offers it to the queue or hands it to the page. -/
inductive Emitted (state : BridgeState) (immediate : Bool) (message : Option OutboundMessage) :
    BridgeState × Option SendOutcome → Prop where
  | refused (after : BridgeState) (outcome : SendOutcome) (missing : message = none)
      (same : SameBridge state after) (other : outcome ≠ .queued) (unsent : outcome ≠ .sent) :
      Emitted state immediate message (after, some outcome)
  | offered (validated : OutboundMessage) (read : message = some validated)
      (open_page : state.registry.handshake = none) (later : immediate = false) :
      Emitted state immediate message
        ({ state with
            issued := state.issued + 1
            queue := (enqueueDraft state.queue (draftOf validated)).1 },
          some (enqueueDraft state.queue (draftOf validated)).2)
  | handed (validated : OutboundMessage) (read : message = some validated)
      (ready : immediate = true ∨ state.registry.handshake ≠ none) :
      Emitted state immediate message
        ({ state with
            issued := state.issued + 1
            injections := state.injections ++ [validated] }, some .sent)

theorem emit_closed (state : BridgeState) (nowMs : Int) (draft : OutboundDraft)
    (options : EmitOptions) (forMessageId : Option String) (closed : state.registry = none) :
    emit deps state nowMs draft options forMessageId = (state, some .dropped) := by
  unfold emit
  split
  · rfl
  · rename_i channel document
    rw [closed] at document
    cases document

variable {channel : BridgeChannel}

section

variable (state : BridgeState) (nowMs : Int) (draft : OutboundDraft)

theorem emit_open
    (options : EmitOptions) (forMessageId : Option String)
    (document : state.registry = some channel) :
    emit deps state nowMs draft options forMessageId =
      if state.registry.handshake.isSome && decide (versionOf state options.protocolVersion < 4) &&
          draft.type.isIntake then (state, some .dropped)
      else
        match deps.nativeToWebSchema (candidateOf deps state channel nowMs draft
            (versionOf state options.protocolVersion) forMessageId) with
        | none => ({ state with issued := state.issued + 1 }, some .invalid)
        | some validated =>
          if draft.type = .voiceEvent ∧ state.registry.handshake = none then
            ({ state with issued := state.issued + 1 }, some .dropped)
          else if options.immediate = false ∧ state.registry.handshake = none then
            let held := enqueue { state with issued := state.issued + 1 }
              { type := validated.type, payload := validated.payload
                sessionId := draft.sessionId, revision := draft.revision }
            (held.1, some held.2)
          else if deps.injectThrows state.injections.length then
            ({ state with issued := state.issued + 1 }, none)
          else ({ state with issued := state.issued + 1
                             injections := state.injections ++ [validated] }, some .sent) := by
  cases state
  cases document
  rfl

theorem checked_open (protocolVersion : Option Nat) (forMessageId : Option String)
    (document : state.registry = some channel) :
    checked deps state nowMs draft protocolVersion forMessageId =
      if state.registry.handshake.isSome && decide (versionOf state protocolVersion < 4) &&
          draft.type.isIntake then none
      else if draft.type = .voiceEvent ∧ state.registry.handshake = none then none
      else deps.nativeToWebSchema (candidateOf deps state channel nowMs draft
        (versionOf state protocolVersion) forMessageId) := by
  cases state
  cases document
  rfl

end

section

variable (supplied : Supplied deps parsePayload) (state : BridgeState) (nowMs : Int)
  (draft : OutboundDraft)
include supplied

theorem emit_result (options : EmitOptions) (forMessageId : Option String) :
    Emitted state options.immediate
      (checked deps state nowMs draft options.protocolVersion forMessageId)
      (emit deps state nowMs draft options forMessageId) := by
  cases document : state.registry with
  | none =>
    rw [emit_closed state nowMs draft options forMessageId document]
    have missing : checked deps state nowMs draft options.protocolVersion forMessageId = none := by
      unfold checked
      split
      · rfl
      · rename_i channel other
        rw [document] at other
        cases other
    rw [missing]
    exact .refused state .dropped rfl ⟨rfl, rfl, rfl, rfl, rfl⟩ (by simp) (by simp)
  | some channel =>
    rw [emit_open state nowMs draft options forMessageId document,
      checked_open state nowMs draft options.protocolVersion forMessageId document]
    split
    · exact .refused state .dropped rfl ⟨rfl, rfl, rfl, rfl, rfl⟩ (by simp) (by simp)
    · cases read : deps.nativeToWebSchema (candidateOf deps state channel nowMs draft
          (versionOf state options.protocolVersion) forMessageId) with
      | none =>
        rw [ite_self]
        exact .refused _ .invalid rfl ⟨rfl, rfl, rfl, rfl, rfl⟩ (by simp) (by simp)
      | some validated =>
        obtain ⟨-, payload, -, same⟩ := checked_draft supplied read
        dsimp only
        split
        · exact .refused _ .dropped rfl ⟨rfl, rfl, rfl, rfl, rfl⟩ (by simp) (by simp)
        · split
          · rename_i waiting
            rw [enqueue_eq]
            have held : OutboundDraft.mk validated.type validated.payload draft.sessionId
                draft.revision = draftOf validated := by
              rw [same]
              rfl
            rw [held]
            exact .offered validated rfl waiting.2 waiting.1
          · rename_i ready
            rw [supplied.injects, if_neg Bool.false_ne_true]
            refine .handed validated rfl ?_
            cases given : options.immediate with
            | true => exact Or.inl rfl
            | false => exact Or.inr fun unshaken => ready ⟨given, unshaken⟩

/-- The draft that a call of `send` offers to the queue. -/
def offerOf (deps : NativeBridgeDeps) (state : BridgeState) (nowMs : Int) (draft : OutboundDraft)
    (forMessageId : Option String) : Option OutboundDraft :=
  if state.registry.handshake = none then
    (checked deps state nowMs draft none forMessageId).map draftOf
  else none

/-- The draft that a call of `send` hands to the page at once. -/
def directOf (deps : NativeBridgeDeps) (state : BridgeState) (nowMs : Int) (draft : OutboundDraft)
    (forMessageId : Option String) : Option OutboundDraft :=
  if state.registry.handshake = none then none
  else (checked deps state nowMs draft none forMessageId).map draftOf

/-- The effect of a call of `send`. -/
structure Sent (state after : BridgeState) (outcome : Option SendOutcome)
    (offered direct : Option OutboundDraft) : Prop where
  registry : after.registry = state.registry
  greetings : after.greetings = state.greetings
  queue : after.queue = (offered.map fun message => (enqueueDraft state.queue message).1).getD
    state.queue
  injections : ∃ messages, after.injections = state.injections ++ messages ∧
    messages.map draftOf = direct.toList
  queued : outcome = some .queued ↔
    ∃ message, offered = some message ∧ (enqueueDraft state.queue message).2 = .queued

theorem send_effect (forMessageId : Option String) :
    Sent state (send deps state nowMs draft forMessageId).1
      (send deps state nowMs draft forMessageId).2 (offerOf deps state nowMs draft forMessageId)
      (directOf deps state nowMs draft forMessageId) := by
  have result := emit_result supplied state nowMs draft
    { immediate := false, protocolVersion := none } forMessageId
  unfold send offerOf directOf
  generalize emit deps state nowMs draft { immediate := false, protocolVersion := none }
    forMessageId = emitted at result ⊢
  generalize checked deps state nowMs draft none forMessageId = message at result ⊢
  cases result with
  | refused after outcome missing same other unsent =>
    rw [missing, Option.map_none, ite_self]
    refine ⟨same.registry, same.greetings, same.queue, ⟨[], ?_, rfl⟩, ?_⟩
    · rw [same.injections, append_nil]
    · simp [other]
  | offered validated read open_page later =>
    rw [read, if_pos open_page, if_pos open_page]
    refine ⟨rfl, rfl, rfl, ⟨[], (append_nil _).symm, rfl⟩, ?_⟩
    simp
  | handed validated read ready =>
    have shaken : state.registry.handshake ≠ none := by
      rcases ready with impossible | shaken
      · cases impossible
      · exact shaken
    rw [read, if_neg shaken, if_neg shaken]
    refine ⟨rfl, rfl, rfl, ⟨[validated], rfl, rfl⟩, ?_⟩
    simp

end

variable {draft : OutboundDraft} {state : BridgeState} {nowMs : Int}

theorem checked_type (supplied : Supplied deps parsePayload)
    {protocolVersion forMessageId validated}
    (read : checked deps state nowMs draft protocolVersion forMessageId = some validated) :
    validated.type = draft.type := by
  unfold checked at read
  split at read
  · cases read
  · split at read
    · cases read
    · split at read
      · cases read
      · obtain ⟨-, payload, -, same⟩ := checked_draft supplied read
        rw [same]
        rfl

theorem immediate_effect (supplied : Supplied deps parsePayload) (state : BridgeState) (nowMs : Int)
    (draft : OutboundDraft) (protocolVersion : Option Nat) (forMessageId : Option String) :
    ∃ after outcome own, emit deps state nowMs draft
        { immediate := true, protocolVersion := protocolVersion } forMessageId =
          (after, some outcome) ∧
      after.registry = state.registry ∧ after.greetings = state.greetings ∧
      after.queue = state.queue ∧ after.injections = state.injections ++ own ∧
      ∀ message ∈ own, message.type = draft.type := by
  have result := emit_result supplied state nowMs draft
    { immediate := true, protocolVersion := protocolVersion } forMessageId
  generalize emitted_eq : emit deps state nowMs draft
    { immediate := true, protocolVersion := protocolVersion } forMessageId = emitted at result ⊢
  generalize message_eq : checked deps state nowMs draft protocolVersion forMessageId = message
    at result
  cases result with
  | refused after outcome missing same other unsent =>
    refine ⟨after, outcome, [], rfl, same.registry, same.greetings, same.queue, ?_, by simp⟩
    rw [same.injections, append_nil]
  | offered validated read open_page later => cases later
  | handed validated read ready =>
    refine ⟨_, _, [validated], rfl, rfl, rfl, rfl, rfl, ?_⟩
    intro other member
    rw [mem_singleton.mp member]
    exact checked_type supplied (message_eq.trans read)

structure Readable (parsePayload : NativeToWebType → Json → Option Json)
    (draft : OutboundDraft) : Prop where
  payload : parsePayload draft.type draft.payload = some draft.payload
  sessionId : draft.sessionId.all boundedId = true
  revision : (draft.revision.all fun value => value ≤ MAX_SAFE_INTEGER) = true

def passes (protocolVersion : Nat) (draft : OutboundDraft) : Bool :=
  !(decide (protocolVersion < 4) && draft.type.isIntake)

variable (supplied : Supplied deps parsePayload)
include supplied

theorem checked_readable {protocolVersion forMessageId validated}
    (read : checked deps state nowMs draft protocolVersion forMessageId = some validated) :
    Readable parsePayload (draftOf validated) := by
  unfold checked at read
  split at read
  · cases read
  · split at read
    · cases read
    · split at read
      · cases read
      · obtain ⟨fits, payload, parsed, same⟩ := checked_draft supplied read
        rw [same]
        simp only [envelopeOk, candidateOf, Bool.and_eq_true] at fits
        exact
          { payload := supplied.again _ _ _ parsed
            sessionId := fits.1.1.2
            revision := fits.1.2 }

theorem checked_held (document : state.registry = some channel)
    (shaken : state.registry.handshake ≠ none) (nonce : boundedId channel.nonce = true)
    (timely : safeTime nowMs = true) {protocolVersion : Nat}
    (atLeast : 1 ≤ protocolVersion) (atMost : protocolVersion ≤ 64)
    (readable : Readable parsePayload draft) : ∃ message, draftOf message = draft ∧
      checked deps state nowMs draft (some protocolVersion) none =
        if passes protocolVersion draft then some message else none := by
  refine ⟨candidateOf deps state channel nowMs draft protocolVersion none, ?_, ?_⟩
  · unfold draftOf candidateOf correlatedPayload
    cases draft with
    | mk type payload sessionId revision => cases payload <;> rfl
  · have ready : state.registry.handshake.isSome = true := Option.isSome_iff_ne_none.mpr shaken
    have same : correlatedPayload draft.payload none = draft.payload := by
      unfold correlatedPayload
      cases draft.payload <;> rfl
    have fits : envelopeOk (candidateOf deps state channel nowMs draft protocolVersion none) =
        true := by
      simp [envelopeOk, candidateOf, atLeast, atMost, supplied.ids, nonce, readable.sessionId,
        readable.revision, timely]
    rw [checked_open state nowMs draft (some protocolVersion) none document, ready,
      Bool.true_and, if_neg (fun voice : draft.type = .voiceEvent ∧ _ => shaken voice.2)]
    change (if (decide (protocolVersion < 4) && draft.type.isIntake) = true then none else
      deps.nativeToWebSchema (candidateOf deps state channel nowMs draft protocolVersion none)) = _
    unfold passes
    cases decide (protocolVersion < 4) && draft.type.isIntake with
    | true => rfl
    | false =>
      rw [if_neg Bool.false_ne_true, Bool.not_false, if_pos rfl, supplied.schema]
      unfold nativeToWeb
      rw [if_pos fits]
      simp only [candidateOf, same, readable.payload, Option.map_some]

theorem flush_pending_effect (nonce : boundedId channel.nonce = true)
    (timely : safeTime nowMs = true) {protocolVersion : Nat} (atLeast : 1 ≤ protocolVersion)
    (atMost : protocolVersion ≤ 64) (pending)
    (readable : ∀ draft ∈ pending, Readable parsePayload draft) (state : BridgeState)
    (document : state.registry = some channel) (shaken : state.registry.handshake ≠ none) :
    ∃ after messages, flushPending deps nowMs protocolVersion pending state = (after, true) ∧
      after.registry = state.registry ∧ after.greetings = state.greetings ∧
      after.queue = state.queue ∧ after.injections = state.injections ++ messages ∧
      messages.map draftOf = pending.filter (passes protocolVersion) := by
  induction pending generalizing state with
  | nil => exact ⟨state, [], rfl, rfl, rfl, rfl, (append_nil _).symm, rfl⟩
  | cons draft later ih =>
    have laterReadable : ∀ other ∈ later, Readable parsePayload other :=
      fun other member => readable other (mem_cons_of_mem draft member)
    obtain ⟨message, same, check⟩ := checked_held supplied document shaken nonce timely atLeast
      atMost (readable draft mem_cons_self)
    have result := emit_result supplied state nowMs draft
      { immediate := false, protocolVersion := some protocolVersion } none
    unfold flushPending
    dsimp only
    rw [check] at result
    generalize emit deps state nowMs draft
      { immediate := false, protocolVersion := some protocolVersion } none = emitted at result ⊢
    cases result with
    | refused after outcome missing unchanged other unsent =>
      have withheld : passes protocolVersion draft = false := by
        cases given : passes protocolVersion draft with
        | false => rfl
        | true =>
          rw [given, if_pos rfl] at missing
          cases missing
      obtain ⟨last, messages, flushed, registry, greetings, queue, injections, drafts⟩ :=
        ih laterReadable after (unchanged.registry.trans document)
          (by rw [unchanged.registry]; exact shaken)
      refine ⟨last, messages, flushed, registry.trans unchanged.registry,
        greetings.trans unchanged.greetings, queue.trans unchanged.queue, ?_, ?_⟩
      · rw [injections, unchanged.injections]
      · rw [drafts, filter_cons_of_neg (by rw [withheld]; exact Bool.false_ne_true)]
    | offered validated read open_page _ => exact absurd open_page shaken
    | handed validated read ready =>
      have given : passes protocolVersion draft = true := by
        cases allowed : passes protocolVersion draft with
        | true => rfl
        | false =>
          rw [allowed, if_neg Bool.false_ne_true] at read
          cases read
      rw [given, if_pos rfl] at read
      obtain ⟨last, messages, flushed, registry, greetings, queue, injections, drafts⟩ :=
        ih laterReadable
          { state with
            issued := state.issued + 1
            injections := state.injections ++ [validated] } document shaken
      refine ⟨last, validated :: messages, flushed, registry, greetings, queue, ?_, ?_⟩
      · rw [injections, append_assoc]
        rfl
      · rw [map_cons, drafts, filter_cons_of_pos given, ← Option.some.inj read, same]

omit supplied

end

end OpenMapX.Mobile.OutboundSending
