import Mathlib.Algebra.Order.Ring.Rat
import Mathlib.Tactic.Linarith
import OpenMapX.Foundation.JsText

/-!
# The event stream of the data manager

Events, one a line, in chunks of bytes that are cut anywhere. What is answered depends on the
bytes alone, and after a failure the callbacks are the first of those that the lines ask for.
-/

namespace OpenMapX.Core.EventStream

open Foundation.JsText List

abbrev Text := List Char

/-- `none` is a number that is not finite. -/
abbrev Number := Option ℚ

structure StreamLimits where
  maxBytes : Option Number
  idleTimeoutMs : Option Number

structure Response where
  ok : Bool
  status : ℕ
  body : Option (List (List UInt8))
  inherited : Option StreamLimits

inductive EventKind where
  | progress
  | done
  | error
  deriving DecidableEq

structure Contract (E : Type) where
  /-- `schema.parse(JSON.parse(value))`, unless one of them throws. -/
  parse : Text → Option E
  event : E → EventKind
  message : E → Option String

structure TextDecoder where
  stream : List UInt8 → Option Text
  finish : List UInt8 → Option Text

def TextDecoder.emit (decoder : TextDecoder) (seen chunk : List UInt8) : Option Text := do
  return (← decoder.stream (seen ++ chunk)).drop (← decoder.stream seen).length

/-- It gives out characters as they are complete, and throws on what is no UTF-8. -/
structure TextDecoder.Correct (decoder : TextDecoder) (utf8 : List UInt8 → Option Text) :
    Prop where
  empty : utf8 [] = some []
  grows : ∀ {first second later}, decoder.stream (first ++ second) = some later →
    ∃ text, decoder.stream first = some text ∧ text <+: later
  valid : ∀ {bytes text}, utf8 bytes = some text →
    decoder.stream bytes = some text ∧ decoder.finish bytes = some []
  invalid : ∀ {bytes}, utf8 bytes = none → decoder.stream bytes = none ∨ decoder.finish bytes = none

/-- The terminal event, and the events that were given to `onProgress`. -/
structure Reading (E : Type) where
  terminal : Option E
  called : List E

abbrev Failure (E : Type) := String × List E

def cut (begun : Text) : Text → List Text × Text
  | [] => ([], begun)
  | c :: rest =>
    if c = '\n' then (begun :: (cut [] rest).1, (cut [] rest).2) else cut (begun ++ [c]) rest

section

variable {E : Type} (contract : Contract E) (decoder : TextDecoder)

def line (reading : Reading E) (value : Text) : Except (Failure E) (Reading E) :=
  if trim value = [] then .ok reading
  else if reading.terminal.isSome then
    .error ("Data-manager NDJSON record after terminal event", reading.called)
  else
    match contract.parse value with
    | none => .error ("Data-manager NDJSON event contract failed", reading.called)
    | some parsed =>
      match contract.event parsed with
      | .error =>
        .error ((contract.message parsed).getD "Data-manager operation failed", reading.called)
      | .done => .ok { reading with terminal := some parsed }
      | .progress => .ok { reading with called := reading.called ++ [parsed] }

def answer (reading : Reading E) : Except (Failure E) (E × List E) :=
  match reading.terminal with
  | none => .error ("Data-manager stream ended without a 'done' event", reading.called)
  | some done => .ok (done, reading.called)

def MALFORMED : String := "The encoded data was not valid for encoding utf-8"

def readFrom (maxBytes : ℚ) (seen : List UInt8) (buffer : Text) (reading : Reading E) :
    List (List UInt8) → Except (Failure E) (E × List E)
  | [] =>
    match decoder.finish seen with
    | none => .error (MALFORMED, reading.called)
    | some rest => line contract reading (buffer ++ rest) >>= answer
  | chunk :: chunks =>
    if maxBytes < (seen ++ chunk).length then
      .error (s!"Data-manager NDJSON response too large (exceeded {maxBytes} bytes)",
        reading.called)
    else
      match decoder.emit seen chunk with
      | none => .error (MALFORMED, reading.called)
      | some text => do
        let pieces := cut [] (buffer ++ text)
        let next ← pieces.1.foldlM (line contract) reading
        readFrom maxBytes (seen ++ chunk) pieces.2 next chunks

def limitOf (limits : StreamLimits) (inherited : Option StreamLimits)
    (field : StreamLimits → Option Number) (usual : ℚ) : Number :=
  (field limits).getD ((inherited.bind field).getD (some usual))

def maxBytesOf (limits : StreamLimits) (inherited : Option StreamLimits) : Number :=
  limitOf limits inherited (·.maxBytes) (8 * 1024 * 1024)

def idleTimeoutOf (limits : StreamLimits) (inherited : Option StreamLimits) : Number :=
  limitOf limits inherited (·.idleTimeoutMs) (5 * 60000)

def readDataManagerNdjson (limits : StreamLimits) (response : Response) :
    Except (Failure E) (E × List E) :=
  match response.ok, response.body with
  | true, some chunks =>
    match maxBytesOf limits response.inherited, idleTimeoutOf limits response.inherited with
    | some maxBytes, some idleTimeoutMs =>
      if maxBytes ≤ 0 ∨ idleTimeoutMs ≤ 0 then
        .error ("Data-manager stream limits must be positive finite numbers", [])
      else readFrom contract decoder maxBytes [] [] ⟨none, []⟩ chunks
    | _, _ => .error ("Data-manager stream limits must be positive finite numbers", [])
  | _, _ =>
    .error (s!"Data-manager NDJSON stream unavailable (HTTP {response.status})", [])

def lines (text : Text) : List Text := (cut [] text).1 ++ [(cut [] text).2]

def visible (values : List Text) : List Text := values.filter fun value => trim value ≠ []

structure WellFormed (text : Text) (done : E) (progress : List E) : Prop where
  parsed : (visible (lines text)).map contract.parse = (progress ++ [done]).map some
  before : ∀ event ∈ progress, contract.event event = .progress
  last : contract.event done = .done

def progressOf (values : List Text) : List E :=
  ((visible values).filterMap contract.parse).filter fun event => contract.event event = .progress

/-- What a call may do before it fails: of bytes that are no UTF-8, it sees a part that is. -/
def Reported (utf8 : List UInt8 → Option Text) (bytes : List UInt8) (called : List E) : Prop :=
  (∀ text, utf8 bytes = some text → called <+: progressOf contract (lines text)) ∧
    ∃ part text, part <+: bytes ∧ decoder.stream part = some text ∧
      called <+: progressOf contract (lines text)

theorem cut_append (first second : Text) : ∀ begun,
    cut begun (first ++ second) = ((cut begun first).1 ++ (cut (cut begun first).2 second).1,
      (cut (cut begun first).2 second).2) := by
  induction first with
  | nil => exact fun begun => rfl
  | cons c rest ih =>
    intro begun
    rw [cons_append, cut, cut]
    split
    · rw [ih]
      rfl
    · exact ih _

theorem cut_left (text : Text) : ∀ begun, cut [] begun = ([], begun) →
    cut [] (cut begun text).2 = ([], (cut begun text).2) := by
  induction text with
  | nil => exact fun begun left => left
  | cons c rest ih =>
    intro begun left
    rw [cut]
    split
    · exact ih [] rfl
    · rename_i other
      apply ih
      rw [cut_append, left, cut, if_neg other]
      rfl

theorem cut_resume (text more : Text) :
    cut [] (text ++ more) = ((cut [] text).1 ++ (cut [] ((cut [] text).2 ++ more)).1,
      (cut [] ((cut [] text).2 ++ more)).2) := by
  rw [cut_append, cut_append (cut [] text).2, cut_left text [] rfl]
  rfl

theorem progress_append (first second : List Text) : progressOf contract (first ++ second) =
      progressOf contract first ++ progressOf contract second := by
  simp [progressOf, visible]

theorem line_called (reading : Reading E) (value : Text) :
    (∀ next, line contract reading value = .ok next →
      next.called = reading.called ++ progressOf contract [value]) ∧
    ∀ message called, line contract reading value = .error (message, called) →
      called = reading.called := by
  unfold line progressOf visible
  by_cases blank : trim value = []
  · simp [blank]
  · cases reading.terminal with
    | some done => simp [blank]
    | none =>
      cases parsed : contract.parse value with
      | none => simp [blank]
      | some event => cases kind : contract.event event <;> simp [blank, parsed, kind]

theorem fold_called (values : List Text) : ∀ reading : Reading E,
    (∀ next, values.foldlM (line contract) reading = .ok next →
      next.called = reading.called ++ progressOf contract values) ∧
    ∀ message called, values.foldlM (line contract) reading = .error (message, called) →
      called <+: reading.called ++ progressOf contract values := by
  induction values with
  | nil =>
    intro reading
    constructor
    · rintro next ⟨⟩
      exact (append_nil _).symm
    · rintro message called ⟨⟩
  | cons value values ih =>
    intro reading
    obtain ⟨kept, stopped⟩ := line_called contract reading value
    have split := progress_append contract [value] values
    rw [singleton_append] at split
    rw [foldlM_cons, split, ← append_assoc]
    cases first : line contract reading value with
    | error failure =>
      constructor
      · rintro next ⟨⟩
      · rintro message called ⟨⟩
        rw [stopped message called first]
        exact (prefix_append _ _).trans (prefix_append _ _)
    | ok next =>
      rw [← kept next first]
      exact ih next

theorem fold_visible (values : List Text) : ∀ reading : Reading E,
    values.foldlM (line contract) reading = (visible values).foldlM (line contract) reading := by
  induction values with
  | nil => exact fun reading => rfl
  | cons value values ih =>
    intro reading
    rw [foldlM_cons, visible]
    by_cases blank : trim value = []
    · rw [filter_cons_of_neg (by simpa using blank), line, if_pos blank]
      exact ih reading
    · rw [filter_cons_of_pos (by simpa using blank), foldlM_cons]
      exact bind_congr ih

theorem fold_terminal {values} (seen : ∀ value ∈ values, trim value ≠ []) {done : E}
    {called : List E} {last} (folds : values.foldlM (line contract) ⟨some done, called⟩ = .ok last)
    : values = [] ∧ last = ⟨some done, called⟩ := by
  cases values with
  | nil => exact ⟨rfl, (Except.ok.inj folds).symm⟩
  | cons value values =>
    rw [foldlM_cons, line, if_neg (forall_mem_cons.mp seen).1] at folds
    cases folds

theorem fold_done {values : List Text} {done : E} {called : List E} : ∀ before,
    (∀ value ∈ values, trim value ≠ []) →
    values.foldlM (line contract) ⟨none, before⟩ = .ok ⟨some done, called⟩ →
      ∃ progress, values.map contract.parse = (progress ++ [done]).map some ∧
        (∀ event ∈ progress, contract.event event = .progress) ∧ contract.event done = .done := by
  induction values with
  | nil => rintro before - ⟨⟩
  | cons value values ih =>
    intro before seen folds
    obtain ⟨shown, others⟩ := forall_mem_cons.mp seen
    rw [foldlM_cons, line, if_neg shown] at folds
    cases parsed : contract.parse value with
    | none =>
      rw [parsed] at folds
      cases folds
    | some event =>
      cases kind : contract.event event with
      | error =>
        simp only [parsed, kind] at folds
        cases folds
      | done =>
        simp only [parsed, kind] at folds
        obtain ⟨rfl, same⟩ := fold_terminal contract others folds
        cases same
        exact ⟨[], by simp [parsed], by simp, kind⟩
      | progress =>
        simp only [parsed, kind] at folds
        obtain ⟨progress, all, each, last⟩ := ih _ others folds
        exact ⟨event :: progress, by simp [parsed, all], by simpa [kind] using each, last⟩

theorem done_fold {done : E} (last : contract.event done = .done) {progress : List E} :
    ∀ {values : List Text} before, (∀ value ∈ values, trim value ≠ []) →
    values.map contract.parse = (progress ++ [done]).map some →
    (∀ event ∈ progress, contract.event event = .progress) →
      values.foldlM (line contract) ⟨none, before⟩ = .ok ⟨some done, before ++ progress⟩ := by
  induction progress with
  | nil =>
    intro values before seen all _
    obtain ⟨value, rfl, parsed⟩ := map_eq_singleton_iff.mp all
    rw [foldlM_cons, line, if_neg (seen value mem_cons_self), append_nil]
    simp only [parsed, last]
    rfl
  | cons event progress ih =>
    intro values before seen all each
    obtain ⟨value, values, rfl, parsed, rest⟩ := map_eq_cons_iff.mp all
    obtain ⟨shown, others⟩ := forall_mem_cons.mp seen
    obtain ⟨kind, more⟩ := forall_mem_cons.mp each
    rw [foldlM_cons, line, if_neg shown, append_cons]
    simp only [parsed, kind]
    exact ih (before ++ [event]) others rest more

def answerOf (text : Text) : Except (Failure E) (E × List E) :=
  (lines text).foldlM (line contract) ⟨none, []⟩ >>= answer

theorem answer_of_iff (text : Text) (done : E) (progress : List E) :
    answerOf contract text = .ok (done, progress) ↔ WellFormed contract text done progress := by
  have seen : ∀ value ∈ visible (lines text), trim value ≠ [] :=
    fun value member => by simpa using (mem_filter.mp member).2
  rw [answerOf, fold_visible]
  constructor
  · intro answered
    cases folds : (visible (lines text)).foldlM (line contract) ⟨none, []⟩ with
    | error failure =>
      rw [folds] at answered
      cases answered
    | ok reading =>
      rw [folds] at answered
      obtain ⟨terminal, called⟩ := reading
      cases terminal with
      | none => cases answered
      | some done' =>
        cases answered
        obtain ⟨before, all, each, last⟩ := fold_done contract [] seen folds
        rw [done_fold contract last [] seen all each] at folds
        cases folds
        exact ⟨all, each, last⟩
  · intro formed
    rw [done_fold contract formed.last [] seen formed.parsed formed.before]
    rfl

theorem answer_of_called {text : Text} {message : String} {called : List E}
    (failed : answerOf contract text = .error (message, called)) :
    called <+: progressOf contract (lines text) := by
  obtain ⟨kept, stopped⟩ := fold_called contract (lines text) ⟨none, []⟩
  rw [answerOf] at failed
  cases folds : (lines text).foldlM (line contract) ⟨none, []⟩ with
  | error failure =>
    rw [folds] at failed
    cases failed
    exact stopped message called folds
  | ok last =>
    rw [folds] at failed
    obtain ⟨terminal, called'⟩ := last
    cases terminal with
    | none =>
      cases failed
      rw [kept _ folds]
      exact prefix_rfl
    | some done => cases failed

def Held (seen : List UInt8) (buffer : Text) (reading : Reading E) : Prop :=
  ∃ text, decoder.stream seen = some text ∧ buffer = (cut [] text).2 ∧
    (cut [] text).1.foldlM (line contract) ⟨none, []⟩ = .ok reading

variable {decoder} {utf8 : List UInt8 → Option Text} (correct : decoder.Correct utf8)
  {seen : List UInt8} {buffer : Text} {reading : Reading E}

include correct

theorem emit_text (held : Held contract decoder seen buffer reading)
    {chunk} {more : Text} (given : decoder.emit seen chunk = some more) :
    ∃ text, decoder.stream (seen ++ chunk) = some text ∧
      (cut [] (buffer ++ more)).2 = (cut [] text).2 ∧
      (cut [] text).1.foldlM (line contract) ⟨none, []⟩ =
        (cut [] (buffer ++ more)).1.foldlM (line contract) reading := by
  obtain ⟨text, streamed, rfl, folds⟩ := held
  unfold TextDecoder.emit at given
  cases grown : decoder.stream (seen ++ chunk) with
  | none =>
    rw [grown] at given
    cases given
  | some later =>
    rw [grown, streamed] at given
    obtain ⟨before, streamed', rest, rfl⟩ := correct.grows grown
    obtain rfl := Option.some.inj (streamed.symm.trans streamed')
    obtain rfl : rest = more := by simpa using given
    refine ⟨_, rfl, ?_, ?_⟩
    · rw [cut_resume text]
    · rw [cut_resume text, foldlM_append, folds]
      rfl

theorem reported_part {bytes} {text : Text} {called : List E}
    (part : seen <+: bytes) (streamed : decoder.stream seen = some text)
    (first : called <+: progressOf contract (cut [] text).1) :
    Reported contract decoder utf8 bytes called := by
  constructor
  · intro full valid
    obtain ⟨rest, rfl⟩ := part
    obtain ⟨text', streamed', more, rfl⟩ := correct.grows (correct.valid valid).1
    obtain rfl := Option.some.inj (streamed.symm.trans streamed')
    rw [lines, cut_append, progress_append, progress_append]
    exact first.trans ((prefix_append _ _).trans (prefix_append _ _))
  · refine ⟨seen, text, part, streamed, first.trans ?_⟩
    rw [lines, progress_append]
    exact prefix_append _ _

theorem reported_held {bytes} (part : seen <+: bytes)
    (held : Held contract decoder seen buffer reading) :
    Reported contract decoder utf8 bytes reading.called := by
  obtain ⟨text, streamed, -, folds⟩ := held
  apply reported_part contract correct part streamed
  rw [(fold_called contract _ _).1 reading folds]
  exact prefix_rfl

theorem reported_whole {bytes} {text : Text} (valid : utf8 bytes = some text) {message : String}
    {called : List E} (failed : answerOf contract text = .error (message, called)) :
    Reported contract decoder utf8 bytes called := by
  have first := answer_of_called contract failed
  refine ⟨?_, bytes, text, prefix_rfl, (correct.valid valid).1, first⟩
  intro text' valid'
  rw [valid] at valid'
  exact Option.some.inj valid' ▸ first

theorem read_explained (maxBytes : ℚ) (chunks : List (List UInt8)) :
    ∀ seen buffer reading, Held contract decoder seen buffer reading →
    (seen.length : ℚ) ≤ maxBytes →
    let bytes := seen ++ chunks.flatten
    let read := readFrom contract decoder maxBytes seen buffer reading chunks
    (∃ text, (bytes.length : ℚ) ≤ maxBytes ∧ utf8 bytes = some text ∧
      read = answerOf contract text) ∨
    ∃ message called, read = .error (message, called) ∧
      Reported contract decoder utf8 bytes called ∧
      ∀ text, (bytes.length : ℚ) ≤ maxBytes → utf8 bytes = some text →
        answerOf contract text = .error (message, called) := by
  induction chunks with
  | nil =>
    intro seen buffer reading held small
    dsimp only
    rw [flatten_nil, append_nil, readFrom]
    cases valid : utf8 seen with
    | none =>
      have streamed := held
      obtain ⟨text, streamed, -⟩ := streamed
      rcases correct.invalid valid with threw | threw
      · rw [threw] at streamed
        cases streamed
      · rw [threw]
        exact Or.inr ⟨_, _, rfl, reported_held contract correct prefix_rfl held, by simp⟩
    | some text =>
      obtain ⟨streamed, finished⟩ := correct.valid valid
      obtain ⟨text', streamed', rfl, folds⟩ := held
      obtain rfl := Option.some.inj (streamed.symm.trans streamed')
      refine Or.inl ⟨text, small, rfl, ?_⟩
      rw [finished, answerOf, lines, foldlM_append, folds]
      dsimp only
      rw [append_nil]
      show _ = (line contract reading _ >>= pure) >>= answer
      rw [bind_pure]
  | cons chunk chunks ih =>
    intro seen buffer reading held small
    have reported := reported_held contract correct (prefix_append seen (chunk :: chunks).flatten)
      held
    dsimp only
    rw [readFrom]
    rw [flatten_cons, ← append_assoc] at reported ⊢
    split
    · rename_i large
      refine Or.inr ⟨_, _, rfl, reported, ?_⟩
      intro text fits
      rw [@length_append _ (seen ++ chunk), Nat.cast_add] at fits
      have rest : (0 : ℚ) ≤ chunks.flatten.length := Nat.cast_nonneg _
      linarith
    · rename_i fits
      cases given : decoder.emit seen chunk with
      | none =>
        refine Or.inr ⟨_, _, rfl, reported, ?_⟩
        intro text _ valid
        obtain ⟨later, grown, -⟩ := correct.grows (correct.valid valid).1
        obtain ⟨before, streamed, -⟩ := held
        rw [TextDecoder.emit, grown, streamed] at given
        cases given
      | some more =>
        obtain ⟨later, grown, left, folds⟩ := emit_text contract correct held given
        dsimp only
        cases step : (cut [] (buffer ++ more)).1.foldlM (line contract) reading with
        | ok next =>
          exact ih (seen ++ chunk) _ next ⟨later, grown, left, folds.trans step⟩ (le_of_not_gt fits)
        | error failure =>
          refine Or.inr ⟨failure.1, failure.2, rfl, ?_, ?_⟩
          · exact reported_part contract correct (prefix_append _ _) grown
              ((fold_called contract _ _).2 failure.1 failure.2 (folds.trans step))
          · intro text _ valid
            obtain ⟨later', grown', rest, rfl⟩ := correct.grows (correct.valid valid).1
            obtain rfl := Option.some.inj (grown.symm.trans grown')
            rw [answerOf, lines, cut_append]
            dsimp only
            rw [foldlM_append, foldlM_append, folds.trans step]
            rfl

omit correct

def WithinLimits (limits : StreamLimits) (inherited : Option StreamLimits)
    (bytes : List UInt8) : Prop :=
  ∃ maxBytes idleTimeoutMs, maxBytesOf limits inherited = some maxBytes ∧
    idleTimeoutOf limits inherited = some idleTimeoutMs ∧ 0 < maxBytes ∧ 0 < idleTimeoutMs ∧
    (bytes.length : ℚ) ≤ maxBytes

/-- A stream is accepted exactly if its bytes are well formed, however they are cut. -/
theorem stream_accepted_iff (correct : decoder.Correct utf8) (limits : StreamLimits)
    (inherited : Option StreamLimits) (status : ℕ) (chunks : List (List UInt8)) :
    let answered :=
      readDataManagerNdjson contract decoder limits ⟨true, status, some chunks, inherited⟩
    (∀ done called, answered = .ok (done, called) ↔
      WithinLimits limits inherited chunks.flatten ∧
        ∃ text, utf8 chunks.flatten = some text ∧ WellFormed contract text done called) ∧
    ∀ message called, answered = .error (message, called) →
      Reported contract decoder utf8 chunks.flatten called := by
  have start := (correct.valid correct.empty).1
  have held : Held contract decoder [] [] ⟨none, []⟩ := ⟨[], start, rfl, rfl⟩
  have nothing := reported_held contract correct (List.nil_prefix (l := chunks.flatten)) held
  unfold readDataManagerNdjson WithinLimits
  dsimp only
  cases maxBytesOf limits inherited with
  | none => exact ⟨by simp, by rintro message called ⟨⟩; exact nothing⟩
  | some maxBytes =>
    cases idleTimeoutOf limits inherited with
    | none => exact ⟨by simp, by rintro message called ⟨⟩; exact nothing⟩
    | some idleTimeoutMs =>
      dsimp only
      split
      · rename_i unusable
        refine ⟨?_, by rintro message called ⟨⟩; exact nothing⟩
        intro done called
        constructor
        · rintro ⟨⟩
        · rintro ⟨⟨_, _, ⟨⟩, ⟨⟩, positive, positive', -⟩, -⟩
          rcases unusable with below | below
          · exact absurd positive (not_lt_of_ge below)
          · exact absurd positive' (not_lt_of_ge below)
      · rename_i usable
        obtain ⟨positive, positive'⟩ := not_or.mp usable
        have least : (([] : List UInt8).length : ℚ) ≤ maxBytes := by
          simpa using le_of_not_ge positive
        have explained := read_explained contract correct maxBytes chunks [] [] _ held least
        rw [nil_append] at explained
        rcases explained with ⟨text, small, valid, read⟩ | ⟨message, called, read, first, fails⟩
        · rw [read]
          refine ⟨?_, fun message called failed => reported_whole contract correct valid failed⟩
          intro done called
          rw [answer_of_iff, valid]
          constructor
          · intro formed
            exact ⟨⟨_, _, rfl, rfl, lt_of_not_ge positive, lt_of_not_ge positive', small⟩, text, rfl,
              formed⟩
          · rintro ⟨-, _, ⟨⟩, formed⟩
            exact formed
        · rw [read]
          refine ⟨?_, by rintro message called ⟨⟩; exact first⟩
          intro done called
          constructor
          · rintro ⟨⟩
          · rintro ⟨⟨_, _, ⟨⟩, -, -, -, small⟩, text, valid, formed⟩
            have answered := (answer_of_iff ..).mpr formed
            rw [fails text small valid] at answered
            cases answered

end

def ascii (bytes : List UInt8) : Option Text :=
  if bytes.all (·.toNat < 128) then some (bytes.map fun byte => Char.ofNat byte.toNat) else none

def asciiDecoder : TextDecoder where
  stream := ascii
  finish bytes := (ascii bytes).map fun _ => []

theorem ascii_correct : asciiDecoder.Correct ascii where
  empty := rfl
  grows {first second later} given := by
    dsimp only [asciiDecoder, ascii] at given ⊢
    rw [all_append, map_append] at given
    split at given
    · rename_i both
      rw [if_pos ((Bool.and_eq_true _ _).mp both).1]
      exact ⟨_, rfl, _, Option.some.inj given⟩
    · cases given
  valid given := ⟨given, by simp [asciiDecoder, given]⟩
  invalid given := Or.inl given

def letters : Contract Char where
  parse
    | [letter] => some letter
    | _ => none
  event letter := if letter = 'p' then .progress else if letter = 'd' then .done else .error
  message _ := none

/-- A step and the end, the newline in the second chunk. -/
theorem letters_accepted : readDataManagerNdjson letters asciiDecoder ⟨none, none⟩
      ⟨true, 200, some [[112], [10, 100]], none⟩ = .ok ('d', ['p']) :=
  ((stream_accepted_iff letters ascii_correct ⟨none, none⟩ none 200 [[112], [10, 100]]).1
    'd' ['p']).mpr ⟨⟨_, _, rfl, rfl, by norm_num, by norm_num, by norm_num⟩,
      ['p', '\n', 'd'], by decide +kernel, by decide +kernel, by simp [letters], rfl⟩

end OpenMapX.Core.EventStream
