import Mathlib

/-!
# Page tokens of transit queries

A token carries the fingerprint of the query it was signed for. The fingerprint
hashes the parameters joined by `=` and `&` as they are, so that several
parameters read the same as one with a longer value.
-/

namespace OpenMapX.Transit.PageToken

open List Option

abbrev Text := List Char

def TOKEN_VERSION : ℚ := 1

def TOKEN_TTL_SECONDS : ℚ := 15 * 60

/-- A record of optional strings, in the order of `Object.entries`. -/
structure Query where
  entries : List (Text × Option Text)
  distinct : (entries.map Prod.fst).Nodup

inductive PageDirection where
  | previous
  | next
  deriving DecidableEq

def PageDirection.text : PageDirection → Text
  | .previous => ['p', 'r', 'e', 'v', 'i', 'o', 'u', 's']
  | .next => ['n', 'e', 'x', 't']

/-- The input of signing, `Omit<TransitPageTokenPayload, "v" | "exp">`. -/
structure PageInput where
  cursor : Text
  source : Text
  instanceName : Text
  datasetEpoch : Text
  fingerprint : Text
  direction : PageDirection

structure TransitPageTokenPayload where
  input : PageInput
  v : ℚ
  exp : ℚ

/-- What `JSON.parse` gives, as far as it is checked: a field is absent where its type is not
the expected one. -/
structure ParsedPayload where
  v : Option ℚ
  cursor : Option Text
  direction : Option Text
  fingerprint : Option Text
  exp : Option ℚ

def TransitPageTokenPayload.parsed (payload : TransitPageTokenPayload) : ParsedPayload :=
  { v := some payload.v, cursor := some payload.input.cursor
    direction := some payload.input.direction.text
    fingerprint := some payload.input.fingerprint, exp := some payload.exp }

/-- The functions of the platform: `localeCompare`, SHA-256 and HMAC with their base64url texts,
and JSON in base64url. -/
structure Platform where
  localeCompare : Text → Text → Ordering
  sha256 : Text → Text
  hmac : Text → Text → List UInt8
  bytesText : List UInt8 → Text
  textBytes : Text → List UInt8
  encodeJson : TransitPageTokenPayload → Text
  decodeJson : Text → Option ParsedPayload

structure Platform.Lawful (platform : Platform) : Prop where
  sha256_injective : Function.Injective platform.sha256
  bytes_read : ∀ bytes, platform.textBytes (platform.bytesText bytes) = bytes
  bytes_plain : ∀ bytes, '.' ∉ platform.bytesText bytes
  hmac_visible : ∀ secret body, platform.bytesText (platform.hmac secret body) ≠ []
  json_read : ∀ payload, platform.decodeJson (platform.encodeJson payload) = some payload.parsed
  json_plain : ∀ payload, '.' ∉ platform.encodeJson payload
  json_visible : ∀ payload, platform.encodeJson payload ≠ []

def pageTokenKey : Text := ['p', 'a', 'g', 'e', '_', 't', 'o', 'k', 'e', 'n']

def kept (query : Query) : List (Text × Text) :=
  query.entries.filterMap fun entry =>
    if entry.1 ≠ pageTokenKey then entry.2.map fun value => (entry.1, value) else none

def sorted (platform : Platform) (query : Query) : List (Text × Text) :=
  (kept query).mergeSort fun a b => platform.localeCompare a.1 b.1 != .gt

def joined (entries : List (Text × Text)) : Text :=
  ['&'].intercalate (entries.map fun entry => entry.1 ++ '=' :: entry.2)

def transitRequestFingerprint (platform : Platform) (query : Query) : Text :=
  platform.sha256 (joined (sorted platform query))

def signTransitPageToken (platform : Platform) (input : PageInput) (secret : Text)
    (nowSeconds : ℚ) : Except String Text :=
  if secret = [] then .error "BETTER_AUTH_SECRET is required for transit paging"
  else
    let body := platform.encodeJson
      { input := input, v := TOKEN_VERSION, exp := nowSeconds + TOKEN_TTL_SECONDS }
    .ok (body ++ '.' :: platform.bytesText (platform.hmac secret body))

def verifyTransitPageToken (platform : Platform) (token secret expectedFingerprint : Text)
    (nowSeconds : ℚ) : Except String ParsedPayload :=
  if secret = [] then .error "BETTER_AUTH_SECRET is required for transit paging"
  else
    let parts := token.splitOn '.'
    let body := parts.getD 0 []
    let encodedSignature := parts.getD 1 []
    let extra := parts.getD 2 []
    if body = [] ∨ encodedSignature = [] ∨ extra ≠ [] then .error "invalid page token"
    else if platform.textBytes encodedSignature ≠ platform.hmac secret body then
      .error "invalid page token signature"
    else
      match platform.decodeJson body with
      | none => .error "invalid page token payload"
      | some payload =>
        if payload.v ≠ some TOKEN_VERSION ∨ payload.cursor.getD [] = [] ∨
            payload.direction ∉ [some PageDirection.previous.text, some PageDirection.next.text] ∨
            payload.fingerprint ≠ some expectedFingerprint ∨
            (∀ exp ∈ payload.exp, exp < nowSeconds) then
          .error "expired or mismatched page token"
        else .ok payload

def Query.value (query : Query) (key : Text) : Option Text := (query.entries.lookup key).join

def Agree (first second : Query) : Prop :=
  ∀ key, key ≠ pageTokenKey → first.value key = second.value key

theorem lookup_eq_some {entries : List (Text × Option Text)}
    (distinct : (entries.map Prod.fst).Nodup) (key : Text) (value : Option Text) :
    entries.lookup key = some value ↔ (key, value) ∈ entries := by
  induction entries with
  | nil => simp
  | cons entry rest ih =>
    rw [map_cons, nodup_cons] at distinct
    have later := ih distinct.2
    rw [lookup_cons]
    by_cases here : key = entry.1
    · subst here
      have absent : (entry.1, value) ∉ rest := fun member =>
        distinct.1 (mem_map.mpr ⟨_, member, rfl⟩)
      simp only [beq_self_eq_true, mem_cons, absent, or_false, some_inj]
      constructor
      · rintro rfl
        rfl
      · intro same
        rw [← same]
    · have other : (key, value) ≠ entry := fun same => here (by rw [← same])
      simp only [beq_eq_false_iff_ne.mpr here, later, mem_cons, other, false_or]

theorem mem_kept (query : Query) (key value : Text) :
    (key, value) ∈ kept query ↔ key ≠ pageTokenKey ∧ query.value key = some value := by
  simp only [kept, mem_filterMap, Query.value, join_eq_some_iff,
    lookup_eq_some query.distinct]
  constructor
  · rintro ⟨⟨name, text⟩, member, found⟩
    split_ifs at found with other
    obtain ⟨value, rfl, same⟩ := map_eq_some_iff.mp found
    cases same
    exact ⟨other, member⟩
  · rintro ⟨other, member⟩
    exact ⟨_, member, by simp [other]⟩

theorem kept_keys (query : Query) : ((kept query).map Prod.fst).Nodup := by
  have sub : ((kept query).map Prod.fst).Sublist (query.entries.map Prod.fst) := by
    unfold kept
    induction query.entries with
    | nil => exact .slnil
    | cons entry rest ih =>
      rw [filterMap_cons]
      split
      · exact ih.cons _
      · rename_i found
        split_ifs at found
        obtain ⟨value, -, same⟩ := map_eq_some_iff.mp found
        rw [map_cons, map_cons, ← same]
        exact ih.cons_cons _
  exact query.distinct.sublist sub

theorem agree_iff (first second : Query) :
    Agree first second ↔ ∀ entry, entry ∈ kept first ↔ entry ∈ kept second := by
  constructor
  · rintro agree ⟨key, value⟩
    rw [mem_kept, mem_kept]
    constructor
    · exact fun member => ⟨member.1, by rw [← agree key member.1]; exact member.2⟩
    · exact fun member => ⟨member.1, by rw [agree key member.1]; exact member.2⟩
  · intro same key other
    apply Option.ext
    intro value
    have here := same (key, value)
    rw [mem_kept, mem_kept] at here
    exact ⟨fun found => (here.mp ⟨other, found⟩).2, fun found => (here.mpr ⟨other, found⟩).2⟩

variable {entry : Text × Text}

theorem agree_single {first second : Query} (single : kept first = [entry]) :
    Agree first second ↔ kept second = [entry] := by
  rw [agree_iff, single]
  constructor
  · intro same
    have nodup : (kept second).Nodup := List.Nodup.of_map _ (kept_keys second)
    refine perm_singleton.mp ((perm_ext_iff_of_nodup nodup (by simp)).mpr ?_)
    exact fun other => (same other).symm
  · intro same other
    rw [same]

def only (key value : Text) : Query := { entries := [(key, some value)], distinct := by simp }

theorem kept_only {key : Text} (other : key ≠ pageTokenKey) (value : Text) :
    kept (only key value) = [(key, value)] := by
  simp [kept, only, other]

theorem joined_single (entry : Text × Text) : joined [entry] = entry.1 ++ '=' :: entry.2 := by
  simp [joined]

theorem joined_cons_cons (entry next : Text × Text) (rest) : joined (entry :: next :: rest) =
      entry.1 ++ '=' :: (entry.2 ++ '&' :: joined (next :: rest)) := by
  simp [joined, intercalate_cons_cons]

theorem separator_mem (entry : Text × Text) (rest) : '=' ∈ joined (entry :: rest) := by
  cases rest with
  | nil => simp [joined_single]
  | cons next rest => simp [joined_cons_cons]

theorem first_part {key part value rest : Text} (same : part ++ '=' :: rest = key ++ '=' :: value)
    (plain : '=' ∉ value) : (part = key ∧ rest = value) ∨ ∃ more, key = part ++ '=' :: more := by
  rcases append_eq_append_iff.mp same with ⟨more, longer, tail⟩ | ⟨more, longer, tail⟩
  · cases more with
    | nil =>
      refine Or.inl ⟨by simp [longer], ?_⟩
      simpa using tail
    | cons c more =>
      rw [cons_append, List.cons.injEq] at tail
      refine Or.inr ⟨more, ?_⟩
      rw [longer, tail.1]
  · cases more with
    | nil =>
      refine Or.inl ⟨by simp [longer], ?_⟩
      simpa using tail.symm
    | cons c more =>
      rw [cons_append, List.cons.injEq] at tail
      exact absurd (by simp [tail.2]) plain

def Plain : List (Text × Text) → Prop
  | [] => True
  | [entry] => '=' ∉ entry.2 ∧ ∀ part more, entry.1 = part ++ '=' :: more → part = pageTokenKey
  | _ => False

theorem sorted_perm (platform : Platform) (query : Query) :
    (sorted platform query).Perm (kept query) :=
  mergeSort_perm _ _

variable {platform : Platform} {query : Query}

theorem sorted_single (single : kept query = [entry]) : sorted platform query = [entry] := by
  have same := sorted_perm platform query
  rw [single] at same
  exact perm_singleton.mp same

theorem sorted_mem {rest} (first : sorted platform query = entry :: rest) :
    entry.1 ≠ pageTokenKey := by
  have member : entry ∈ kept query := by
    rw [← (sorted_perm platform query).mem_iff, first]
    exact mem_cons_self
  exact ((mem_kept query entry.1 entry.2).mp member).1

theorem collides {platform} {query : Query} {part rest : Text} (other : part ≠ pageTokenKey)
    (text : joined (sorted platform query) = part ++ '=' :: rest)
    (apart : kept query ≠ [(part, rest)]) : ¬∀ second, transitRequestFingerprint platform query =
      transitRequestFingerprint platform second ↔ Agree query second := by
  intro identified
  have single := kept_only other rest
  have same : transitRequestFingerprint platform query =
      transitRequestFingerprint platform (only part rest) := by
    rw [transitRequestFingerprint, transitRequestFingerprint, sorted_single single, joined_single,
      text]
  have agree := (identified _).mp same
  exact apart ((agree_single single).mp fun key free => (agree key free).symm)

theorem plain_of_identified (identified : ∀ second, transitRequestFingerprint platform query =
      transitRequestFingerprint platform second ↔ Agree query second) : Plain (kept query) := by
  have count := (sorted_perm platform query).length_eq
  match shape : kept query with
  | [] => trivial
  | [(key, value)] =>
    have text : joined (sorted platform query) = key ++ '=' :: value := by
      rw [sorted_single shape, joined_single]
    constructor
    · intro member
      obtain ⟨before, after, rfl⟩ := append_of_mem member
      refine collides ?_ (text.trans (by simp : _ = (key ++ '=' :: before) ++ '=' :: after)) ?_
        identified
      · intro same
        have inside : '=' ∈ pageTokenKey := by
          rw [← same]
          simp
        revert inside
        decide
      · simp [shape]
    · rintro part more rfl
      by_contra other
      refine collides other (text.trans (by simp : _ = part ++ '=' :: (more ++ '=' :: value))) ?_
        identified
      simp [shape]
  | first :: second :: rest =>
    rw [shape] at count
    match order : sorted platform query, count with
    | entry :: next :: more, _ =>
      refine @collides platform query entry.1 (entry.2 ++ '&' :: joined (next :: more))
        (sorted_mem order) ?_ ?_ identified
      · rw [order, joined_cons_cons]
      · simp [shape]

theorem identified_of_plain (lawful : platform.Lawful) (plain : Plain (kept query)) (second : Query)
    : transitRequestFingerprint platform query = transitRequestFingerprint platform second ↔
      Agree query second := by
  rw [transitRequestFingerprint, transitRequestFingerprint, lawful.sha256_injective.eq_iff]
  match shape : kept query with
  | [] =>
    have empty : sorted platform query = [] := by
      have same := sorted_perm platform query
      rw [shape] at same
      exact same.eq_nil
    rw [empty, agree_iff, shape]
    constructor
    · intro same
      have none_kept : kept second = [] := by
        match order : sorted platform second with
        | [] => exact (order ▸ sorted_perm platform second).symm.eq_nil
        | entry :: rest =>
          have inside := separator_mem entry rest
          rw [← order, ← same] at inside
          simp [joined] at inside
      simp [none_kept]
    · intro same
      have none_kept : kept second = [] :=
        eq_nil_iff_forall_not_mem.mpr fun entry member => by
          simpa using (same entry).mpr member
      have same := sorted_perm platform second
      rw [none_kept] at same
      rw [same.eq_nil]
  | [(key, value)] =>
    rw [shape] at plain
    rw [agree_single shape, sorted_single shape, joined_single]
    constructor
    · intro same
      match order : sorted platform second with
      | [] => simp [order, joined] at same
      | entry :: rest =>
        have other := sorted_mem order
        rw [order] at same
        cases rest with
        | nil =>
          rw [joined_single] at same
          rcases first_part same.symm plain.1 with ⟨same_key, same_value⟩ | ⟨more, longer⟩
          · have all := sorted_perm platform second
            rw [order] at all
            have whole : entry = (key, value) := Prod.ext same_key same_value
            rw [perm_singleton.mp all.symm, whole]
          · exact absurd (plain.2 _ more longer) other
        | cons next rest =>
          rw [joined_cons_cons] at same
          rcases first_part same.symm plain.1 with ⟨-, same_value⟩ | ⟨more, longer⟩
          · have inside := separator_mem next rest
            exact absurd (by rw [← same_value]; simp [inside]) plain.1
          · exact absurd (plain.2 _ more longer) other
    · intro same
      rw [sorted_single same, joined_single]
  | _ :: _ :: _ =>
    rw [shape] at plain
    exact plain.elim

theorem verify_signed (lawful : platform.Lawful) {input}
    {secret token : Text} {nowSeconds : ℚ} (cursor : input.cursor ≠ [])
    (signed : signTransitPageToken platform input secret nowSeconds = .ok token)
    (expected : Text) (later : ℚ) :
    (∃ payload, verifyTransitPageToken platform token secret expected later = .ok payload) ↔
      input.fingerprint = expected ∧ later ≤ nowSeconds + TOKEN_TTL_SECONDS := by
  unfold signTransitPageToken at signed
  split_ifs at signed with missing
  cases signed
  generalize exact_payload : (TransitPageTokenPayload.mk input TOKEN_VERSION
    (nowSeconds + TOKEN_TTL_SECONDS)) = payload
  have parts : (platform.encodeJson payload ++
      '.' :: platform.bytesText (platform.hmac secret (platform.encodeJson payload))).splitOn '.' =
      [platform.encodeJson payload,
        platform.bytesText (platform.hmac secret (platform.encodeJson payload))] := by
    have split : (['.'].intercalate [platform.encodeJson payload,
        platform.bytesText (platform.hmac secret (platform.encodeJson payload))]).splitOn '.' =
        [platform.encodeJson payload,
          platform.bytesText (platform.hmac secret (platform.encodeJson payload))] :=
      splitOn_intercalate '.' (by simp [lawful.json_plain, lawful.bytes_plain]) (by simp)
    simpa using split
  have direction : payload.input.direction.text = PageDirection.previous.text ∨
      payload.input.direction.text = PageDirection.next.text := by
    cases payload.input.direction
    · exact Or.inl rfl
    · exact Or.inr rfl
  rw [verifyTransitPageToken, if_neg missing]
  simp only [parts, getD_cons_zero, getD_cons_succ, getD_nil]
  rw [if_neg (by simp [lawful.json_visible, lawful.hmac_visible]),
    if_neg (by simp [lawful.bytes_read]), lawful.json_read]
  subst exact_payload
  simp only [TransitPageTokenPayload.parsed, getD_some, cursor, not_true_eq_false,
    mem_cons, some_inj, not_mem_nil, or_false, direction, false_or,
    mem_some_iff, forall_eq']
  by_cases same : input.fingerprint = expected
  · by_cases alive : nowSeconds + TOKEN_TTL_SECONDS < later
    · simp [same, alive]
    · simp [same, alive, not_lt.mp alive]
  · simp [same]

/-- Fingerprints tell the query from every other, and so do the tokens signed for it. -/
def BoundToRequest (platform : Platform) (query : Query) : Prop :=
  (∀ second, transitRequestFingerprint platform query =
    transitRequestFingerprint platform second ↔ Agree query second) ∧
  ∀ (input : PageInput) (secret token : Text) (nowSeconds : ℚ),
    input.fingerprint = transitRequestFingerprint platform query → input.cursor ≠ [] →
    signTransitPageToken platform input secret nowSeconds = .ok token →
    ∀ second later, (∃ payload, verifyTransitPageToken platform token secret
        (transitRequestFingerprint platform second) later = .ok payload) ↔
      Agree query second ∧ later ≤ nowSeconds + TOKEN_TTL_SECONDS

theorem bound_to_request_iff (platform : Platform) (lawful : platform.Lawful) (query : Query) :
    BoundToRequest platform query ↔ Plain (kept query) := by
  constructor
  · exact fun bound => plain_of_identified bound.1
  · intro plain
    have identified := identified_of_plain lawful plain
    refine ⟨identified, ?_⟩
    intro input secret token nowSeconds own cursor signed second later
    rw [verify_signed lawful cursor signed, own, identified]

section

instance char_countable : Countable Char :=
  Function.Injective.countable (f := Char.toNat) fun _ _ => Char.toNat_inj.mp

instance byte_countable : Countable UInt8 :=
  Function.Injective.countable (f := UInt8.toNat) fun _ _ => UInt8.toNat_inj.mp

instance payload_countable : Countable TransitPageTokenPayload :=
  Function.Injective.countable (f := fun payload =>
    (payload.v, payload.exp, payload.input.cursor, payload.input.source,
      payload.input.instanceName, payload.input.datasetEpoch, payload.input.fingerprint,
      payload.input.direction.text)) (by
    rintro ⟨⟨a, b, c, d, e, f⟩, v, exp⟩ ⟨⟨a', b', c', d', e', f'⟩, v', exp'⟩ same
    cases f <;> cases f' <;> simp_all [PageDirection.text])

variable {α : Type} [Countable α]

noncomputable def unary (value : α) : Text :=
  List.replicate ((Encodable.ofCountable α).encode value + 1) 'A'

noncomputable def readUnary (text : Text) : Option α :=
  (Encodable.ofCountable α).decode (text.length - 1)

theorem read_unary (value : α) : readUnary (unary value) = some value := by
  simp [readUnary, unary, (Encodable.ofCountable α).encodek]

theorem unary_plain (value : α) : '.' ∉ unary value := by
  simp [unary]

theorem unary_visible (value : α) : unary value ≠ [] := by
  simp [unary]

end

noncomputable def samplePlatform : Platform where
  localeCompare := compare
  sha256 text := text
  hmac _ _ := []
  bytesText := unary
  textBytes text := (readUnary text).getD []
  encodeJson := unary
  decodeJson text := (readUnary text).map TransitPageTokenPayload.parsed

theorem sample_lawful : samplePlatform.Lawful where
  sha256_injective := fun _ _ same => same
  bytes_read := fun bytes => by simp [samplePlatform, read_unary]
  bytes_plain := unary_plain
  hmac_visible := fun _ _ => unary_visible _
  json_read := fun payload => by simp [samplePlatform, read_unary]
  json_plain := unary_plain
  json_visible := unary_visible

theorem bound_to_station : BoundToRequest samplePlatform (only ['f', 'r', 'o', 'm'] ['8']) ↔
      Plain (kept (only ['f', 'r', 'o', 'm'] ['8'])) :=
  bound_to_request_iff samplePlatform sample_lawful (only ['f', 'r', 'o', 'm'] ['8'])

/-- Two parameters, and one parameter whose value spells the second one. -/
theorem spelled_parameter_collides : let two : Query :=
      { entries := [(['a'], some ['1']), (['b'], some ['2'])], distinct := by simp }
    let spelled := only ['a'] ['1', '&', 'b', '=', '2']
    transitRequestFingerprint samplePlatform two =
        transitRequestFingerprint samplePlatform spelled ∧ ¬Agree two spelled := by
  intro two spelled
  have order : sorted samplePlatform two = [(['a'], ['1']), (['b'], ['2'])] :=
    mergeSort_of_pairwise (by simp [samplePlatform]; decide)
  constructor
  · rw [transitRequestFingerprint, transitRequestFingerprint, order,
      sorted_single (kept_only (by decide) _), joined_cons_cons, joined_single, joined_single]
    rfl
  · intro agree
    have second := agree ['b'] (by decide)
    revert second
    decide

end OpenMapX.Transit.PageToken
