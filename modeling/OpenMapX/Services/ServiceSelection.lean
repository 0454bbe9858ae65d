import OpenMapX.Foundation.CycleSearch
import OpenMapX.Foundation.JsText
import OpenMapX.Foundation.KeyedList

/-!
# Which services a request enables

A request is expanded over the installed services, and the data graph of the enabled ones is
built again from those alone. A `Map` that is filled in order keeps the last value of a key.
-/

namespace OpenMapX.Services.ServiceSelection

open List Foundation.CycleSearch Foundation.JsText Foundation.KeyedList

/-- The manifest schema allows no slash in an instance. -/
structure InstanceName where
  text : String
  plain : '/' ∉ text.toList
  deriving DecidableEq

structure ServiceProduces where
  type : String
  instanceName : Option InstanceName

structure ServiceConsumes where
  type : String
  instanceName : Option InstanceName
  required : Option Bool

/-- The manifest fields that selection reads; `proxied` is `exposure?.proxy?.enabled`. -/
structure LoadedService where
  id : String
  selectionDependencies : List String
  dependsOn : List String
  proxied : Bool
  produces : List ServiceProduces
  consumes : List ServiceConsumes
  named : id ≠ ""

structure ProducerEntry where
  producerId : String
  produces : ServiceProduces

def idsOf (services : List LoadedService) : List String := services.map (·.id)

def byId (services : List LoadedService) (id : String) : Option LoadedService :=
  findKey (·.id) services.reverse id

def entriesOf (services : List LoadedService) : List ProducerEntry :=
  services.flatMap fun svc => svc.produces.map fun produces => ⟨svc.id, produces⟩

def instanceKey (type : String) (name : InstanceName) : String := type ++ "/" ++ name.text

def ProducerEntry.slot (entry : ProducerEntry) : String × Option InstanceName :=
  (entry.produces.type, entry.produces.instanceName)

def ProducerEntry.instanceKey? (entry : ProducerEntry) : Option String :=
  entry.produces.instanceName.map (instanceKey entry.produces.type)

def soleOf : List ProducerEntry → Option ProducerEntry
  | [entry] => some entry
  | _ => none

/-- Two indices, each with one entry for a key, are read in the order in which an entry counts. -/
def producerAmong (ordered entries : List ProducerEntry) (consumes : ServiceConsumes) :
    Option ProducerEntry :=
  match consumes.instanceName with
  | some name => findKey (·.instanceKey?) ordered (some (instanceKey consumes.type name))
  | none =>
    (findKey (·.slot) ordered (consumes.type, none)).or
      (soleOf (entries.filter fun entry => entry.produces.type = consumes.type))

/-- `buildProducerIndex` keeps the first entry of a key. -/
def resolveProducer (services : List LoadedService) (consumes : ServiceConsumes) :
    Option ProducerEntry :=
  producerAmong (entriesOf services) (entriesOf services) consumes

/-- Here the last entry of a key counts. -/
def upstreamProducer (services : List LoadedService) (consumes : ServiceConsumes) :
    Option String :=
  (producerAmong (entriesOf services).reverse (entriesOf services) consumes).map (·.producerId)

def upstreamOf (services : List LoadedService) (service : LoadedService) : List String :=
  service.consumes.filterMap fun consumes =>
    (upstreamProducer services consumes).filter fun producer =>
      producer ≠ "" ∧ producer ≠ service.id

def resolveConsumesDependencies (services : List LoadedService) : List (String × List String) :=
  services.map fun service => (service.id, upstreamOf services service)

def dependenciesOf (dependencies : List (String × List String)) (id : String) : List String :=
  ((findKey (·.1) dependencies.reverse id).map (·.2)).getD []

def detectConsumesCycle (services : List LoadedService) : Option (List String) :=
  detectCycle (dependenciesOf (resolveConsumesDependencies services)) (idsOf services)

def tokensOf (raw : String) : List String :=
  (raw.toList.splitOnP fun c => c == ',' || isWhiteSpace c.toNat).map fun token =>
    String.ofList (trim token)

def addToken (out : List String) (id : String) : List String :=
  if id = "" ∨ id ∈ out then out else out ++ [id]

/-- An empty token between two separators is dropped like any other. -/
def normalizeServiceIds (ids : List String) : List String :=
  (ids.flatMap tokensOf).foldl addToken []

def parseServiceIdList (raw : Option String) : Option (List String) :=
  (raw.map fun raw => normalizeServiceIds [raw]).filter (· ≠ [])

def formatServiceIdList (ids : List String) : String := ",".intercalate ids

/-- Absent flags and an absent network are `none`, the network `null` is `some none`. -/
structure ExpandServiceSelectionOptions where
  allowMissingSelected : Option Bool
  includeProxyForProxiedServices : Option Bool
  externalProxyNetwork : Option (Option String)

structure ExpandedServiceSelection where
  requestedIds : List String
  enabledIds : List String
  enabledIdsOrdered : List String
  missingIds : List String
  warnings : List String

/-- An operator's proxy takes the place of the bundled one. -/
def proxyExcluded (opts : ExpandServiceSelectionOptions) (environment : Option String) : Bool :=
  match opts.externalProxyNetwork with
  | some none => false
  | some (some network) => network ≠ ""
  | none => environment.any (· ≠ "")

/-- The enabled ids in the order of the queue. -/
structure Selecting where
  queue : List String
  missingIds : List String
  warnings : List String

/-- What one enabled service asks for. -/
inductive Mention where
  | needs (id reason : String)
  | warns (warning : String)

section

variable (services : List LoadedService) (opts : ExpandServiceSelectionOptions) (excluded : Bool)

def enqueue (s : Selecting) (id reason : String) : Selecting :=
  if excluded ∧ id = "traefik" then s
  else if (byId services id).isNone then
    { s with warnings :=
      s.warnings ++ [s!"Service \"{id}\" referenced by {reason} is not installed"] }
  else if id ∈ s.queue then s
  else { s with queue := s.queue ++ [id] }

def select (s : Selecting) (id : String) : Selecting :=
  if (byId services id).isSome then enqueue services excluded s id "selection"
  else if opts.allowMissingSelected = some true then s
  else { s with missingIds := s.missingIds ++ [id] }

def consumesMention (id : String) (consumes : ServiceConsumes) : Option Mention :=
  match resolveProducer services consumes with
  | some producer =>
    if producer.producerId = id then none
    else some (.needs producer.producerId s!"data dependency \"{consumes.type}\" of \"{id}\"")
  | none =>
    if consumes.required = some false then none
    else some (.warns (s!"Service \"{id}\" consumes required data type \"{consumes.type}\"" ++
      " but no unique producer is installed"))

def mentionsOf (svc : LoadedService) : List Mention :=
  (svc.selectionDependencies.map fun dependency =>
    .needs dependency s!"selectionDependencies of \"{svc.id}\"") ++
  (svc.dependsOn.map fun dep => .needs dep s!"container.dependsOn of \"{svc.id}\"") ++
  (if opts.includeProxyForProxiedServices ≠ some false ∧ svc.id ≠ "traefik" ∧ svc.proxied ∧
      (byId services "traefik").isSome then
    [.needs "traefik" s!"proxy exposure of \"{svc.id}\""] else []) ++
  svc.consumes.filterMap (consumesMention services svc.id)

def heed (s : Selecting) : Mention → Selecting
  | .needs id reason => enqueue services excluded s id reason
  | .warns warning => { s with warnings := s.warnings ++ [warning] }

/-- The queue grows while it is read. -/
def expandFrom : Nat → Nat → Selecting → Option Selecting
  | 0, _, _ => none
  | fuel + 1, i, s =>
    match s.queue[i]? with
    | none => some s
    | some id =>
      match byId services id with
      | none => expandFrom fuel (i + 1) s
      | some svc => expandFrom fuel (i + 1)
        ((mentionsOf services opts svc).foldl (heed services excluded) s)

end

def expandServiceSelection (services : List LoadedService) (requestedIds : List String)
    (opts : ExpandServiceSelectionOptions) (environment : Option String) :
    Option ExpandedServiceSelection :=
  let requested := normalizeServiceIds requestedIds
  let excluded := proxyExcluded opts environment
  let selected := requested.foldl (select services opts excluded) ⟨[], [], []⟩
  (expandFrom services opts excluded (services.length + 1) 0 selected).map fun s =>
    { requestedIds := requested
      enabledIds := s.queue
      enabledIdsOrdered := (idsOf services).filter (· ∈ s.queue)
      missingIds := s.missingIds
      warnings := s.warnings }

inductive Needs (services : List LoadedService) (opts : ExpandServiceSelectionOptions)
    (svc : LoadedService) : String → Prop where
  | selection {id : String} (listed : id ∈ svc.selectionDependencies) : Needs services opts svc id
  | start {id : String} (listed : id ∈ svc.dependsOn) : Needs services opts svc id
  | proxy (included : opts.includeProxyForProxiedServices ≠ some false)
      (other : svc.id ≠ "traefik") (proxied : svc.proxied) : Needs services opts svc "traefik"
  | data {consumes : ServiceConsumes} {producer : ProducerEntry} (listed : consumes ∈ svc.consumes)
      (resolved : resolveProducer services consumes = some producer)
      (other : producer.producerId ≠ svc.id) : Needs services opts svc producer.producerId

def Selectable (services : List LoadedService) (excluded : Bool) (id : String) : Prop :=
  id ∈ idsOf services ∧ ¬(excluded ∧ id = "traefik")

structure Selection (services : List LoadedService) (requestedIds : List String)
    (opts : ExpandServiceSelectionOptions) (excluded : Bool) (enabled : Set String) : Prop where
  requested : ∀ id ∈ normalizeServiceIds requestedIds, Selectable services excluded id →
    id ∈ enabled
  closed : ∀ svc ∈ services, svc.id ∈ enabled → ∀ id, Needs services opts svc id →
    Selectable services excluded id → id ∈ enabled

/-- No two entries produce the same type and instance. -/
def DistinctEntries (services : List LoadedService) : Prop :=
  ((entriesOf services).map (·.slot)).Nodup

section

variable {services : List LoadedService}

theorem mem_by_id {id : String} {svc}
    (found : byId services id = some svc) : svc ∈ services ∧ svc.id = id :=
  (find_key_mem found).imp_left mem_reverse.mp

theorem by_id_of_mem (distinct : (idsOf services).Nodup)
    {svc} (member : svc ∈ services) : byId services svc.id = some svc :=
  find_key_of_mem (by simpa [idsOf] using distinct) (mem_reverse.mpr member)

theorem by_id_is_some {id : String} : (byId services id).isSome ↔ id ∈ idsOf services := by
  rw [← not_iff_not, Bool.not_eq_true, Option.isSome_eq_false_iff, Option.isNone_iff_eq_none, byId,
    find_key_none]
  simp [idsOf]

theorem mem_entries {entry} : entry ∈ entriesOf services ↔
      ∃ svc ∈ services, svc.id = entry.producerId ∧ entry.produces ∈ svc.produces := by
  simp only [entriesOf, mem_flatMap, mem_map]
  constructor
  · rintro ⟨svc, member, produces, listed, rfl⟩
    exact ⟨svc, member, rfl, listed⟩
  · rintro ⟨svc, member, same, listed⟩
    exact ⟨svc, member, entry.produces, listed, by rw [same]⟩

end

/-- No instance holds a slash, so the last slash of a key tells its parts apart. -/
theorem instance_key_injective {type other : String} {name another}
    (same : instanceKey type name = instanceKey other another) : type = other ∧ name = another := by
  have texts := congrArg String.toList same
  simp only [instanceKey, String.toList_append] at texts
  have slash : "/".toList = ['/'] := by decide
  rw [slash] at texts
  have cut : ∀ (front : List Char) (name : InstanceName),
      (front ++ ['/'] ++ name.text.toList).reverse.takeWhile (· ≠ '/') =
        name.text.toList.reverse := by
    intro front name
    rw [reverse_append, takeWhile_append_of_pos]
    · simp
    · intro c member
      have inside := mem_reverse.mp member
      have apart : c ≠ '/' := by
        rintro rfl
        exact name.plain inside
      simpa using apart
  have names : name.text.toList = another.text.toList := by
    rw [← reverse_inj, ← cut type.toList name, texts, cut]
  rw [names] at texts
  have types := append_cancel_right (append_cancel_right texts)
  refine ⟨String.toList_inj.mp types, ?_⟩
  obtain ⟨text, _⟩ := name
  obtain ⟨text', _⟩ := another
  obtain rfl : text = text' := String.toList_inj.mp names
  rfl

theorem instance_key_eq {entry : ProducerEntry} {type : String} {name : InstanceName} :
    entry.instanceKey? = some (instanceKey type name) ↔ entry.slot = (type, some name) := by
  simp only [ProducerEntry.instanceKey?, ProducerEntry.slot, Option.map_eq_some_iff, Prod.mk.injEq]
  constructor
  · rintro ⟨own, named, same⟩
    obtain ⟨types, rfl⟩ := instance_key_injective same
    exact ⟨types, named⟩
  · rintro ⟨rfl, named⟩
    exact ⟨name, named, rfl⟩

/-- The entry that answers where no two answer alike. -/
structure Resolves (entries : List ProducerEntry) (consumes : ServiceConsumes)
    (entry : ProducerEntry) : Prop where
  listed : entry ∈ entries
  type : entry.produces.type = consumes.type
  answers : entry.produces.instanceName = consumes.instanceName ∨
    consumes.instanceName = none ∧ (∀ other ∈ entries, other.slot ≠ (consumes.type, none)) ∧
      entries.filter (fun other => other.produces.type = consumes.type) = [entry]

section

variable {ordered : List ProducerEntry} (distinct : (ordered.map (·.slot)).Nodup)
include distinct

theorem find_slot {slot entry} :
    findKey (·.slot) ordered slot = some entry ↔ entry ∈ ordered ∧ entry.slot = slot := by
  constructor
  · exact find_key_mem
  · rintro ⟨member, rfl⟩
    exact find_key_of_mem distinct member

theorem find_instance {type : String} {name : InstanceName} {entry : ProducerEntry} :
    findKey (·.instanceKey?) ordered (some (instanceKey type name)) = some entry ↔
      entry ∈ ordered ∧ entry.slot = (type, some name) := by
  rw [← find_slot distinct]
  unfold findKey
  have same : ∀ other ∈ ordered,
      decide (other.instanceKey? = some (instanceKey type name)) =
        decide (other.slot = (type, some name)) := fun other _ => by simp only [instance_key_eq]
  rw [find?_congr same]

end

theorem sole_of_eq {candidates entry} : soleOf candidates = some entry ↔ candidates = [entry] := by
  match candidates with
  | [] => simp [soleOf]
  | [_] => simp [soleOf]
  | _ :: _ :: _ => simp [soleOf]

theorem producer_among {ordered entries} (same : ordered.Perm entries)
    (distinct : (entries.map (·.slot)).Nodup) (consumes : ServiceConsumes) (entry : ProducerEntry) :
    producerAmong ordered entries consumes = some entry ↔ Resolves entries consumes entry := by
  have apart : (ordered.map (·.slot)).Nodup := (same.map _).nodup_iff.mpr distinct
  unfold producerAmong
  cases named : consumes.instanceName with
  | some name =>
    rw [find_instance apart, same.mem_iff]
    constructor
    · rintro ⟨member, slot⟩
      obtain ⟨type, instanced⟩ := Prod.mk.inj slot
      exact ⟨member, type, .inl (instanced.trans named.symm)⟩
    · rintro ⟨member, type, answers⟩
      refine ⟨member, Prod.ext type ?_⟩
      rcases answers with instanced | ⟨none, _⟩
      · exact instanced.trans named
      · rw [named] at none
        cases none
  | none =>
    dsimp only
    rw [Option.or_eq_some_iff, find_slot apart, sole_of_eq, same.mem_iff, findKey, find?_eq_none]
    constructor
    · rintro (⟨member, slot⟩ | ⟨missing, only⟩)
      · obtain ⟨type, default⟩ := Prod.mk.inj slot
        exact ⟨member, type, .inl (default.trans named.symm)⟩
      · have member : entry ∈ entries.filter fun other => other.produces.type = consumes.type := by
          simp [only]
        obtain ⟨listed, type⟩ := mem_filter.mp member
        refine ⟨listed, by simpa using type, .inr ⟨named, fun other listed => ?_, only⟩⟩
        simpa using missing other (same.mem_iff.mpr listed)
    · rintro ⟨member, type, answers⟩
      rcases answers with default | ⟨_, missing, only⟩
      · exact .inl ⟨member, Prod.ext type (default.trans named)⟩
      · exact .inr ⟨fun other listed => by simpa using missing other (same.mem_iff.mp listed), only⟩

/-- Leaving out other entries changes no answer. -/
theorem Resolves.sublist {entries fewer} {consumes}
    {entry} (resolves : Resolves entries consumes entry)
    (less : fewer.Sublist entries) (kept : entry ∈ fewer) : Resolves fewer consumes entry where
  listed := kept
  type := resolves.type
  answers := by
    refine resolves.answers.imp_right ?_
    rintro ⟨named, missing, only⟩
    refine ⟨named, fun other listed => missing other (less.subset listed), ?_⟩
    have left := less.filter fun other => other.produces.type = consumes.type
    rw [only] at left
    have member : entry ∈ fewer.filter fun other => other.produces.type = consumes.type :=
      mem_filter.mpr ⟨kept, decide_eq_true resolves.type⟩
    exact left.eq_of_length_le (length_pos_of_mem member)

theorem mem_tokens {out tokens : List String} {id : String} :
    id ∈ tokens.foldl addToken out ↔ id ∈ out ∨ id ∈ tokens ∧ id ≠ "" := by
  induction tokens generalizing out with
  | nil => simp
  | cons token rest ih =>
    rw [foldl_cons, ih, addToken]
    split
    · rename_i skipped
      grind
    · grind

theorem mem_normalize {ids : List String} {id : String} :
    id ∈ normalizeServiceIds ids ↔ (∃ raw ∈ ids, id ∈ tokensOf raw) ∧ id ≠ "" := by
  rw [normalizeServiceIds, mem_tokens, mem_flatMap]
  simp

/-- Joined by commas, ids without separators are read back as they were. -/
theorem tokens_format {ids : List String} (some_id : ids ≠ [])
    (plain : ∀ id ∈ ids, tokensOf id = [id]) : tokensOf (formatServiceIdList ids) = ids := by
  have parts : ∀ left right : String, tokensOf (left ++ "," ++ right) =
      tokensOf left ++ tokensOf right := by
    intro left right
    simp only [tokensOf, ← map_append, String.toList_append, append_assoc]
    exact congrArg _ (splitOnP_append_cons _ _ rfl)
  induction ids with
  | nil => exact absurd rfl some_id
  | cons id rest ih =>
    cases rest with
    | nil => simpa [formatServiceIdList] using plain id
    | cons next rest =>
      have later := ih (by simp) fun other member => plain other (mem_cons_of_mem id member)
      rw [formatServiceIdList] at later ⊢
      rw [String.intercalate_cons_cons, parts, later, plain id mem_cons_self, singleton_append]

theorem add_tokens {out tokens : List String} (distinct : (out ++ tokens).Nodup)
    (named : "" ∉ tokens) : tokens.foldl addToken out = out ++ tokens := by
  induction tokens generalizing out with
  | nil => simp
  | cons id rest ih =>
    have fresh : ¬(id = "" ∨ id ∈ out) := by
      rintro (rfl | inside)
      · exact named mem_cons_self
      · exact (nodup_append.mp distinct).2.2 id inside id mem_cons_self rfl
    rw [foldl_cons, addToken, if_neg fresh, ih (by simpa using distinct)
      fun empty => named (mem_cons_of_mem id empty), append_assoc, singleton_append]

section

variable {services : List LoadedService} {requestedIds : List String}
  {opts : ExpandServiceSelectionOptions} {excluded : Bool}

/-- The queue holds each id once, and only ids that every selection enables. -/
structure Justified (services : List LoadedService) (requestedIds : List String)
    (opts : ExpandServiceSelectionOptions) (excluded : Bool) (queue : List String) : Prop where
  distinct : queue.Nodup
  selectable : ∀ id ∈ queue, Selectable services excluded id
  forced : ∀ enabled, Selection services requestedIds opts excluded enabled →
    ∀ id ∈ queue, id ∈ enabled

/-- What a step of the queue does when the ids it names are forced. -/
structure Extends (services : List LoadedService) (requestedIds : List String)
    (opts : ExpandServiceSelectionOptions) (excluded : Bool) (names : String → Prop)
    (s later : Selecting) : Prop where
  grows : s.queue <+: later.queue
  justified : Justified services requestedIds opts excluded later.queue
  named : ∀ id, names id → Selectable services excluded id → id ∈ later.queue

/-- Every selection that enables the ids of `queue` enables `id`. -/
def Forced (services : List LoadedService) (requestedIds : List String)
    (opts : ExpandServiceSelectionOptions) (excluded : Bool) (id : String) : Prop :=
  ∀ enabled, Selection services requestedIds opts excluded enabled →
    Selectable services excluded id → id ∈ enabled

theorem enqueue_extends {s} (justified : Justified services requestedIds opts excluded s.queue)
    {id : String} (forced : Forced services requestedIds opts excluded id) (reason : String) :
    Extends services requestedIds opts excluded (· = id) s
      (enqueue services excluded s id reason) := by
  unfold enqueue
  split
  · rename_i bundled
    exact ⟨prefix_rfl, justified, fun _ same selectable => absurd (same ▸ bundled) selectable.2⟩
  split
  · rename_i missing
    refine ⟨prefix_rfl, justified, fun other same selectable => ?_⟩
    have found := by_id_is_some.mpr (same ▸ selectable.1)
    rw [← Option.not_isSome, found] at missing
    cases missing
  split
  · rename_i queued
    exact ⟨prefix_rfl, justified, fun _ same _ => same ▸ queued⟩
  · rename_i bundled missing fresh
    have selectable : Selectable services excluded id :=
      ⟨by_id_is_some.mp (by simpa [Option.isSome_iff_ne_none] using missing), bundled⟩
    refine ⟨prefix_append _ _, ⟨?_, ?_, ?_⟩, fun _ same _ => by simp [same]⟩
    · exact nodup_append.mpr ⟨justified.distinct, nodup_singleton _, by grind⟩
    · simpa [or_imp, forall_and, selectable] using justified.selectable
    · intro enabled selection other member
      rcases mem_append.mp member with before | new
      · exact justified.forced enabled selection other before
      · rw [mem_singleton.mp new]
        exact forced enabled selection selectable

theorem Extends.andThen {first second : String → Prop} {s middle last}
    (before : Extends services requestedIds opts excluded first s middle)
    (after : Extends services requestedIds opts excluded second middle last) :
    Extends services requestedIds opts excluded (fun id => first id ∨ second id) s last where
  grows := before.grows.trans after.grows
  justified := after.justified
  named id names selectable := by
    rcases names with old | new
    · exact after.grows.subset (before.named id old selectable)
    · exact after.named id new selectable

/-- The ids that steps name are queued one after the other. -/
theorem fold_extends {Step : Type*} (step : Selecting → Step → Selecting)
    (names : Step → String → Prop) (steps : List Step)
    (one : ∀ item ∈ steps, ∀ s, Justified services requestedIds opts excluded s.queue →
      Extends services requestedIds opts excluded (names item) s (step s item)) (s : Selecting)
    (justified : Justified services requestedIds opts excluded s.queue) :
    Extends services requestedIds opts excluded (fun id => ∃ item ∈ steps, names item id) s
      (steps.foldl step s) := by
  induction steps generalizing s with
  | nil => exact ⟨prefix_rfl, justified, by simp⟩
  | cons item rest ih =>
    have head := one item mem_cons_self s justified
    have tail := ih (fun other member => one other (mem_cons_of_mem _ member)) (step s item)
      head.justified
    refine ⟨head.grows.trans tail.grows, tail.justified, ?_⟩
    rintro id ⟨other, member, names⟩ selectable
    apply (head.andThen tail).named id _ selectable
    rcases mem_cons.mp member with rfl | later
    · exact .inl names
    · exact .inr ⟨other, later, names⟩

def Mention.Names : Mention → String → Prop
  | .needs named _, id => id = named
  | .warns _, _ => False

theorem consumes_mention_names {own : String} {consumes} {id : String} :
    (∃ mention ∈ consumesMention services own consumes, mention.Names id) ↔
      ∃ producer, resolveProducer services consumes = some producer ∧ producer.producerId ≠ own ∧
        id = producer.producerId := by
  unfold consumesMention
  cases resolved : resolveProducer services consumes with
  | none =>
    dsimp only
    split <;> simp [Mention.Names]
  | some producer =>
    dsimp only
    split <;> rename_i own <;> simp [Mention.Names, own]

theorem mentions_names {svc} {id : String} (selectable : Selectable services excluded id) :
    (∃ mention ∈ mentionsOf services opts svc, mention.Names id) ↔ Needs services opts svc id := by
  have data : (∃ mention ∈ svc.consumes.filterMap (consumesMention services svc.id),
      mention.Names id) ↔ ∃ consumes ∈ svc.consumes, ∃ producer,
        resolveProducer services consumes = some producer ∧ producer.producerId ≠ svc.id ∧
          id = producer.producerId := by
    simp only [mem_filterMap, ← consumes_mention_names]
    constructor
    · rintro ⟨mention, ⟨consumes, listed, found⟩, names⟩
      exact ⟨consumes, listed, mention, found, names⟩
    · rintro ⟨consumes, listed, mention, found, names⟩
      exact ⟨mention, ⟨consumes, listed, found⟩, names⟩
  unfold mentionsOf
  constructor
  · rintro ⟨mention, member, names⟩
    rcases mem_append.mp member with member | member
    · rcases mem_append.mp member with member | member
      · rcases mem_append.mp member with member | member
        · obtain ⟨dependency, listed, rfl⟩ := mem_map.mp member
          exact .selection (names ▸ listed)
        · obtain ⟨dep, listed, rfl⟩ := mem_map.mp member
          exact .start (names ▸ listed)
      · split at member
        · rename_i proxied
          obtain rfl := mem_singleton.mp member
          obtain rfl : id = "traefik" := names
          exact .proxy proxied.1 proxied.2.1 proxied.2.2.1
        · cases member
    · obtain ⟨consumes, listed, producer, resolved, other, rfl⟩ := data.mp ⟨mention, member, names⟩
      exact .data listed resolved other
  · intro needs
    cases needs with
    | selection listed =>
      exact ⟨.needs id s!"selectionDependencies of \"{svc.id}\"", by simp [listed], rfl⟩
    | start listed =>
      exact ⟨.needs id s!"container.dependsOn of \"{svc.id}\"", by simp [listed], rfl⟩
    | proxy included other proxied =>
      have installed := by_id_is_some.mpr selectable.1
      exact ⟨.needs "traefik" s!"proxy exposure of \"{svc.id}\"",
        by simp [included, other, proxied, installed], rfl⟩
    | data listed resolved other =>
      obtain ⟨mention, member, names⟩ := data.mpr ⟨_, listed, _, resolved, other, rfl⟩
      exact ⟨mention, mem_append_right _ member, names⟩

theorem mentions_extends {s svc} (member : svc ∈ services)
    (justified : Justified services requestedIds opts excluded s.queue) (queued : svc.id ∈ s.queue)
    : Extends services requestedIds opts excluded (Needs services opts svc) s
      ((mentionsOf services opts svc).foldl (heed services excluded) s) := by
  have each := fold_extends (heed services excluded) Mention.Names (mentionsOf services opts svc)
    (by
      intro mention listed later still
      cases mention with
      | warns warning => exact ⟨prefix_rfl, still, fun _ names => names.elim⟩
      | needs id reason =>
        refine enqueue_extends still (fun enabled selection selectable => ?_) reason
        have needs := (mentions_names selectable).mp ⟨_, listed, rfl⟩
        exact selection.closed svc member
          (justified.forced enabled selection svc.id queued) id needs selectable) s justified
  exact ⟨each.grows, each.justified, fun id needs selectable =>
    each.named id ((mentions_names selectable).mpr needs) selectable⟩

theorem selected_extends (ids : List String) (given : ids ⊆ normalizeServiceIds requestedIds) :
    Extends services requestedIds opts excluded (· ∈ ids) ⟨[], [], []⟩
      (ids.foldl (select services opts excluded) ⟨[], [], []⟩) := by
  have each := fold_extends (select services opts excluded) (fun item id => id = item) ids
    (by
      intro item listed s justified
      have forced : Forced services requestedIds opts excluded item :=
        fun enabled selection selectable => selection.requested item (given listed) selectable
      have queued := enqueue_extends justified forced "selection"
      unfold select
      split
      · exact queued
      rename_i missing
      have absent : ∀ id, id = item → Selectable services excluded id → False :=
        fun id same selectable => missing (by_id_is_some.mpr (same ▸ selectable.1))
      split
      · exact ⟨prefix_rfl, justified, fun id same selectable => (absent id same selectable).elim⟩
      · exact ⟨prefix_rfl, justified, fun id same selectable => (absent id same selectable).elim⟩)
    ⟨[], [], []⟩ ⟨nodup_nil, by simp, by simp⟩
  exact ⟨each.grows, each.justified, fun id member => each.named id ⟨id, member, rfl⟩⟩

/-- The ids up to the reading position have what they need in the queue. -/
def Served (services : List LoadedService) (opts : ExpandServiceSelectionOptions) (excluded : Bool)
    (i : Nat) (queue : List String) : Prop :=
  ∀ svc ∈ services, svc.id ∈ queue.take i → ∀ id, Needs services opts svc id →
    Selectable services excluded id → id ∈ queue

theorem Justified.short {queue} (justified : Justified services requestedIds opts excluded queue) :
    queue.length ≤ services.length := by
  have most := (justified.distinct.subperm fun id member =>
    (justified.selectable id member).1).length_le
  simpa [idsOf] using most

theorem take_grown {queue later : List String} (grows : queue <+: later) {i : Nat}
    (short : i ≤ queue.length) : later.take i = queue.take i := by
  obtain ⟨new, rfl⟩ := grows
  exact take_append_of_le_length short

/-- The queue ends, with the needs of every id in it. -/
theorem expand_from_ends (distinct : (idsOf services).Nodup) (fuel i : Nat) (s : Selecting)
    (enough : services.length < fuel + i) (short : i ≤ s.queue.length)
    (justified : Justified services requestedIds opts excluded s.queue)
    (served : Served services opts excluded i s.queue) :
    ∃ last, expandFrom services opts excluded fuel i s = some last ∧ s.queue <+: last.queue ∧
      Justified services requestedIds opts excluded last.queue ∧
      Served services opts excluded last.queue.length last.queue := by
  induction fuel generalizing i s with
  | zero =>
    have most := justified.short
    omega
  | succ fuel ih =>
    unfold expandFrom
    cases read : s.queue[i]? with
    | none =>
      have all : i = s.queue.length := le_antisymm short (getElem?_eq_none_iff.mp read)
      exact ⟨s, rfl, prefix_rfl, justified, all ▸ served⟩
    | some id =>
      obtain ⟨inside, here⟩ := List.getElem?_eq_some_iff.mp read
      have queued : id ∈ s.queue := here ▸ getElem_mem inside
      obtain ⟨svc, found⟩ := Option.isSome_iff_exists.mp
        (by_id_is_some.mpr (justified.selectable id queued).1)
      obtain ⟨member, rfl⟩ := mem_by_id found
      have heeded := mentions_extends member justified queued
      have longer := heeded.grows.length_le
      simp only [found]
      obtain ⟨last, ends, grows, kept, all⟩ := ih (i + 1) _ (by omega) (by omega) heeded.justified
        (by
          intro other listed early id needs selectable
          rw [take_grown heeded.grows (by omega), take_succ_eq_append_getElem inside, here] at early
          rcases mem_append.mp early with before | now
          · exact heeded.grows.subset (served other listed before id needs selectable)
          · have same := by_id_of_mem distinct listed
            rw [mem_singleton.mp now, found] at same
            obtain rfl := Option.some.inj same
            exact heeded.named id needs selectable)
      exact ⟨last, ends, heeded.grows.trans grows, kept, all⟩

theorem selection_ends (distinct : (idsOf services).Nodup) (requestedIds : List String)
    (opts) (environment : Option String) :
    ∃ expansion, expandServiceSelection services requestedIds opts environment = some expansion ∧
      expansion.enabledIdsOrdered = (idsOf services).filter (· ∈ expansion.enabledIds) ∧
      IsLeast {enabled | Selection services requestedIds opts (proxyExcluded opts environment) enabled}
        {id | id ∈ expansion.enabledIds} := by
  let excluded := proxyExcluded opts environment
  have selected : Extends services requestedIds opts excluded (· ∈ normalizeServiceIds requestedIds)
      ⟨[], [], []⟩ ((normalizeServiceIds requestedIds).foldl (select services opts excluded) ⟨[], [], []⟩) :=
    selected_extends _ (Subset.refl _)
  obtain ⟨last, ends, grows, justified, served⟩ := expand_from_ends distinct (services.length + 1) 0
    _ (by omega) (by omega) selected.justified (by simp [Served])
  refine ⟨_, by rw [expandServiceSelection, ends]; rfl, rfl, ⟨?_, ?_⟩, ?_⟩
  · intro id listed selectable
    exact grows.subset (selected.named id listed selectable)
  · intro svc member enabled id needs selectable
    exact served svc member (by rwa [take_length]) id needs selectable
  · intro enabled selection id queued
    exact justified.forced enabled selection id queued

end

theorem Selection.reordered {services requestedIds reordered opts} {excluded : Bool}
    (same : reordered.Perm requestedIds) :
    Selection services reordered opts excluded = Selection services requestedIds opts excluded := by
  funext enabled
  have listed : ∀ id, id ∈ normalizeServiceIds reordered ↔ id ∈ normalizeServiceIds requestedIds :=
    fun id => by simp only [mem_normalize, same.mem_iff]
  apply propext
  constructor
  · rintro ⟨requested, closed⟩
    exact ⟨fun id inside => requested id ((listed id).mpr inside), closed⟩
  · rintro ⟨requested, closed⟩
    exact ⟨fun id inside => requested id ((listed id).mp inside), closed⟩

/-- Over enabled services that hold the producer, the data graph resolves to the same one. -/
theorem upstream_agrees {services enabled} (less : enabled.Sublist services)
    (distinct : DistinctEntries services) {consumes producer}
    (resolved : resolveProducer services consumes = some producer)
    (kept : ∀ svc ∈ services, svc.id = producer.producerId → svc ∈ enabled) :
    upstreamProducer enabled consumes = some producer.producerId ∧ producer.producerId ≠ "" := by
  have resolves := (producer_among (.refl _) distinct consumes producer).mp resolved
  have fewer : (entriesOf enabled).Sublist (entriesOf services) := less.flatMap _
  obtain ⟨svc, member, same, listed⟩ := mem_entries.mp resolves.listed
  have remains := resolves.sublist fewer (mem_entries.mpr ⟨svc, kept svc member same, same, listed⟩)
  have found := (producer_among (reverse_perm _) (distinct.sublist (fewer.map _)) consumes
    producer).mpr remains
  exact ⟨by rw [upstreamProducer, found]; rfl, same ▸ svc.named⟩

theorem dependencies_of_member {services} (distinct : (idsOf services).Nodup)
    {service} (member : service ∈ services) :
    dependenciesOf (resolveConsumesDependencies services) service.id =
      upstreamOf services service := by
  have keys : ((resolveConsumesDependencies services).reverse.map (·.1)).Nodup := by
    simpa [resolveConsumesDependencies, Function.comp_def, idsOf] using distinct
  have found := find_key_of_mem keys (mem_reverse.mpr
    (mem_map_of_mem (f := fun service => (service.id, upstreamOf services service)) member))
  rw [dependenciesOf, found]
  rfl

/-- Expansion ends with the least selection, in whatever order ids are requested, and the enabled
services alone yield the edges to the producers that selection resolved. -/
theorem service_selection (services : List LoadedService) (distinct : (idsOf services).Nodup)
    (entries : DistinctEntries services) (requestedIds : List String)
    (opts : ExpandServiceSelectionOptions) (environment : Option String) :
    ∃ expansion, expandServiceSelection services requestedIds opts environment = some expansion ∧
      IsLeast {enabled | Selection services requestedIds opts (proxyExcluded opts environment) enabled}
        {id | id ∈ expansion.enabledIds} ∧
      (∀ reordered, reordered.Perm requestedIds → ∃ other,
        expandServiceSelection services reordered opts environment = some other ∧
        (∀ id, id ∈ other.enabledIds ↔ id ∈ expansion.enabledIds) ∧
        other.enabledIdsOrdered = expansion.enabledIdsOrdered) ∧
      ∀ svc ∈ services, svc.id ∈ expansion.enabledIds → ∀ consumes ∈ svc.consumes,
        ∀ producer, resolveProducer services consumes = some producer →
        producer.producerId ≠ svc.id →
        ¬(proxyExcluded opts environment ∧ producer.producerId = "traefik") →
        let enabled := services.filter (·.id ∈ expansion.enabledIds)
        upstreamProducer enabled consumes = some producer.producerId ∧
          producer.producerId ∈
            dependenciesOf (resolveConsumesDependencies enabled) svc.id := by
  obtain ⟨expansion, ends, ordered, least⟩ :=
    selection_ends distinct requestedIds opts environment
  refine ⟨expansion, ends, least, fun reordered same => ?_, ?_⟩
  · obtain ⟨other, other_ends, other_ordered, other_least⟩ :=
      selection_ends distinct reordered opts environment
    rw [Selection.reordered same] at other_least
    have alike := Set.ext_iff.mp (other_least.unique least)
    refine ⟨other, other_ends, alike, ?_⟩
    rw [other_ordered, ordered]
    exact filter_congr fun id _ => by simpa using alike id
  · intro svc member on consumes listed producer resolved other bundled enabled
    have resolves := (producer_among (.refl _) entries consumes producer).mp resolved
    obtain ⟨source, source_member, source_id, _⟩ := mem_entries.mp resolves.listed
    have selectable : Selectable services (proxyExcluded opts environment) producer.producerId :=
      ⟨source_id ▸ mem_map_of_mem source_member, bundled⟩
    have producer_on := least.1.closed svc member on _ (.data listed resolved other) selectable
    obtain ⟨upstream, named⟩ := @upstream_agrees _ enabled filter_sublist entries _ _ resolved
      (fun source member same => mem_filter.mpr ⟨member, by simpa [same] using producer_on⟩)
    refine ⟨upstream, ?_⟩
    rw [dependencies_of_member (distinct.sublist (filter_sublist.map _))
      (mem_filter.mpr ⟨member, by simpa using on⟩)]
    refine mem_filterMap.mpr ⟨consumes, listed, ?_⟩
    rw [upstream]
    simp [named, other]

/-- An address index that is read by a search, which starts by itself. -/
def indexed : List LoadedService :=
  [⟨"addresses", [], [], false, [⟨"index", none⟩], [], by decide⟩,
    ⟨"search", [], [], false, [], [⟨"index", none, none⟩], by decide⟩]

theorem service_selection_indexed :
    ∃ expansion, expandServiceSelection indexed ["search"] ⟨none, none, none⟩ none =
        some expansion ∧
      IsLeast {enabled | Selection indexed ["search"] ⟨none, none, none⟩ false enabled}
        {id | id ∈ expansion.enabledIds} := by
  obtain ⟨expansion, ends, least, _⟩ := service_selection indexed (by decide)
    (by unfold DistinctEntries; decide +kernel)
    ["search"] ⟨none, none, none⟩ none
  exact ⟨expansion, ends, least⟩

/-- As by the manifest schema, no id holds a separator. Asking for more enables no less; the list
that a generation bakes into the API is read back as it was, and enables that generation again. -/
theorem baked_selection_kept (services : List LoadedService) (distinct : (idsOf services).Nodup)
    (plain : ∀ id ∈ idsOf services, tokensOf id = [id]) (requestedIds : List String) (opts)
    (environment : Option String) :
    ∃ expansion, expandServiceSelection services requestedIds opts environment = some expansion ∧
      (∀ more, requestedIds ⊆ more → ∃ larger,
        expandServiceSelection services more opts environment = some larger ∧
          expansion.enabledIds ⊆ larger.enabledIds) ∧
      let baked := formatServiceIdList expansion.enabledIdsOrdered
      (parseServiceIdList (some baked)).getD [] = expansion.enabledIdsOrdered ∧
        ∃ again, expandServiceSelection services [baked] opts environment = some again ∧
          again.enabledIdsOrdered = expansion.enabledIdsOrdered := by
  obtain ⟨expansion, ends, ordered, least⟩ := selection_ends distinct requestedIds opts environment
  have kept : ∀ id, id ∈ expansion.enabledIdsOrdered ↔
      id ∈ idsOf services ∧ id ∈ expansion.enabledIds := by simp [ordered]
  have read : normalizeServiceIds [formatServiceIdList expansion.enabledIdsOrdered] =
      expansion.enabledIdsOrdered := by
    rw [normalizeServiceIds, flatMap_singleton]
    by_cases none_listed : expansion.enabledIdsOrdered = []
    · rw [none_listed]
      decide +kernel
    · rw [tokens_format none_listed fun id member => plain id ((kept id).mp member).1]
      refine add_tokens (ordered ▸ distinct.filter _) fun empty => ?_
      obtain ⟨svc, -, unnamed⟩ := mem_map.mp ((kept "").mp empty).1
      exact svc.named unnamed
  refine ⟨expansion, ends, fun more asked => ?_, ?_, ?_⟩
  · obtain ⟨larger, larger_ends, -, selection, -⟩ := selection_ends distinct more opts environment
    refine ⟨larger, larger_ends,
      least.2 ⟨fun id listed => selection.requested id ?_, selection.closed⟩⟩
    obtain ⟨⟨raw, inside, token⟩, named⟩ := mem_normalize.mp listed
    exact mem_normalize.mpr ⟨⟨raw, asked inside, token⟩, named⟩
  · rw [parseServiceIdList, Option.map_some, read]
    by_cases none_listed : expansion.enabledIdsOrdered = [] <;> simp [Option.filter, none_listed]
  · obtain ⟨again, again_ends, again_ordered, again_least⟩ := selection_ends distinct
      [formatServiceIdList expansion.enabledIdsOrdered] opts environment
    refine ⟨again, again_ends, ?_⟩
    rw [again_ordered, ordered]
    refine filter_congr fun id _ => decide_eq_decide.mpr ⟨fun enabled => ?_, fun enabled => ?_⟩
    · exact again_least.2 ⟨fun id member _ => ((kept id).mp (read ▸ member)).2, least.1.closed⟩ enabled
    · refine least.2 ⟨fun id asked selectable => again_least.1.requested id ?_ selectable,
        again_least.1.closed⟩ enabled
      rw [read]
      exact (kept id).mpr ⟨selectable.1, least.1.requested id asked selectable⟩

theorem baked_indexed_kept : ∃ expansion,
    expandServiceSelection indexed ["search"] ⟨none, none, none⟩ none = some expansion ∧
      ∃ again, expandServiceSelection indexed [formatServiceIdList expansion.enabledIdsOrdered]
          ⟨none, none, none⟩ none = some again ∧
        again.enabledIdsOrdered = expansion.enabledIdsOrdered := by
  obtain ⟨expansion, ends, -, -, again⟩ := baked_selection_kept indexed (by decide)
    (by decide +kernel) ["search"] ⟨none, none, none⟩ none
  exact ⟨expansion, ends, again⟩

theorem producer_listed {ordered entries} (same : ordered.Perm entries) {consumes producer}
    (found : producerAmong ordered entries consumes = some producer) : producer ∈ entries := by
  unfold producerAmong at found
  split at found
  · exact same.mem_iff.mp (find_key_mem found).1
  · rcases Option.or_eq_some_iff.mp found with default | ⟨_, sole⟩
    · exact same.mem_iff.mp (find_key_mem default).1
    · have only := sole_of_eq.mp sole
      exact (mem_filter.mp (only ▸ mem_singleton_self producer)).1

theorem edge_inside (services) (node next : String)
    (edge : next ∈ dependenciesOf (resolveConsumesDependencies services) node) :
    node ∈ idsOf services ∧ next ∈ idsOf services := by
  unfold dependenciesOf at edge
  cases found : findKey (·.1) (resolveConsumesDependencies services).reverse node with
  | none => simp [found] at edge
  | some entry =>
    rw [found] at edge
    obtain ⟨member, rfl⟩ := find_key_mem found
    obtain ⟨service, listed, rfl⟩ := mem_map.mp (mem_reverse.mp member)
    refine ⟨mem_map_of_mem listed, ?_⟩
    obtain ⟨consumes, _, resolved⟩ := mem_filterMap.mp edge
    obtain ⟨upstream, _⟩ := Option.filter_eq_some_iff.mp resolved
    obtain ⟨producer, among, rfl⟩ := Option.map_eq_some_iff.mp upstream
    obtain ⟨source, inside, same, _⟩ :=
      mem_entries.mp (producer_listed (reverse_perm _) among)
    exact same ▸ mem_map_of_mem inside

/-- No cycle is missed, and one is given against its edges from where the back edge arrives. -/
theorem consumes_cycle_exact (services : List LoadedService) :
    let graph := dependenciesOf (resolveConsumesDependencies services)
    (detectConsumesCycle services = none ↔ ∀ id, ¬Relation.TransGen (Edge graph) id id) ∧
      ∀ cycle, detectConsumesCycle services = some cycle →
        ClosedBy graph (searchAll graph (idsOf services).length (idsOf services) .start) cycle :=
  ⟨detect_cycle_none (edge_inside services), fun _ => detect_cycle_some (edge_inside services)⟩

/-- Two services that produce what the other one consumes. -/
def interlinked : List LoadedService :=
  [⟨"tiles", [], [], false, [⟨"pbf", none⟩], [⟨"style", none, none⟩], by decide⟩,
    ⟨"styles", [], [], false, [⟨"style", none⟩], [⟨"pbf", none, none⟩], by decide⟩]

theorem consumes_cycle_interlinked :
    IsCycle (dependenciesOf (resolveConsumesDependencies interlinked)) ["tiles", "styles"] :=
  ((consumes_cycle_exact interlinked).2 ["tiles", "styles"] (by decide +kernel)).circular

end OpenMapX.Services.ServiceSelection
