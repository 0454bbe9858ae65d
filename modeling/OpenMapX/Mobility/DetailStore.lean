import OpenMapX.Foundation.Runs

/-!
# The shared-mobility detail store

Any number of processes keep bounded local maps of inventory records over one shared cache.
Each step of a call runs up to its next `await` or is the effect of one call to the cache.
What was acquired, what was enriched, the writes and the answers are recorded for the
proofs only.
-/

namespace OpenMapX.Mobility.DetailStore

open Foundation.Runs

/-- The item's id, the scope of an id, and whether two items have the same JSON text. -/
structure StoreDeps (Item Id Scope : Type) where
  idOf : Item → Id
  sharedMobilityDetailScope : Id → Option Scope
  sameText : Item → Item → Bool

structure StoreConfig where
  ttlSeconds : Nat
  maxL1Items : Nat
  maxSnapshotItems : Nat

/-- `RetainedSharedMobilityDetail`. -/
structure Retained (Item : Type) where
  item : Item
  acquisitionToken : Nat
  acquiredAt : Nat
  expiresAt : Nat
  deriving DecidableEq

structure Held (Item : Type) where
  record : Retained Item
  serial : Nat

structure Process (Item : Type) where
  l1 : List (Held Item)
  publicationGeneration : Nat
  clearGeneration : Nat

inductive CacheKey (Id Scope : Type) where
  | snapshot (scope : Scope)
  | patch (id : Id) (token : Nat)
  deriving DecidableEq

inductive Stored (Item : Type) where
  | snapshot (items : List (Retained Item))
  | patch (record : Retained Item)

structure Entry (Item : Type) where
  value : Stored Item
  deadline : Nat

/-- A running `getRetained`. -/
structure Lookup (Item Id : Type) where
  id : Id
  publicationGeneration : Nat
  clearGeneration : Nat
  initialRecord : Option (Held Item)
  heldAtStart : Option (Retained Item)

inductive Phase (Item Id Scope : Type) where
  | mergeRead (scope : Scope) (incoming : List (Retained Item))
  | mergeResume (scope : Scope) (incoming raw : List (Retained Item))
  | mergeWrite (scope : Scope) (incoming raw merged : List (Retained Item)) (seconds : Nat)
  | patchWrite (updated : Retained Item) (seconds : Nat)
  | patchSettle (updated : Retained Item)
  | snapshotRead (lookup : Lookup Item Id) (scope : Scope)
  | snapshotResume (lookup : Lookup Item Id) (raw : List (Retained Item))
  | patchRead (lookup : Lookup Item Id) (record : Retained Item)
  | patchResume (lookup : Lookup Item Id) (record : Retained Item)
      (patch : Option (Retained Item))
  | done

structure Task (Item Id Scope : Type) where
  process : Nat
  phase : Phase Item Id Scope

/-- A write of a shared snapshot, with what it replaces and what the limit left. -/
structure Write (Item : Type) where
  now : Nat
  before : List (Retained Item)
  merged : List (Retained Item)
  items : List (Retained Item)

structure Answer (Item Id : Type) where
  process : Nat
  id : Id
  heldAtStart : Option (Retained Item)
  returned : Option (Retained Item)

structure State (Item Id Scope : Type) where
  clock : Nat
  nextToken : Nat
  processes : Nat → Process Item
  cache : CacheKey Id Scope → Option (Entry Item)
  tasks : List (Task Item Id Scope)
  inventory : List (Retained Item)
  enrichments : List (Nat × Item)
  writes : List (Write Item)
  answers : List (Answer Item Id)

inductive Event (Item Id Scope : Type) where
  | tick (elapsed : Nat)
  | expire (key : CacheKey Id Scope)
  | store (process : Nat) (items : List Item)
  /-- The record is one that an earlier `getRetained` returned. -/
  | updateRetained (process answer : Nat) (item : Item)
  | getRetained (process : Nat) (id : Id)
  | clearL1 (process : Nat)
  | advance (task : Nat)

section

variable {Item Id Scope : Type} [DecidableEq Id] [DecidableEq Scope]
  (deps : StoreDeps Item Id Scope) (config : StoreConfig)

def recordId (record : Retained Item) : Id := deps.idOf record.item

def getL1 (process : Process Item) (id : Id) : Option (Held Item) :=
  process.l1.find? fun held => recordId deps held.record = id

def deleteL1 (l1 : List (Held Item)) (id : Id) : List (Held Item) :=
  l1.filter fun held => recordId deps held.record ≠ id

def clearL1 (process : Process Item) : Process Item :=
  { l1 := []
    publicationGeneration := process.publicationGeneration + 1
    clearGeneration := process.clearGeneration + 1 }

def remember (process : Process Item) (record : Retained Item) : Process Item :=
  let generation := process.publicationGeneration + 1
  let l1 := deleteL1 deps process.l1 (recordId deps record) ++ [⟨record, generation⟩]
  { process with
    publicationGeneration := generation
    l1 := l1.drop (l1.length - config.maxL1Items) }

def snapshotAt (cache : CacheKey Id Scope → Option (Entry Item)) (scope : Scope) :
    List (Retained Item) :=
  match cache (.snapshot scope) with
  | some ⟨.snapshot items, _⟩ => items
  | _ => []

def patchAt (cache : CacheKey Id Scope → Option (Entry Item)) (id : Id) (token : Nat) :
    Option (Retained Item) :=
  match cache (.patch id token) with
  | some ⟨.patch record, _⟩ => some record
  | _ => none

def unexpired (now : Nat) (items : List (Retained Item)) : List (Retained Item) :=
  items.filter fun record => now < record.expiresAt

/-- `Map.set`: an id that is there keeps its place. -/
def setById (byId : List (Retained Item)) (record : Retained Item) : List (Retained Item) :=
  if byId.any fun other => recordId deps other = recordId deps record then
    byId.map fun other => if recordId deps other = recordId deps record then record else other
  else byId ++ [record]

def mergeById (records : List (Retained Item)) : List (Retained Item) :=
  records.foldl (setById deps) []

/-- `slice(-max)`, which keeps everything when `max` is zero. -/
def lastItems (max : Nat) (items : List (Retained Item)) : List (Retained Item) :=
  if max = 0 then items else items.drop (items.length - max)

def latestExpiry (items : List (Retained Item)) : Nat :=
  items.foldl (fun latest record => max latest record.expiresAt) 0

/-- The records of a `store`, with fresh tokens. -/
def acquired (clock : Nat) : Nat → List Item → List (Retained Item)
  | _, [] => []
  | token, item :: rest =>
    ⟨item, token, clock, clock + config.ttlSeconds * 1000⟩ :: acquired clock (token + 1) rest

def groupByScope (records : List (Retained Item)) : List (Scope × List (Retained Item)) :=
  records.foldl
    (fun groups record =>
      match deps.sharedMobilityDetailScope (recordId deps record) with
      | none => groups
      | some scope =>
        if groups.any fun group => group.1 = scope then
          groups.map fun group =>
            if group.1 = scope then (group.1, group.2 ++ [record]) else group
        else groups ++ [(scope, [record])])
    []

def spawn (state : State Item Id Scope) (process : Nat) (phase : Phase Item Id Scope) :
    State Item Id Scope :=
  { state with tasks := state.tasks ++ [⟨process, phase⟩] }

def store (state : State Item Id Scope) (process : Nat) (items : List Item) : State Item Id Scope :=
  let records := acquired config state.clock state.nextToken items
  { state with
    nextToken := state.nextToken + items.length
    processes := Function.update state.processes process
      (records.foldl (remember deps config) (state.processes process))
    inventory := state.inventory ++ records
    tasks := state.tasks ++ (groupByScope deps records).map fun group =>
      ⟨process, .mergeRead group.1 group.2⟩ }

def updateRetained (state : State Item Id Scope) (process : Nat) (record : Retained Item)
    (item : Item) : State Item Id Scope :=
  if deps.idOf item ≠ recordId deps record ∨ record.expiresAt ≤ state.clock ∨
      deps.sameText item record.item = true then state
  else
    let seconds := (record.expiresAt - state.clock) / 1000
    if seconds = 0 then state
    else
      spawn { state with enrichments := (record.acquisitionToken, item) :: state.enrichments }
        process (.patchWrite { record with item := item } seconds)

def answer (state : State Item Id Scope) (process : Nat) (lookup : Lookup Item Id)
    (returned : Option (Retained Item)) : State Item Id Scope :=
  { state with answers := state.answers ++ [⟨process, lookup.id, lookup.heldAtStart, returned⟩] }

def getRetained (state : State Item Id Scope) (process : Nat) (id : Id) : State Item Id Scope :=
  let own := state.processes process
  let found := getL1 deps own id
  let live := found.filter fun held => state.clock < held.record.expiresAt
  let lookup : Lookup Item Id :=
    { id := id
      publicationGeneration := own.publicationGeneration
      clearGeneration := own.clearGeneration
      initialRecord := live
      heldAtStart := found.map Held.record }
  match live with
  | some held => spawn state process (.patchRead lookup held.record)
  | none =>
    -- an expired record is deleted first
    let cleaned :=
      { state with
        processes := Function.update state.processes process
          { own with l1 := if found.isSome then deleteL1 deps own.l1 id else own.l1 } }
    match deps.sharedMobilityDetailScope id with
    | none => answer cleaned process lookup none
    | some scope => spawn cleaned process (.snapshotRead lookup scope)

def supersedingRecord (state : State Item Id Scope) (process : Nat) (lookup : Lookup Item Id) :
    Option (Option (Retained Item)) :=
  let own := state.processes process
  let current := getL1 deps own lookup.id
  if lookup.clearGeneration ≠ own.clearGeneration ∨
      (current.isSome = true ∧ current.map Held.serial ≠ lookup.initialRecord.map Held.serial) then
    some ((current.map Held.record).filter fun record => state.clock < record.expiresAt)
  else none

def patched (clock : Nat) (id : Id) (record : Retained Item) :
    Option (Retained Item) → Retained Item
  | none => record
  | some patch =>
    if patch.acquisitionToken = record.acquisitionToken ∧ recordId deps patch = id ∧
        patch.expiresAt = record.expiresAt ∧ patch.acquiredAt = record.acquiredAt ∧
        clock < patch.expiresAt then patch
    else record

def setPhase (state : State Item Id Scope) (task : Nat) (phase : Phase Item Id Scope) :
    State Item Id Scope :=
  { state with tasks := state.tasks.modify task fun old => { old with phase := phase } }

def advance (state : State Item Id Scope) (task : Nat) : State Item Id Scope :=
  match state.tasks[task]? with
  | none => state
  | some ⟨process, phase⟩ =>
    match phase with
    | .mergeRead scope incoming =>
      setPhase state task (.mergeResume scope incoming (snapshotAt state.cache scope))
    | .mergeResume scope incoming raw =>
      let merged := mergeById deps (unexpired state.clock raw ++ incoming)
      let items := lastItems config.maxSnapshotItems merged
      let seconds := (latestExpiry items - state.clock) / 1000
      if seconds = 0 then setPhase state task .done
      else setPhase state task (.mergeWrite scope incoming raw merged seconds)
    | .mergeWrite scope _ _ merged seconds =>
      let items := lastItems config.maxSnapshotItems merged
      setPhase
        { state with
          cache := Function.update state.cache (.snapshot scope)
            (some ⟨.snapshot items, state.clock + seconds * 1000⟩)
          writes := state.writes ++
            [⟨state.clock, snapshotAt state.cache scope, merged, items⟩] }
        task .done
    | .patchWrite updated seconds =>
      setPhase
        { state with
          cache := Function.update state.cache
            (.patch (recordId deps updated) updated.acquisitionToken)
            (some ⟨.patch updated, state.clock + seconds * 1000⟩) }
        task (.patchSettle updated)
    | .patchSettle updated =>
      let own := state.processes process
      let current := getL1 deps own (recordId deps updated)
      if current.any fun held => held.record.acquisitionToken = updated.acquisitionToken then
        setPhase
          { state with
            processes := Function.update state.processes process
              (remember deps config own updated) }
          task .done
      else setPhase state task .done
    | .snapshotRead lookup scope =>
      setPhase state task (.snapshotResume lookup (snapshotAt state.cache scope))
    | .snapshotResume lookup raw =>
      match supersedingRecord deps state process lookup with
      | some superseding => setPhase (answer state process lookup superseding) task .done
      | none =>
        match (unexpired state.clock raw).find? fun candidate =>
            recordId deps candidate = lookup.id with
        | none => setPhase (answer state process lookup none) task .done
        | some record => setPhase state task (.patchRead lookup record)
    | .patchRead lookup record =>
      setPhase state task (.patchResume lookup record
        (patchAt state.cache (recordId deps record) record.acquisitionToken))
    | .patchResume lookup record patch =>
      let found := patched deps state.clock lookup.id record patch
      match supersedingRecord deps state process lookup with
      | some superseding => setPhase (answer state process lookup superseding) task .done
      | none =>
        if found.expiresAt ≤ state.clock then
          setPhase (answer state process lookup none) task .done
        else
          let own := state.processes process
          let published :=
            if lookup.publicationGeneration = own.publicationGeneration then
              { state with
                processes := Function.update state.processes process
                  (remember deps config own found) }
            else state
          setPhase (answer published process lookup (some found)) task .done
    | .done => state

def step (state : State Item Id Scope) : Event Item Id Scope → State Item Id Scope
  | .tick elapsed => { state with clock := state.clock + elapsed }
  | .expire key =>
    match state.cache key with
    | none => state
    | some entry =>
      if entry.deadline ≤ state.clock then
        { state with cache := Function.update state.cache key none }
      else state
  | .store process items => store deps config state process items
  | .updateRetained process index item =>
    match state.answers[index]? with
    | some ⟨_, _, _, some record⟩ => updateRetained deps state process record item
    | _ => state
  | .getRetained process id => getRetained deps state process id
  | .clearL1 process =>
    { state with
      processes := Function.update state.processes process
        (clearL1 (state.processes process)) }
  | .advance task => advance deps config state task

def initial : State Item Id Scope :=
  { clock := 0
    nextToken := 0
    processes := fun _ => ⟨[], 0, 0⟩
    cache := fun _ => none
    tasks := []
    inventory := []
    enrichments := []
    writes := []
    answers := [] }

def after (events : List (Event Item Id Scope)) : State Item Id Scope :=
  run (step deps config) events initial

end

end OpenMapX.Mobility.DetailStore
