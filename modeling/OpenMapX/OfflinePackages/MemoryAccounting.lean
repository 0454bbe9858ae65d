import OpenMapX.Foundation.KeyedList
import OpenMapX.OfflinePackages.PostgresAccounting

/-!
# In-memory accounting of offline packages

The store that the tests of the generator use. Its maps keep the order of insertion, its calls
run one after another and its clock gives milliseconds.
-/

namespace OpenMapX.OfflinePackages.MemoryAccounting

open Foundation.KeyedList
open OfflinePackages.PostgresAccounting (Status ErrorCode OfflineMapPackageManifest
  OfflinePackageJobRecord Failure isPrincipal OfflinePackageAdmission AdmissionCall
  assertOfflineArtifactIdentity findManifest target OfflinePackageArtifactAccess
  OfflinePackageRemoval removeOfflineArtifact Call Answer)

structure StoredJob where
  record : OfflinePackageJobRecord
  owners : List String
  leaseOwner : Option String
  leaseExpiresAtMs : Option Int
  deriving DecidableEq

structure ArtifactReference where
  packageId : String
  byteLength : Int
  retainedAtMs : Int
  deriving DecidableEq

structure PrincipalReferences where
  principal : String
  refs : List ArtifactReference
  deriving DecidableEq

structure Store where
  jobs : List StoredJob
  references : List PrincipalReferences
  deriving DecidableEq

structure Options where
  maxRunning : Nat
  maxQueued : Nat
  maxRetainedReferences : Nat
  maxLogicalBytes : Nat
  /-- Whether `left.localeCompare(right)` is not positive. -/
  localeBefore : String → String → Bool

def jobKey (stored : StoredJob) : String := stored.record.jobId

def referencesOf (store : Store) (principal : String) : List ArtifactReference :=
  ((findKey PrincipalReferences.principal store.references principal).map
    PrincipalReferences.refs).getD []

def setReferences (store : Store) (principal : String) (refs : List ArtifactReference) : Store :=
  { store with
    references := setKey PrincipalReferences.principal store.references ⟨principal, refs⟩ }

def updateJob (store : Store) (jobId : String) (change : StoredJob → StoredJob) : Store :=
  { store with jobs := store.jobs.map fun stored =>
      if jobKey stored = jobId then change stored else stored }

def isBeingPrepared (store : Store) (packageId : String) : Bool :=
  store.jobs.any fun stored =>
    stored.record.status = .preparing && stored.record.packageId = some packageId

def referenced (store : Store) (packageId : String) : Bool :=
  store.references.any fun entry => entry.refs.any fun ref => ref.packageId = packageId

def leased (now : Int) (stored : StoredJob) : Bool := now < stored.leaseExpiresAtMs.getD 0

def running (now : Int) (stored : StoredJob) : Bool :=
  stored.record.status = .preparing && leased now stored

def runningCount (store : Store) (principal : String) (now : Int) : Nat :=
  store.jobs.countP fun stored => decide (principal ∈ stored.owners) && running now stored

def queuedCount (store : Store) (principal : String) (now : Int) : Nat :=
  store.jobs.countP fun stored => decide (principal ∈ stored.owners) &&
    (stored.record.status = .preparing && !leased now stored)

def isLive (record : OfflinePackageJobRecord) : Bool :=
  record.status = .preparing || record.status = .readyToDownload

section

variable (options : Options)

def retainedBefore (left right : ArtifactReference) : Prop :=
  left.retainedAtMs < right.retainedAtMs ∨ (left.retainedAtMs = right.retainedAtMs ∧
    options.localeBefore left.packageId right.packageId = true)

instance : DecidableRel (retainedBefore options) := fun left right => by
  unfold retainedBefore
  exact inferInstance

def overBudget (refs : List ArtifactReference) (byteLength : Int) : Bool :=
  options.maxRetainedReferences ≤ refs.length ||
    options.maxLogicalBytes < (refs.map fun ref => ref.byteLength).sum + byteLength

/-- The loop of `evictForNewReference`. -/
def evict (byteLength : Int) (shielded : String → Bool) :
    List ArtifactReference → List ArtifactReference → List String →
    List ArtifactReference × List String
  | [], refs, removed => (refs, removed)
  | candidate :: rest, refs, removed =>
    if overBudget options refs byteLength then
      if shielded candidate.packageId then evict byteLength shielded rest refs removed
      else evict byteLength shielded rest
        (refs.filter fun ref => ref.packageId ≠ candidate.packageId)
        (removed ++ [candidate.packageId])
    else (refs, removed)

/-- The references once there is room for another one, and what was removed for it. -/
def evictForNewReference (store : Store) (refs : List ArtifactReference) (byteLength : Int) :
    Except Failure (List ArtifactReference × List String) :=
  let after := evict options byteLength (isBeingPrepared store)
    (refs.insertionSort (retainedBefore options)) refs []
  if overBudget options after.1 byteLength then
    .error (.principalQuota "retained artifact budget is full")
  else .ok after

def retain (store : Store) (principal : String) (manifest : OfflineMapPackageManifest)
    (retainedAtMs : Int) : Except Failure (List ArtifactReference × List String) :=
  let refs := referencesOf store principal
  if refs.any fun ref => ref.packageId = manifest.packageId then .ok (refs, [])
  else do
    let (left, removed) ← evictForNewReference options store refs manifest.byteLength
    pure (left ++ [⟨manifest.packageId, manifest.byteLength, retainedAtMs⟩], removed)

def checkSize (manifest : OfflineMapPackageManifest) : Except Failure Unit :=
  if options.maxLogicalBytes < manifest.byteLength then
    .error (.principalQuota ("artifact exceeds " ++ toString options.maxLogicalBytes ++
      " logical bytes"))
  else .ok ()

def unreferenced (store : Store) (removed : List String) : List String :=
  removed.eraseDups.filter fun packageId => !referenced store packageId

def invalidateArtifact (store : Store) (packageId : String) (now : Int) : Store where
  jobs := store.jobs.map fun stored =>
    if stored.record.packageId = some packageId && stored.record.status = .readyToDownload then
      { stored with
        record := { stored.record with
          status := .expired
          manifest := none
          errorCode := some .expired
          errorMessage := some "offline package artifact unavailable; prepare the area again"
          updatedAtMs := now }
        leaseOwner := none
        leaseExpiresAtMs := none }
    else stored
  references := store.references.map fun entry =>
    { entry with refs := entry.refs.filter fun ref => ref.packageId ≠ packageId }

def sharedJob (store : Store) (candidate : OfflinePackageJobRecord) : Option StoredJob :=
  store.jobs.find? fun stored =>
    stored.record.requestKey = candidate.requestKey && isLive stored.record

def addOwner (stored : StoredJob) (principal : String) : StoredJob :=
  if principal ∈ stored.owners then stored
  else { stored with owners := stored.owners ++ [principal] }

def joinShared (store : Store) (principal : String) (shared : StoredJob) (now : Int) :
    Except Failure (OfflinePackageAdmission × Store) :=
  let owned := decide (principal ∈ shared.owners)
  if !owned && leased now shared && options.maxRunning ≤ runningCount store principal now then
    .error (.principalQuota ("running limit is " ++ toString options.maxRunning))
  else if !owned && !leased now shared && options.maxQueued ≤ queuedCount store principal now then
    .error (.principalQuota ("queued limit is " ++ toString options.maxQueued))
  else .ok (⟨shared.record, false, !owned, []⟩,
    updateJob store (jobKey shared) fun stored => addOwner stored principal)

def markReady (stored : StoredJob) (manifest : OfflineMapPackageManifest) : StoredJob :=
  { stored with
    record := { stored.record with status := .readyToDownload, manifest := some manifest } }

def admitReady (store : Store) (principal : String) (candidate : OfflinePackageJobRecord)
    (manifest : OfflineMapPackageManifest) (shared : Option StoredJob) :
    Except Failure (OfflinePackageAdmission × Store) := do
  assertOfflineArtifactIdentity candidate (some manifest)
  checkSize options manifest
  let (refs, removed) ← retain options store principal manifest candidate.createdAtMs
  let stored := shared.getD ⟨candidate, [], none, none⟩
  let ready := addOwner (markReady stored manifest) principal
  let next := setReferences { store with jobs := setKey jobKey store.jobs ready } principal refs
  pure (⟨ready.record, shared.isNone, decide (principal ∉ stored.owners),
    unreferenced next removed⟩, next)

def checkPreparing (store : Store) (principal : String) (candidate : OfflinePackageJobRecord)
    (call : AdmissionCall) (now : Int) : Except Failure Unit :=
  if candidate.status = .failed then .ok ()
  else if call.allowNewPreparingJob = some false then .error (.capacity "preparation queue is full")
  else if options.maxQueued ≤ queuedCount store principal now then
    .error (.principalQuota ("queued limit is " ++ toString options.maxQueued))
  else .ok ()

def invalidateMissing (store : Store) (candidate : OfflinePackageJobRecord) (now : Int) : Store :=
  match target candidate with
  | none => store
  | some packageId => invalidateArtifact store packageId now

def admitNew (store : Store) (principal : String) (candidate : OfflinePackageJobRecord)
    (call : AdmissionCall) (now : Int) : Except Failure (OfflinePackageAdmission × Store) := do
  checkPreparing options store principal candidate call now
  let valid := invalidateMissing store candidate now
  let record := { candidate with
    status := if candidate.status = .failed then .failed else .preparing
    manifest := none }
  pure (⟨record, true, true, []⟩,
    { valid with jobs := setKey jobKey valid.jobs ⟨record, [principal], none, none⟩ })

def admitPackage (store : Store) (principal : String) (candidate : OfflinePackageJobRecord)
    (call : AdmissionCall) (now : Int) : Except Failure (OfflinePackageAdmission × Store) :=
  if isPrincipal principal then
    match (sharedJob store candidate).filter fun shared => shared.record.status = .preparing with
    | some shared => joinShared options store principal shared now
    | none => do
        let manifest ← findManifest candidate call
        match manifest with
        | some manifest =>
          admitReady options store principal candidate manifest (sharedJob store candidate)
        | none => admitNew options store principal candidate call now
  else .error (.error "Invalid offline package principal")

def removeUnreferencedArtifact (store : Store) (packageId : String)
    (storage : OfflinePackageArtifactAccess) (now : Int) :
    (OfflinePackageRemoval × Bool) × Store :=
  if isBeingPrepared store packageId || referenced store packageId then ((.retained, false), store)
  else (((removeOfflineArtifact storage).1, true),
    if (removeOfflineArtifact storage).2 then invalidateArtifact store packageId now else store)

def claim (maxRunning : Nat) (store : Store) (jobId workerId : String) (leaseMs now : Int) :
    Bool × Store :=
  match findKey jobKey store.jobs jobId with
  | none => (false, store)
  | some stored =>
    if stored.record.status ≠ .preparing then (false, store)
    else if stored.leaseOwner = some workerId ∧ leased now stored = true then (true, store)
    else if maxRunning ≤ store.jobs.countP (running now) then (false, store)
    else if stored.owners.any fun principal =>
        options.maxRunning ≤ runningCount store principal now then (false, store)
    else (true, updateJob store jobId fun stored =>
      { stored with leaseOwner := some workerId, leaseExpiresAtMs := some (now + leaseMs) })

def renew (store : Store) (jobId workerId : String) (leaseMs now : Int) : Bool × Store :=
  match findKey jobKey store.jobs jobId with
  | none => (false, store)
  | some stored =>
    if stored.record.status ≠ .preparing ∨ stored.leaseOwner ≠ some workerId then (false, store)
    else (true, updateJob store jobId fun stored =>
      { stored with leaseExpiresAtMs := some (now + leaseMs) })

/-- The references that `complete` has planned for its owners, and what was removed. -/
def planOwners (store : Store) (manifest : OfflineMapPackageManifest) (retainedAtMs : Int) :
    List String → Except Failure (List PrincipalReferences × List String)
  | [] => .ok ([], [])
  | principal :: rest => do
      let (refs, removed) ← retain options store principal manifest retainedAtMs
      let (planned, others) ← planOwners store manifest retainedAtMs rest
      pure (⟨principal, refs⟩ :: planned, removed ++ others)

def setPlanned (store : Store) (planned : List PrincipalReferences) : Store :=
  planned.foldl (fun store entry => setReferences store entry.principal entry.refs) store

def complete (store : Store) (jobId workerId : String) (manifest : OfflineMapPackageManifest)
    (now : Int) : Except Failure (List String × Store) :=
  match findKey jobKey store.jobs jobId with
  | none => .error (.error "Offline package completion does not own the durable lease")
  | some stored =>
    if stored.record.status ≠ .preparing ∨ stored.leaseOwner ≠ some workerId then
      .error (.error "Offline package completion does not own the durable lease")
    else do
      checkSize options manifest
      let (planned, removed) ← planOwners options store manifest stored.record.createdAtMs
        stored.owners
      let next := updateJob (setPlanned store planned) jobId fun stored =>
        { stored with
          record := { stored.record with
            status := .readyToDownload
            manifest := some manifest
            packageId := some manifest.packageId
            updatedAtMs := now }
          leaseOwner := none
          leaseExpiresAtMs := none }
      pure (unreferenced next removed, next)

def fail (store : Store) (jobId : String) (workerId : Option String)
    (errorCode : Option ErrorCode) (errorMessage : String) (updatedAtMs : Int) : Store :=
  match findKey jobKey store.jobs jobId with
  | none => store
  | some stored =>
    if stored.record.status ≠ .preparing then store
    else if workerId.filter (· ≠ "") ≠ none ∧ stored.leaseOwner ≠ workerId then store
    else updateJob store jobId fun stored =>
      { stored with
        record := { stored.record with
          status := .failed
          errorCode
          errorMessage := some errorMessage
          updatedAtMs }
        leaseOwner := none
        leaseExpiresAtMs := none }

def expire (store : Store) (jobId : String) (updatedAtMs : Int) : Store :=
  fail store jobId none (some .expired) "offline package preparation expired" updatedAtMs

def removeTerminal (store : Store) (jobId : String) : Store :=
  { store with jobs := store.jobs.filter fun stored =>
      !(jobKey stored = jobId && stored.record.status ≠ .preparing) }

def getOwnedJob (store : Store) (principal jobId : String) :
    Except Failure (Option OfflinePackageJobRecord) :=
  if isPrincipal principal then
    .ok (((findKey jobKey store.jobs jobId).filter fun stored => principal ∈ stored.owners).map
      StoredJob.record)
  else .error (.error "Invalid offline package principal")

def retainedUsage (store : Store) (principal : String) : Except Failure (Nat × Int) :=
  if isPrincipal principal then
    .ok ((referencesOf store principal).length,
      ((referencesOf store principal).map fun ref => ref.byteLength).sum)
  else .error (.error "Invalid offline package principal")

def hasArtifactReference (store : Store) (packageId : String) : Bool := referenced store packageId

def perform (maxRunning : Nat) (store : Store) (now : Int) : Call → Except Failure (Answer × Store)
  | .admission principal candidate call =>
    (admitPackage options store principal candidate call now).map fun (answer, next) =>
      (.admission answer, next)
  | .removeUnreferencedArtifact packageId storage =>
    let (answer, next) := removeUnreferencedArtifact store packageId storage now
    .ok (.removal answer.1 answer.2, next)
  | .claim jobId workerId leaseMs =>
    let (answer, next) := claim options maxRunning store jobId workerId leaseMs now
    .ok (.claimed answer, next)
  | .renew jobId workerId leaseMs =>
    let (answer, next) := renew store jobId workerId leaseMs now
    .ok (.renewed answer, next)
  | .complete jobId workerId manifest =>
    (complete options store jobId workerId manifest now).map fun (answer, next) =>
      (.completion answer, next)
  | .fail jobId workerId errorCode errorMessage updatedAtMs =>
    .ok (.done, fail store jobId workerId errorCode errorMessage updatedAtMs)
  | .expire jobId updatedAtMs => .ok (.done, expire store jobId updatedAtMs)
  | .removeTerminal jobId => .ok (.done, removeTerminal store jobId)

def empty : Store := ⟨[], []⟩

end

end OpenMapX.OfflinePackages.MemoryAccounting
