import Mathlib

/-!
# PostgreSQL accounting of offline packages

Three tables: jobs, their owners, and the references by which principals retain artifacts. A
transaction is one call on the tables that answers or throws, and a call that throws is rolled
back. Instants of the database are microseconds. `clock k` is what the `k`th statement of a call
that reads the clock sees.
-/

namespace OpenMapX.OfflinePackages.PostgresAccounting

inductive Status where
  | preparing
  | readyToDownload
  | failed
  | expired
  deriving DecidableEq

inductive ErrorCode where
  | invalidRequest
  | capacity
  | generationFailed
  | expired
  deriving DecidableEq

/-- The members that the store reads; `byteLength` is that of the archive. -/
structure OfflineMapPackageManifest where
  packageId : String
  requestKey : String
  byteLength : Int
  deriving DecidableEq

structure OfflinePackageJobRecord where
  jobId : String
  requestKey : String
  status : Status
  packageId : Option String
  manifest : Option OfflineMapPackageManifest
  errorCode : Option ErrorCode
  errorMessage : Option String
  createdAtMs : Int
  updatedAtMs : Int
  deriving DecidableEq

structure JobRow where
  id : String
  requestKey : String
  packageId : String
  status : Status
  manifest : Option OfflineMapPackageManifest
  errorCode : Option ErrorCode
  errorMessage : Option String
  createdAt : Int
  updatedAt : Int
  leaseOwner : Option String
  leaseExpiresAt : Option Int
  deriving DecidableEq

structure ReferenceRow where
  principal : String
  packageId : String
  byteLength : Int
  retainedAt : Int
  deriving DecidableEq

structure Tables where
  jobs : List JobRow
  /-- `(job_id, principal)`. -/
  owners : List (String × String)
  references : List ReferenceRow
  deriving DecidableEq

structure Options where
  maxRunningPerPrincipal : Nat
  maxQueuedPerPrincipal : Nat
  maxRetainedReferences : Nat
  maxLogicalBytes : Nat
  maxGlobalQueued : Nat
  maxTrackedJobs : Nat
  terminalRetentionMs : Int
  collation : String → String → Bool

inductive Failure where
  | capacity (message : String)
  | principalQuota (message : String)
  | error (message : String)
  deriving DecidableEq

/-- `OFFLINE_PACKAGE_PRINCIPAL_PATTERN`. -/
def isPrincipal (principal : String) : Bool :=
  principal.toList.length = 64 && principal.toList.all fun c =>
    ('a' ≤ c && c ≤ 'f') || ('0' ≤ c && c ≤ '9')

/-- `new Date(ms).toISOString()`, as an instant of the database. -/
def timestamp (ms : Int) : Except Failure Int :=
  if ms.natAbs ≤ 8640000000000000 then .ok (ms * 1000) else .error (.error "Invalid time value")

def recordFromRow (row : JobRow) : OfflinePackageJobRecord where
  jobId := row.id
  requestKey := row.requestKey
  status := row.status
  packageId := if "omp2-".toList.isPrefixOf row.packageId.toList then some row.packageId else none
  manifest := row.manifest
  errorCode := row.errorCode
  errorMessage := row.errorMessage.filter (· ≠ "")
  createdAtMs := row.createdAt / 1000
  updatedAtMs := row.updatedAt / 1000

/-- `lease_expires_at > clock_timestamp()`, which is not true of a row without a lease. -/
def leased (now : Int) (job : JobRow) : Bool :=
  match job.leaseExpiresAt with
  | none => false
  | some expires => now < expires

def running (now : Int) (job : JobRow) : Bool := job.status = .preparing && leased now job

def waiting (now : Int) (job : JobRow) : Bool := job.status = .preparing && !leased now job

def ownedBy (tables : Tables) (principal : String) (job : JobRow) : Bool :=
  (job.id, principal) ∈ tables.owners

def jobsOf (tables : Tables) (jobId : String) : Option JobRow :=
  tables.jobs.find? fun job => job.id = jobId

def referencesOf (tables : Tables) (principal : String) : List ReferenceRow :=
  tables.references.filter fun row => row.principal = principal

/-- `principalActiveCounts`. -/
def runningCount (tables : Tables) (principal : String) (now : Int) : Nat :=
  tables.jobs.countP fun job => ownedBy tables principal job && running now job

def queuedCount (tables : Tables) (principal : String) (now : Int) : Nat :=
  tables.jobs.countP fun job => ownedBy tables principal job && waiting now job

def globalRunning (tables : Tables) (now : Int) : Nat := tables.jobs.countP (running now)

def protectedArtifact (tables : Tables) (packageId : String) : Bool :=
  tables.jobs.any fun job => job.packageId = packageId && job.status = .preparing

def unreferenced (tables : Tables) (packageIds : List String) : List String :=
  packageIds.eraseDups.filter fun packageId =>
    !(tables.references.any fun row => row.packageId = packageId) &&
      !protectedArtifact tables packageId

def updateJob (tables : Tables) (jobId : String) (change : JobRow → JobRow) : Tables :=
  { tables with jobs := tables.jobs.map fun job => if job.id = jobId then change job else job }

def deleteJobs (tables : Tables) (doomed : JobRow → Bool) : Tables :=
  let jobs := tables.jobs.filter fun job => !doomed job
  { tables with jobs, owners := tables.owners.filter fun row => jobs.any fun job => job.id = row.1 }

def insertOwner (tables : Tables) (jobId principal : String) : Tables :=
  { tables with owners := tables.owners ++ [(jobId, principal)] }

def isLive (job : JobRow) : Bool := job.status = .preparing || job.status = .readyToDownload

/-- The primary key and the partial unique index on `request_key`. -/
def insertJob (tables : Tables) (row : JobRow) : Except Failure Tables :=
  if tables.jobs.any (fun job => job.id = row.id) ||
      (isLive row && tables.jobs.any fun job => isLive job && job.requestKey = row.requestKey) then
    .error (.error "duplicate key value violates unique constraint")
  else .ok { tables with jobs := tables.jobs ++ [row] }

def invalidateArtifact (tables : Tables) (packageId : String) (now : Int) : Tables :=
  { tables with
    jobs := tables.jobs.map fun job =>
      if job.packageId = packageId && job.status = .readyToDownload then
        { job with
          status := .expired
          manifest := none
          errorCode := some .expired
          errorMessage := some "offline package artifact unavailable; prepare the area again"
          updatedAt := now
          leaseOwner := none
          leaseExpiresAt := none }
      else job
    references := tables.references.filter fun row => row.packageId ≠ packageId }

/-- `ORDER BY updated_at ASC, created_at ASC, id ASC`. -/
def olderJob (left right : JobRow) : Bool :=
  left.updatedAt < right.updatedAt ||
    (left.updatedAt = right.updatedAt && (left.createdAt < right.createdAt ||
      (left.createdAt = right.createdAt && left.id < right.id)))

def oldest : List JobRow → Option JobRow
  | [] => none
  | job :: rest =>
    match oldest rest with
    | none => some job
    | some other => if olderJob other job then some other else some job

section

variable (options : Options)

def pruneTracked (tables : Tables) : Tables :=
  if options.maxTrackedJobs ≤ tables.jobs.length then
    match oldest (tables.jobs.filter fun job => job.status ≠ .preparing) with
    | none => tables
    | some job => deleteJobs tables fun other => other.id = job.id
  else tables

def pruneAndCheckGlobalCapacity (tables : Tables) (needsQueuedSlot : Bool) (first second : Int) :
    Except Failure Tables :=
  let kept := deleteJobs tables fun job =>
    job.status ≠ .preparing && job.updatedAt < first - options.terminalRetentionMs * 1000
  if needsQueuedSlot && options.maxGlobalQueued ≤ kept.jobs.countP (waiting second) then
    .error (.capacity ("preparation queue is full (" ++ toString options.maxGlobalQueued ++
      " waiting jobs)"))
  else if options.maxTrackedJobs ≤ (pruneTracked options kept).jobs.length then
    .error (.capacity ("job metadata limit is full (" ++ toString options.maxTrackedJobs ++
      " jobs)"))
  else .ok (pruneTracked options kept)

/-- `ORDER BY r.retained_at ASC, r.package_id ASC`. -/
def retainedBefore (left right : ReferenceRow) : Prop :=
  left.retainedAt < right.retainedAt ∨
    (left.retainedAt = right.retainedAt ∧ options.collation left.packageId right.packageId = true)

instance : DecidableRel (retainedBefore options) := fun left right => by
  unfold retainedBefore
  exact inferInstance

/-- The loop of `retainReference`: the count, the bytes and the evicted packages that it leaves. -/
def evict (byteLength : Int) (shielded : String → Bool) :
    List ReferenceRow → Nat → Int → List String → Nat × Int × List String
  | [], count, bytes, evicted => (count, bytes, evicted)
  | ref :: refs, count, bytes, evicted =>
    if count < options.maxRetainedReferences ∧ bytes + byteLength ≤ options.maxLogicalBytes then
      (count, bytes, evicted)
    else if shielded ref.packageId then evict byteLength shielded refs count bytes evicted
    else evict byteLength shielded refs (count - 1) (bytes - ref.byteLength)
      (evicted ++ [ref.packageId])

def retainReference (tables : Tables) (principal packageId : String) (byteLength retainedAt : Int) :
    Except Failure (List String × Tables) :=
  if ¬(0 ≤ byteLength ∧ byteLength ≤ 9007199254740991 ∧ byteLength ≤ options.maxLogicalBytes) then
    .error (.principalQuota ("artifact exceeds " ++ toString options.maxLogicalBytes ++
      " logical bytes"))
  else if (referencesOf tables principal).any fun row => row.packageId = packageId then
    .ok ([], tables)
  else
    let refs := (referencesOf tables principal).insertionSort (retainedBefore options)
    let after := evict options byteLength (protectedArtifact tables) refs refs.length
      (refs.map fun ref => ref.byteLength).sum []
    if options.maxRetainedReferences ≤ after.1 ∨
        options.maxLogicalBytes < after.2.1 + byteLength then
      .error (.principalQuota "retained artifact budget is full")
    else
      .ok (after.2.2, { tables with
        references := (tables.references.filter fun row =>
          !(row.principal = principal && row.packageId ∈ after.2.2)) ++
            [⟨principal, packageId, byteLength, retainedAt⟩] })

structure OfflinePackageAdmission where
  record : OfflinePackageJobRecord
  createdJob : Bool
  createdOwner : Bool
  unreferencedPackageIds : List String
  deriving DecidableEq

/-- What the caller's parts do: the fence of the service, the answer of `readManifest` for the
candidate's package, and `allowNewPreparingJob`. -/
structure AdmissionCall where
  fence : Option Failure
  readManifest : Except Failure (Option OfflineMapPackageManifest)
  allowNewPreparingJob : Option Bool

def joinShared (tables : Tables) (principal : String) (shared : JobRow) (clock : Nat → Int) :
    Except Failure (OfflinePackageAdmission × Tables) :=
  if ownedBy tables principal shared then
    .ok (⟨recordFromRow shared, false, false, []⟩, tables)
  else if leased (clock 1) shared then
    if options.maxRunningPerPrincipal ≤ runningCount tables principal (clock 0) then
      .error (.principalQuota ("running limit is " ++ toString options.maxRunningPerPrincipal))
    else .ok (⟨recordFromRow shared, false, true, []⟩, insertOwner tables shared.id principal)
  else if options.maxQueuedPerPrincipal ≤ queuedCount tables principal (clock 0) then
    .error (.principalQuota ("queued limit is " ++ toString options.maxQueuedPerPrincipal))
  else .ok (⟨recordFromRow shared, false, true, []⟩, insertOwner tables shared.id principal)

def assertOfflineArtifactIdentity (candidate : OfflinePackageJobRecord) :
    Option OfflineMapPackageManifest → Except Failure Unit
  | none => .ok ()
  | some manifest =>
    if some manifest.packageId ≠ candidate.packageId ∨
        manifest.requestKey ≠ candidate.requestKey then
      .error (.error "Offline package artifact does not match the canonical request")
    else .ok ()

def target (candidate : OfflinePackageJobRecord) : Option String :=
  if candidate.status = .failed then none else candidate.packageId.filter (· ≠ "")

def findManifest (candidate : OfflinePackageJobRecord) (call : AdmissionCall) :
    Except Failure (Option OfflineMapPackageManifest) :=
  match target candidate with
  | none => .ok none
  | some _ => call.readManifest

def checkPreparing (tables : Tables) (principal : String) (preparing : Bool)
    (call : AdmissionCall) (now : Int) : Except Failure Unit :=
  if !preparing then .ok ()
  else if call.allowNewPreparingJob = some false then .error (.capacity "preparation queue is full")
  else if options.maxQueuedPerPrincipal ≤ queuedCount tables principal now then
    .error (.principalQuota ("queued limit is " ++ toString options.maxQueuedPerPrincipal))
  else .ok ()

def candidateRow (candidate : OfflinePackageJobRecord) (status : Status)
    (manifest : Option OfflineMapPackageManifest) (createdAt updatedAt : Int) : JobRow where
  id := candidate.jobId
  requestKey := candidate.requestKey
  packageId := candidate.packageId.getD ("invalid-" ++ candidate.jobId)
  status := status
  manifest := manifest
  errorCode := candidate.errorCode
  errorMessage := candidate.errorMessage
  createdAt := createdAt
  updatedAt := updatedAt
  leaseOwner := none
  leaseExpiresAt := none

def persistJob (tables : Tables) (shared : Option JobRow) (candidate : OfflinePackageJobRecord)
    (status : Status) (manifest : Option OfflineMapPackageManifest) (clock : Nat → Int) :
    Except Failure (JobRow × Tables) :=
  match shared with
  | some job => .ok (job, tables)
  | none => do
      let pruned ← pruneAndCheckGlobalCapacity options tables (status = .preparing) (clock 2)
        (clock 3)
      let createdAt ← timestamp candidate.createdAtMs
      let updatedAt ← timestamp candidate.updatedAtMs
      let row := candidateRow candidate status manifest createdAt updatedAt
      let inserted ← insertJob pruned row
      pure (row, inserted)

def retainManifest (tables : Tables) (principal : String) (candidate : OfflinePackageJobRecord)
    (manifest : Option OfflineMapPackageManifest) : Except Failure (List String × Tables) :=
  match manifest with
  | none => .ok ([], tables)
  | some manifest => do
      let retainedAt ← timestamp candidate.createdAtMs
      retainReference options tables principal manifest.packageId manifest.byteLength retainedAt

def setManifest (tables : Tables) (jobId : String) : Option OfflineMapPackageManifest → Tables
  | none => tables
  | some manifest => updateJob tables jobId fun job => { job with manifest := some manifest }

/-- What is left of the shared job, and the tables, once a missing artifact is invalidated. -/
def dropMissing (tables : Tables) (shared : Option JobRow) (candidate : OfflinePackageJobRecord)
    (manifest : Option OfflineMapPackageManifest) (now : Int) : Option JobRow × Tables :=
  match manifest, target candidate with
  | none, some packageId => (none, invalidateArtifact tables packageId now)
  | _, _ => (shared, tables)

def ownsShared (tables : Tables) (principal : String) : Option JobRow → Bool
  | none => false
  | some job => ownedBy tables principal job

def admitArtifact (tables : Tables) (principal : String) (candidate : OfflinePackageJobRecord)
    (call : AdmissionCall) (shared : Option JobRow) (clock : Nat → Int) :
    Except Failure (OfflinePackageAdmission × Tables) := do
  let manifest ← findManifest candidate call
  assertOfflineArtifactIdentity candidate manifest
  let preparing := manifest.isNone && candidate.status ≠ .failed
  checkPreparing options tables principal preparing call (clock 0)
  let dropped := dropMissing tables shared candidate manifest (clock 1)
  let status := if manifest.isSome then .readyToDownload
    else if preparing then .preparing else .failed
  let (job, stored) ← persistJob options dropped.2 dropped.1 candidate status manifest clock
  let (evicted, retained) ← retainManifest options stored principal candidate manifest
  let createdJob := dropped.1.isNone
  let createdOwner := createdJob || !ownsShared tables principal shared
  let owned := if createdOwner then insertOwner retained job.id principal else retained
  let final := setManifest owned job.id manifest
  pure (⟨recordFromRow { job with manifest := manifest <|> job.manifest }, createdJob,
    createdOwner, unreferenced final evicted⟩, final)

def sharedJob (tables : Tables) (candidate : OfflinePackageJobRecord) : Option JobRow :=
  -- The unique index on live request keys leaves at most one such row.
  tables.jobs.find? fun job => job.requestKey = candidate.requestKey && isLive job

def admitPackage (tables : Tables) (principal : String) (candidate : OfflinePackageJobRecord)
    (call : AdmissionCall) (clock : Nat → Int) :
    Except Failure (OfflinePackageAdmission × Tables) :=
  if isPrincipal principal then
    match call.fence with
    | some failure => .error failure
    | none =>
      match sharedJob tables candidate with
      | some shared =>
        if shared.status = .preparing then joinShared options tables principal shared clock
        else admitArtifact options tables principal candidate call (some shared) clock
      | none => admitArtifact options tables principal candidate call none clock
  else .error (.error "Invalid offline package principal")

/-- What the storage does: `remove` throws or tells whether it removed, and `readManifest` throws
or tells whether there is a manifest. -/
structure OfflinePackageArtifactAccess where
  remove : Except String Bool
  readManifest : Except String Bool

inductive OfflinePackageRemoval where
  | removed
  | absent
  | retained
  | failed (message : String)
  deriving DecidableEq

def removeOfflineArtifact (storage : OfflinePackageArtifactAccess) : OfflinePackageRemoval × Bool :=
  match storage.remove with
  | .error message =>
    match storage.readManifest with
    | .ok false => (.failed message, true)
    | _ => (.failed message, false)
  | .ok true => (.removed, true)
  | .ok false =>
    match storage.readManifest with
    | .ok true => (.retained, false)
    | .ok false => (.absent, true)
    | .error message => (.failed message, false)

def removeUnreferencedArtifact (tables : Tables) (packageId : String)
    (storage : OfflinePackageArtifactAccess) (clock : Nat → Int) :
    (OfflinePackageRemoval × Bool) × Tables :=
  if (unreferenced tables [packageId]).isEmpty then ((.retained, false), tables)
  else
    let (removal, invalid) := removeOfflineArtifact storage
    ((removal, true), if invalid then invalidateArtifact tables packageId (clock 0) else tables)

def ownersOf (tables : Tables) (jobId : String) : List String :=
  ((tables.owners.filter fun row => row.1 = jobId).map Prod.snd).insertionSort
    fun left right => options.collation left right = true

/-- The loop of `claim` over the owners: whether one of them runs as much as it may. -/
def ownerBusy (tables : Tables) (clock : Nat → Int) : Nat → List String → Bool
  | _, [] => false
  | reading, principal :: rest =>
    options.maxRunningPerPrincipal ≤ runningCount tables principal (clock reading) ||
      ownerBusy tables clock (reading + 1) rest

def claim (maxRunning : Nat) (tables : Tables) (jobId workerId : String) (leaseMs : Int)
    (clock : Nat → Int) : Bool × Tables :=
  match jobsOf tables jobId with
  | none => (false, tables)
  | some job =>
    if job.status ≠ .preparing then (false, tables)
    else if job.leaseOwner = some workerId ∧ leased (clock 0) job = true then (true, tables)
    else if maxRunning ≤ globalRunning tables (clock 1) then (false, tables)
    else if ownerBusy options tables clock 2 (ownersOf options tables jobId) then (false, tables)
    else
      let update := 2 + (ownersOf options tables jobId).length
      (true, updateJob tables jobId fun row =>
        { row with
          leaseOwner := some workerId
          leaseExpiresAt := some (clock update + leaseMs * 1000)
          updatedAt := clock update })

/-- The row that `renew` changes. -/
def renewable (tables : Tables) (jobId workerId : String) : Option JobRow :=
  tables.jobs.find? fun job =>
    job.id = jobId && job.status = .preparing && job.leaseOwner = some workerId

def renew (tables : Tables) (jobId workerId : String) (leaseMs : Int) (clock : Nat → Int) :
    Bool × Tables :=
  match renewable tables jobId workerId with
  | none => (false, tables)
  | some job => (true, updateJob tables job.id fun row =>
    { row with leaseExpiresAt := some (clock 0 + leaseMs * 1000) })

/-- The loop of `complete` over the owners. -/
def retainAll (manifest : OfflineMapPackageManifest) (retainedAt : Int) :
    List String → Tables → Except Failure (List String × Tables)
  | [], tables => .ok ([], tables)
  | principal :: rest, tables => do
      let (evicted, retained) ← retainReference options tables principal manifest.packageId
        manifest.byteLength retainedAt
      let (others, final) ← retainAll manifest retainedAt rest retained
      pure (evicted ++ others, final)

def complete (tables : Tables) (jobId workerId : String) (manifest : OfflineMapPackageManifest)
    (clock : Nat → Int) : Except Failure (List String × Tables) :=
  match jobsOf tables jobId with
  | none => .error (.error "Offline package completion does not own the durable lease")
  | some job =>
    if job.status ≠ .preparing ∨ job.leaseOwner ≠ some workerId then
      .error (.error "Offline package completion does not own the durable lease")
    else do
      let (evicted, retained) ← retainAll options manifest job.createdAt
        (ownersOf options tables jobId) tables
      let final := updateJob retained jobId fun row =>
        { row with
          status := .readyToDownload
          manifest := some manifest
          packageId := manifest.packageId
          updatedAt := clock 0
          leaseOwner := none
          leaseExpiresAt := none }
      pure (unreferenced final evicted, final)

/-- The row of a preparing job, and of that worker if it is given and not empty. -/
def endable (tables : Tables) (jobId : String) (workerId : Option String) : Option JobRow :=
  tables.jobs.find? fun job => job.id = jobId && job.status = .preparing &&
    match workerId.filter (· ≠ "") with
    | none => true
    | some worker => job.leaseOwner = some worker

def endJob (tables : Tables) (jobId : String) (workerId : Option String) (status : Status)
    (errorCode : Option ErrorCode) (errorMessage : String) (updatedAtMs : Int) :
    Except Failure Tables := do
  let updatedAt ← timestamp updatedAtMs
  match endable tables jobId workerId with
  | none => pure tables
  | some job => pure (updateJob tables job.id fun row =>
    { row with status, errorCode, errorMessage := some errorMessage, updatedAt
               leaseOwner := none, leaseExpiresAt := none })

def fail (tables : Tables) (jobId : String) (workerId : Option String)
    (errorCode : Option ErrorCode) (errorMessage : String) (updatedAtMs : Int) :
    Except Failure Tables :=
  endJob tables jobId workerId .failed errorCode errorMessage updatedAtMs

def expire (tables : Tables) (jobId : String) (updatedAtMs : Int) : Except Failure Tables :=
  endJob tables jobId none .expired (some .expired) "offline package preparation expired"
    updatedAtMs

def removeTerminal (tables : Tables) (jobId : String) : Tables :=
  deleteJobs tables fun job => job.id = jobId && job.status ≠ .preparing

def getOwnedJob (tables : Tables) (principal jobId : String) :
    Except Failure (Option OfflinePackageJobRecord) :=
  if isPrincipal principal then
    .ok ((tables.jobs.find? fun job => job.id = jobId && ownedBy tables principal job).map
      recordFromRow)
  else .error (.error "Invalid offline package principal")

def retainedUsage (tables : Tables) (principal : String) : Except Failure (Nat × Int) :=
  if isPrincipal principal then
    .ok ((referencesOf tables principal).length,
      ((referencesOf tables principal).map fun row => row.byteLength).sum)
  else .error (.error "Invalid offline package principal")

def hasArtifactReference (tables : Tables) (packageId : String) : Bool :=
  tables.references.any fun row => row.packageId = packageId

inductive Call where
  | admission (principal : String) (candidate : OfflinePackageJobRecord) (call : AdmissionCall)
  | removeUnreferencedArtifact (packageId : String) (storage : OfflinePackageArtifactAccess)
  | claim (jobId workerId : String) (leaseMs : Int)
  | renew (jobId workerId : String) (leaseMs : Int)
  | complete (jobId workerId : String) (manifest : OfflineMapPackageManifest)
  | fail (jobId : String) (workerId : Option String) (errorCode : Option ErrorCode)
      (errorMessage : String) (updatedAtMs : Int)
  | expire (jobId : String) (updatedAtMs : Int)
  | removeTerminal (jobId : String)

inductive Answer where
  | admission (admission : OfflinePackageAdmission)
  | removal (removal : OfflinePackageRemoval) (asked : Bool)
  | claimed (claimed : Bool)
  | renewed (renewed : Bool)
  | completion (unreferencedPackageIds : List String)
  | done

def perform (maxRunning : Nat) (tables : Tables) (clock : Nat → Int) :
    Call → Except Failure (Answer × Tables)
  | .admission principal candidate call =>
    (admitPackage options tables principal candidate call clock).map fun (answer, next) =>
      (.admission answer, next)
  | .removeUnreferencedArtifact packageId storage =>
    let (answer, next) := removeUnreferencedArtifact tables packageId storage clock
    .ok (.removal answer.1 answer.2, next)
  | .claim jobId workerId leaseMs =>
    let (answer, next) := claim options maxRunning tables jobId workerId leaseMs clock
    .ok (.claimed answer, next)
  | .renew jobId workerId leaseMs =>
    let (answer, next) := renew tables jobId workerId leaseMs clock
    .ok (.renewed answer, next)
  | .complete jobId workerId manifest =>
    (complete options tables jobId workerId manifest clock).map fun (answer, next) =>
      (.completion answer, next)
  | .fail jobId workerId errorCode errorMessage updatedAtMs =>
    (fail tables jobId workerId errorCode errorMessage updatedAtMs).map (.done, ·)
  | .expire jobId updatedAtMs => (expire tables jobId updatedAtMs).map (.done, ·)
  | .removeTerminal jobId => .ok (.done, removeTerminal tables jobId)

structure State where
  tables : Tables
  now : Int

structure Event where
  call : Call
  clock : Nat → Int
  ends : Int

def step (maxRunning : Nat) (state : State) (event : Event) : State :=
  match perform options maxRunning state.tables event.clock event.call with
  | .ok (_, tables) => ⟨tables, event.ends⟩
  | .error _ => ⟨state.tables, event.ends⟩

def empty (now : Int) : State := ⟨⟨[], [], []⟩, now⟩

end

end OpenMapX.OfflinePackages.PostgresAccounting
