import Mathlib

/-!
# The operations journal

The journal holds its jobs in memory and in one file, which it replaces by a rename. Values
below a job (operations, results, diagnostics) are a parameter, and so are the schemas that
check them and the length of a file's text. An instant stands for its ISO text.
-/

namespace OpenMapX.Ops.JobJournal

inductive Role where
  | api
  | dataManager
  deriving DecidableEq

inductive JobState where
  | queued
  | running
  | succeeded
  | failed
  | terminationPending
  | timedOut
  deriving DecidableEq

inductive ErrorClass where
  | authentication
  | authorization
  | validation
  | replay
  | stale
  | future
  | timeout
  | busy
  | conflict
  | configurationPrerequisite
  | notFound
  | notWired
  | controlUpgradeRequired
  | recoveryRequired
  | hostUpdateRequired
  | runtime
  deriving DecidableEq

/-- What `historicalServicePullOperationSchema` accepts, or another operation. -/
inductive Operation (Json : Type) where
  | historicalPull (serviceId : String)
  | current (body : Json)
  deriving DecidableEq

/-- The members of a job that `replace` compares. -/
structure Identity (Json : Type) where
  operationId : String
  role : Role
  operationKey : String
  fingerprint : String
  executionVersion : Option Nat
  requestVersion : Option Nat
  admittedAt : Option Int
  deadlineAt : Option Int
  operationFingerprint : Option String
  requestedDeadlineAt : Option Int
  deploymentBudgetMs : Option Int
  parent : Option Json
  deriving DecidableEq

structure Job (Json : Type) extends Identity Json where
  controlAdoption : Option Json
  diagnostics : Option Json
  failureResult : Option Json
  progressResult : Option Json
  operation : Operation Json
  resourceId : String
  state : JobState
  submittedAt : Int
  updatedAt : Int
  result : Option Json
  errorClass : Option ErrorClass
  terminalAt : Option Int
  terminationRequestedAt : Option Int
  deriving DecidableEq

/-- The checks that live in other modules. A progress result is checked by the schema and the
bound of a failure result, and an admitted deadline is not negative. -/
structure Schemas (Json : Type) where
  controlAdoption : Json → Bool
  operation : Json → Bool
  operationFingerprint : Operation Json → String
  resourceId : Operation Json → String
  admission : Operation Json → Identity Json → Bool
  settles : Operation Json → Bool
  diagnostics : Json → Bool
  failureResult : Operation Json → Json → Bool
  progressResult : Operation Json → Json → Bool
  result : Operation Json → Json → Bool
  /-- `JSON.stringify` of a parent. -/
  parentText : Json → String
  /-- The bytes of `JSON.stringify({ version: 2, jobs })`. -/
  byteLength : List (Job Json) → Nat
  progress_failure : ∀ op value, progressResult op value = true → failureResult op value = true
  admitted_deadline : ∀ op identity deadline, admission op identity = true →
    identity.deadlineAt = some deadline → 0 ≤ deadline

structure Limits where
  maxEntries : Nat
  maxBytes : Nat

structure JournalFile (Json : Type) where
  version : Nat
  jobs : List (Job Json)
  bytes : Nat
  deriving DecidableEq

def isIdChar (c : Char) : Bool := c.isAlphanum || c = '_' || c = '-'

/-- `/^<kind>1_[A-Za-z0-9_-]{16,64}$/`. -/
def isIdentifier (kind : String) (text : String) : Bool :=
  kind.toList.isPrefixOf text.toList &&
    (16 ≤ text.toList.length - kind.toList.length &&
      text.toList.length - kind.toList.length ≤ 64) &&
    (text.toList.drop kind.toList.length).all isIdChar

def isFingerprint (text : String) : Bool :=
  text.toList.length = 64 && text.toList.all fun c =>
    ('a' ≤ c && c ≤ 'f') || ('0' ≤ c && c ≤ '9')

/-- Instants of the years 0 to 9999, whose ISO text has four digits for the year. -/
def iso (instant : Int) : Bool := -62167219200000 ≤ instant && instant ≤ 253402300799999

def isoOption : Option Int → Bool
  | none => true
  | some instant => iso instant

def interrupted : JobState → Bool
  | .queued | .running | .terminationPending => true
  | .succeeded | .failed | .timedOut => false

section

variable {Json : Type} (schemas : Schemas Json)

def historical (job : Job Json) : Bool :=
  match job.operation with
  | .historicalPull _ => true
  | .current _ => false

def checkOperation (job : Job Json) : Bool :=
  (match job.operation with
    | .historicalPull _ => true
    | .current body => schemas.operation body) &&
  (if job.executionVersion = some 2 then
    job.operationFingerprint = some (schemas.operationFingerprint job.operation)
  else schemas.operationFingerprint job.operation = job.fingerprint) &&
  schemas.resourceId job.operation = job.resourceId

def checkAdmission (job : Job Json) : Bool :=
  if job.executionVersion = some 2 then
    schemas.admission job.operation job.toIdentity &&
      (job.requestVersion = none || job.requestVersion = some 1 || job.requestVersion = some 2) &&
      job.admittedAt = some job.submittedAt
  else
    job.executionVersion = none && job.requestVersion = none && job.admittedAt = none &&
      job.deadlineAt = none && job.operationFingerprint = none &&
      job.requestedDeadlineAt = none && job.deploymentBudgetMs = none && job.parent = none

def checkReports (job : Job Json) : Bool :=
  (match job.diagnostics with
    | none => true
    | some diagnostics => schemas.diagnostics diagnostics) &&
  (match job.progressResult with
    | none => true
    | some progress => job.executionVersion = some 2 && interrupted job.state &&
        schemas.progressResult job.operation progress) &&
  (match job.failureResult with
    | none => true
    | some failure => (job.state = .failed || job.state = .timedOut) &&
        schemas.failureResult job.operation failure)

def checkState (job : Job Json) : Bool :=
  match job.state with
  | .succeeded =>
    (match job.result with
      | none => false
      | some result => schemas.result job.operation result) &&
    job.errorClass = none && job.terminalAt ≠ none
  | .failed | .timedOut =>
    job.result = none && job.errorClass ≠ none &&
      (job.terminalAt ≠ none ||
        (job.executionVersion = some 2 && schemas.settles job.operation &&
          job.state = .failed && job.errorClass = some .recoveryRequired &&
          job.failureResult = none))
  | .queued | .running | .terminationPending =>
    job.result = none && job.errorClass = none && job.terminalAt = none

def checkFields (job : Job Json) : Bool :=
  isIdentifier "job1_" job.operationId && isIdentifier "opk1_" job.operationKey &&
    isFingerprint job.fingerprint && iso job.submittedAt && iso job.updatedAt &&
    isoOption job.terminalAt && isoOption job.terminationRequestedAt &&
    (match job.controlAdoption with
      | none => true
      | some adoption => schemas.controlAdoption adoption && job.executionVersion = some 2)

/-- `parseJob`: whether it returns the job. -/
def parseJob (job : Job Json) : Bool :=
  checkFields schemas job && checkOperation schemas job && checkAdmission schemas job &&
    checkReports schemas job && checkState schemas job

def operationIds (jobs : List (Job Json)) : List String := jobs.map fun job => job.operationId

def operationKeys (jobs : List (Job Json)) : List (Role × String) :=
  jobs.map fun job => (job.role, job.operationKey)

def parseFile (file : JournalFile Json) (maxEntries : Nat) : Option (List (Job Json)) :=
  if (file.version = 1 ∨ file.version = 2) ∧ file.jobs.length ≤ maxEntries ∧
      (∀ job ∈ file.jobs, parseJob schemas job = true) ∧
      (file.version = 1 → ∀ job ∈ file.jobs, job.executionVersion = none) ∧
      (operationIds file.jobs).Nodup ∧ (operationKeys file.jobs).Nodup then
    some file.jobs
  else none

def sameExecution (record prior : Job Json) : Bool :=
  prior.operationId = record.operationId ||
    (prior.role = record.role && prior.operationKey = record.operationKey)

def sameIdentity (prior record : Job Json) : Bool :=
  prior.operationId = record.operationId && prior.operationKey = record.operationKey &&
    prior.role = record.role && prior.fingerprint = record.fingerprint &&
    prior.executionVersion = record.executionVersion &&
    prior.requestVersion = record.requestVersion && prior.admittedAt = record.admittedAt &&
    prior.deadlineAt = record.deadlineAt &&
    prior.operationFingerprint = record.operationFingerprint &&
    prior.requestedDeadlineAt = record.requestedDeadlineAt &&
    prior.deploymentBudgetMs = record.deploymentBudgetMs &&
    prior.parent.map schemas.parentText = record.parent.map schemas.parentText

/-- The checks of `writeSnapshot`, and the jobs that it then writes. -/
def validate (limits : Limits) (current records : List (Job Json)) : Option (List (Job Json)) :=
  let validated := current.filter historical ++ records
  if (∀ job ∈ records, parseJob schemas job = true ∧ historical job = false) ∧
      validated.length ≤ limits.maxEntries ∧
      (∀ record ∈ validated, ∀ prior, current.find? (sameExecution record) = some prior →
        sameIdentity schemas prior record = true) ∧
      (operationIds validated).Nodup ∧ (operationKeys validated).Nodup ∧
      schemas.byteLength validated ≤ limits.maxBytes then
    some validated
  else none

def recoverJob (now : Int) (job : Job Json) : Job Json :=
  if interrupted job.state then
    { job with
      terminationRequestedAt :=
        match job.deadlineAt with
        | none => job.terminationRequestedAt
        | some deadline =>
          if deadline ≤ now then some (job.terminationRequestedAt.getD deadline)
          else job.terminationRequestedAt
      failureResult := job.progressResult <|> job.failureResult
      progressResult := none
      state := .failed
      updatedAt := now
      terminalAt := some now
      errorClass := some .recoveryRequired }
  else job

def readFile (limits : Limits) : Option (JournalFile Json) → Option (List (Job Json))
  | none => some []
  | some file =>
    if limits.maxBytes < file.bytes then none else parseFile schemas file limits.maxEntries

def openingRecords (now : Int) (jobs : List (Job Json)) : List (Job Json) :=
  (jobs.filter fun job => !historical job).map (recoverJob now)

def written (jobs : List (Job Json)) : JournalFile Json := ⟨2, jobs, schemas.byteLength jobs⟩

structure State (Json : Type) where
  alive : Bool
  current : List (Job Json)
  file : Option (JournalFile Json)
  /-- Snapshots of `replace` calls that have not been settled, in the order of the calls. -/
  queue : List (List (Job Json))
  /-- The snapshot that has been renamed into place and whose directory is not synced yet. -/
  renamed : Option (List (Job Json))
  last : List (Job Json)

inductive Event (Json : Type) where
  | replace (records : List (Job Json))
  | write (succeeds : Bool)
  | sync (succeeds : Bool)
  | restart (now : Int) (writeSucceeds syncSucceeds : Bool)

variable (limits : Limits)

def records (state : State Json) : List (Job Json) :=
  state.current.filter fun job => !historical job

def historicalPullRecords (state : State Json) : List (Job Json) := state.current.filter historical

def runWrite (state : State Json) (succeeds : Bool) : State Json :=
  match state.queue, state.renamed with
  | snapshot :: rest, none =>
    match validate schemas limits state.current snapshot with
    | some validated =>
      if succeeds then
        { state with renamed := some validated, file := some (written schemas validated) }
      else { state with queue := rest }
    | none => { state with queue := rest }
  | _, _ => state

def runSync (state : State Json) (succeeds : Bool) : State Json :=
  match state.queue, state.renamed with
  | snapshot :: rest, some validated =>
    if succeeds then
      { state with current := validated, last := snapshot, renamed := none, queue := rest }
    else { state with renamed := none, queue := rest }
  | _, _ => state

def closed (state : State Json) : State Json :=
  { state with alive := false, current := [], queue := [], renamed := none, last := [] }

/-- `openOpsJobJournal`; a journal that cannot be opened is not alive. -/
def openJournal (state : State Json) (now : Int) (writeSucceeds syncSucceeds : Bool) : State Json :=
  match readFile schemas limits state.file with
  | none => closed state
  | some jobs =>
    match validate schemas limits jobs (openingRecords now jobs) with
    | none => closed state
    | some validated =>
      if writeSucceeds then
        if syncSucceeds then
          ⟨true, validated, some (written schemas validated), [], none, openingRecords now jobs⟩
        else { closed state with file := some (written schemas validated) }
      else closed state

def step (state : State Json) : Event Json → State Json
  | .replace records =>
    if state.alive then { state with queue := state.queue ++ [records] } else state
  | .write succeeds => runWrite schemas limits state succeeds
  | .sync succeeds => runSync state succeeds
  | .restart now writeSucceeds syncSucceeds =>
    openJournal schemas limits state now writeSucceeds syncSucceeds

end

end OpenMapX.Ops.JobJournal
