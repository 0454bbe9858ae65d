import Mathlib.Logic.Function.Basic

/-!
# The lock of the release store

Calls of `acquireStoreLock` by any number of processes on one lock directory, one file-system
step at a time, on one clock. A call is a process of its own here; its nonce is its number. The
directory remembers who made it, which the code does not see.
-/

namespace OpenMapX.Ops.ReleaseStoreLock

def ttlMs : Nat := 15 * 60000
def acquireTimeoutMs : Nat := 60000
def maximumLeaseMs : Nat := 24 * 60 * 60 * 1000

/-- The text of `owner.json`. -/
structure OwnerRecord where
  nonce : Nat
  acquiredAtMs : Nat
  leaseMs : Nat
  deriving DecidableEq

structure LockDirectory where
  ino : Nat
  maker : Nat
  owner : Option OwnerRecord
  temporaries : List Nat
  mtimeMs : Nat
  deriving DecidableEq

structure Attempt where
  deadline : Nat
  failIfBusy : Bool
  leaseMs : Nat
  deriving DecidableEq

inductive Stage where
  | idle
  /-- Before `mkdirSync`. -/
  | trying (attempt : Attempt)
  | made (attempt : Attempt)
  | stamped (attempt : Attempt) (record : OwnerRecord)
  | writing (record : OwnerRecord)
  | published (record : OwnerRecord)
  /-- `acquireStoreLock` has returned. -/
  | held (record : OwnerRecord)
  /-- `owner.json` has been unlinked by the release. -/
  | clearing
  | looking (attempt : Attempt)
  | missing (attempt : Attempt)
  | read (attempt : Attempt) (record : OwnerRecord) (maker : Nat)
  | dated (attempt : Attempt) (mtimeMs : Nat) (maker : Nat)
  | removing (attempt : Attempt) (maker : Nat)
  | ended
  deriving DecidableEq

structure State where
  clock : Nat
  dir : Option LockDirectory
  stage : Nat → Stage

inductive Action where
  | start (failIfBusy : Bool) (leaseMs : Nat)
  | mkdir (ino : Nat)
  | stamp
  | openTemporary
  | rename
  | hand
  | readOwner
  | statDirectory
  | judge
  | unlinkOwner
  | unlinkTemporary (process : Nat)
  | removeDirectory
  | abandon

inductive Event where
  | tick (ms : Nat)
  | act (process : Nat) (action : Action)

def setStage (state : State) (process : Nat) (stage : Stage) : State :=
  { state with stage := Function.update state.stage process stage }

def setDirectory (state : State) (dir : Option LockDirectory) : State := { state with dir := dir }

def changeEntries (state : State) (change : LockDirectory → LockDirectory) : State :=
  { state with dir := state.dir.map fun dir => { change dir with mtimeMs := state.clock } }

def validLease (leaseMs : Nat) : Bool := ttlMs ≤ leaseMs ∧ leaseMs ≤ maximumLeaseMs

def start (state : State) (process : Nat) (failIfBusy : Bool) (leaseMs : Nat) : State :=
  if validLease leaseMs then
    setStage state process (.trying ⟨state.clock + acquireTimeoutMs, failIfBusy, leaseMs⟩)
  else setStage state process .ended

def mkdir (state : State) (process ino : Nat) (attempt : Attempt) : State :=
  match state.dir with
  | none =>
    setStage (setDirectory state (some ⟨ino, process, none, [], state.clock⟩)) process
      (.made attempt)
  | some _ =>
    if attempt.failIfBusy then setStage state process .ended
    else setStage state process (.looking attempt)

/-- `atomicWrite` opens its temporary file in the directory that is now at the path. -/
def openTemporary (state : State) (process : Nat) (record : OwnerRecord) : State :=
  match state.dir with
  | none => setStage state process .ended
  | some _ =>
    setStage (changeEntries state fun dir =>
      { dir with temporaries := process :: dir.temporaries }) process (.writing record)

def renameOwner (state : State) (process : Nat) (record : OwnerRecord) : State :=
  match state.dir with
  | none => setStage state process .ended
  | some dir =>
    if process ∈ dir.temporaries then
      setStage (changeEntries state fun dir =>
        { dir with owner := some record, temporaries := dir.temporaries.erase process })
        process (.published record)
    else setStage state process .ended

def readOwner (state : State) (process : Nat) (attempt : Attempt) : State :=
  match state.dir with
  | none => setStage state process (.missing attempt)
  | some dir =>
    match dir.owner with
    | none => setStage state process (.missing attempt)
    | some record => setStage state process (.read attempt record dir.maker)

def statDirectory (state : State) (process : Nat) (attempt : Attempt) : State :=
  match state.dir with
  | none => setStage state process (.trying attempt)
  | some dir => setStage state process (.dated attempt dir.mtimeMs dir.maker)

/-- `nowMs() - record.acquiredAtMs > retainedLease`. -/
def recordExpired (clock : Nat) (record : OwnerRecord) : Bool :=
  record.acquiredAtMs + record.leaseMs < clock

def directoryExpired (clock mtimeMs : Nat) : Bool := mtimeMs + ttlMs < clock

def decideExpired (state : State) (process : Nat) (attempt : Attempt) (maker : Nat)
    (expired : Bool) : State :=
  if expired then setStage state process (.removing attempt maker)
  else if attempt.deadline ≤ state.clock then setStage state process .ended
  else setStage state process (.trying attempt)

/-- `rmdir` fails on a directory with entries; both callers go on. -/
def removeDirectory (state : State) (process : Nat) (next : Stage) : State :=
  match state.dir with
  | none => setStage state process next
  | some dir =>
    if dir.owner.isNone && dir.temporaries.isEmpty then
      setStage (setDirectory state none) process next
    else setStage state process next

def unlinkOwner (state : State) : State := changeEntries state fun dir => { dir with owner := none }

def unlinkTemporary (state : State) (other : Nat) : State :=
  changeEntries state fun dir => { dir with temporaries := dir.temporaries.erase other }

/-- An action that is not the next one of its process leaves the state as it is. -/
def act (state : State) (process : Nat) (action : Action) : State :=
  match state.stage process, action with
  | .idle, .start failIfBusy leaseMs => start state process failIfBusy leaseMs
  | .trying attempt, .mkdir ino => mkdir state process ino attempt
  | .made attempt, .stamp =>
    setStage state process (.stamped attempt ⟨process, state.clock, attempt.leaseMs⟩)
  | .stamped _ record, .openTemporary => openTemporary state process record
  | .writing record, .rename => renameOwner state process record
  | .published record, .hand => setStage state process (.held record)
  | .looking attempt, .readOwner => readOwner state process attempt
  | .missing attempt, .statDirectory => statDirectory state process attempt
  | .read attempt record maker, .judge =>
    decideExpired state process attempt maker (recordExpired state.clock record)
  | .dated attempt mtimeMs maker, .judge =>
    decideExpired state process attempt maker (directoryExpired state.clock mtimeMs)
  | .removing _ _, .unlinkOwner => unlinkOwner state
  | .removing _ _, .unlinkTemporary other => unlinkTemporary state other
  | .removing attempt _, .removeDirectory => removeDirectory state process (.trying attempt)
  | .held _, .unlinkOwner => setStage (unlinkOwner state) process .clearing
  | .clearing, .unlinkOwner => unlinkOwner state
  | .clearing, .unlinkTemporary other => unlinkTemporary state other
  | .clearing, .removeDirectory => removeDirectory state process .ended
  | _, .abandon => setStage state process .ended
  | _, _ => state

def step (state : State) : Event → State
  | .tick ms => { state with clock := state.clock + ms }
  | .act process action => act state process action

def initial : State := ⟨0, none, fun _ => .idle⟩

/-- Between the return of `acquireStoreLock` and the release. -/
def Holds (state : State) (process : Nat) : Prop := ∃ record, state.stage process = .held record

/-- `assertReleaseStoreLock` for a lock that was registered with this inode and this owner. -/
def assertLock (state : State) (ino : Nat) (record : OwnerRecord) : Bool :=
  match state.dir with
  | none => false
  | some dir => dir.ino = ino ∧ dir.owner = some record

end OpenMapX.Ops.ReleaseStoreLock
