import Mathlib
import OpenMapX.Foundation.CrashPrograms

/-!
# Control retention

A namespace keeps its records, a counter in two files and a transaction for the deletion that
is under way. A replacing write is made by its rename; an exclusive write creates the file and
then fills it. Identities of files are given by the file system, so a call brings the one that
a file it creates would get. Digests are parameters.
-/

namespace OpenMapX.Artifacts.ControlRetention

open Foundation.CrashPrograms Foundation.CrashPrograms.Program

structure FileIdentity where
  dev : String
  ino : String
  deriving DecidableEq

structure Counter where
  version : Nat
  sequence : Nat
  count : Nat
  deriving DecidableEq

structure RetentionDeletion where
  familyId : String
  generation : String
  manifestDigest : String
  ordinal : Int
  name : String
  inode : FileIdentity
  digest : String
  deriving DecidableEq

inductive Phase where
  | planned
  | unlinked
  | counted
  | item_done
  deriving DecidableEq

structure Transaction extends RetentionDeletion where
  phase : Phase
  before : Counter
  after : Counter
  deriving DecidableEq

structure Record where
  name : String
  inode : FileIdentity
  bytes : List UInt8
  deriving DecidableEq

/-- The content of `.retention-transaction`; `torn` is a text that does not parse. -/
inductive Cell where
  | torn
  | stored (value : Option Transaction)
  deriving DecidableEq

/-- The directory, without the temporary files that replacing writes leave when they are cut. -/
structure Directory where
  writer : Bool
  count : Option Counter
  highwater : Option Counter
  transaction : Option Cell
  records : List Record
  deriving DecidableEq

inductive Failure where
  /-- An error with code `ENOENT`. -/
  | absent
  | refused
  deriving DecidableEq

abbrev Io (Value : Type) := Program Directory Failure Value

def hexDigit (value : Nat) : Char := Nat.digitChar (value % 16)

def quoteChar (c : Char) : List Char :=
  if c = '"' then ['\\', '"']
  else if c = '\\' then ['\\', '\\']
  else if c.toNat = 8 then ['\\', 'b']
  else if c.toNat = 9 then ['\\', 't']
  else if c.toNat = 10 then ['\\', 'n']
  else if c.toNat = 12 then ['\\', 'f']
  else if c.toNat = 13 then ['\\', 'r']
  else if c.toNat < 32 then ['\\', 'u', '0', '0', hexDigit (c.toNat / 16), hexDigit c.toNat]
  else [c]

def quote (text : String) : List Char := '"' :: (text.toList.flatMap quoteChar ++ ['"'])

def wholeText (number : Nat) : List Char := Nat.toDigits 10 number

def numberText : Int → List Char
  | .ofNat number => wholeText number
  | .negSucc number => '-' :: wholeText (number + 1)

def member (key : String) (value : List Char) : List Char :=
  '"' :: (key.toList ++ ['"', ':'] ++ value)

def objectText (members : List (List Char)) : List Char :=
  '\x7b' :: ((members.intersperse [',']).flatten ++ ['\x7d'])

def counterText (c : Counter) : List Char :=
  objectText [member "version" (wholeText c.version), member "sequence" (wholeText c.sequence),
    member "count" (wholeText c.count)]

def phaseName : Phase → String
  | .planned => "planned"
  | .unlinked => "unlinked"
  | .counted => "counted"
  | .item_done => "item_done"

/-- `JSON.stringify` of a transaction or of `null`. -/
def transactionText : Option Transaction → List Char
  | none => "null".toList
  | some t =>
    objectText [member "familyId" (quote t.familyId), member "generation" (quote t.generation),
      member "manifestDigest" (quote t.manifestDigest), member "ordinal" (numberText t.ordinal),
      member "name" (quote t.name),
      member "inode" (objectText
        [member "dev" (quote t.inode.dev), member "ino" (quote t.inode.ino)]),
      member "digest" (quote t.digest), member "before" (counterText t.before),
      member "after" (counterText t.after), member "phase" (quote (phaseName t.phase))]

/-- `Buffer.byteLength(text, "utf8")`. -/
def byteLength (text : List Char) : Nat := (text.map Char.utf8Size).sum

/-- `text.length`, in UTF-16 code units. -/
def unitLength (text : List Char) : Nat :=
  (text.map fun c => if c.toNat < 0x10000 then 1 else 2).sum

/-- The bytes of `text.padEnd(4096)`. -/
def paddedLength (text : List Char) : Nat := byteLength text + (4096 - unitLength text)

def maxSafeInteger : Nat := 2 ^ 53 - 1

def counter (c : Counter) : Bool :=
  c.version = 1 ∧ c.sequence ≤ maxSafeInteger ∧ c.count ≤ maxSafeInteger

def readJsonCounter (file : Directory → Option Counter) : Io Counter :=
  look fun dir =>
    match file dir with
    | none => .error .absent
    | some c => if counter c then .ok c else .error .refused

def writeCounter (c : Counter) : Io Unit := do
  if counter c = false then fail .refused else
    change fun dir => { dir with count := some c }
    change fun dir => { dir with highwater := some c }

def readCounter : Io Counter := do
  let current ← readJsonCounter Directory.count
  let prior ← readJsonCounter Directory.highwater
  if current.sequence < prior.sequence ∨
      (current.sequence = prior.sequence ∧ current.count ≠ prior.count) then
    fail .refused
  else if prior.sequence < current.sequence then
    change fun dir => { dir with highwater := some current }
    pure current
  else pure current

def fits (value : Option Transaction) : Bool := byteLength (transactionText value) ≤ 4096

def replaceTransaction (value : Option Transaction) : Io Unit :=
  if fits value = false then fail .refused
  else change fun dir => { dir with transaction := some (.stored value) }

/-- `t = { ...t, phase }; writeTransaction(dir, t)`. -/
def writePhase (t : Transaction) (phase : Phase) : Io Transaction := do
  replaceTransaction (some { t with phase := phase })
  pure { t with phase := phase }

/-- `writeTransaction(dir, null, true)`. A crash leaves the first `torn` characters of a text
that is `null` and spaces. -/
def createTransaction (torn : Nat) : Io Unit := do
  look fun dir => if dir.transaction.isSome then .error .refused else .ok ()
  change fun dir => { dir with transaction := some .torn }
  tear (fun dir => if torn < 4 then dir else { dir with transaction := some (.stored none) })
    fun dir => { dir with transaction := some (.stored none) }

/-- What `transaction` checks of the file that holds a value. -/
def legible (t : Transaction) : Bool :=
  paddedLength (transactionText (some t)) ≤ 4096 ∧ t.ordinal.natAbs ≤ maxSafeInteger ∧
    counter t.before ∧ counter t.after ∧ t.after.sequence = t.before.sequence + 1 ∧
    t.after.count + 1 = t.before.count

def transaction : Io (Option Transaction) :=
  look fun dir =>
    match dir.transaction with
    | none => .error .absent
    | some .torn => .error .refused
    | some (.stored none) => .ok none
    | some (.stored (some t)) => if legible t then .ok (some t) else .error .refused

def recordsPerNamespace : Nat := 65536

/-- Something besides `.retention-writer` is in the directory. -/
def nonempty (dir : Directory) : Bool :=
  dir.count.isSome || dir.highwater.isSome || dir.transaction.isSome || !dir.records.isEmpty

/-- `listBounded` fails as well where it finds more than `recordsPerNamespace + 5` names. -/
def initializeNamespace (torn : Nat) : Io Unit :=
  attempt (do
    let _ ← readCounter
    let _ ← transaction
    pure ())
    fun failure =>
      match failure with
      | .refused => fail .refused
      | .absent => do
          look fun dir => if nonempty dir then .error .refused else .ok ()
          writeCounter ⟨1, 0, 0⟩
          createTransaction torn

def withRetentionNamespaceWriter {Value : Type} (torn : Nat) (run : Io Value) : Io Value := do
  look fun dir => if dir.writer then .error .refused else .ok ()
  change fun dir => { dir with writer := true }
  ensure (do
    initializeNamespace torn
    run)
    (change fun dir => { dir with writer := false })

def findRecord (dir : Directory) (name : String) : Option Record :=
  dir.records.find? fun record => record.name = name

/-- `dir.read`. -/
def read (name : String) (maximumBytes : Nat) : Io (List UInt8) :=
  look fun dir =>
    match findRecord dir name with
    | none => .error .absent
    | some record => if maximumBytes < record.bytes.length then .error .refused else .ok record.bytes

def fileIdentity (name : String) : Io FileIdentity :=
  look fun dir =>
    match findRecord dir name with
    | none => .error .absent
    | some record => .ok record.inode

def removeRecord (records : List Record) (name : String) : List Record :=
  records.filter fun record => record.name ≠ name

def putRecord (record : Record) (dir : Directory) : Directory :=
  { dir with records := record :: removeRecord dir.records record.name }

/-- What `beforePublish` does: it returns or throws. -/
def publishes : Option Failure → Io Unit
  | none => pure ()
  | some failure => fail failure

/-- `dir.write`. -/
def write (record : Record) (exclusive : Bool) (beforePublish : Option Failure) (torn : Nat) :
    Io Unit := do
  if exclusive then
    look fun dir => if (findRecord dir record.name).isSome then .error .refused else .ok ()
    change (putRecord { record with bytes := [] })
    tear (putRecord { record with bytes := record.bytes.take torn }) (putRecord record)
    publishes beforePublish
  else
    publishes beforePublish
    change (putRecord record)

def controlNames : List String :=
  [".retention-count", ".retention-highwater", ".retention-transaction", ".retention-writer"]

/-- A call of `writeRetainedRecord`. `beforePublish` can answer differently to the write that
replaces a record and to the write that creates one. -/
structure Writing where
  record : Record
  exclusive : Bool
  maximum : Nat
  beforeReplace : Option Failure
  beforeCreate : Option Failure
  maximumBytes : Nat

def writeRetainedRecord (call : Writing) (torn : Nat) : Io Unit :=
  attempt (do
    let _ ← read call.record.name call.maximumBytes
    write call.record call.exclusive call.beforeReplace torn)
    fun failure =>
      match failure with
      | .refused => fail .refused
      | .absent => withRetentionNamespaceWriter torn do
          let pending ← transaction
          if pending.isSome then fail .refused else
            let prior ← readCounter
            if call.maximum ≤ prior.count then fail .refused else
              writeCounter ⟨1, prior.sequence + 1, prior.count + 1⟩
              write call.record call.exclusive call.beforeCreate torn

def sameFamily (t : Transaction) (item : RetentionDeletion) : Bool :=
  t.familyId = item.familyId ∧ t.generation = item.generation ∧ t.ordinal = item.ordinal ∧
    t.manifestDigest = item.manifestDigest

def finishRetainedDeletion (item : RetentionDeletion) (torn : Nat) : Io Unit :=
  withRetentionNamespaceWriter torn do
    let pending ← transaction
    match pending with
    | none => pure ()
    | some t =>
      if sameFamily t item = false ∨ (t.phase ≠ .counted ∧ t.phase ≠ .item_done) then
        fail .refused
      else
        replaceTransaction (some { t with phase := .item_done })
        replaceTransaction none

section

variable (recordDigest : List UInt8 → String) (counterDigest : Counter → String)

def checkRecord (item : RetentionDeletion) (maximumBytes : Nat) : Io Unit := do
  let inode ← fileIdentity item.name
  if inode ≠ item.inode then fail .refused else
    let bytes ← read item.name maximumBytes
    if recordDigest bytes ≠ item.digest then fail .refused else pure ()

def planFor (item : RetentionDeletion) (before : Counter) : Transaction :=
  { item with
    before := before
    after := ⟨1, before.sequence + 1, before.count - 1⟩
    phase := .planned }

def plan (item : RetentionDeletion) (maximumBytes : Nat) : Io Transaction := do
  checkRecord recordDigest item maximumBytes
  let before ← readCounter
  if before.count < 1 then fail .refused else
    replaceTransaction (some (planFor item before))
    pure (planFor item before)

def unlinkPlanned (item : RetentionDeletion) (t : Transaction) (maximumBytes : Nat) :
    Io Transaction := do
  if t.phase ≠ .planned then pure t else
    let current ← readCounter
    if counterDigest current ≠ counterDigest t.before then fail .refused else
      attempt (do
        checkRecord recordDigest item maximumBytes
        change fun dir => { dir with records := removeRecord dir.records item.name })
        fun failure =>
          match failure with
          | .refused => fail .refused
          | .absent => pure ()
      writePhase t .unlinked

def countUnlinked (t : Transaction) : Io Transaction := do
  if t.phase ≠ .unlinked then pure t else
    let current ← readCounter
    if counterDigest current = counterDigest t.before then writeCounter t.after
    else if counterDigest current ≠ counterDigest t.after then fail .refused
    else pure ()
    writePhase t .counted

def sameItem (t : Transaction) (item : RetentionDeletion) : Bool :=
  sameFamily t item ∧ t.name = item.name ∧ t.digest = item.digest ∧ t.inode = item.inode

def resumeOrPlan (item : RetentionDeletion) (maximumBytes : Nat) :
    Option Transaction → Io Transaction
  | some t => if sameItem t item = false then fail .refused else pure t
  | none => plan recordDigest item maximumBytes

def deleteRetainedRecord (item : RetentionDeletion) (itemDone : Option Failure)
    (maximumBytes torn : Nat) : Io Unit :=
  withRetentionNamespaceWriter torn do
    let pending ← transaction
    let t ← resumeOrPlan recordDigest item maximumBytes pending
    let t ← unlinkPlanned recordDigest counterDigest item t maximumBytes
    let t ← countUnlinked counterDigest t
    if t.phase ≠ .counted then fail .refused else
      publishes itemDone
      replaceTransaction (some { t with phase := .item_done })
      replaceTransaction none

inductive Call where
  | write (writing : Writing)
  | delete (item : RetentionDeletion) (itemDone : Option Failure) (maximumBytes : Nat)
  | finish (item : RetentionDeletion)

/-- A call, the number of file operations after which the process crashes, and how much of the
text that it is then writing reaches the file. -/
structure Event where
  call : Call
  left : Nat
  torn : Nat

def perform (event : Event) : Io Unit :=
  match event.call with
  | .write writing => writeRetainedRecord writing event.torn
  | .delete item itemDone maximumBytes =>
    deleteRetainedRecord recordDigest counterDigest item itemDone maximumBytes event.torn
  | .finish item => finishRetainedDeletion item event.torn

def step (dir : Directory) (event : Event) : Directory :=
  match perform recordDigest counterDigest event ⟨event.left, dir⟩ with
  | (.crashed, machine) => { machine.store with writer := false }
  | (_, machine) => machine.store

def outcome (dir : Directory) (event : Event) : Outcome Failure Unit :=
  (perform recordDigest counterDigest event ⟨event.left, dir⟩).1

end

def empty : Directory := ⟨false, none, none, none, []⟩

end OpenMapX.Artifacts.ControlRetention
