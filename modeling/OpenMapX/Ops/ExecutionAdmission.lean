import Mathlib
import OpenMapX.Foundation.JsonValue

/-!
# Admitted executions after a restart

An admission is given a deadline and a fingerprint, and the journal keeps both with what they
were made of. When the journal is opened, they are made again and compared. The budgets of the
kinds, the digest of a fingerprint and the test for a UUID are parameters. Times are
milliseconds.
-/

namespace OpenMapX.Ops.ExecutionAdmission

open Foundation.JsonValue

inductive ControlIssuer where
  | opsAgent
  | dataManager
  | hostCli
  deriving DecidableEq

inductive Principal where
  | api
  | dataManager
  | hostCli
  deriving DecidableEq

structure ExecutionRef where
  executor : ControlIssuer
  principal : Principal
  executionId : String
  operationKey : String
  operationFingerprint : String
  fingerprint : String
  deadlineAt : ℚ
  deriving DecidableEq

structure ApiParent where
  apiJobId : String
  apiOwnerVersion : ℚ
  operationKey : String
  fingerprint : String
  deadlineAt : ℚ
  attemptId : String
  assertionDigest : String
  deriving DecidableEq

structure RoleParent where
  issuer : ControlIssuer
  execution : ExecutionRef
  operationKey : String
  fingerprint : String
  deadlineAt : ℚ
  deriving DecidableEq

inductive RetainedParentExecution where
  | api (parent : ApiParent)
  | role (parent : RoleParent)
  deriving DecidableEq

def RetainedParentExecution.deadlineAt : RetainedParentExecution → ℚ
  | .api parent => parent.deadlineAt
  | .role parent => parent.deadlineAt

def MAX_SAFE_INTEGER : ℚ := 9007199254740991

def isSafeInteger (value : ℚ) : Bool := value.den = 1 ∧ |value| ≤ MAX_SAFE_INTEGER

def epoch (value : ℚ) : Bool := isSafeInteger value && 0 ≤ value

/-- `/^[a-f0-9]{64}$/`. -/
def isDigest (text : String) : Bool :=
  text.length == 64 && text.toList.all fun c => ('a' ≤ c && c ≤ 'f') || c.isDigit

/-- `{16,64}` characters of base64url after a mark. -/
def isKey (mark text : String) : Bool :=
  let rest := text.toList.drop mark.length
  text.toList.take mark.length == mark.toList && 16 ≤ rest.length && rest.length ≤ 64 &&
    rest.all fun c => c.isAlphanum || c == '_' || c == '-'

def isOperationKey (text : String) : Bool := isKey "opk1_" text

def executionRefSchema (isUuid : String → Bool) (ref : ExecutionRef) : Bool :=
  isOperationKey ref.operationKey && isDigest ref.operationFingerprint &&
    isDigest ref.fingerprint && epoch ref.deadlineAt &&
    if ref.executor = .opsAgent then isKey "job1_" ref.executionId else isUuid ref.executionId

def retainedParentExecutionSchema (isUuid : String → Bool) : RetainedParentExecution → Bool
  | .api parent =>
    isUuid parent.apiJobId && isSafeInteger parent.apiOwnerVersion && 0 < parent.apiOwnerVersion &&
      isOperationKey parent.operationKey && isDigest parent.fingerprint &&
      epoch parent.deadlineAt && isUuid parent.attemptId && isDigest parent.assertionDigest
  | .role parent =>
    executionRefSchema isUuid parent.execution && isOperationKey parent.operationKey &&
      isDigest parent.fingerprint && epoch parent.deadlineAt &&
      parent.issuer = parent.execution.executor &&
      parent.operationKey = parent.execution.operationKey &&
      parent.fingerprint = parent.execution.fingerprint &&
      parent.deadlineAt = parent.execution.deadlineAt

/-- Every verifier builds the parent from fields that it has parsed. -/
structure VerifiedParentExecution (isUuid : String → Bool) where
  retained : RetainedParentExecution
  parsed : retainedParentExecutionSchema isUuid retained = true

structure FingerprintInput where
  kind : String
  operationFingerprint : String
  deadlineAt : ℚ
  parent : Option RetainedParentExecution

/-- `OPS_KIND_POLICIES` and `futureBudgets`, the UUID format and the digest. -/
structure Ports where
  timeoutMs : String → Option ℚ
  futureBudgets : String → Option ℚ
  isUuid : String → Bool
  executionFingerprint : FingerprintInput → String

structure ExecutionInput (isUuid : String → Bool) where
  operationFingerprint : String
  operationKey : String
  kind : String
  admittedAt : ℚ
  requestedDeadlineAt : Option ℚ
  parent : Option (VerifiedParentExecution isUuid)
  deploymentBudgetMs : Option ℚ

structure NormalizedAdmission where
  admittedAt : ℚ
  deadlineAt : ℚ
  fingerprint : String
  deriving DecidableEq

structure RetainedExecutionAdmission where
  executionVersion : ℚ
  admittedAt : ℚ
  deadlineAt : ℚ
  operationFingerprint : String
  fingerprint : String
  requestedDeadlineAt : Option ℚ
  parent : Option RetainedParentExecution
  deploymentBudgetMs : ℚ
  deriving DecidableEq

def OPS_MAX_EXECUTION_MS : ℚ := 604800000

def TRANSFERS : List String :=
  ["artifactTransfer.import", "artifactTransfer.export", "artifactTransfer.validate"]

/-- `Math.min`, where a parent that is absent counts as `Infinity`. -/
def deadlineOf (own : ℚ) (parent : Option ℚ) (last : ℚ) : ℚ :=
  match parent with
  | some deadline => min own (min deadline last)
  | none => min own last

section

variable (ports : Ports)

def opsExecutionBudget (kind : String) : Except String ℚ :=
  match (ports.timeoutMs kind).or (ports.futureBudgets kind) with
  | some processMs => if processMs = 0 then .error "Unknown execution kind" else .ok processMs
  | none => .error "Unknown execution kind"

def opsExecutionMaximumMs (kind : String) : Except String ℚ :=
  if kind ∈ TRANSFERS then .ok OPS_MAX_EXECUTION_MS else opsExecutionBudget ports kind

def normalizeExecutionAdmission (input : ExecutionInput ports.isUuid) :
    Except String NormalizedAdmission := do
  let budget ← opsExecutionBudget ports input.kind
  let deploymentBudget := input.deploymentBudgetMs.getD budget
  if !epoch input.admittedAt || !isDigest input.operationFingerprint ||
      !isOperationKey input.operationKey || !isSafeInteger deploymentBudget ||
      deploymentBudget ≤ 0 || input.requestedDeadlineAt.any (!epoch ·) ||
      (input.parent.isSome && input.requestedDeadlineAt.isNone) then
    .error "Invalid execution admission"
  else do
    let maximum ← opsExecutionMaximumMs ports input.kind
    let parent := input.parent.map (·.retained)
    let deadlineAt := deadlineOf (input.requestedDeadlineAt.getD (input.admittedAt + budget))
      (parent.map (·.deadlineAt)) (input.admittedAt + min maximum deploymentBudget)
    if !epoch deadlineAt || deadlineAt ≤ input.admittedAt then .error "Elapsed execution deadline"
    else .ok ⟨input.admittedAt, deadlineAt, ports.executionFingerprint
      ⟨input.kind, input.operationFingerprint, deadlineAt, parent⟩⟩

def validateRetainedExecutionAdmission (kind : String) (input : RetainedExecutionAdmission) :
    Except String Unit := do
  let budget ← opsExecutionBudget ports kind
  if input.parent.any (!retainedParentExecutionSchema ports.isUuid ·) then
    .error "Invalid parent"
  else do
    let maximum ← opsExecutionMaximumMs ports kind
    if input.executionVersion ≠ 2 || !epoch input.admittedAt || !epoch input.deadlineAt ||
        !isSafeInteger input.deploymentBudgetMs || input.deploymentBudgetMs ≤ 0 ||
        maximum < input.deploymentBudgetMs || input.requestedDeadlineAt.any (!epoch ·) ||
        (input.parent.isSome && input.requestedDeadlineAt.isNone) ||
        input.deadlineAt ≤ input.admittedAt ||
        input.deadlineAt ≠ deadlineOf (input.requestedDeadlineAt.getD (input.admittedAt + budget))
          (input.parent.map (·.deadlineAt)) (input.admittedAt + input.deploymentBudgetMs) ||
        input.fingerprint ≠ ports.executionFingerprint
          ⟨kind, input.operationFingerprint, input.deadlineAt, input.parent⟩ then
      .error "Invalid retained execution"
    else .ok ()

end

def issuerJson : ControlIssuer → Json
  | .opsAgent => .string "ops-agent"
  | .dataManager => .string "data-manager"
  | .hostCli => .string "host-cli"

def principalJson : Principal → Json
  | .api => .string "api"
  | .dataManager => .string "data-manager"
  | .hostCli => .string "host-cli"

def refJson (ref : ExecutionRef) : Json :=
  .object [("executor", issuerJson ref.executor), ("principal", principalJson ref.principal),
    ("executionId", .string ref.executionId), ("operationKey", .string ref.operationKey),
    ("operationFingerprint", .string ref.operationFingerprint),
    ("fingerprint", .string ref.fingerprint), ("deadlineAt", .number ref.deadlineAt)]

def parentJson : RetainedParentExecution → Json
  | .api parent => .object [("issuer", .string "api"), ("apiJobId", .string parent.apiJobId),
      ("apiOwnerVersion", .number parent.apiOwnerVersion),
      ("operationKey", .string parent.operationKey), ("fingerprint", .string parent.fingerprint),
      ("deadlineAt", .number parent.deadlineAt), ("attemptId", .string parent.attemptId),
      ("assertionDigest", .string parent.assertionDigest)]
  | .role parent => .object [("issuer", issuerJson parent.issuer),
      ("execution", refJson parent.execution), ("operationKey", .string parent.operationKey),
      ("fingerprint", .string parent.fingerprint), ("deadlineAt", .number parent.deadlineAt)]

/-- A member that is `undefined` is not written. -/
def optionalMember (name : String) (value : Option Json) : List (String × Json) :=
  (value.map (name, ·)).toList

def retainedJson (record : RetainedExecutionAdmission) : Json :=
  .object ([("executionVersion", .number record.executionVersion),
      ("admittedAt", .number record.admittedAt), ("deadlineAt", .number record.deadlineAt),
      ("operationFingerprint", .string record.operationFingerprint),
      ("fingerprint", .string record.fingerprint),
      ("deploymentBudgetMs", .number record.deploymentBudgetMs)] ++
    optionalMember "requestedDeadlineAt" (record.requestedDeadlineAt.map .number) ++
    optionalMember "parent" (record.parent.map parentJson))

def textAt (json : Json) (name : String) : Option String :=
  match json.member name with
  | some (.string text) => some text
  | _ => none

def numberAt (json : Json) (name : String) : Option ℚ :=
  match json.member name with
  | some (.number value) => some value
  | _ => none

def issuerAt (json : Json) (name : String) : Option ControlIssuer :=
  match textAt json name with
  | some "ops-agent" => some .opsAgent
  | some "data-manager" => some .dataManager
  | some "host-cli" => some .hostCli
  | _ => none

def principalAt (json : Json) (name : String) : Option Principal :=
  match textAt json name with
  | some "api" => some .api
  | some "data-manager" => some .dataManager
  | some "host-cli" => some .hostCli
  | _ => none

def readRef (json : Json) : Option ExecutionRef := do
  some ⟨← issuerAt json "executor", ← principalAt json "principal", ← textAt json "executionId",
    ← textAt json "operationKey", ← textAt json "operationFingerprint",
    ← textAt json "fingerprint", ← numberAt json "deadlineAt"⟩

def readParent (json : Json) : Option RetainedParentExecution :=
  if textAt json "issuer" = some "api" then do
    some (.api ⟨← textAt json "apiJobId", ← numberAt json "apiOwnerVersion",
      ← textAt json "operationKey", ← textAt json "fingerprint", ← numberAt json "deadlineAt",
      ← textAt json "attemptId", ← textAt json "assertionDigest"⟩)
  else do
    some (.role ⟨← issuerAt json "issuer", ← readRef (← json.member "execution"),
      ← textAt json "operationKey", ← textAt json "fingerprint", ← numberAt json "deadlineAt"⟩)

def optionalAt {Value : Type} (json : Json) (name : String) (read : Json → Option Value) :
    Option (Option Value) :=
  match json.member name with
  | none => some none
  | some value => (read value).map some

def numberOf : Json → Option ℚ
  | .number value => some value
  | _ => none

def readRetained (json : Json) : Option RetainedExecutionAdmission := do
  some ⟨← numberAt json "executionVersion", ← numberAt json "admittedAt",
    ← numberAt json "deadlineAt", ← textAt json "operationFingerprint",
    ← textAt json "fingerprint", ← optionalAt json "requestedDeadlineAt" numberOf,
    ← optionalAt json "parent" readParent, ← numberAt json "deploymentBudgetMs"⟩

theorem read_ref (ref : ExecutionRef) : readRef (refJson ref) = some ref := by
  obtain ⟨executor, principal, _, _, _, _, _⟩ := ref
  cases executor <;> cases principal <;> rfl

theorem read_parent (parent) : readParent (parentJson parent) = some parent := by
  cases parent with
  | api parent => rfl
  | role parent =>
    obtain ⟨issuer, execution, _, _, _⟩ := parent
    have ref := read_ref execution
    cases issuer <;> simp [readParent, parentJson, issuerJson, textAt, numberAt, issuerAt,
      Json.member, memberOf, ref]

theorem read_retained (record) : readRetained (retainedJson record) = some record := by
  obtain ⟨_, _, _, _, _, requested, parent, _⟩ := record
  cases requested <;> cases parent <;> simp [readRetained, retainedJson, optionalMember, numberAt,
    textAt, optionalAt, numberOf, Json.member, memberOf, read_parent]

/-- The record of an admission, made of the same inputs. -/
def retainedOf {ports : Ports} (input : ExecutionInput ports.isUuid) (budget deadlineAt : ℚ)
    (fingerprint : String) : RetainedExecutionAdmission where
  executionVersion := 2
  admittedAt := input.admittedAt
  deadlineAt := deadlineAt
  operationFingerprint := input.operationFingerprint
  fingerprint := fingerprint
  requestedDeadlineAt := input.requestedDeadlineAt
  parent := input.parent.map (·.retained)
  deploymentBudgetMs := input.deploymentBudgetMs.getD budget

/-- What an admission has checked, and how it made the deadline and the fingerprint. -/
structure Admitted (ports : Ports) (input : ExecutionInput ports.isUuid) (budget maximum : ℚ)
    (output : NormalizedAdmission) : Prop where
  budgeted : opsExecutionBudget ports input.kind = .ok budget
  limited : opsExecutionMaximumMs ports input.kind = .ok maximum
  admittedAt : epoch input.admittedAt = true
  deployment : isSafeInteger (input.deploymentBudgetMs.getD budget) = true
  positive : 0 < input.deploymentBudgetMs.getD budget
  requested : input.requestedDeadlineAt.any (!epoch ·) = false
  bounded : (input.parent.isSome && input.requestedDeadlineAt.isNone) = false
  readable : epoch output.deadlineAt = true
  later : input.admittedAt < output.deadlineAt
  deadline : output.deadlineAt = deadlineOf
    (input.requestedDeadlineAt.getD (input.admittedAt + budget))
    ((input.parent.map (·.retained)).map (·.deadlineAt))
    (input.admittedAt + min maximum (input.deploymentBudgetMs.getD budget))
  fingerprint : output.fingerprint = ports.executionFingerprint
    ⟨input.kind, input.operationFingerprint, output.deadlineAt, input.parent.map (·.retained)⟩

theorem admitted_of_ok {ports : Ports} {input output}
    (accepted : normalizeExecutionAdmission ports input = .ok output) :
    ∃ budget maximum, Admitted ports input budget maximum output := by
  unfold normalizeExecutionAdmission at accepted
  cases budgeted : opsExecutionBudget ports input.kind with
  | error message =>
    rw [budgeted] at accepted
    cases accepted
  | ok budget =>
    rw [budgeted] at accepted
    simp only [bind, Except.bind] at accepted
    split at accepted
    · cases accepted
    rename_i checked
    cases bounded : opsExecutionMaximumMs ports input.kind with
    | error message =>
      rw [bounded] at accepted
      cases accepted
    | ok maximum =>
      rw [bounded] at accepted
      dsimp only at accepted
      split at accepted
      · cases accepted
      rename_i timely
      cases accepted
      simp only [Bool.or_eq_true, not_or, decide_eq_true_eq, Bool.not_eq_true', Bool.not_eq_false,
        not_le] at checked timely
      obtain ⟨⟨⟨⟨⟨⟨admittedAt, _⟩, _⟩, deployment⟩, positive⟩, requested⟩, bound⟩ := checked
      exact ⟨budget, maximum, budgeted, bounded, admittedAt, deployment, positive,
        Bool.eq_false_iff.mpr requested, Bool.eq_false_iff.mpr bound, timely.1, timely.2, rfl, rfl⟩

/-- Retained again as it is, and as its JSON reads back. -/
def Survives (ports : Ports) (kind : String) (record : RetainedExecutionAdmission) : Prop :=
  validateRetainedExecutionAdmission ports kind record = .ok () ∧
    (readRetained (retainedJson record)).map (validateRetainedExecutionAdmission ports kind) =
      some (.ok ())

theorem survives_iff {ports : Ports} {kind : String} {record} :
    Survives ports kind record ↔ validateRetainedExecutionAdmission ports kind record = .ok () := by
  simp [Survives, read_retained]

theorem error_unless {bad : Bool} {message : String} :
    (if bad then Except.error message else .ok ()) = Except.ok () ↔ bad = false := by
  cases bad <;> simp

theorem retained_iff {ports : Ports} {input} {budget maximum : ℚ} {output}
    (admitted : Admitted ports input budget maximum output) (deadlineAt : ℚ) (fingerprint : String)
    : Survives ports input.kind (retainedOf input budget deadlineAt fingerprint) ↔
      input.deploymentBudgetMs.getD budget ≤ maximum ∧ deadlineAt = output.deadlineAt ∧
        fingerprint = output.fingerprint := by
  have parents : (input.parent.map (·.retained)).any
      (!retainedParentExecutionSchema ports.isUuid ·) = false := by
    cases input.parent with
    | none => rfl
    | some parent => simp [parent.parsed]
  have bounded := admitted.bounded
  have requested := admitted.requested
  have positive := admitted.positive
  rw [survives_iff]
  unfold validateRetainedExecutionAdmission retainedOf
  simp only [admitted.budgeted, admitted.limited, bind, Except.bind, parents, Bool.false_eq_true,
    if_false, error_unless, Bool.or_eq_false_iff, decide_eq_false_iff_not, not_not, not_le, not_lt,
    Bool.not_eq_false', Option.isSome_map]
  constructor
  · rintro ⟨⟨⟨⟨⟨⟨_, fits⟩, _⟩, _⟩, _⟩, deadline⟩, same⟩
    have least : min maximum (input.deploymentBudgetMs.getD budget) =
      input.deploymentBudgetMs.getD budget := min_eq_right fits
    have made : deadlineAt = output.deadlineAt := by
      rw [admitted.deadline, least]
      exact deadline
    subst made
    exact ⟨fits, rfl, same.trans admitted.fingerprint.symm⟩
  · rintro ⟨fits, rfl, rfl⟩
    have deadline := admitted.deadline
    rw [min_eq_right fits] at deadline
    exact ⟨⟨⟨⟨⟨⟨⟨⟨⟨⟨trivial, admitted.admittedAt⟩, admitted.readable⟩, admitted.deployment⟩,
      admitted.positive⟩, fits⟩, admitted.requested⟩, admitted.bounded⟩, admitted.later⟩, deadline⟩,
      admitted.fingerprint⟩

/-- One kind with half a minute, as `system.inspect` has it. -/
def inspection : Ports where
  timeoutMs kind := if kind = "system.inspect" then some 30000 else none
  futureBudgets _ := none
  isUuid _ := false
  executionFingerprint input := input.kind ++ input.operationFingerprint

def inspectionInput (deployment : Option ℚ) : ExecutionInput inspection.isUuid where
  operationFingerprint := "0000000000000000000000000000000000000000000000000000000000000000"
  operationKey := "opk1_0000000000000000"
  kind := "system.inspect"
  admittedAt := 1788220800000
  requestedDeadlineAt := none
  parent := none
  deploymentBudgetMs := deployment

def inspectionOutput : NormalizedAdmission where
  admittedAt := 1788220800000
  deadlineAt := 1788220830000
  fingerprint :=
    "system.inspect0000000000000000000000000000000000000000000000000000000000000000"

end OpenMapX.Ops.ExecutionAdmission
