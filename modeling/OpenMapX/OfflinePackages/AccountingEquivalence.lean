import OpenMapX.OfflinePackages.AccountingRuns
import OpenMapX.OfflinePackages.AccountingWorkers

/-!
# Equal answers of both stores

Calls are issued one at a time, at an instant in milliseconds that both clocks show. While every
call is one that both stores treat alike, every call is answered alike and all reads agree.
-/

namespace OpenMapX.OfflinePackages.AccountingEquivalence

open Foundation.Runs Foundation.KeyedList List AccountingViews AccountingMatches
  AccountingAdmissions AccountingWorkers
open OfflinePackages.PostgresAccounting (Status ErrorCode OfflineMapPackageManifest
  OfflinePackageJobRecord Failure JobRow Tables Options AdmissionCall Call Answer)
open OfflinePackages.MemoryAccounting (StoredJob Store jobKey)
open OfflinePackages.AccountingRuns (principal north newArtifact limits)

variable (options : Options) (maxRunning : Nat)

structure Both where
  store : Store
  tables : Tables

structure Event where
  call : Call
  now : Int

def memoryAnswer (both : Both) (event : Event) : Except Failure (Answer × Store) :=
  MemoryAccounting.perform (sharedLimits options) maxRunning both.store event.now event.call

def rowsAnswer (both : Both) (event : Event) : Except Failure (Answer × Tables) :=
  PostgresAccounting.perform options maxRunning both.tables (fun _ => event.now * 1000) event.call

def step (both : Both) (event : Event) : Both where
  store := match memoryAnswer options maxRunning both event with
    | .ok (_, next) => next
    | .error _ => both.store
  tables := match rowsAnswer options maxRunning both event with
    | .ok (_, next) => next
    | .error _ => both.tables

def start : Both := ⟨MemoryAccounting.empty, ⟨[], [], []⟩⟩

def SameAnswer : Answer → Answer → Prop
  | .admission left, .admission right => SameAdmission left right
  | .removal left asked, .removal right also => left = right ∧ asked = also
  | .claimed left, .claimed right => left = right
  | .renewed left, .renewed right => left = right
  | .completion left, .completion right => ∀ packageId, packageId ∈ left ↔ packageId ∈ right
  | .done, .done => True
  | _, _ => False

structure SameReads (both : Both) : Prop where
  job : ∀ principal jobId,
    (MemoryAccounting.getOwnedJob both.store principal jobId).map
        (Option.map fun job => job.status) =
      (PostgresAccounting.getOwnedJob both.tables principal jobId).map
        (Option.map fun job => job.status)
  usage : ∀ principal, MemoryAccounting.retainedUsage both.store principal =
    PostgresAccounting.retainedUsage both.tables principal
  reference : ∀ packageId, MemoryAccounting.hasArtifactReference both.store packageId =
    PostgresAccounting.hasArtifactReference both.tables packageId

def SameAnswers (both : Both) (event : Event) : Prop :=
  Matches (fun left right => SameAnswer left.1 right.1) (memoryAnswer options maxRunning both event)
    (rowsAnswer options maxRunning both event)

def Unlimited (both : Both) (event : Event) : Prop := Unreached options both.tables event.now

def Alike (both : Both) (event : Event) : Prop :=
  0 ≤ event.now ∧ match event.call with
  | .admission _ candidate call =>
    Unlimited options both event ∧ Admissible both.tables candidate call
  | .removeUnreferencedArtifact packageId _ => Proper packageId
  | .claim _ _ _ => True
  | .renew _ _ _ => True
  | .complete _ _ manifest => Proper manifest.packageId ∧
      0 ≤ manifest.byteLength ∧ manifest.byteLength ≤ 9007199254740991
  | .fail _ _ _ _ updatedAtMs => updatedAtMs.natAbs ≤ 8640000000000000
  | .expire jobId updatedAtMs => updatedAtMs.natAbs ≤ 8640000000000000 ∧
      ∀ job ∈ both.tables.jobs, job.id = jobId → job.status ≠ .preparing
  | .removeTerminal _ => True

theorem matches_map {First Second : Type} {after : First → Second → Prop}
    {left : Except Failure (First × Store)} {right : Except Failure (Second × Tables)}
    {give : First → Answer} {take : Second → Answer}
    (outcomes : Matches (fun first second => after first.1 second.1 ∧ Related first.2 second.2)
      left right)
    (same : ∀ first second, after first second → SameAnswer (give first) (take second)) :
    Matches (fun first second => SameAnswer first.1 second.1 ∧ Related first.2 second.2)
      (left.map fun (answer, next) => (give answer, next))
      (right.map fun (answer, next) => (take answer, next)) := by
  rcases matches_cases outcomes with failed | done
  · obtain ⟨failure, first, second⟩ := failed
    rw [first, second]
    rfl
  · obtain ⟨first, second, memory, rows, both⟩ := done
    rw [memory, rows]
    exact ⟨same _ _ both.1, both.2⟩

theorem call_matches {both : Both} {event : Event} (alike : Alike options both event)
    (related : Related both.store both.tables) :
    Matches (fun left right => SameAnswer left.1 right.1 ∧ Related left.2 right.2)
      (memoryAnswer options maxRunning both event) (rowsAnswer options maxRunning both event) := by
  obtain ⟨call, now⟩ := event
  obtain ⟨positive, alike⟩ := alike
  unfold memoryAnswer rowsAnswer
  cases call with
  | admission principal candidate admission =>
    exact matches_map (admission_matches related positive alike.1 alike.2) fun _ _ same => same
  | removeUnreferencedArtifact packageId storage =>
    have answered := @removal_answers both.store both.tables now related packageId alike storage
    exact ⟨⟨congrArg Prod.fst answered.1, congrArg Prod.snd answered.1⟩, answered.2⟩
  | claim jobId workerId leaseMs =>
    exact claim_answers related positive maxRunning jobId workerId leaseMs
  | renew jobId workerId leaseMs => exact renew_answers related jobId workerId leaseMs
  | complete jobId workerId manifest =>
    exact @matches_map _ _ (fun left right => ∀ packageId, packageId ∈ left ↔ packageId ∈ right)
      _ _ Answer.completion Answer.completion
      (complete_matches related jobId workerId alike.1 alike.2) fun _ _ same => same
  | fail jobId workerId errorCode errorMessage updatedAtMs =>
    obtain ⟨next, failed, kept⟩ := fail_related related jobId workerId errorCode errorMessage alike
    unfold MemoryAccounting.perform PostgresAccounting.perform
    simp only
    rw [failed]
    exact ⟨trivial, kept⟩
  | expire jobId updatedAtMs =>
    obtain ⟨next, expired, kept⟩ := expire_related related jobId alike.1 alike.2
    unfold MemoryAccounting.perform PostgresAccounting.perform
    simp only
    rw [expired]
    exact ⟨trivial, kept⟩
  | removeTerminal jobId => exact ⟨trivial, remove_terminal_related related jobId⟩

theorem step_related (both : Both) (event : Event) (alike : Alike options both event)
    (related : Related both.store both.tables) : Related (step options maxRunning both event).store
      (step options maxRunning both event).tables := by
  have outcomes := call_matches options maxRunning alike related
  unfold step
  rcases matches_cases outcomes with failed | done
  · obtain ⟨failure, first, second⟩ := failed
    rw [first, second]
    exact related
  · obtain ⟨first, second, memory, rows, kept⟩ := done
    rw [memory, rows]
    exact kept.2

variable {options maxRunning}

theorem related_reads {both : Both} (related : Related both.store both.tables) :
    SameReads both := by
  apply SameReads.mk
  · intro principal jobId
    unfold MemoryAccounting.getOwnedJob PostgresAccounting.getOwnedJob
    split
    · rw [find_guarded related]
      rcases job_views related jobId with unknown | known
      · rw [unknown.1, unknown.2]
        rfl
      · obtain ⟨stored, row, memory, rows, found⟩ := known
        have id := found.id
        have status := found.status
        have owned := related.owners stored found.inside principal
        rw [memory, rows, Option.filter_some, Option.filter_some]
        unfold PostgresAccounting.ownedBy
        rw [id]
        by_cases own : principal ∈ stored.owners
        · rw [if_pos (decide_eq_true own), if_pos (decide_eq_true (owned.mp own))]
          exact congrArg (fun status => Except.ok (some status)) status
        · rw [if_neg (by simpa using own), if_neg (by simpa [← owned] using own)]
          rfl
    · rfl
  · intro principal
    unfold MemoryAccounting.retainedUsage PostgresAccounting.retainedUsage
    rw [← related.references principal, length_map, map_map]
    rfl
  · exact referenced_views related

theorem start_related : Related start.store start.tables := by
  refine ⟨rfl, nodup_nil, ?_, ?_, ?_, nodup_nil, ?_, fun _ => rfl, nodup_nil,
    fun _ => nodup_nil, ?_⟩
  · intro stored member
    cases member
  · intro stored member
    cases member
  · intro row member
    cases member
  · intro stored member
    cases member
  · intro principal ref member
    cases member

theorem proper_package {packageId : String} (starts : packageId.toList.head? = some 'o') :
    Proper packageId := by
  intro jobId same
  rw [same, String.toList_append] at starts
  simp at starts

theorem unreached_of {tables : Tables} {now : Int}
    (recent : (tables.jobs.all fun job => job.status = .preparing ||
      now * 1000 - (limits 1).terminalRetentionMs * 1000 ≤ job.updatedAt) = true)
    (queued : tables.jobs.countP (PostgresAccounting.waiting (now * 1000)) < 64)
    (tracked : tables.jobs.length < 1024) : Unreached (limits 1) tables now := by
  refine ⟨by decide, ?_, queued, tracked⟩
  intro job member through
  have own := all_eq_true.mp recent job member
  rw [decide_eq_false through, Bool.false_or] at own
  exact of_decide_eq_true own

def admission : Event := ⟨.admission principal north newArtifact, 0⟩

def northManifest : OfflineMapPackageManifest := ⟨"omp2-north", "north", 1000⟩

def built : List Event :=
  [admission, ⟨.claim north.jobId "worker-a" 60000, 1⟩,
    ⟨.complete north.jobId "worker-a" northManifest, 2⟩]

end OpenMapX.OfflinePackages.AccountingEquivalence
