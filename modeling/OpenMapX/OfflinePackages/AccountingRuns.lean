import OpenMapX.Foundation.Runs
import OpenMapX.OfflinePackages.AccountingCalls

/-!
# Runs of the accounting

Calls of all principals and workers in any order, from empty tables, with a clock that does not
go back.
-/

namespace OpenMapX.OfflinePackages.AccountingRuns

open Foundation.Runs PostgresAccounting AccountingLimits AccountingCalls List

variable (options : Options) (maxRunning : Nat)

structure Limits (now : Int) (tables : Tables) : Prop where
  references : ∀ principal, (referencesOf tables principal).length ≤ options.maxRetainedReferences ∧
    ((referencesOf tables principal).map fun row => row.byteLength).sum ≤ options.maxLogicalBytes
  leases : ∀ later, now ≤ later → globalRunning tables later ≤ maxRunning
  principals : ∀ later, now ≤ later → ∀ principal,
    runningCount tables principal later ≤ options.maxRunningPerPrincipal

structure Rules (tables : Tables) (clock : Nat → Int) : Prop where
  claims : ∀ jobId workerId leaseMs job,
    Allowed options maxRunning tables clock (.claim jobId workerId leaseMs) →
    (claim options maxRunning tables jobId workerId leaseMs clock).1 = true →
    jobsOf tables jobId = some job → running (clock 0) job = true →
    job.leaseOwner = some workerId
  completes : ∀ jobId workerId manifest answer,
    complete options tables jobId workerId manifest clock = .ok answer →
    ∃ job, jobsOf tables jobId = some job ∧ job.status = .preparing ∧ job.leaseOwner = some workerId
  fails : ∀ jobId workerId errorCode errorMessage updatedAtMs next,
    Allowed options maxRunning tables clock
      (.fail jobId (some workerId) errorCode errorMessage updatedAtMs) →
    fail tables jobId (some workerId) errorCode errorMessage updatedAtMs = .ok next →
    next = tables ∨ ∃ job ∈ tables.jobs, job.id = jobId ∧ job.leaseOwner = some workerId
  removes : ∀ packageId storage,
    (removeUnreferencedArtifact tables packageId storage clock).1.2 = true →
    (∀ row ∈ tables.references, row.packageId ≠ packageId) ∧
      ∀ job ∈ tables.jobs, job.status = .preparing → job.packageId ≠ packageId
  throws : ∀ call ends failure, perform options maxRunning tables clock call = .error failure →
    ∀ now, (step options maxRunning ⟨tables, now⟩ ⟨call, clock, ends⟩).tables = tables

def Guard (state : State) (event : Event) : Prop :=
  Timed state.now event.ends event.clock ∧
    Allowed options maxRunning state.tables event.clock event.call

theorem unreferenced_single {tables : Tables} {packageId : String}
    (free : (unreferenced tables [packageId]).isEmpty = false) :
    (∀ row ∈ tables.references, row.packageId ≠ packageId) ∧
      ∀ job ∈ tables.jobs, job.status = .preparing → job.packageId ≠ packageId := by
  have single : [packageId].eraseDups = [packageId] := by simp [eraseDups_cons]
  unfold unreferenced at free
  rw [single] at free
  by_cases kept : (!(tables.references.any fun row => row.packageId = packageId) &&
      !protectedArtifact tables packageId) = true
  · simp only [protectedArtifact, Bool.and_eq_true, Bool.not_eq_true', any_eq_false,
      decide_eq_true_eq, not_and] at kept
    apply And.intro kept.1
    exact fun job member preparing package => kept.2 job member package preparing
  · rw [filter_cons, if_neg kept] at free
    cases free

theorem tables_rules (tables : Tables) (clock : Nat → Int) :
    Rules options maxRunning tables clock := by
  apply Rules.mk
  · intro jobId workerId leaseMs job allowed claimed found live
    by_cases own : job.leaseOwner = some workerId
    · exact own
    · exfalso
      have refused := allowed job found live own
      unfold claim at claimed
      rw [found] at claimed
      simp only at claimed
      split at claimed
      · cases claimed
      · split at claimed
        · rename_i mine
          exact own mine.1
        · split at claimed
          · cases claimed
          · rename_i room
            split at claimed
            · cases claimed
            · rename_i free
              rcases refused with full | busy
              · exact room full
              · exact free busy
  · intro jobId workerId manifest answer completed
    unfold complete at completed
    split at completed
    · cases completed
    · rename_i job found
      split at completed
      · cases completed
      · rename_i mine
        simp only [not_or, not_not] at mine
        exact ⟨job, found, mine.1, mine.2⟩
  · intro jobId workerId errorCode errorMessage updatedAtMs next named failed
    unfold fail endJob at failed
    obtain ⟨updatedAt, -, failed⟩ := bind_ok failed
    split at failed
    · exact Or.inl (Except.ok.inj failed).symm
    · rename_i job found
      apply Or.inr
      have matched := find?_some found
      have given : (some workerId).filter (· ≠ "") = some workerId := by
        have other : workerId ≠ "" := fun same => named (congrArg some same)
        simp [Option.filter, other]
      simp only [given, Bool.and_eq_true, decide_eq_true_eq] at matched
      exact ⟨job, mem_of_find?_eq_some found, matched.1.1, matched.2⟩
  · intro packageId storage asked
    unfold removeUnreferencedArtifact at asked
    split at asked
    · cases asked
    · rename_i free
      apply unreferenced_single
      simpa using free
  · intro call ends failure thrown now
    unfold step
    rw [thrown]

theorem step_sound (state : State) (event : Event) (guard : Guard options maxRunning state event)
    (sound : Sound options maxRunning state.now state.tables) :
    Sound options maxRunning (step options maxRunning state event).now
      (step options maxRunning state event).tables := by
  unfold step
  split
  · rename_i answer next result
    exact perform_sound guard.1 sound guard.2 result
  · exact ⟨sound.retained, sound.leases.later guard.1.passes⟩

theorem empty_sound (now : Int) : Sound options maxRunning (empty now).now (empty now).tables := by
  apply Sound.mk
  · apply Retained.mk
    · exact nodup_nil
    · intro row member
      cases member
    · exact fun principal => Nat.zero_le _
    · intro principal
      simp [retainedBytes, empty]
  · apply Leases.mk
    · exact nodup_nil
    · exact Nat.zero_le _
    · exact fun principal => Nat.zero_le _

section

variable {tables : Tables} {clock : Nat → Int} {jobId workerId : String} {leaseMs : Int}

theorem claim_unleased (idle : (jobsOf tables jobId).all (fun job => !running (clock 0) job) = true) :
    Allowed options maxRunning tables clock (.claim jobId workerId leaseMs) := by
  intro job found live
  rw [found, Option.all_some, live] at idle
  cases idle

theorem renew_leased (live : (renewable tables jobId workerId).all (leased (clock 0)) = true) :
    Allowed options maxRunning tables clock (.renew jobId workerId leaseMs) := by
  intro job found
  rw [found, Option.all_some] at live
  exact Or.inl live

end

theorem timed_moment {now ends : Int} (passes : now ≤ ends) : Timed now ends fun _ => ends :=
  ⟨passes, fun _ _ _ => le_refl ends, fun _ => le_refl ends⟩

def principal : String := "aaaaaaaaaaaaaaaaaaaaaaaaaaaaaaaaaaaaaaaaaaaaaaaaaaaaaaaaaaaaaaaa"

def candidate (jobId requestKey packageId : String) : OfflinePackageJobRecord :=
  ⟨jobId, requestKey, .preparing, some packageId, none, none, none, 0, 0⟩

def north : OfflinePackageJobRecord :=
  candidate "00000000-0000-4000-8000-000000000001" "north" "omp2-north"

def south : OfflinePackageJobRecord :=
  candidate "00000000-0000-4000-8000-000000000002" "south" "omp2-south"

def newArtifact : AdmissionCall := ⟨none, .ok none, none⟩

def limits (maxRunningPerPrincipal : Nat) : Options where
  maxRunningPerPrincipal := maxRunningPerPrincipal
  maxQueuedPerPrincipal := 2
  maxRetainedReferences := 5
  maxLogicalBytes := 5368709120
  maxGlobalQueued := 64
  maxTrackedJobs := 1024
  terminalRetentionMs := 86400000
  collation left right := decide (left ≤ right)

def moment (now : Int) (call : Call) : Event := ⟨call, fun _ => now, now⟩

def admitted : List Event :=
  [moment 0 (.admission principal north newArtifact), moment 0 (.admission principal south newArtifact),
    moment 0 (.claim north.jobId "worker-a" 60000)]

end OpenMapX.OfflinePackages.AccountingRuns
