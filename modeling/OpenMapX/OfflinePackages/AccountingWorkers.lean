import OpenMapX.OfflinePackages.AccountingAdmissions

/-!
# Workers in both stores

A job that one store finds under an id is the one that the other finds, so the calls on one job
answer and change alike.
-/

namespace OpenMapX.OfflinePackages.AccountingWorkers

open Foundation.KeyedList AccountingViews AccountingMatches List AccountingAdmissions
open OfflinePackages.PostgresAccounting (Status ErrorCode OfflineMapPackageManifest
  OfflinePackageJobRecord Failure JobRow ReferenceRow Tables Options OfflinePackageArtifactAccess)
open OfflinePackages.MemoryAccounting (StoredJob ArtifactReference PrincipalReferences
  Store jobKey)

variable {options : Options} {store : Store} {tables : Tables} {now : Int}

variable (related : Related store tables)
include related

theorem job_views (jobId : String) :
    (findKey jobKey store.jobs jobId = none ∧ PostgresAccounting.jobsOf tables jobId = none) ∨
    ∃ stored row, findKey jobKey store.jobs jobId = some stored ∧
      PostgresAccounting.jobsOf tables jobId = some row ∧ Found store tables stored row := by
  apply find_views related fun view => decide (view.id = jobId)
  · exact fun stored _ => rfl
  · exact fun row => rfl

theorem row_unique {row other : JobRow} (member : row ∈ tables.jobs) (inside : other ∈ tables.jobs)
    (same : row.id = other.id) : row = other := by
  have ids : (tables.jobs.map fun job => job.id).Nodup := by
    rw [← job_ids related]
    exact related.ids
  exact inj_on_of_nodup_map ids member inside same

theorem find_guarded {jobId : String} (asked : JobRow → Bool) :
    (tables.jobs.find? fun job => job.id = jobId && asked job) =
      (PostgresAccounting.jobsOf tables jobId).filter asked := by
  cases found : PostgresAccounting.jobsOf tables jobId with
  | none =>
    rw [Option.filter_none, find?_eq_none]
    intro job member both
    rw [Bool.and_eq_true] at both
    exact find?_eq_none.mp found job member both.1
  | some row =>
    have member := mem_of_find?_eq_some found
    have own : row.id = jobId := by
      unfold PostgresAccounting.jobsOf at found
      exact of_decide_eq_true
        (@find?_some _ (fun job : JobRow => decide (job.id = jobId)) _ _ found)
    rw [Option.filter_some]
    split
    · rename_i holds
      have present : (tables.jobs.find? fun job => job.id = jobId && asked job).isSome := by
        rw [find?_isSome]
        exact ⟨row, member, by rw [holds, Bool.and_true]; exact decide_eq_true own⟩
      obtain ⟨other, other_found⟩ := Option.isSome_iff_exists.mp present
      have both := find?_some other_found
      rw [Bool.and_eq_true, decide_eq_true_eq] at both
      rw [other_found, row_unique related (mem_of_find?_eq_some other_found) member
        (both.1.trans own.symm)]
    · rename_i fails
      rw [find?_eq_none]
      intro job inside both
      rw [Bool.and_eq_true, decide_eq_true_eq] at both
      apply fails
      rw [← row_unique related inside member (both.1.trans own.symm)]
      exact both.2

omit related

def Answered {Answer : Type} (left : Answer × Store) (right : Answer × Tables) : Prop :=
  left.1 = right.1 ∧ Related left.2 right.2

theorem lease_related (related : Related store tables) (jobId : String)
    (owner : StoredJob → Option String) (row_owner : JobRow → Option String)
    (view_owner : View → Option String) (leaseMs : Int) (touched : JobRow → Int)
    (memory : ∀ stored, owner stored = view_owner (storedView stored))
    (rows : ∀ row, row_owner row = view_owner (rowView row)) :
    Related (MemoryAccounting.updateJob store jobId fun stored =>
        { stored with leaseOwner := owner stored, leaseExpiresAtMs := some (now + leaseMs) })
      (PostgresAccounting.updateJob tables jobId fun row =>
        { row with
          leaseOwner := row_owner row
          leaseExpiresAt := some (now * 1000 + leaseMs * 1000)
          updatedAt := touched row }) := by
  apply related.update jobId _ _ fun view =>
    { view with
      leaseOwner := view_owner view
      leaseExpiresAt := some (now * 1000 + leaseMs * 1000) }
  · intro stored
    unfold storedView
    simp only [Option.map_some]
    rw [memory stored, Int.add_mul]
    rfl
  · intro row
    unfold rowView
    simp only
    rw [rows row]
    rfl
  · exact fun stored => rfl
  · exact fun stored => rfl
  · exact fun stored member packageId given => related.packages stored member packageId given

theorem owners_views (related : Related store tables) {stored} (member : stored ∈ store.jobs)
    (principal : String) : principal ∈ PostgresAccounting.ownersOf options tables (jobKey stored) ↔
      principal ∈ stored.owners := by
  rw [related.owners stored member]
  unfold PostgresAccounting.ownersOf
  rw [(perm_insertionSort _ _).mem_iff, mem_map]
  constructor
  · intro found
    obtain ⟨row, inside, own⟩ := found
    rw [mem_filter, decide_eq_true_eq] at inside
    rw [← own, ← inside.2]
    exact inside.1
  · intro owned
    refine ⟨_, mem_filter.mpr ⟨owned, ?_⟩, rfl⟩
    simp

variable (related : Related store tables)
include related

theorem busy_views (positive : 0 ≤ now) (reading : Nat) (principals : List String) :
    PostgresAccounting.ownerBusy options tables (fun _ => now * 1000) reading principals =
      principals.any fun principal => (sharedLimits options).maxRunning ≤
        MemoryAccounting.runningCount store principal now := by
  induction principals generalizing reading with
  | nil => rfl
  | cons principal rest ih =>
    unfold PostgresAccounting.ownerBusy
    rw [ih, any_cons, running_counts related positive]
    rfl

theorem claim_answers (positive : 0 ≤ now) (maxRunning : Nat)
    (jobId workerId : String) (leaseMs : Int) : Answered
      (MemoryAccounting.claim (sharedLimits options) maxRunning store jobId workerId leaseMs now)
      (PostgresAccounting.claim options maxRunning tables jobId workerId leaseMs
        fun _ => now * 1000) := by
  unfold MemoryAccounting.claim PostgresAccounting.claim
  rcases job_views related jobId with unknown | known
  · rw [unknown.1, unknown.2]
    exact ⟨rfl, related⟩
  · obtain ⟨stored, row, memory, rows, found⟩ := known
    have key : jobKey stored = jobId := (find_key_mem memory).2
    have status := found.status
    have worker := found.worker
    have live : MemoryAccounting.leased now stored =
        PostgresAccounting.leased (now * 1000) row := by
      rw [stored_leased positive, row_leased, found.same]
    have busy : PostgresAccounting.ownerBusy options tables (fun _ => now * 1000) 2
        (PostgresAccounting.ownersOf options tables jobId) = stored.owners.any fun principal =>
          (sharedLimits options).maxRunning ≤
            MemoryAccounting.runningCount store principal now := by
      rw [busy_views related positive, Bool.eq_iff_iff, any_eq_true, any_eq_true, ← key]
      constructor
      · intro some_busy
        obtain ⟨principal, member, much⟩ := some_busy
        exact ⟨principal, (owners_views related found.inside principal).mp member, much⟩
      · intro some_busy
        obtain ⟨principal, member, much⟩ := some_busy
        exact ⟨principal, (owners_views related found.inside principal).mpr member, much⟩
    have leased := @lease_related store tables now related jobId (fun _ => some workerId)
      (fun _ => some workerId) (fun _ => some workerId) leaseMs (fun _ => now * 1000)
      (fun _ => rfl) (fun _ => rfl)
    rw [memory, rows]
    simp only
    rw [status, worker, live, global_counts related positive, ← busy]
    split
    · exact ⟨rfl, related⟩
    · split
      · exact ⟨rfl, related⟩
      · split
        · exact ⟨rfl, related⟩
        · split
          · exact ⟨rfl, related⟩
          · exact ⟨rfl, leased⟩

theorem renew_answers (jobId workerId : String) (leaseMs : Int) :
    Answered (MemoryAccounting.renew store jobId workerId leaseMs now)
      (PostgresAccounting.renew tables jobId workerId leaseMs fun _ => now * 1000) := by
  have search : PostgresAccounting.renewable tables jobId workerId =
      (PostgresAccounting.jobsOf tables jobId).filter fun job =>
        decide (job.status = .preparing) && decide (job.leaseOwner = some workerId) := by
    rw [← find_guarded related]
    unfold PostgresAccounting.renewable
    apply find?_congr
    intro job _
    exact Bool.and_assoc _ _ _
  have leased := @lease_related store tables now related jobId StoredJob.leaseOwner
    JobRow.leaseOwner View.leaseOwner leaseMs JobRow.updatedAt (fun _ => rfl) (fun _ => rfl)
  unfold MemoryAccounting.renew PostgresAccounting.renew
  rw [search]
  rcases job_views related jobId with unknown | known
  · rw [unknown.1, unknown.2]
    exact ⟨rfl, related⟩
  · obtain ⟨stored, row, memory, rows, found⟩ := known
    have key : row.id = jobId := found.id.trans (find_key_mem memory).2
    have status := found.status
    have worker := found.worker
    rw [memory, rows, Option.filter_some]
    simp only
    rw [status, worker]
    by_cases preparing : row.status = .preparing
    · by_cases own : row.leaseOwner = some workerId
      · rw [if_neg (by simp [preparing, own]), if_pos (by simp [preparing, own])]
        simp only
        rw [key]
        exact ⟨rfl, leased⟩
      · rw [if_pos (Or.inr own), if_neg (by simp [own])]
        exact ⟨rfl, related⟩
    · rw [if_pos (Or.inl preparing), if_neg (by simp [preparing])]
      exact ⟨rfl, related⟩

section

variable (jobId : String)

theorem end_related (errorCode : Option ErrorCode)
    (errorMessage : String) (updatedAtMs updatedAt : Int) :
    Related (MemoryAccounting.updateJob store jobId fun stored => { stored with
          record := { stored.record with
            status := .failed
            errorCode
            errorMessage := some errorMessage
            updatedAtMs }
          leaseOwner := none
          leaseExpiresAtMs := none })
      (PostgresAccounting.updateJob tables jobId fun row =>
        { row with status := .failed, errorCode, errorMessage := some errorMessage, updatedAt
                   leaseOwner := none, leaseExpiresAt := none }) := by
  apply related.update jobId _ _ fun view =>
    { view with status := .failed, leaseOwner := none, leaseExpiresAt := none }
  · exact fun stored => rfl
  · exact fun row => rfl
  · exact fun stored => rfl
  · exact fun stored => rfl
  · exact fun stored member packageId given => related.packages stored member packageId given

theorem fail_related (workerId : Option String) (errorCode : Option ErrorCode)
    (errorMessage : String) {updatedAtMs : Int} (valid : updatedAtMs.natAbs ≤ 8640000000000000) :
    ∃ next, PostgresAccounting.fail tables jobId workerId errorCode errorMessage updatedAtMs =
        .ok next ∧
      Related (MemoryAccounting.fail store jobId workerId errorCode errorMessage updatedAtMs)
        next := by
  have search : PostgresAccounting.endable tables jobId workerId =
      (PostgresAccounting.jobsOf tables jobId).filter fun job =>
        decide (job.status = .preparing) &&
          (workerId.filter (· ≠ "")).all fun worker => decide (job.leaseOwner = some worker) := by
    rw [← find_guarded related]
    unfold PostgresAccounting.endable
    apply find?_congr
    intro job _
    rw [← Bool.and_assoc]
    cases workerId.filter (· ≠ "") with
    | none => rfl
    | some worker => rfl
  have ended := end_related related jobId errorCode errorMessage updatedAtMs (updatedAtMs * 1000)
  unfold MemoryAccounting.fail PostgresAccounting.fail PostgresAccounting.endJob
  rw [timestamp_valid valid, search]
  rcases job_views related jobId with unknown | known
  · rw [unknown.1, unknown.2]
    exact ⟨tables, rfl, related⟩
  · obtain ⟨stored, row, memory, rows, found⟩ := known
    have key : row.id = jobId := found.id.trans (find_key_mem memory).2
    have status := found.status
    have worker := found.worker
    rw [memory, rows, Option.filter_some]
    simp only
    rw [status, worker]
    by_cases preparing : row.status = .preparing
    · rw [if_neg (not_not.mpr preparing), decide_eq_true preparing, Bool.true_and]
      cases given : workerId.filter (· ≠ "") with
      | none =>
        rw [Option.all_none, if_pos rfl, if_neg (by simp)]
        refine ⟨_, rfl, ?_⟩
        rw [key]
        exact ended
      | some name =>
        rw [Option.all_some]
        have same : workerId = some name := (Option.filter_eq_some_iff.mp given).1
        rw [same]
        by_cases own : row.leaseOwner = some name
        · rw [if_pos (by simpa using own), if_neg (by simp [own])]
          refine ⟨_, rfl, ?_⟩
          rw [key]
          exact ended
        · rw [if_neg (by simpa using own), if_pos (by simp [own])]
          exact ⟨tables, rfl, related⟩
    · rw [if_pos preparing, decide_eq_false preparing, Bool.false_and, if_neg Bool.false_ne_true]
      exact ⟨tables, rfl, related⟩

theorem expire_related {updatedAtMs : Int} (valid : updatedAtMs.natAbs ≤ 8640000000000000)
    (through : ∀ job ∈ tables.jobs, job.id = jobId → job.status ≠ .preparing) :
    ∃ next, PostgresAccounting.expire tables jobId updatedAtMs = .ok next ∧
      Related (MemoryAccounting.expire store jobId updatedAtMs) next := by
  have none_ends : PostgresAccounting.endable tables jobId none = none := by
    unfold PostgresAccounting.endable
    rw [find?_eq_none]
    intro job member both
    rw [Bool.and_eq_true, Bool.and_eq_true, decide_eq_true_eq, decide_eq_true_eq] at both
    exact through job member both.1.1 both.1.2
  have same : MemoryAccounting.expire store jobId updatedAtMs = store := by
    unfold MemoryAccounting.expire MemoryAccounting.fail
    rcases job_views related jobId with unknown | known
    · rw [unknown.1]
    · obtain ⟨stored, row, memory, rows, found⟩ := known
      have key : row.id = jobId := found.id.trans (find_key_mem memory).2
      have status := found.status
      rw [memory]
      simp only
      rw [if_pos (by rw [status]; exact through row found.held key)]
  unfold PostgresAccounting.expire PostgresAccounting.endJob
  rw [timestamp_valid valid, none_ends, same]
  exact ⟨tables, rfl, related⟩

theorem remove_terminal_related : Related (MemoryAccounting.removeTerminal store jobId)
      (PostgresAccounting.removeTerminal tables jobId) := by
  have kept_views : (MemoryAccounting.removeTerminal store jobId).jobs.map storedView =
      (PostgresAccounting.removeTerminal tables jobId).jobs.map rowView := by
    have memory : (MemoryAccounting.removeTerminal store jobId).jobs.map storedView =
        (store.jobs.map storedView).filter
          (fun view => !(view.id = jobId && view.status ≠ .preparing)) := by
      rw [filter_map]
      rfl
    have rows : (PostgresAccounting.removeTerminal tables jobId).jobs.map rowView =
        (tables.jobs.map rowView).filter
          (fun view => !(view.id = jobId && view.status ≠ .preparing)) := by
      rw [filter_map]
      rfl
    rw [memory, rows, related.jobs]
  have kept : (MemoryAccounting.removeTerminal store jobId).jobs.Sublist store.jobs :=
    filter_sublist
  have ids : ∀ id, (PostgresAccounting.removeTerminal tables jobId).jobs.any
      (fun job => job.id = id) = true ↔
        id ∈ (MemoryAccounting.removeTerminal store jobId).jobs.map jobKey := by
    intro id
    have shown := congrArg (List.map View.id) kept_views
    rw [map_map, map_map] at shown
    have memory_keys : (MemoryAccounting.removeTerminal store jobId).jobs.map jobKey =
        (PostgresAccounting.removeTerminal tables jobId).jobs.map fun job => job.id := shown
    rw [memory_keys, any_eq_true, mem_map]
    simp only [decide_eq_true_eq]
  refine ⟨kept_views, (kept.map jobKey).nodup related.ids, ?_, ?_, ?_, ?_, ?_, related.references,
    related.principals, related.distinct, related.proper⟩
  · intro stored member principal
    rw [related.owners stored (kept.subset member) principal]
    constructor
    · intro owned
      exact mem_filter.mpr ⟨owned, (ids _).mpr (mem_map_of_mem member)⟩
    · exact fun owned => (mem_filter.mp owned).1
  · exact fun stored member => related.owned stored (kept.subset member)
  · exact fun row member => (ids row.1).mp (mem_filter.mp member).2
  · exact related.once.filter _
  · exact fun stored member => related.packages stored (kept.subset member)

end

omit related

theorem removal_answers (related : Related store tables) {packageId : String}
    (proper : Proper packageId) (storage) :
    Answered (MemoryAccounting.removeUnreferencedArtifact store packageId storage now)
      (PostgresAccounting.removeUnreferencedArtifact tables packageId storage
        fun _ => now * 1000) := by
  have asked : (PostgresAccounting.unreferenced tables [packageId]).isEmpty =
      (MemoryAccounting.isBeingPrepared store packageId ||
        MemoryAccounting.referenced store packageId) := by
    rw [prepared_views related proper, referenced_views related]
    unfold PostgresAccounting.unreferenced
    have single : [packageId].eraseDups = [packageId] := rfl
    rw [single, filter_cons, filter_nil]
    cases PostgresAccounting.protectedArtifact tables packageId with
    | true => simp
    | false =>
      cases tables.references.any fun row => decide (row.packageId = packageId) with
      | true => rfl
      | false => rfl
  unfold MemoryAccounting.removeUnreferencedArtifact PostgresAccounting.removeUnreferencedArtifact
  rw [asked]
  split
  · exact ⟨rfl, related⟩
  · refine ⟨rfl, ?_⟩
    simp only
    split
    · exact invalidate_related related proper now (now * 1000)
    · exact related

section

variable {manifest : OfflineMapPackageManifest} {retainedAtMs : Int}

def outcomeFor (options : Options) (store : Store) (manifest : OfflineMapPackageManifest)
    (retainedAtMs : Int) (principal : String) : List ArtifactReference × List String :=
  match MemoryAccounting.retain (sharedLimits options) store principal manifest retainedAtMs with
  | .ok outcome => outcome
  | .error _ => ([], [])

def Retains (options : Options) (store : Store) (manifest : OfflineMapPackageManifest)
    (retainedAtMs : Int) (principal : String) : Prop :=
  MemoryAccounting.retain (sharedLimits options) store principal manifest retainedAtMs =
    .ok (outcomeFor options store manifest retainedAtMs principal)

theorem retains_or (principal : String) : Retains options store manifest retainedAtMs principal ∨
    MemoryAccounting.retain (sharedLimits options) store principal manifest retainedAtMs =
      .error (.principalQuota "retained artifact budget is full") := by
  unfold Retains outcomeFor
  cases kept : MemoryAccounting.retain (sharedLimits options) store principal manifest
      retainedAtMs with
  | ok outcome => exact Or.inl rfl
  | error failure => exact Or.inr (congrArg _ (retain_error kept))

variable {principals : List String}

theorem plan_done
    (each : ∀ principal ∈ principals, Retains options store manifest retainedAtMs principal) :
    MemoryAccounting.planOwners (sharedLimits options) store manifest retainedAtMs principals =
      .ok (principals.map (fun principal => ⟨principal,
          (outcomeFor options store manifest retainedAtMs principal).1⟩),
        principals.flatMap fun principal =>
          (outcomeFor options store manifest retainedAtMs principal).2) := by
  induction principals with
  | nil => rfl
  | cons principal rest ih =>
    have own := each principal mem_cons_self
    have later := ih fun other member => each other (mem_cons_of_mem principal member)
    unfold Retains at own
    unfold MemoryAccounting.planOwners
    rw [own, later]
    rfl

theorem plan_refused
    (one : ¬ ∀ principal ∈ principals, Retains options store manifest retainedAtMs principal) :
    MemoryAccounting.planOwners (sharedLimits options) store manifest retainedAtMs principals =
      .error (.principalQuota "retained artifact budget is full") := by
  induction principals with
  | nil => exact absurd (fun principal member => by cases member) one
  | cons principal rest ih =>
    unfold MemoryAccounting.planOwners
    cases @retains_or options store manifest retainedAtMs principal with
    | inr refused =>
      rw [refused]
      rfl
    | inl own =>
      have later : ¬ ∀ other ∈ rest, Retains options store manifest retainedAtMs other := by
        intro each
        apply one
        intro other member
        rcases mem_cons.mp member with same | inside
        · rw [same]
          exact own
        · exact each other inside
      have refused := ih later
      unfold Retains at own
      rw [own, refused]
      rfl

theorem retained_rows {principal : String} (agreed : Agreed store tables principal)
    (size : 0 ≤ manifest.byteLength ∧ manifest.byteLength ≤ 9007199254740991 ∧
      manifest.byteLength ≤ options.maxLogicalBytes)
    (own : Retains options store manifest retainedAtMs principal) :
    ∃ rows, PostgresAccounting.retainReference options tables principal manifest.packageId
        manifest.byteLength (retainedAtMs * 1000) = .ok rows ∧
      Retained tables principal manifest.packageId
        (outcomeFor options store manifest retainedAtMs principal) rows := by
  have outcome := @retain_matches options store tables principal manifest retainedAtMs agreed size
  unfold Retains at own
  rw [own] at outcome
  rcases matches_cases outcome with failed | done
  · obtain ⟨failure, impossible, _⟩ := failed
    cases impossible
  · obtain ⟨left, rows, same, changed, retained⟩ := done
    rw [← Except.ok.inj same] at retained
    exact ⟨rows, changed, retained⟩

theorem agreed_after {principal other : String} {next : Tables} {removed evicted}
    (agreed : Agreed store tables other) (apart : other ≠ principal)
    (retained : Retained tables principal manifest.packageId removed (evicted, next)) :
    Agreed store next other := by
  have jobs : next.jobs = tables.jobs := retained.jobs
  refine ⟨?_, agreed.distinct, ?_⟩
  · have same : PostgresAccounting.referencesOf next other =
        PostgresAccounting.referencesOf tables other := retained.others other apart
    rw [same]
    exact agreed.references
  · intro ref member
    rw [agreed.shields ref member]
    unfold PostgresAccounting.protectedArtifact
    rw [jobs]

structure AllRetained (options : Options) (store : Store) (tables : Tables)
    (manifest : OfflineMapPackageManifest) (retainedAtMs : Int) (principals : List String)
    (result : List String × Tables) : Prop where
  jobs : result.2.jobs = tables.jobs
  owners : result.2.owners = tables.owners
  own : ∀ principal ∈ principals,
    (outcomeFor options store manifest retainedAtMs principal).1.map (referenceRow principal) =
      PostgresAccounting.referencesOf result.2 principal
  others : ∀ principal, principal ∉ principals →
    PostgresAccounting.referencesOf result.2 principal =
      PostgresAccounting.referencesOf tables principal
  evicted : ∀ packageId, packageId ∈ result.1 ↔ ∃ principal ∈ principals,
    packageId ∈ (outcomeFor options store manifest retainedAtMs principal).2

section

variable
  (size : 0 ≤ manifest.byteLength ∧ manifest.byteLength ≤ 9007199254740991 ∧ manifest.byteLength ≤ options.maxLogicalBytes)
include size

theorem retain_all_done : ∀ {tables : Tables}, principals.Nodup →
      (∀ principal ∈ principals, Agreed store tables principal) →
      (∀ principal ∈ principals, Retains options store manifest retainedAtMs principal) →
      ∃ result, PostgresAccounting.retainAll options manifest (retainedAtMs * 1000) principals
          tables = .ok result ∧
        AllRetained options store tables manifest retainedAtMs principals result := by
  induction principals with
  | nil =>
    intro tables _ _ _
    refine ⟨([], tables), rfl, rfl, rfl, ?_, fun _ _ => rfl, ?_⟩
    · intro principal member
      cases member
    · simp
  | cons principal rest ih =>
    intro tables once agreed each
    rw [nodup_cons] at once
    obtain ⟨⟨evicted, next⟩, rows, retained⟩ := retained_rows
      (agreed principal mem_cons_self) size (each principal mem_cons_self)
    have rest_agreed : ∀ other ∈ rest, Agreed store next other := by
      intro other member
      apply agreed_after (agreed other (mem_cons_of_mem principal member)) _ retained
      intro again
      rw [again] at member
      exact once.1 member
    obtain ⟨result, ran, all⟩ := ih once.2 rest_agreed
      fun other member => each other (mem_cons_of_mem principal member)
    refine ⟨(evicted ++ result.1, result.2), ?_, ?_⟩
    · unfold PostgresAccounting.retainAll
      rw [rows]
      change (PostgresAccounting.retainAll options manifest (retainedAtMs * 1000) rest
        next >>= _) = _
      rw [ran]
      rfl
    · refine ⟨all.jobs.trans retained.jobs, all.owners.trans retained.owners, ?_, ?_, ?_⟩
      · intro other member
        rcases mem_cons.mp member with same_owner | inside
        · rw [same_owner]
          have still := all.others principal once.1
          exact retained.references.trans still.symm
        · exact all.own other inside
      · intro other absent
        rw [mem_cons, not_or] at absent
        exact (all.others other absent.2).trans (retained.others other absent.1)
      · intro packageId
        rw [mem_append, all.evicted]
        have first : evicted =
            (outcomeFor options store manifest retainedAtMs principal).2 :=
          retained.evicted.symm
        rw [first]
        simp

theorem retain_all_refused : ∀ {tables : Tables}, principals.Nodup →
      (∀ principal ∈ principals, Agreed store tables principal) →
      (¬ ∀ principal ∈ principals, Retains options store manifest retainedAtMs principal) →
      PostgresAccounting.retainAll options manifest (retainedAtMs * 1000) principals tables =
        .error (.principalQuota "retained artifact budget is full") := by
  induction principals with
  | nil => exact fun _ _ one => absurd (fun principal member => by cases member) one
  | cons principal rest ih =>
    intro tables once agreed one
    rw [nodup_cons] at once
    unfold PostgresAccounting.retainAll
    cases @retains_or options store manifest retainedAtMs principal with
    | inr refused =>
      have outcome := @retain_matches options store tables principal manifest retainedAtMs
        (agreed principal mem_cons_self) size
      rw [refused] at outcome
      rcases matches_cases outcome with failed | done
      · obtain ⟨failure, same, rows⟩ := failed
        rw [rows, ← Except.error.inj same]
        rfl
      · obtain ⟨left, right, impossible, _⟩ := done
        cases impossible
    | inl own =>
      obtain ⟨⟨evicted, next⟩, rows, retained⟩ := retained_rows
        (agreed principal mem_cons_self) size own
      have rest_agreed : ∀ other ∈ rest, Agreed store next other := by
        intro other member
        apply agreed_after (agreed other (mem_cons_of_mem principal member)) _ retained
        intro again
        rw [again] at member
        exact once.1 member
      have later : ¬ ∀ other ∈ rest, Retains options store manifest retainedAtMs other := by
        intro each
        apply one
        intro other member
        rcases mem_cons.mp member with same_owner | inside
        · rw [same_owner]
          exact own
        · exact each other inside
      have refused := ih once.2 rest_agreed later
      rw [rows]
      change (PostgresAccounting.retainAll options manifest (retainedAtMs * 1000) rest
        next >>= _) = _
      rw [refused]
      rfl

end

theorem planned_references (owners : List String) (refs : String → List ArtifactReference)
    (principal : String) : ∀ store : Store, MemoryAccounting.referencesOf
      (MemoryAccounting.setPlanned store (owners.map fun owner => ⟨owner, refs owner⟩)) principal =
        if principal ∈ owners then refs principal
        else MemoryAccounting.referencesOf store principal := by
  induction owners with
  | nil => exact fun store => (if_neg (not_mem_nil)).symm
  | cons owner rest ih =>
    intro store
    change MemoryAccounting.referencesOf (MemoryAccounting.setPlanned
      (MemoryAccounting.setReferences store owner (refs owner))
        (rest.map fun owner => ⟨owner, refs owner⟩)) principal = _
    rw [ih, references_set]
    by_cases later : principal ∈ rest
    · rw [if_pos later, if_pos (mem_cons_of_mem owner later)]
    · by_cases own : principal = owner
      · rw [if_neg later, if_pos own, if_pos (mem_cons.mpr (Or.inl own)), own]
      · rw [if_neg later, if_neg own, if_neg]
        intro member
        rcases mem_cons.mp member with same | inside
        · exact own same
        · exact later inside

theorem planned_keeps (planned) : ∀ store : Store,
    (MemoryAccounting.setPlanned store planned).jobs = store.jobs ∧
      ((store.references.map PrincipalReferences.principal).Nodup →
        ((MemoryAccounting.setPlanned store planned).references.map
          PrincipalReferences.principal).Nodup) := by
  induction planned with
  | nil => exact fun store => ⟨rfl, id⟩
  | cons entry rest ih =>
    intro store
    have later := ih (MemoryAccounting.setReferences store entry.principal entry.refs)
    exact ⟨later.1, fun distinct => later.2 (set_key_nodup distinct)⟩

theorem owners_once (related : Related store tables) (jobId : String) :
    (PostgresAccounting.ownersOf options tables jobId).Nodup := by
  unfold PostgresAccounting.ownersOf
  rw [(perm_insertionSort _ _).nodup_iff]
  apply List.Nodup.map_on _ (related.once.filter _)
  intro first first_member second second_member same
  rw [mem_filter, decide_eq_true_eq] at first_member second_member
  exact Prod.ext (first_member.2.trans second_member.2.symm) same

theorem all_retained_related (related : Related store tables) {owners principals : List String}
    {result : List String × Tables} (proper : Proper manifest.packageId)
    (size : 0 ≤ manifest.byteLength ∧ manifest.byteLength ≤ 9007199254740991 ∧
      manifest.byteLength ≤ options.maxLogicalBytes)
    (same : ∀ principal, principal ∈ principals ↔ principal ∈ owners)
    (each : ∀ principal ∈ owners, Retains options store manifest retainedAtMs principal)
    (all : AllRetained options store tables manifest retainedAtMs principals result) :
    Related (MemoryAccounting.setPlanned store (owners.map fun principal =>
      ⟨principal, (outcomeFor options store manifest retainedAtMs principal).1⟩)) result.2 := by
  have kept : ∀ principal ∈ owners, ∃ rows, Retained tables principal manifest.packageId
      (outcomeFor options store manifest retainedAtMs principal) rows := by
    intro principal member
    obtain ⟨rows, _, retained⟩ :=
      retained_rows (related_agreed related principal) size (each principal member)
    exact ⟨rows, retained⟩
  have keeps := planned_keeps (owners.map fun principal =>
    ⟨principal, (outcomeFor options store manifest retainedAtMs principal).1⟩) store
  have shown := fun principal => planned_references owners
    (fun principal => (outcomeFor options store manifest retainedAtMs principal).1) principal store
  refine @Related.rereference store (MemoryAccounting.setPlanned store (owners.map fun principal =>
      ⟨principal, (outcomeFor options store manifest retainedAtMs principal).1⟩)) tables result.2
    related keeps.1 all.jobs all.owners ?_ (keeps.2 related.principals) ?_ ?_
  · intro principal
    rw [shown]
    split
    · rename_i member
      exact all.own principal ((same principal).mpr member)
    · rename_i absent
      rw [all.others principal fun member => absent ((same principal).mp member)]
      exact related.references principal
  · intro principal
    rw [shown]
    split
    · rename_i member
      obtain ⟨rows, retained⟩ := kept principal member
      exact retained.distinct
    · exact related.distinct principal
  · intro principal ref inside
    rw [shown] at inside
    split at inside
    · rename_i member
      obtain ⟨rows, retained⟩ := kept principal member
      exact retained_proper related proper retained ref inside
    · exact related.proper principal ref inside

theorem retain_all_large (large : ¬ manifest.byteLength ≤ options.maxLogicalBytes)
    (some_owner : principals ≠ []) :
    PostgresAccounting.retainAll options manifest (retainedAtMs * 1000) principals tables =
      .error (.principalQuota ("artifact exceeds " ++ toString options.maxLogicalBytes ++
        " logical bytes")) := by
  cases principals with
  | nil => exact absurd rfl some_owner
  | cons principal rest =>
    have refused : PostgresAccounting.retainReference options tables principal manifest.packageId
        manifest.byteLength (retainedAtMs * 1000) =
        .error (.principalQuota ("artifact exceeds " ++ toString options.maxLogicalBytes ++
          " logical bytes")) := by
      unfold PostgresAccounting.retainReference
      rw [if_pos]
      exact fun fits => large fits.2.2
    unfold PostgresAccounting.retainAll
    rw [refused]
    rfl

theorem completed_unreferenced (related : Related store tables) {removed evicted}
    (same : ∀ packageId, packageId ∈ removed ↔ packageId ∈ evicted)
    (exposed : ∀ packageId ∈ evicted,
      PostgresAccounting.protectedArtifact tables packageId = false) (packageId : String) :
    packageId ∈ MemoryAccounting.unreferenced store removed ↔
      packageId ∈ PostgresAccounting.unreferenced tables evicted := by
  rw [unreferenced_views related fun gone member => exposed gone ((same gone).mp member)]
  unfold PostgresAccounting.unreferenced
  rw [mem_filter, mem_filter, mem_eraseDups, mem_eraseDups, same]

def Completed (left : List String × Store) (right : List String × Tables) : Prop :=
  (∀ packageId, packageId ∈ left.1 ↔ packageId ∈ right.1) ∧ Related left.2 right.2

theorem complete_related (related : Related store tables) (proper : Proper manifest.packageId)
    (jobId : String) (updatedAtMs updatedAt : Int) :
    Related (MemoryAccounting.updateJob store jobId fun stored =>
        { stored with
          record := { stored.record with
            status := .readyToDownload
            manifest := some manifest
            packageId := some manifest.packageId
            updatedAtMs }
          leaseOwner := none
          leaseExpiresAtMs := none })
      (PostgresAccounting.updateJob tables jobId fun row =>
        { row with
          status := .readyToDownload
          manifest := some manifest
          packageId := manifest.packageId
          updatedAt
          leaseOwner := none
          leaseExpiresAt := none }) := by
  apply related.update jobId _ _ fun view =>
    { view with
      status := .readyToDownload
      packageId := manifest.packageId
      leaseOwner := none
      leaseExpiresAt := none }
  · exact fun stored => rfl
  · exact fun row => rfl
  · exact fun stored => rfl
  · exact fun stored => rfl
  · intro stored member packageId given
    rw [← Option.some.inj given]
    exact proper

theorem exposed_after {next : Tables} (jobs : next.jobs = tables.jobs) {jobId packageId : String}
    {change : JobRow → JobRow} (through : ∀ row, (change row).status ≠ .preparing)
    (exposed : PostgresAccounting.protectedArtifact tables packageId = false) :
    PostgresAccounting.protectedArtifact (PostgresAccounting.updateJob next jobId change)
      packageId = false := by
  unfold PostgresAccounting.protectedArtifact PostgresAccounting.updateJob at *
  rw [any_eq_false] at exposed ⊢
  intro job member
  rw [jobs] at member
  obtain ⟨before, inside, same⟩ := mem_map.mp member
  rw [← same]
  split
  · simp [through before]
  · exact exposed before inside

theorem complete_matches (related : Related store tables) (jobId workerId : String)
    (proper : Proper manifest.packageId)
    (size : 0 ≤ manifest.byteLength ∧ manifest.byteLength ≤ 9007199254740991) : Matches Completed
      (MemoryAccounting.complete (sharedLimits options) store jobId workerId manifest now)
      (PostgresAccounting.complete options tables jobId workerId manifest fun _ => now * 1000) := by
  unfold MemoryAccounting.complete PostgresAccounting.complete
  rcases job_views related jobId with unknown | known
  · rw [unknown.1, unknown.2]
    rfl
  · obtain ⟨stored, row, memory, rows, found⟩ := known
    have key : jobKey stored = jobId := (find_key_mem memory).2
    have status := found.status
    have worker := found.worker
    have created : row.createdAt = stored.record.createdAtMs * 1000 :=
      (congrArg View.createdAt found.same).symm
    have same_owners := fun principal => @owners_views options store tables related stored
      found.inside principal
    rw [key] at same_owners
    rw [memory, rows]
    simp only
    rw [status, worker, created]
    split
    · rfl
    · simp only [bind, Except.bind]
      by_cases large : manifest.byteLength ≤ options.maxLogicalBytes
      · have checked : MemoryAccounting.checkSize (sharedLimits options) manifest = .ok () := by
          apply if_neg
          change ¬ (options.maxLogicalBytes : Int) < manifest.byteLength
          omega
        have agreed := fun principal (_ : principal ∈
          PostgresAccounting.ownersOf options tables jobId) => related_agreed related principal
        rw [checked]
        simp only
        by_cases each : ∀ principal ∈ stored.owners,
            Retains options store manifest stored.record.createdAtMs principal
        · obtain ⟨result, ran, all⟩ := retain_all_done ⟨size.1, size.2, large⟩
            (owners_once related jobId) agreed
            fun principal member => each principal ((same_owners principal).mp member)
          rw [plan_done each, ran]
          have kept := all_retained_related related proper ⟨size.1, size.2, large⟩ same_owners
            each all
          have final := complete_related kept proper jobId now (now * 1000)
          refine ⟨?_, final⟩
          apply completed_unreferenced final
          · intro packageId
            rw [all.evicted, mem_flatMap]
            constructor
            · intro gone
              obtain ⟨principal, member, inside⟩ := gone
              exact ⟨principal, (same_owners principal).mpr member, inside⟩
            · intro gone
              obtain ⟨principal, member, inside⟩ := gone
              exact ⟨principal, (same_owners principal).mp member, inside⟩
          · intro packageId member
            obtain ⟨principal, owner, inside⟩ := (all.evicted packageId).mp member
            obtain ⟨outcome, _, retained⟩ := retained_rows (related_agreed related principal)
              ⟨size.1, size.2, large⟩ (each principal ((same_owners principal).mp owner))
            apply exposed_after all.jobs _ (retained.exposed packageId inside)
            intro row impossible
            cases impossible
        · rw [plan_refused each]
          have refused := retain_all_refused ⟨size.1, size.2, large⟩
            (owners_once related jobId) agreed
            fun all => each fun principal member =>
              all principal ((same_owners principal).mpr member)
          rw [refused]
          rfl
      · have checked : MemoryAccounting.checkSize (sharedLimits options) manifest =
            .error (.principalQuota ("artifact exceeds " ++ toString options.maxLogicalBytes ++
              " logical bytes")) := by
          apply if_pos
          change (options.maxLogicalBytes : Int) < manifest.byteLength
          omega
        have some_owner : PostgresAccounting.ownersOf options tables jobId ≠ [] := by
          intro none_owns
          apply related.owned stored found.inside
          rw [eq_nil_iff_forall_not_mem]
          intro principal member
          have owner := (same_owners principal).mpr member
          rw [none_owns] at owner
          cases owner
        rw [checked, retain_all_large large some_owner]
        rfl

end

end OpenMapX.OfflinePackages.AccountingWorkers
