import OpenMapX.OfflinePackages.AccountingMatches

/-!
# Admission in both stores

An admission that finds the request served joins or retains alike. One that adds a job does so
alike provided that it may: its id is new, and what it replaces holds the candidate's package.
-/

namespace OpenMapX.OfflinePackages.AccountingAdmissions

open Foundation.KeyedList AccountingViews AccountingMatches List
open OfflinePackages.PostgresAccounting (Status ErrorCode OfflineMapPackageManifest
  OfflinePackageJobRecord Failure JobRow ReferenceRow Tables Options OfflinePackageAdmission
  AdmissionCall findManifest target timestamp insertJob candidateRow assertOfflineArtifactIdentity)
open OfflinePackages.MemoryAccounting (StoredJob ArtifactReference PrincipalReferences
  Store jobKey)

structure SameAdmission (left right : OfflinePackageAdmission) : Prop where
  status : left.record.status = right.record.status
  createdJob : left.createdJob = right.createdJob
  createdOwner : left.createdOwner = right.createdOwner
  unreferenced : left.unreferencedPackageIds = right.unreferencedPackageIds

def Admitted (left : OfflinePackageAdmission × Store) (right : OfflinePackageAdmission × Tables) :
    Prop := SameAdmission left.1 right.1 ∧ Related left.2 right.2

structure Unreached (options : Options) (tables : Tables) (now : Int) : Prop where
  retention : 0 ≤ options.terminalRetentionMs
  recent : ∀ job ∈ tables.jobs, job.status ≠ .preparing →
    now * 1000 - options.terminalRetentionMs * 1000 ≤ job.updatedAt
  queued : tables.jobs.countP (PostgresAccounting.waiting (now * 1000)) < options.maxGlobalQueued
  tracked : tables.jobs.length < options.maxTrackedJobs

def Adds (tables : Tables) (candidate : OfflinePackageJobRecord) (call : AdmissionCall) : Prop :=
  PostgresAccounting.sharedJob tables candidate = none ∨
    (findManifest candidate call = .ok none ∧
      ∃ job, PostgresAccounting.sharedJob tables candidate = some job ∧ job.status ≠ .preparing)

structure Admissible (tables : Tables) (candidate : OfflinePackageJobRecord)
    (call : AdmissionCall) : Prop where
  unfenced : call.fence = none
  proper : ∀ packageId, candidate.packageId = some packageId → Proper packageId
  sizes : ∀ manifest, call.readManifest = .ok (some manifest) →
    0 ≤ manifest.byteLength ∧ manifest.byteLength ≤ 9007199254740991
  created : candidate.createdAtMs.natAbs ≤ 8640000000000000
  updated : candidate.updatedAtMs.natAbs ≤ 8640000000000000
  fresh : Adds tables candidate call → ∀ job ∈ tables.jobs, job.id ≠ candidate.jobId
  superseded : findManifest candidate call = .ok none → Adds tables candidate call →
    ∀ job ∈ tables.jobs, PostgresAccounting.isLive job = true →
      job.requestKey = candidate.requestKey →
      job.status = .readyToDownload ∧ target candidate = some job.packageId

variable {options : Options} {store : Store} {tables : Tables} {principal : String} {now : Int}

section

variable (stored : StoredJob) (principal : String)

theorem add_owner_owners : (MemoryAccounting.addOwner stored principal).owners =
      if principal ∈ stored.owners then stored.owners else stored.owners ++ [principal] := by
  unfold MemoryAccounting.addOwner
  split
  · rfl
  · rfl

theorem add_owner_record : (MemoryAccounting.addOwner stored principal).record = stored.record := by
  unfold MemoryAccounting.addOwner
  split
  · rfl
  · rfl

theorem add_owner_view :
    storedView (MemoryAccounting.addOwner stored principal) = storedView stored := by
  unfold MemoryAccounting.addOwner
  split
  · rfl
  · rfl

end

variable {stored : StoredJob}

variable (related : Related store tables)
include related

theorem join_matches (positive : 0 ≤ now) {row : JobRow} (found : Found store tables stored row) :
    Matches Admitted (MemoryAccounting.joinShared (sharedLimits options) store principal stored now)
      (PostgresAccounting.joinShared options tables principal row fun _ => now * 1000) := by
  have id := found.id
  have status := found.status
  have owned := related.owners stored found.inside principal
  have live : MemoryAccounting.leased now stored =
      PostgresAccounting.leased (now * 1000) row := by
    rw [stored_leased positive, row_leased, found.same]
  have ran := running_counts related positive principal
  have queued := queued_counts related positive principal
  have granted := related_granted related principal (mem_map_of_mem found.inside)
    (fun stored => MemoryAccounting.addOwner stored principal)
    (fun other _ _ => add_owner_view other principal)
    (fun other => add_owner_owners other principal)
    (fun other => congrArg _ (add_owner_record other principal))
  unfold MemoryAccounting.joinShared PostgresAccounting.joinShared PostgresAccounting.ownedBy
  simp only
  rw [live, ran, queued, id]
  by_cases already : principal ∈ stored.owners
  · have held := owned.mp already
    rw [if_pos held] at granted
    rw [decide_eq_true already, if_pos (decide_eq_true held)]
    exact ⟨⟨status, rfl, rfl, rfl⟩, granted⟩
  · have absent : (jobKey stored, principal) ∉ tables.owners := fun held => already (owned.mpr held)
    rw [if_neg absent] at granted
    rw [decide_eq_false already, decide_eq_false absent, if_neg Bool.false_ne_true]
    cases PostgresAccounting.leased (now * 1000) row with
    | true =>
      simp only [Bool.not_false, Bool.true_and, Bool.not_true, Bool.and_false, Bool.false_and,
        decide_eq_true_eq, Bool.false_eq_true, if_false, if_true]
      change Matches Admitted (if options.maxRunningPerPrincipal ≤ _ then _ else _)
        (if options.maxRunningPerPrincipal ≤ _ then _ else _)
      split
      · rfl
      · exact ⟨⟨status, rfl, rfl, rfl⟩, granted⟩
    | false =>
      simp only [Bool.not_false, Bool.true_and, Bool.and_false, Bool.false_and,
        decide_eq_true_eq, Bool.false_eq_true, if_false]
      change Matches Admitted (if options.maxQueuedPerPrincipal ≤ _ then _ else _)
        (if options.maxQueuedPerPrincipal ≤ _ then _ else _)
      split
      · rfl
      · exact ⟨⟨status, rfl, rfl, rfl⟩, granted⟩

theorem job_ids : store.jobs.map jobKey = tables.jobs.map fun job => job.id := by
  have shown := congrArg (List.map View.id) related.jobs
  rw [map_map, map_map] at shown
  exact shown

theorem delete_none {doomed : JobRow → Bool} (spared : ∀ job ∈ tables.jobs, doomed job = false) :
    PostgresAccounting.deleteJobs tables doomed = tables := by
  have jobs : (tables.jobs.filter fun job => !doomed job) = tables.jobs := by
    rw [filter_eq_self]
    intro job member
    rw [spared job member]
    rfl
  unfold PostgresAccounting.deleteJobs
  simp only
  rw [jobs]
  have owners : (tables.owners.filter fun row => tables.jobs.any fun job => job.id = row.1) =
      tables.owners := by
    rw [filter_eq_self]
    intro row member
    have known := related.known row member
    rw [job_ids related] at known
    obtain ⟨job, inside, same⟩ := mem_map.mp known
    rw [any_eq_true]
    exact ⟨job, inside, decide_eq_true same⟩
  rw [owners]

theorem prune_unreached (unreached : Unreached options tables now)
    (needed : Bool) : PostgresAccounting.pruneAndCheckGlobalCapacity options tables needed
      (now * 1000) (now * 1000) = .ok tables := by
  have spared : PostgresAccounting.deleteJobs tables (fun job => job.status ≠ .preparing &&
      job.updatedAt < now * 1000 - options.terminalRetentionMs * 1000) = tables := by
    apply delete_none related
    intro job member
    by_cases through : job.status = .preparing
    · simp [through]
    · have recent := unreached.recent job member through
      simp only [ne_eq, Bool.and_eq_false_imp, decide_eq_false_iff_not]
      omega
  have room : ¬ options.maxTrackedJobs ≤ tables.jobs.length := by
    have tracked := unreached.tracked
    omega
  have kept : PostgresAccounting.pruneTracked options tables = tables := by
    unfold PostgresAccounting.pruneTracked
    rw [if_neg room]
  have queue : (needed && decide (options.maxGlobalQueued ≤
      tables.jobs.countP (PostgresAccounting.waiting (now * 1000)))) = false := by
    have queued := unreached.queued
    rw [Bool.and_eq_false_imp]
    intro _
    rw [decide_eq_false_iff_not]
    omega
  unfold PostgresAccounting.pruneAndCheckGlobalCapacity
  simp only
  rw [spared, queue, if_neg (by simp), kept, if_neg room]

omit related

theorem unreached_invalidate (unreached : Unreached options tables now) (packageId : String) :
    Unreached options (PostgresAccounting.invalidateArtifact tables packageId (now * 1000))
      now := by
  refine ⟨unreached.retention, ?_, ?_, ?_⟩
  · intro job member through
    obtain ⟨before, inside, same⟩ := mem_map.mp member
    have retention := unreached.retention
    split at same
    · rw [← same]
      simp only
      omega
    · rw [same] at inside
      exact unreached.recent job inside through
  · have same : (PostgresAccounting.invalidateArtifact tables packageId
        (now * 1000)).jobs.countP (PostgresAccounting.waiting (now * 1000)) =
        tables.jobs.countP (PostgresAccounting.waiting (now * 1000)) := by
      unfold PostgresAccounting.invalidateArtifact
      simp only
      rw [countP_map]
      apply countP_congr
      intro job _
      rw [Function.comp_apply]
      split
      · rename_i ready
        have through : job.status = .readyToDownload := by
          rw [Bool.and_eq_true] at ready
          exact of_decide_eq_true ready.2
        simp [PostgresAccounting.waiting, through]
      · rfl
    rw [same]
    exact unreached.queued
  · unfold PostgresAccounting.invalidateArtifact
    simp only
    rw [length_map]
    exact unreached.tracked

theorem timestamp_valid {ms : Int} (valid : ms.natAbs ≤ 8640000000000000) :
    timestamp ms = .ok (ms * 1000) := by
  unfold timestamp
  rw [if_pos valid]

variable {candidate : OfflinePackageJobRecord}

theorem persist_new (related : Related store tables) (unreached : Unreached options tables now)
    (status : Status) (manifest) (created : candidate.createdAtMs.natAbs ≤ 8640000000000000)
    (updated : candidate.updatedAtMs.natAbs ≤ 8640000000000000)
    (fresh : ∀ job ∈ tables.jobs, job.id ≠ candidate.jobId)
    (alone : ∀ job ∈ tables.jobs, PostgresAccounting.isLive job = true →
      job.requestKey ≠ candidate.requestKey) :
    ∃ row, row = candidateRow candidate status manifest (candidate.createdAtMs * 1000)
        (candidate.updatedAtMs * 1000) ∧
      PostgresAccounting.persistJob options tables none candidate status manifest
        (fun _ => now * 1000) = .ok (row, { tables with jobs := tables.jobs ++ [row] }) := by
  refine ⟨_, rfl, ?_⟩
  have free : ∀ row : JobRow, row.id = candidate.jobId → row.requestKey = candidate.requestKey →
      insertJob tables row = .ok { tables with jobs := tables.jobs ++ [row] } := by
    intro row id requestKey
    have unused : (tables.jobs.any fun job => job.id = row.id) = false := by
      rw [any_eq_false]
      intro job member same
      exact fresh job member ((of_decide_eq_true same).trans id)
    have unserved : (tables.jobs.any fun job =>
        PostgresAccounting.isLive job && job.requestKey = row.requestKey) = false := by
      rw [any_eq_false]
      intro job member same
      rw [Bool.and_eq_true, decide_eq_true_eq, requestKey] at same
      exact alone job member same.1 same.2
    unfold insertJob
    rw [unused, unserved, Bool.and_false, Bool.or_false, if_neg Bool.false_ne_true]
  unfold PostgresAccounting.persistJob
  simp only
  rw [prune_unreached related unreached, timestamp_valid created, timestamp_valid updated]
  change (insertJob tables _ >>= _) = _
  rw [free _ rfl rfl]
  rfl

theorem check_preparing (related : Related store tables) (positive : 0 ≤ now)
    (candidate) (call : AdmissionCall) :
    MemoryAccounting.checkPreparing (sharedLimits options) store principal candidate call now =
    PostgresAccounting.checkPreparing options tables principal
      (decide (candidate.status ≠ .failed)) call (now * 1000) := by
  unfold MemoryAccounting.checkPreparing PostgresAccounting.checkPreparing
  rw [queued_counts related positive]
  by_cases failed : candidate.status = .failed
  · rw [if_pos failed, decide_eq_false (not_not.mpr failed)]
    rfl
  · rw [if_neg failed, decide_eq_true failed]
    rfl

theorem target_package {packageId : String}
    (given : target candidate = some packageId) : candidate.packageId = some packageId := by
  unfold target at given
  split at given
  · cases given
  · exact (Option.filter_eq_some_iff.mp given).1

def validTables (tables : Tables) (candidate : OfflinePackageJobRecord) (now : Int) : Tables :=
  match target candidate with
  | none => tables
  | some packageId => PostgresAccounting.invalidateArtifact tables packageId (now * 1000)

theorem valid_related (related : Related store tables) {candidate}
    (proper : ∀ packageId, candidate.packageId = some packageId → Proper packageId) :
    Related (MemoryAccounting.invalidateMissing store candidate now)
      (validTables tables candidate now) := by
  unfold MemoryAccounting.invalidateMissing validTables
  cases given : target candidate with
  | none => exact related
  | some packageId =>
    exact invalidate_related related (proper packageId (target_package given)) now (now * 1000)

theorem valid_unreached (unreached : Unreached options tables now) (candidate) :
    Unreached options (validTables tables candidate now) now := by
  unfold validTables
  split
  · exact unreached
  · exact unreached_invalidate unreached _

theorem unserved (none_found : PostgresAccounting.sharedJob tables candidate = none) :
    ∀ job ∈ tables.jobs, PostgresAccounting.isLive job = true →
      job.requestKey ≠ candidate.requestKey := by
  intro job member live same
  have refuted := find?_eq_none.mp none_found job member
  rw [live, Bool.and_true, decide_eq_true_eq] at refuted
  exact refuted same

theorem valid_jobs {candidate call} (admissible : Admissible tables candidate call)
    (missing : findManifest candidate call = .ok none) (adds : Adds tables candidate call) :
    ∀ job ∈ (validTables tables candidate now).jobs, job.id ≠ candidate.jobId ∧
      (PostgresAccounting.isLive job = true → job.requestKey ≠ candidate.requestKey) := by
  have fresh := admissible.fresh adds
  have superseded := admissible.superseded missing adds
  unfold validTables
  split
  · rename_i untargeted
    intro job member
    refine ⟨fresh job member, ?_⟩
    intro live same
    have impossible := (superseded job member live same).2
    rw [untargeted] at impossible
    cases impossible
  · rename_i packageId given
    intro job member
    obtain ⟨before, inside, same⟩ := mem_map.mp member
    split at same
    · rw [← same]
      refine ⟨fresh before inside, ?_⟩
      intro live
      simp [PostgresAccounting.isLive] at live
    · rename_i kept
      rw [← same]
      refine ⟨fresh before inside, ?_⟩
      intro live served
      have replaced := superseded before inside live served
      rw [given] at replaced
      apply kept
      rw [Option.some.inj replaced.2, replaced.1]
      simp

variable {call : AdmissionCall}

theorem drop_missing (admissible : Admissible tables candidate call)
    (missing : findManifest candidate call = .ok none) (adds : Adds tables candidate call) :
    PostgresAccounting.dropMissing tables (PostgresAccounting.sharedJob tables candidate) candidate
      none (now * 1000) = (none, validTables tables candidate now) := by
  unfold PostgresAccounting.dropMissing validTables
  cases given : target candidate with
  | some packageId => rfl
  | none =>
    simp only
    cases found : PostgresAccounting.sharedJob tables candidate with
    | none => rfl
    | some job =>
      have served := find?_some found
      rw [Bool.and_eq_true, decide_eq_true_eq] at served
      have replaced := admissible.superseded missing adds job
        (mem_of_find?_eq_some found) served.2 served.1
      rw [given] at replaced
      cases replaced.2

theorem set_fresh {jobs}
    (fresh : jobKey stored ∉ jobs.map jobKey) : setKey jobKey jobs stored = jobs ++ [stored] := by
  unfold setKey
  rw [if_neg]
  intro known
  obtain ⟨other, member, same⟩ := any_eq_true.mp known
  apply fresh
  rw [← of_decide_eq_true same]
  exact mem_map_of_mem member

theorem fresh_key (related : Related store tables) {jobId : String}
    (fresh : ∀ job ∈ tables.jobs, job.id ≠ jobId) : jobId ∉ store.jobs.map jobKey := by
  rw [job_ids related]
  intro member
  obtain ⟨job, inside, same⟩ := mem_map.mp member
  exact fresh job inside same

theorem new_matches (related : Related store tables) (positive : 0 ≤ now)
    (unreached : Unreached options tables now) {candidate call}
    (admissible : Admissible tables candidate call)
    (missing : findManifest candidate call = .ok none) (adds : Adds tables candidate call) :
    Matches Admitted
      (MemoryAccounting.admitNew (sharedLimits options) store principal candidate call now)
      (PostgresAccounting.admitArtifact options tables principal candidate call
        (PostgresAccounting.sharedJob tables candidate) fun _ => now * 1000) := by
  have jobs := @valid_jobs tables now candidate call admissible missing adds
  have valid := @valid_related store tables now related candidate admissible.proper
  obtain ⟨row, shape, persisted⟩ := persist_new valid (valid_unreached unreached candidate)
    (if candidate.status = .failed then .failed else .preparing) none admissible.created
    admissible.updated (fun job member => (jobs job member).1)
    fun job member => (jobs job member).2
  have status : (if decide (candidate.status ≠ Status.failed) = true then Status.preparing
      else Status.failed) = if candidate.status = .failed then .failed else .preparing := by
    by_cases failed : candidate.status = .failed
    · simp [failed]
    · simp [failed]
  have same : storedView ⟨{ candidate with
      status := if candidate.status = .failed then .failed else .preparing
      manifest := none }, [principal], none, none⟩ = rowView row := by
    rw [shape]
    rfl
  have fresh := fresh_key valid fun job member => (jobs job member).1
  have inserted := related_inserted valid same fresh rfl admissible.proper
  unfold MemoryAccounting.admitNew PostgresAccounting.admitArtifact
  rw [missing, check_preparing related positive candidate call]
  simp only [bind, Except.bind, assertOfflineArtifactIdentity, Option.isNone_none, Bool.true_and,
    Option.isSome_none, Bool.false_eq_true, if_false]
  cases PostgresAccounting.checkPreparing options tables principal
      (decide (candidate.status ≠ .failed)) call (now * 1000) with
  | error failure => rfl
  | ok checked =>
    simp only
    rw [drop_missing admissible missing adds, status]
    simp only
    rw [persisted]
    refine ⟨⟨?_, rfl, rfl, rfl⟩, ?_⟩
    · rw [shape]
      rfl
    · simp only
      rw [set_fresh fresh]
      exact inserted

theorem retain_manifest (created : candidate.createdAtMs.natAbs ≤ 8640000000000000) (manifest) :
    PostgresAccounting.retainManifest options tables principal candidate (some manifest) =
      PostgresAccounting.retainReference options tables principal manifest.packageId
        manifest.byteLength (candidate.createdAtMs * 1000) := by
  unfold PostgresAccounting.retainManifest
  simp only
  rw [timestamp_valid created]
  rfl

theorem set_manifest_views (jobId : String) (manifest) :
    (PostgresAccounting.setManifest tables jobId manifest).jobs.map rowView =
      tables.jobs.map rowView ∧
    (PostgresAccounting.setManifest tables jobId manifest).owners = tables.owners ∧
    (PostgresAccounting.setManifest tables jobId manifest).references = tables.references := by
  cases manifest with
  | none => exact ⟨rfl, rfl, rfl⟩
  | some manifest =>
    refine ⟨?_, rfl, rfl⟩
    unfold PostgresAccounting.setManifest PostgresAccounting.updateJob
    simp only
    rw [map_map]
    apply map_congr_left
    intro row _
    rw [Function.comp_apply]
    split
    · rfl
    · rfl

theorem retained_owner {packageId jobId : String} {owners manifest refs removed evicted}
    {next : Tables} (related : Related store { tables with owners }) (proper : Proper packageId)
    (retained : Retained tables principal packageId (refs, removed) (evicted, next)) :
    Related (MemoryAccounting.setReferences store principal refs)
      (PostgresAccounting.setManifest { next with owners } jobId manifest) ∧
    MemoryAccounting.unreferenced (MemoryAccounting.setReferences store principal refs) removed =
      PostgresAccounting.unreferenced
        (PostgresAccounting.setManifest { next with owners } jobId manifest) evicted := by
  have transferred : Retained { tables with owners } principal packageId (refs, removed)
      (evicted, { next with owners }) :=
    ⟨retained.evicted, retained.jobs, rfl, retained.references, retained.others,
      retained.distinct, retained.exposed, retained.known⟩
  have views := @set_manifest_views { next with owners } jobId manifest
  have final := related_rows (related_retained related proper transferred) views.1 views.2.1
    views.2.2
  refine ⟨final, ?_⟩
  have same : removed = evicted := retained.evicted
  rw [← same]
  apply unreferenced_views final
  intro gone member
  rw [protected_views views.1]
  have jobs : next.jobs = tables.jobs := retained.jobs
  have exposed := retained.exposed gone member
  unfold PostgresAccounting.protectedArtifact at exposed ⊢
  rw [jobs]
  exact exposed

theorem checked_cases {manifest} {retainedAtMs : Int} (agreed : Agreed store tables principal)
    (size : 0 ≤ manifest.byteLength ∧ manifest.byteLength ≤ 9007199254740991) :
    (∃ failure, PostgresAccounting.retainReference options tables principal manifest.packageId
        manifest.byteLength (retainedAtMs * 1000) = .error failure ∧
      (MemoryAccounting.checkSize (sharedLimits options) manifest = .error failure ∨
        (MemoryAccounting.checkSize (sharedLimits options) manifest = .ok () ∧
          MemoryAccounting.retain (sharedLimits options) store principal manifest retainedAtMs =
            .error failure))) ∨
    ∃ memory rows, MemoryAccounting.checkSize (sharedLimits options) manifest = .ok () ∧
      MemoryAccounting.retain (sharedLimits options) store principal manifest retainedAtMs =
        .ok memory ∧ PostgresAccounting.retainReference options tables principal manifest.packageId
        manifest.byteLength (retainedAtMs * 1000) = .ok rows ∧
      Retained tables principal manifest.packageId memory rows := by
  by_cases large : (options.maxLogicalBytes : Int) < manifest.byteLength
  · have rows : PostgresAccounting.retainReference options tables principal manifest.packageId
        manifest.byteLength (retainedAtMs * 1000) =
        .error (.principalQuota ("artifact exceeds " ++ toString options.maxLogicalBytes ++
          " logical bytes")) := by
      unfold PostgresAccounting.retainReference
      rw [if_pos]
      omega
    exact Or.inl ⟨_, rows, Or.inl (if_pos large)⟩
  · have checked : MemoryAccounting.checkSize (sharedLimits options) manifest = .ok () :=
      if_neg large
    have outcome := @retain_matches options store tables principal manifest retainedAtMs agreed
      ⟨size.1, size.2, by omega⟩
    rcases matches_cases outcome with failed | done
    · obtain ⟨failure, memory, rows⟩ := failed
      exact Or.inl ⟨failure, rows, Or.inr ⟨checked, memory⟩⟩
    · obtain ⟨memory, rows, kept, changed, retained⟩ := done
      exact Or.inr ⟨memory, rows, checked, kept, changed, retained⟩

variable {manifest : OfflineMapPackageManifest}

theorem identity_package {checked : Unit}
    (identity : assertOfflineArtifactIdentity candidate (some manifest) = .ok checked) :
    candidate.packageId = some manifest.packageId := by
  unfold assertOfflineArtifactIdentity at identity
  simp only at identity
  split at identity
  · cases identity
  · rename_i same
    rw [not_or, not_ne_iff] at same
    exact same.1.symm

theorem drop_found (shared : Option JobRow) (candidate manifest) (at_time : Int) :
    PostgresAccounting.dropMissing tables shared candidate (some manifest) at_time =
      (shared, tables) := rfl

theorem check_found (call : AdmissionCall) (at_time : Int) :
    PostgresAccounting.checkPreparing options tables principal false call at_time = .ok () := rfl

variable (related : Related store tables)
include related

theorem ready_new_matches (unreached : Unreached options tables now)
    (admissible : Admissible tables candidate call)
    (found : findManifest candidate call = .ok (some manifest))
    (unshared : PostgresAccounting.sharedJob tables candidate = none)
    (size : 0 ≤ manifest.byteLength ∧ manifest.byteLength ≤ 9007199254740991) : Matches Admitted
      (MemoryAccounting.admitReady (sharedLimits options) store principal candidate manifest none)
      (PostgresAccounting.admitArtifact options tables principal candidate call none
        fun _ => now * 1000) := by
  have unused := admissible.fresh (Or.inl unshared)
  obtain ⟨row, shape, persisted⟩ := persist_new related unreached .readyToDownload (some manifest)
    admissible.created admissible.updated unused (unserved unshared)
  have same : storedView (MemoryAccounting.addOwner
      (MemoryAccounting.markReady ⟨candidate, [], none, none⟩ manifest) principal) =
        rowView row := by
    rw [shape]
    rfl
  have fresh := fresh_key related unused
  have inserted := related_inserted related same fresh rfl admissible.proper
  have agreed : Agreed store { tables with jobs := tables.jobs ++ [row] } principal := by
    have before := related_agreed related principal
    refine ⟨before.references, before.distinct, ?_⟩
    intro ref member
    rw [before.shields ref member]
    unfold PostgresAccounting.protectedArtifact
    simp only
    rw [any_append, shape]
    simp [candidateRow]
  have outcome := @checked_cases options store _ principal manifest candidate.createdAtMs agreed
    size
  unfold MemoryAccounting.admitReady PostgresAccounting.admitArtifact
  rw [found]
  simp only [bind, Except.bind]
  cases identity : assertOfflineArtifactIdentity candidate (some manifest) with
  | error failure => rfl
  | ok checked =>
    simp only [Option.isNone_some, Bool.false_and, check_found, drop_found, Option.isSome_some,
      if_true]
    rw [persisted]
    simp only
    rw [retain_manifest admissible.created]
    rcases outcome with failed | done
    · obtain ⟨failure, refused, memory⟩ := failed
      rw [refused]
      rcases memory with large | full
      · rw [large]
        rfl
      · rw [full.1]
        simp only
        rw [full.2]
        rfl
    · obtain ⟨⟨refs, removed⟩, ⟨evicted, next⟩, sized, memory, rows, retained⟩ := done
      rw [sized]
      simp only
      rw [memory, rows]
      have proper := admissible.proper _ (identity_package identity)
      have owners : PostgresAccounting.insertOwner next row.id principal =
          { next with owners := tables.owners ++ [(row.id, principal)] } := by
        unfold PostgresAccounting.insertOwner
        rw [retained.owners]
      have final := @retained_owner _ _ principal manifest.packageId row.id _
        (some manifest) refs removed evicted next inserted proper retained
      rw [← owners] at final
      refine ⟨⟨?_, rfl, rfl, ?_⟩, ?_⟩
      · rw [shape]
        rfl
      · simp only [Option.getD_none]
        rw [set_fresh fresh]
        exact final.2
      · simp only [Option.getD_none]
        rw [set_fresh fresh]
        exact final.1

theorem ready_shared_matches (admissible : Admissible tables candidate call)
    (given : findManifest candidate call = .ok (some manifest)) {row : JobRow}
    (found : Found store tables stored row) (ready : row.status = .readyToDownload)
    (size : 0 ≤ manifest.byteLength ∧ manifest.byteLength ≤ 9007199254740991) : Matches Admitted
      (MemoryAccounting.admitReady (sharedLimits options) store principal candidate manifest
        (some stored))
      (PostgresAccounting.admitArtifact options tables principal candidate call (some row)
        fun _ => now * 1000) := by
  have id := found.id
  have status : stored.record.status = .readyToDownload :=
    found.status.trans ready
  have owned := related.owners stored found.inside principal
  have granted := related_granted related principal (mem_map_of_mem found.inside)
    (fun other => MemoryAccounting.addOwner (MemoryAccounting.markReady other manifest) principal)
    (by
      intro other member key
      have same : other = stored := inj_on_of_nodup_map related.ids member found.inside key
      rw [same, add_owner_view]
      unfold MemoryAccounting.markReady storedView
      rw [status]
      rfl)
    (fun other => add_owner_owners _ principal)
    (by
      intro other
      rw [add_owner_record]
      rfl)
  have outcome := @checked_cases options store tables principal manifest candidate.createdAtMs
    (related_agreed related principal) size
  have answered : (MemoryAccounting.addOwner (MemoryAccounting.markReady stored manifest)
      principal).record.status = .readyToDownload := by
    rw [add_owner_record]
    rfl
  have key : jobKey (MemoryAccounting.addOwner (MemoryAccounting.markReady stored manifest)
      principal) = jobKey stored := by
    unfold jobKey
    rw [add_owner_record]
    rfl
  have set := @set_key_update store.jobs related.ids stored _ found.inside key
    (fun other => MemoryAccounting.addOwner (MemoryAccounting.markReady other manifest) principal)
    rfl
  unfold MemoryAccounting.admitReady PostgresAccounting.admitArtifact
  rw [given]
  simp only [bind, Except.bind]
  cases identity : assertOfflineArtifactIdentity candidate (some manifest) with
  | error failure => rfl
  | ok checked =>
    simp only [Option.isNone_some, Bool.false_and, check_found, drop_found,
      PostgresAccounting.persistJob]
    rw [retain_manifest admissible.created]
    rcases outcome with failed | done
    · obtain ⟨failure, refused, memory⟩ := failed
      rw [refused]
      rcases memory with large | full
      · rw [large]
        rfl
      · rw [full.1]
        simp only
        rw [full.2]
        rfl
    · obtain ⟨⟨refs, removed⟩, ⟨evicted, next⟩, sized, memory, rows, retained⟩ := done
      rw [sized]
      simp only
      rw [memory, rows]
      have proper := admissible.proper _ (identity_package identity)
      have final := @retained_owner _ _ principal manifest.packageId row.id _
        (some manifest) refs removed evicted next granted proper retained
      have owners : (if (false || !PostgresAccounting.ownedBy tables principal row) = true
          then PostgresAccounting.insertOwner next row.id principal else next) =
          { next with owners := if (jobKey stored, principal) ∈ tables.owners then
            tables.owners else tables.owners ++ [(jobKey stored, principal)] } := by
        have same_owners : next.owners = tables.owners := retained.owners
        unfold PostgresAccounting.ownedBy PostgresAccounting.insertOwner
        rw [id, ← same_owners]
        by_cases already : (jobKey stored, principal) ∈ next.owners
        · simp [already]
        · simp [already]
      rw [← owners] at final
      refine ⟨⟨?_, rfl, ?_, ?_⟩, ?_⟩
      · simp only [Option.getD_some]
        rw [answered]
        exact ready.symm
      · simp only [Option.getD_some]
        change decide (principal ∉ stored.owners) = (false ||
          !PostgresAccounting.ownedBy tables principal row)
        unfold PostgresAccounting.ownedBy
        rw [id, Bool.false_or, ← decide_not, Bool.eq_iff_iff, decide_eq_true_eq,
          decide_eq_true_eq, owned]
      · simp only [Option.getD_some]
        rw [set]
        exact final.2
      · simp only [Option.getD_some]
        rw [set]
        exact final.1

theorem shared_views (candidate) : (MemoryAccounting.sharedJob store candidate = none ∧
      PostgresAccounting.sharedJob tables candidate = none) ∨
    ∃ stored row, MemoryAccounting.sharedJob store candidate = some stored ∧
      PostgresAccounting.sharedJob tables candidate = some row ∧ Found store tables stored row := by
  apply find_views related fun view => decide (view.requestKey = candidate.requestKey) &&
    (decide (view.status = .preparing) || decide (view.status = .readyToDownload))
  · exact fun stored _ => rfl
  · exact fun row => rfl

omit related in
theorem manifest_size (admissible : Admissible tables candidate call)
    (given : findManifest candidate call = .ok (some manifest)) :
    0 ≤ manifest.byteLength ∧ manifest.byteLength ≤ 9007199254740991 := by
  unfold findManifest at given
  split at given
  · cases given
  · exact admissible.sizes manifest given

theorem admission_matches (positive : 0 ≤ now) (unreached : Unreached options tables now)
    (admissible : Admissible tables candidate call) : Matches Admitted
      (MemoryAccounting.admitPackage (sharedLimits options) store principal candidate call now)
      (PostgresAccounting.admitPackage options tables principal candidate call
        fun _ => now * 1000) := by
  have failing : ∀ failure, findManifest candidate call = .error failure →
      ∀ shared, PostgresAccounting.admitArtifact options tables principal candidate call shared
        (fun _ => now * 1000) = .error failure := by
    intro failure failed shared
    unfold PostgresAccounting.admitArtifact
    rw [failed]
    rfl
  unfold MemoryAccounting.admitPackage PostgresAccounting.admitPackage
  rw [admissible.unfenced]
  split
  · simp only
    rcases shared_views related candidate with unshared | found
    · rw [unshared.1, unshared.2]
      simp only [Option.filter_none]
      cases given : findManifest candidate call with
      | error failure =>
        rw [failing failure given]
        rfl
      | ok answer =>
        cases answer with
        | none =>
          have new := @new_matches options store tables principal now related positive
            unreached candidate call admissible given (Or.inl unshared.2)
          rw [unshared.2] at new
          exact new
        | some manifest =>
          exact ready_new_matches related unreached admissible given unshared.2
            (manifest_size admissible given)
    · obtain ⟨stored, row, memory, rows, found⟩ := found
      have status := found.status
      rw [memory, rows]
      simp only
      by_cases preparing : row.status = .preparing
      · rw [if_pos preparing, Option.filter_some, if_pos (by simpa [status] using preparing)]
        exact join_matches related positive found
      · rw [if_neg preparing, Option.filter_some, if_neg (by simpa [status] using preparing)]
        simp only
        have live := find?_some rows
        rw [Bool.and_eq_true] at live
        have ready : row.status = .readyToDownload := by
          have either := live.2
          unfold PostgresAccounting.isLive at either
          simpa [preparing] using either
        cases given : findManifest candidate call with
        | error failure =>
          rw [failing failure given]
          rfl
        | ok answer =>
          cases answer with
          | none =>
            have new := @new_matches options store tables principal now related positive
              unreached candidate call admissible given
              (Or.inr ⟨given, row, rows, preparing⟩)
            rw [rows] at new
            exact new
          | some manifest =>
            exact ready_shared_matches related admissible given found ready
              (manifest_size admissible given)
  · rfl

omit related

end OpenMapX.OfflinePackages.AccountingAdmissions
