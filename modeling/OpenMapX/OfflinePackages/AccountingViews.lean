import OpenMapX.OfflinePackages.AccountingLimits
import OpenMapX.OfflinePackages.MemoryAccounting

/-!
# One view of both stores

Both stores hold the same jobs in the same order, the same owners and the same references; what
they ask of a job they ask of its view.
-/

namespace OpenMapX.OfflinePackages.AccountingViews

open Foundation.KeyedList List
open OfflinePackages.PostgresAccounting (Status ErrorCode OfflineMapPackageManifest
  OfflinePackageJobRecord Failure JobRow ReferenceRow Tables)
open OfflinePackages.MemoryAccounting (StoredJob ArtifactReference PrincipalReferences
  Store jobKey)

structure View where
  id : String
  requestKey : String
  packageId : String
  status : Status
  createdAt : Int
  leaseOwner : Option String
  leaseExpiresAt : Option Int
  deriving DecidableEq

def packageKey (record : OfflinePackageJobRecord) : String :=
  record.packageId.getD ("invalid-" ++ record.jobId)

def storedView (stored : StoredJob) : View where
  id := stored.record.jobId
  requestKey := stored.record.requestKey
  packageId := packageKey stored.record
  status := stored.record.status
  createdAt := stored.record.createdAtMs * 1000
  leaseOwner := stored.leaseOwner
  leaseExpiresAt := stored.leaseExpiresAtMs.map (· * 1000)

def rowView (row : JobRow) : View where
  id := row.id
  requestKey := row.requestKey
  packageId := row.packageId
  status := row.status
  createdAt := row.createdAt
  leaseOwner := row.leaseOwner
  leaseExpiresAt := row.leaseExpiresAt

def referenceRow (principal : String) (ref : ArtifactReference) : ReferenceRow :=
  ⟨principal, ref.packageId, ref.byteLength, ref.retainedAtMs * 1000⟩

def Proper (packageId : String) : Prop := ∀ jobId : String, packageId ≠ "invalid-" ++ jobId

def sharedLimits (options : PostgresAccounting.Options) : MemoryAccounting.Options where
  maxRunning := options.maxRunningPerPrincipal
  maxQueued := options.maxQueuedPerPrincipal
  maxRetainedReferences := options.maxRetainedReferences
  maxLogicalBytes := options.maxLogicalBytes
  localeBefore := options.collation

structure Related (store : Store) (tables : Tables) : Prop where
  jobs : store.jobs.map storedView = tables.jobs.map rowView
  ids : (store.jobs.map jobKey).Nodup
  owners : ∀ stored ∈ store.jobs, ∀ principal,
    principal ∈ stored.owners ↔ (jobKey stored, principal) ∈ tables.owners
  owned : ∀ stored ∈ store.jobs, stored.owners ≠ []
  known : ∀ row ∈ tables.owners, row.1 ∈ store.jobs.map jobKey
  once : tables.owners.Nodup
  packages : ∀ stored ∈ store.jobs, ∀ packageId, stored.record.packageId = some packageId →
    Proper packageId
  references : ∀ principal, (MemoryAccounting.referencesOf store principal).map
    (referenceRow principal) = PostgresAccounting.referencesOf tables principal
  principals : (store.references.map PrincipalReferences.principal).Nodup
  distinct : ∀ principal, ((MemoryAccounting.referencesOf store principal).map
    fun ref => ref.packageId).Nodup
  proper : ∀ principal, ∀ ref ∈ MemoryAccounting.referencesOf store principal, Proper ref.packageId

variable {tables : Tables} {store : Store} {stored_asks : StoredJob → Bool}
variable {row_asks : JobRow → Bool}

section

variable (related : Related store tables) (asked : View → Bool)
  (memory : ∀ stored ∈ store.jobs, stored_asks stored = asked (storedView stored))
  (rows : ∀ row, row_asks row = asked (rowView row))
include related memory rows

theorem count_views : store.jobs.countP stored_asks = tables.jobs.countP row_asks := by
  have first : store.jobs.countP stored_asks = (store.jobs.map storedView).countP asked := by
    rw [countP_map]
    apply countP_congr
    intro stored member
    rw [memory stored member]
    rfl
  have second : tables.jobs.countP row_asks = (tables.jobs.map rowView).countP asked := by
    rw [countP_map]
    apply countP_congr
    intro row _
    rw [rows row]
    rfl
  rw [first, second, related.jobs]

theorem any_views : store.jobs.any stored_asks = tables.jobs.any row_asks := by
  have counted := count_views related asked memory rows
  rw [Bool.eq_iff_iff, any_eq_true, any_eq_true]
  have positive : (0 < store.jobs.countP stored_asks) ↔ (0 < tables.jobs.countP row_asks) := by
    rw [counted]
  rw [countP_pos_iff, countP_pos_iff] at positive
  exact positive

end

structure Found (store : Store) (tables : Tables) (stored : StoredJob) (row : JobRow) : Prop where
  inside : stored ∈ store.jobs
  held : row ∈ tables.jobs
  same : storedView stored = rowView row

section

variable (found : Found store tables stored row)
include found

theorem Found.id : row.id = jobKey stored :=
  (congrArg View.id found.same).symm

theorem Found.status : stored.record.status = row.status := congrArg View.status found.same

theorem Found.worker : stored.leaseOwner = row.leaseOwner := congrArg View.leaseOwner found.same

end

theorem find_views (related : Related store tables) (asked : View → Bool)
    (memory : ∀ stored ∈ store.jobs, stored_asks stored = asked (storedView stored))
    (rows : ∀ row, row_asks row = asked (rowView row)) :
    (store.jobs.find? stored_asks = none ∧ tables.jobs.find? row_asks = none) ∨
    ∃ stored row, store.jobs.find? stored_asks = some stored ∧
      tables.jobs.find? row_asks = some row ∧ Found store tables stored row := by
  have first : (store.jobs.find? stored_asks).map storedView =
      (store.jobs.map storedView).find? asked := by
    rw [find?_map]
    apply congrArg
    apply find?_congr
    intro stored member
    exact memory stored member
  have second : (tables.jobs.find? row_asks).map rowView =
      (tables.jobs.map rowView).find? asked := by
    rw [find?_map]
    apply congrArg
    apply find?_congr
    intro row _
    exact rows row
  rw [related.jobs, ← second] at first
  cases stored_found : store.jobs.find? stored_asks with
  | none =>
    rw [stored_found, Option.map_none] at first
    cases row_found : tables.jobs.find? row_asks with
    | none => exact Or.inl ⟨rfl, rfl⟩
    | some row =>
      rw [row_found] at first
      cases first
  | some stored =>
    rw [stored_found, Option.map_some] at first
    cases row_found : tables.jobs.find? row_asks with
    | none =>
      rw [row_found] at first
      cases first
    | some row =>
      rw [row_found, Option.map_some] at first
      exact Or.inr ⟨stored, row, rfl, rfl, mem_of_find?_eq_some stored_found,
        mem_of_find?_eq_some row_found, Option.some.inj first⟩

def viewLeased (now : Int) (view : View) : Bool :=
  match view.leaseExpiresAt with
  | none => false
  | some expires => now * 1000 < expires

variable {now : Int}

theorem stored_leased (positive : 0 ≤ now) (stored : StoredJob) :
    MemoryAccounting.leased now stored = viewLeased now (storedView stored) := by
  unfold MemoryAccounting.leased viewLeased storedView
  cases stored.leaseExpiresAtMs with
  | none =>
    simp only [Option.getD_none, Option.map_none, decide_eq_false_iff_not]
    omega
  | some expires =>
    simp only [Option.getD_some, Option.map_some]
    rw [Bool.eq_iff_iff, decide_eq_true_eq, decide_eq_true_eq]
    omega

theorem row_leased (now : Int) (row : JobRow) :
    PostgresAccounting.leased (now * 1000) row = viewLeased now (rowView row) := rfl

variable (related : Related store tables)
include related

theorem owner_views {stored} (member : stored ∈ store.jobs) (principal : String) :
    decide (principal ∈ stored.owners) =
      decide (((storedView stored).id, principal) ∈ tables.owners) := by
  rw [Bool.eq_iff_iff, decide_eq_true_eq, decide_eq_true_eq]
  exact related.owners stored member principal

theorem running_counts (positive : 0 ≤ now) (principal : String) :
    MemoryAccounting.runningCount store principal now =
      PostgresAccounting.runningCount tables principal (now * 1000) := by
  apply count_views related fun view => decide ((view.id, principal) ∈ tables.owners) &&
    (decide (view.status = .preparing) && viewLeased now view)
  · intro stored member
    rw [owner_views related member]
    unfold MemoryAccounting.running
    rw [stored_leased positive]
    rfl
  · exact fun row => rfl

theorem queued_counts (positive : 0 ≤ now) (principal : String) :
    MemoryAccounting.queuedCount store principal now =
      PostgresAccounting.queuedCount tables principal (now * 1000) := by
  apply count_views related fun view => decide ((view.id, principal) ∈ tables.owners) &&
    (decide (view.status = .preparing) && !viewLeased now view)
  · intro stored member
    rw [owner_views related member, stored_leased positive]
    rfl
  · exact fun row => rfl

theorem global_counts (positive : 0 ≤ now) : store.jobs.countP (MemoryAccounting.running now) =
      PostgresAccounting.globalRunning tables (now * 1000) := by
  apply count_views related fun view =>
    decide (view.status = .preparing) && viewLeased now view
  · intro stored _
    unfold MemoryAccounting.running
    rw [stored_leased positive]
    rfl
  · exact fun row => rfl

omit related

variable {packageId : String}

theorem package_views (proper : Proper packageId) (stored : StoredJob) :
    decide (stored.record.packageId = some packageId) =
      decide ((storedView stored).packageId = packageId) := by
  rw [Bool.eq_iff_iff, decide_eq_true_eq, decide_eq_true_eq]
  unfold storedView packageKey
  cases given : stored.record.packageId with
  | none =>
    simp only [Option.getD_none]
    constructor
    · intro impossible
      cases impossible
    · exact fun same => absurd same.symm (proper stored.record.jobId)
  | some other =>
    simp only [Option.getD_some, Option.some.injEq]

variable (related : Related store tables)
include related

theorem prepared_views (proper : Proper packageId) :
    MemoryAccounting.isBeingPrepared store packageId =
      PostgresAccounting.protectedArtifact tables packageId := by
  apply any_views related fun view =>
    decide (view.packageId = packageId) && decide (view.status = .preparing)
  · intro stored _
    rw [package_views proper stored, Bool.and_comm]
    rfl
  · exact fun row => rfl

omit related in
theorem mem_references_of (distinct : (store.references.map PrincipalReferences.principal).Nodup) :
    MemoryAccounting.referenced store packageId = true ↔
      ∃ principal, ∃ ref ∈ MemoryAccounting.referencesOf store principal,
        ref.packageId = packageId := by
  unfold MemoryAccounting.referenced MemoryAccounting.referencesOf
  rw [any_eq_true]
  constructor
  · intro found
    obtain ⟨entry, member, some_ref⟩ := found
    rw [any_eq_true] at some_ref
    obtain ⟨ref, inside, same⟩ := some_ref
    refine ⟨entry.principal, ref, ?_, by simpa using same⟩
    rw [find_key_of_mem distinct member]
    exact inside
  · intro found
    obtain ⟨principal, ref, inside, same⟩ := found
    cases known : findKey PrincipalReferences.principal store.references principal with
    | none =>
      rw [known] at inside
      cases inside
    | some entry =>
      rw [known] at inside
      refine ⟨entry, (find_key_mem known).1, ?_⟩
      rw [any_eq_true]
      exact ⟨ref, inside, by simpa using same⟩

theorem referenced_views (packageId : String) : MemoryAccounting.referenced store packageId =
      tables.references.any fun row => row.packageId = packageId := by
  rw [Bool.eq_iff_iff, mem_references_of related.principals, any_eq_true]
  constructor
  · intro found
    obtain ⟨principal, ref, inside, same⟩ := found
    have mapped := mem_map_of_mem (f := referenceRow principal) inside
    rw [related.references principal] at mapped
    exact ⟨_, (mem_filter.mp mapped).1, decide_eq_true same⟩
  · intro found
    obtain ⟨row, member, same⟩ := found
    have own : row ∈ PostgresAccounting.referencesOf tables row.principal :=
      mem_filter.mpr ⟨member, by simp⟩
    rw [← related.references row.principal] at own
    obtain ⟨ref, inside, mapped⟩ := mem_map.mp own
    refine ⟨row.principal, ref, inside, ?_⟩
    rw [← mapped] at same
    exact of_decide_eq_true same

theorem Related.mapped
    (change : StoredJob → StoredJob) (row_change : JobRow → JobRow) (view_change : View → View)
    (memory : ∀ stored ∈ store.jobs, storedView (change stored) = view_change (storedView stored))
    (rows : ∀ row ∈ tables.jobs, rowView (row_change row) = view_change (rowView row))
    (keys : ∀ stored, jobKey (change stored) = jobKey stored)
    (owners : ∀ stored, (change stored).owners = stored.owners)
    (packages : ∀ stored ∈ store.jobs, ∀ packageId,
      (change stored).record.packageId = some packageId → Proper packageId) :
    Related { store with jobs := store.jobs.map change }
      { tables with jobs := tables.jobs.map row_change } := by
  have same_keys : (store.jobs.map change).map jobKey = store.jobs.map jobKey := by
    rw [map_map]
    apply map_congr_left
    exact fun stored _ => keys stored
  have memory_views : (store.jobs.map change).map storedView =
      (store.jobs.map storedView).map view_change := by
    rw [map_map, map_map]
    apply map_congr_left
    exact memory
  have row_views : (tables.jobs.map row_change).map rowView =
      (tables.jobs.map rowView).map view_change := by
    rw [map_map, map_map]
    apply map_congr_left
    exact rows
  refine ⟨?_, ?_, ?_, ?_, ?_, related.once, ?_, related.references, related.principals,
    related.distinct, related.proper⟩
  · rw [memory_views, row_views, related.jobs]
  · rw [same_keys]
    exact related.ids
  · intro stored member principal
    obtain ⟨before, inside, same⟩ := mem_map.mp member
    rw [← same, owners, keys]
    exact related.owners before inside principal
  · intro stored member
    obtain ⟨before, inside, same⟩ := mem_map.mp member
    rw [← same, owners]
    exact related.owned before inside
  · intro row member
    rw [same_keys]
    exact related.known row member
  · intro stored member packageId given
    obtain ⟨before, inside, same⟩ := mem_map.mp member
    rw [← same] at given
    exact packages before inside packageId given

theorem Related.update (jobId : String) (change : StoredJob → StoredJob)
    (row_change : JobRow → JobRow) (view_change : View → View)
    (memory : ∀ stored, storedView (change stored) = view_change (storedView stored))
    (rows : ∀ row, rowView (row_change row) = view_change (rowView row))
    (keys : ∀ stored, jobKey (change stored) = jobKey stored)
    (owners : ∀ stored, (change stored).owners = stored.owners)
    (packages : ∀ stored ∈ store.jobs, ∀ packageId,
      (change stored).record.packageId = some packageId → Proper packageId) :
    Related (MemoryAccounting.updateJob store jobId change)
      (PostgresAccounting.updateJob tables jobId row_change) := by
  apply related.mapped _ _ fun view => if view.id = jobId then view_change view else view
  · intro stored _
    by_cases own : jobKey stored = jobId
    · have same_id : (storedView stored).id = jobId := own
      rw [if_pos own, if_pos same_id]
      exact memory stored
    · have other_id : (storedView stored).id ≠ jobId := own
      rw [if_neg own, if_neg other_id]
  · intro row _
    by_cases own : row.id = jobId
    · have same_id : (rowView row).id = jobId := own
      rw [if_pos own, if_pos same_id]
      exact rows row
    · have other_id : (rowView row).id ≠ jobId := own
      rw [if_neg own, if_neg other_id]
  · intro stored
    split
    · exact keys stored
    · rfl
  · intro stored
    split
    · exact owners stored
    · rfl
  · intro stored member packageId given
    split at given
    · exact packages stored member packageId given
    · exact related.packages stored member packageId given

omit related

theorem Related.rereference {store next : Store} {tables final : Tables}
    (related : Related store tables) (jobs : next.jobs = store.jobs)
    (row_jobs : final.jobs = tables.jobs) (row_owners : final.owners = tables.owners)
    (references : ∀ principal, (MemoryAccounting.referencesOf next principal).map
      (referenceRow principal) = PostgresAccounting.referencesOf final principal)
    (principals : (next.references.map PrincipalReferences.principal).Nodup)
    (distinct : ∀ principal, ((MemoryAccounting.referencesOf next principal).map
      fun ref => ref.packageId).Nodup)
    (proper : ∀ principal, ∀ ref ∈ MemoryAccounting.referencesOf next principal,
      Proper ref.packageId) : Related next final := by
  refine ⟨?_, ?_, ?_, ?_, ?_, ?_, ?_, references, principals, distinct, proper⟩
  · rw [jobs, row_jobs]
    exact related.jobs
  · rw [jobs]
    exact related.ids
  · rw [jobs, row_owners]
    exact related.owners
  · rw [jobs]
    exact related.owned
  · rw [jobs, row_owners]
    exact related.known
  · rw [row_owners]
    exact related.once
  · rw [jobs]
    exact related.packages

theorem references_set (store : Store) (principal other : String) (refs) :
    MemoryAccounting.referencesOf (MemoryAccounting.setReferences store principal refs) other =
      if other = principal then refs else MemoryAccounting.referencesOf store other := by
  unfold MemoryAccounting.referencesOf MemoryAccounting.setReferences
  simp only [find_set_key]
  split
  · rfl
  · rfl

theorem invalidate_related (related : Related store tables) (proper : Proper packageId)
    (now at_time : Int) : Related (MemoryAccounting.invalidateArtifact store packageId now)
      (PostgresAccounting.invalidateArtifact tables packageId at_time) := by
  have jobs := related.mapped
    (fun stored => if stored.record.packageId = some packageId &&
        stored.record.status = .readyToDownload then
      { stored with
        record := { stored.record with
          status := .expired
          manifest := none
          errorCode := some .expired
          errorMessage := some "offline package artifact unavailable; prepare the area again"
          updatedAtMs := now }
        leaseOwner := none
        leaseExpiresAtMs := none }
      else stored)
    (fun job => if job.packageId = packageId && job.status = .readyToDownload then
      { job with
        status := .expired
        manifest := none
        errorCode := some .expired
        errorMessage := some "offline package artifact unavailable; prepare the area again"
        updatedAt := at_time
        leaseOwner := none
        leaseExpiresAt := none }
      else job)
    (fun view => if decide (view.packageId = packageId) &&
        decide (view.status = .readyToDownload) then
      { view with status := .expired, leaseOwner := none, leaseExpiresAt := none }
      else view)
    (by
      intro stored _
      have asked : (decide (stored.record.packageId = some packageId) &&
          decide (stored.record.status = Status.readyToDownload)) =
          (decide ((storedView stored).packageId = packageId) &&
            decide ((storedView stored).status = Status.readyToDownload)) := by
        rw [package_views proper stored]
        rfl
      rw [← asked]
      split
      · rfl
      · rfl)
    (by
      intro row _
      change rowView (if _ then _ else _) = if (decide (row.packageId = packageId) &&
        decide (row.status = Status.readyToDownload)) = true then _ else _
      split
      · rfl
      · rfl)
    (by
      intro stored
      split
      · rfl
      · rfl)
    (by
      intro stored
      split
      · rfl
      · rfl)
    (by
      intro stored member other given
      split at given
      · exact related.packages stored member other given
      · exact related.packages stored member other given)
  have filtered : ∀ principal, MemoryAccounting.referencesOf
      (MemoryAccounting.invalidateArtifact store packageId now) principal =
      (MemoryAccounting.referencesOf store principal).filter
        (fun ref => ref.packageId ≠ packageId) := by
    intro principal
    unfold MemoryAccounting.referencesOf MemoryAccounting.invalidateArtifact findKey
    simp only [find?_map]
    have same : ((fun item : PrincipalReferences => decide (item.principal = principal)) ∘
        fun entry : PrincipalReferences =>
          { entry with refs := entry.refs.filter (fun ref => ref.packageId ≠ packageId) }) =
        fun item : PrincipalReferences => decide (item.principal = principal) := rfl
    rw [same]
    cases store.references.find? fun item => decide (item.principal = principal) with
    | none => rfl
    | some entry => rfl
  refine @Related.rereference _ (MemoryAccounting.invalidateArtifact store packageId now) _
    (PostgresAccounting.invalidateArtifact tables packageId at_time) jobs rfl rfl rfl ?_ ?_ ?_ ?_
  · intro principal
    rw [filtered]
    have mapped : ((MemoryAccounting.referencesOf store principal).filter
        (fun ref => ref.packageId ≠ packageId)).map (referenceRow principal) =
        ((MemoryAccounting.referencesOf store principal).map (referenceRow principal)).filter
          (fun row => row.packageId ≠ packageId) := by
      rw [filter_map]
      rfl
    rw [mapped, related.references principal]
    unfold PostgresAccounting.referencesOf PostgresAccounting.invalidateArtifact
    rw [filter_comm]
  · have same : (MemoryAccounting.invalidateArtifact store packageId now).references.map
        PrincipalReferences.principal = store.references.map PrincipalReferences.principal := by
      unfold MemoryAccounting.invalidateArtifact
      rw [map_map]
      rfl
    rw [same]
    exact related.principals
  · intro principal
    rw [filtered]
    exact (filter_sublist.map _).nodup (related.distinct principal)
  · intro principal ref member
    rw [filtered] at member
    exact related.proper principal ref (mem_filter.mp member).1

end OpenMapX.OfflinePackages.AccountingViews
