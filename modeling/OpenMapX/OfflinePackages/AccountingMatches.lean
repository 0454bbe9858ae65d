import OpenMapX.OfflinePackages.AccountingViews

/-!
# References in both stores

Both stores evict the same packages for a new reference, or both refuse it.
-/

namespace OpenMapX.OfflinePackages.AccountingMatches

open Foundation.KeyedList AccountingViews List Bool
open OfflinePackages.PostgresAccounting (Status ErrorCode OfflineMapPackageManifest
  OfflinePackageJobRecord Failure JobRow ReferenceRow Tables Options)
open OfflinePackages.MemoryAccounting (StoredJob ArtifactReference PrincipalReferences
  Store jobKey)

section

variable {First Second Next Last : Type}

def Matches (same : First → Second → Prop) : Except Failure First → Except Failure Second → Prop
  | .ok first, .ok second => same first second
  | .error failure, .error other => failure = other
  | _, _ => False

theorem Matches.mono {same weaker : First → Second → Prop} {first second}
    (outcomes : Matches same first second)
    (implied : ∀ left right, same left right → weaker left right) :
    Matches weaker first second := by
  cases first with
  | error failure =>
    cases second with
    | error other => exact outcomes
    | ok right => exact False.elim outcomes
  | ok left =>
    cases second with
    | error other => exact False.elim outcomes
    | ok right => exact implied left right outcomes

theorem matches_cases {same : First → Second → Prop} {first second}
    (outcomes : Matches same first second) :
    (∃ failure, first = .error failure ∧ second = .error failure) ∨
      ∃ left right, first = .ok left ∧ second = .ok right ∧ same left right := by
  cases first with
  | error failure =>
    cases second with
    | error other => exact Or.inl ⟨failure, rfl, congrArg _ (Eq.symm outcomes)⟩
    | ok right => exact False.elim outcomes
  | ok left =>
    cases second with
    | error other => exact False.elim outcomes
    | ok right => exact Or.inr ⟨left, right, rfl, rfl, outcomes⟩

end

def packages (refs : List ArtifactReference) : List String := refs.map fun ref => ref.packageId

def bytes (refs : List ArtifactReference) : Int := (refs.map fun ref => ref.byteLength).sum

theorem without_one {refs} (distinct : (packages refs).Nodup) {gone} (member : gone ∈ refs) :
    (refs.filter fun ref => ref.packageId ≠ gone.packageId).length = refs.length - 1 ∧
      bytes (refs.filter fun ref => ref.packageId ≠ gone.packageId) =
        bytes refs - gone.byteLength := by
  induction refs with
  | nil => cases member
  | cons first rest ih =>
    unfold packages at distinct
    rw [map_cons, nodup_cons] at distinct
    by_cases own : first.packageId = gone.packageId
    · have same : first = gone := by
        rcases mem_cons.mp member with here | later
        · exact here.symm
        · rw [own] at distinct
          exact absurd (mem_map_of_mem later) distinct.1
      have others : (rest.filter fun ref => ref.packageId ≠ gone.packageId) = rest := by
        rw [filter_eq_self]
        intro ref inside
        rw [decide_eq_true_eq]
        intro again
        rw [own, ← again] at distinct
        exact distinct.1 (mem_map_of_mem inside)
      rw [filter_cons_of_neg (by simpa using own), others, same]
      unfold bytes
      rw [map_cons, sum_cons, length_cons]
      omega
    · have later : gone ∈ rest := by
        rcases mem_cons.mp member with here | later
        · exact absurd (congrArg _ here.symm) own
        · exact later
      have rest_parts := ih distinct.2 later
      have occupied : 0 < rest.length := length_pos_of_mem later
      rw [filter_cons_of_pos (by simpa using own)]
      unfold bytes at rest_parts ⊢
      rw [map_cons, sum_cons, map_cons, sum_cons, length_cons,
        length_cons]
      omega

variable (options : Options)

theorem over_budget (refs) (byteLength : Int) :
    MemoryAccounting.overBudget (sharedLimits options) refs byteLength = true ↔
      ¬ (refs.length < options.maxRetainedReferences ∧
        bytes refs + byteLength ≤ options.maxLogicalBytes) := by
  unfold MemoryAccounting.overBudget sharedLimits bytes
  rw [or_eq_true, decide_eq_true_eq, decide_eq_true_eq]
  simp only
  omega

theorem evict_views {principal : String} {byteLength : Int} {shielded guarded : String → Bool}
    (left) : ∀ (refs : List ArtifactReference) (removed : List String),
    (packages left).Nodup → (packages refs).Nodup → (∀ ref ∈ left, ref ∈ refs) →
    (∀ ref ∈ left, shielded ref.packageId = guarded ref.packageId) →
    ∃ gone after, MemoryAccounting.evict (sharedLimits options) byteLength shielded left refs
        removed = (after, removed ++ gone) ∧
      PostgresAccounting.evict options byteLength guarded (left.map (referenceRow principal))
        refs.length (bytes refs) removed = (after.length, bytes after, removed ++ gone) ∧
      after = refs.filter (fun ref => ref.packageId ∉ gone) ∧
      ∀ packageId ∈ gone, guarded packageId = false := by
  induction left with
  | nil =>
    intro refs removed _ _ _ _
    refine ⟨[], refs, ?_, ?_, ?_, ?_⟩
    · rw [append_nil]
      rfl
    · rw [append_nil]
      rfl
    · simp
    · intro packageId member
      cases member
  | cons candidate rest ih =>
    intro refs removed once distinct within alike
    unfold packages at once
    rw [map_cons, nodup_cons] at once
    have rest_within : ∀ ref ∈ rest, ref ∈ refs :=
      fun ref member => within ref (mem_cons_of_mem candidate member)
    have rest_alike : ∀ ref ∈ rest, shielded ref.packageId = guarded ref.packageId :=
      fun ref member => alike ref (mem_cons_of_mem candidate member)
    have own_alike := alike candidate mem_cons_self
    rw [map_cons]
    unfold MemoryAccounting.evict PostgresAccounting.evict
    by_cases full : MemoryAccounting.overBudget (sharedLimits options) refs byteLength = true
    · rw [if_pos full, if_neg ((over_budget options refs byteLength).mp full)]
      have shown : (referenceRow principal candidate).packageId = candidate.packageId := rfl
      rw [shown]
      by_cases kept : guarded candidate.packageId = true
      · rw [if_pos kept, if_pos (own_alike.trans kept)]
        exact ih refs removed once.2 distinct rest_within rest_alike
      · rw [if_neg kept, if_neg (fun held => kept (own_alike.symm.trans held))]
        have smaller := without_one distinct (within candidate mem_cons_self)
        have remaining : ∀ ref ∈ rest,
            ref ∈ refs.filter fun ref => ref.packageId ≠ candidate.packageId := by
          intro ref member
          rw [mem_filter, decide_eq_true_eq]
          refine ⟨rest_within ref member, ?_⟩
          intro again
          apply once.1
          rw [← again]
          exact mem_map_of_mem member
        have fewer : (packages
            (refs.filter fun ref => ref.packageId ≠ candidate.packageId)).Nodup :=
          (filter_sublist.map _).nodup distinct
        obtain ⟨gone, after, memory, rows, remains, exposed⟩ :=
          ih _ (removed ++ [candidate.packageId]) once.2 fewer remaining rest_alike
        rw [smaller.1, smaller.2] at rows
        refine ⟨candidate.packageId :: gone, after, ?_, ?_, ?_, ?_⟩
        · rw [memory, append_assoc]
          rfl
        · have length : (referenceRow principal candidate).byteLength = candidate.byteLength :=
            rfl
          rw [length, rows, append_assoc]
          rfl
        · rw [remains, filter_filter]
          apply filter_congr
          intro ref _
          rw [Bool.eq_iff_iff]
          simp only [and_eq_true, decide_eq_true_eq, mem_cons]
          tauto
        · intro packageId member
          rcases mem_cons.mp member with same | later
          · rw [same]
            exact eq_false_iff.mpr kept
          · exact exposed packageId later
    · have fits : refs.length < options.maxRetainedReferences ∧
          bytes refs + byteLength ≤ options.maxLogicalBytes := by
        by_contra over_limit
        exact full ((over_budget options refs byteLength).mpr over_limit)
      rw [if_neg full, if_pos fits]
      refine ⟨[], refs, ?_, ?_, ?_, ?_⟩
      · rw [append_nil]
      · rw [append_nil]
      · simp
      · intro packageId member
        cases member

/-- What the stores agree on before one of them retains something for a principal. -/
structure Agreed (store : Store) (tables : Tables) (principal : String) : Prop where
  references : (MemoryAccounting.referencesOf store principal).map (referenceRow principal) =
    PostgresAccounting.referencesOf tables principal
  distinct : (packages (MemoryAccounting.referencesOf store principal)).Nodup
  shields : ∀ ref ∈ MemoryAccounting.referencesOf store principal,
    MemoryAccounting.isBeingPrepared store ref.packageId =
      PostgresAccounting.protectedArtifact tables ref.packageId

structure Retained (tables : Tables) (principal : String) (packageId : String)
    (memory : List ArtifactReference × List String) (rows : List String × Tables) : Prop where
  evicted : memory.2 = rows.1
  jobs : rows.2.jobs = tables.jobs
  owners : rows.2.owners = tables.owners
  references : memory.1.map (referenceRow principal) =
    PostgresAccounting.referencesOf rows.2 principal
  others : ∀ other, other ≠ principal → PostgresAccounting.referencesOf rows.2 other =
    PostgresAccounting.referencesOf tables other
  distinct : (packages memory.1).Nodup
  exposed : ∀ gone ∈ memory.2, PostgresAccounting.protectedArtifact tables gone = false
  known : ∀ ref ∈ memory.1, ref.packageId = packageId ∨
    ∃ row ∈ PostgresAccounting.referencesOf tables principal, row.packageId = ref.packageId

section

variable (principal : String) (refs : List ArtifactReference)

theorem sorted_views :
    (refs.insertionSort (MemoryAccounting.retainedBefore (sharedLimits options))).map
      (referenceRow principal) = (refs.map (referenceRow principal)).insertionSort
        (PostgresAccounting.retainedBefore options) := by
  apply map_insertionSort
  intro left _ right _
  unfold MemoryAccounting.retainedBefore PostgresAccounting.retainedBefore referenceRow sharedLimits
  simp only
  constructor
  · intro before
    rcases before with earlier | same
    · exact Or.inl (by omega)
    · exact Or.inr ⟨by omega, same.2⟩
  · intro before
    rcases before with earlier | same
    · exact Or.inl (by omega)
    · exact Or.inr ⟨by omega, same.2⟩

theorem sorted_bytes : ((refs.map (referenceRow principal)).insertionSort
      (PostgresAccounting.retainedBefore options)).length = refs.length ∧
    (((refs.map (referenceRow principal)).insertionSort
      (PostgresAccounting.retainedBefore options)).map fun ref => ref.byteLength).sum =
        bytes refs := by
  have same := perm_insertionSort (PostgresAccounting.retainedBefore options)
    (refs.map (referenceRow principal))
  have summed := (same.map fun ref => ref.byteLength).sum_eq
  rw [map_map] at summed
  exact ⟨same.length_eq.trans (length_map _), summed⟩

end

variable {options} {store : Store} {tables : Tables} {principal : String}

section

variable (gone : List String) (row : ReferenceRow) (own : row.principal = principal)
include gone own

theorem own_after :
    PostgresAccounting.referencesOf { tables with
      references := (tables.references.filter fun row =>
        !(row.principal = principal && row.packageId ∈ gone)) ++ [row] } principal =
    (PostgresAccounting.referencesOf tables principal).filter (fun row => row.packageId ∉ gone) ++
      [row] := by
  unfold PostgresAccounting.referencesOf
  rw [filter_append, filter_filter, filter_filter]
  congr 1
  · apply filter_congr
    intro other _
    rw [Bool.eq_iff_iff]
    simp only [and_eq_true, decide_eq_true_eq, not_eq_true', and_eq_false_imp,
      decide_eq_false_iff_not]
    tauto
  · rw [filter_cons_of_pos (by simpa using own)]
    rfl

theorem others_after
    {other : String} (apart : other ≠ principal) :
    PostgresAccounting.referencesOf { tables with
      references := (tables.references.filter fun row =>
        !(row.principal = principal && row.packageId ∈ gone)) ++ [row] } other =
    PostgresAccounting.referencesOf tables other := by
  unfold PostgresAccounting.referencesOf
  have foreign : [row].filter (fun row => row.principal = other) = [] := by
    rw [filter_eq_nil_iff]
    intro same member
    rw [mem_singleton.mp member, decide_eq_true_eq, own]
    exact apart.symm
  rw [filter_append, filter_filter, foreign, append_nil]
  apply filter_congr
  intro reference _
  by_cases theirs : reference.principal = other
  · have different : reference.principal ≠ principal := by
      rw [theirs]
      exact apart
    simp [theirs, apart]
  · simp [theirs]

end

section

variable {manifest : OfflineMapPackageManifest} {retainedAtMs : Int}

theorem retain_matches (agreed : Agreed store tables principal)
    (size : 0 ≤ manifest.byteLength ∧ manifest.byteLength ≤ 9007199254740991 ∧
      manifest.byteLength ≤ options.maxLogicalBytes) :
    Matches (Retained tables principal manifest.packageId)
      (MemoryAccounting.retain (sharedLimits options) store principal manifest retainedAtMs)
      (PostgresAccounting.retainReference options tables principal manifest.packageId
        manifest.byteLength (retainedAtMs * 1000)) := by
  have there : ((PostgresAccounting.referencesOf tables principal).any
      fun row => row.packageId = manifest.packageId) =
      (MemoryAccounting.referencesOf store principal).any
        fun ref => ref.packageId = manifest.packageId := by
    rw [← agreed.references, any_map]
    rfl
  have original : ∀ ref ∈ MemoryAccounting.referencesOf store principal,
      ∃ row ∈ PostgresAccounting.referencesOf tables principal, row.packageId = ref.packageId := by
    intro ref member
    rw [← agreed.references]
    exact ⟨_, mem_map_of_mem member, rfl⟩
  unfold MemoryAccounting.retain PostgresAccounting.retainReference
  rw [if_neg (not_not.mpr size), there]
  simp only
  by_cases retained : ((MemoryAccounting.referencesOf store principal).any
      fun ref => ref.packageId = manifest.packageId) = true
  · rw [if_pos retained, if_pos retained]
    exact ⟨rfl, rfl, rfl, agreed.references, fun _ _ => rfl, agreed.distinct,
      (fun gone member => by cases member), fun ref member => Or.inr (original ref member)⟩
  · rw [if_neg retained, if_neg retained]
    have same_members := perm_insertionSort
      (MemoryAccounting.retainedBefore (sharedLimits options))
      (MemoryAccounting.referencesOf store principal)
    obtain ⟨gone, after, memory, rows, remains, exposed⟩ :=
      @evict_views options principal manifest.byteLength
        (MemoryAccounting.isBeingPrepared store)
        (PostgresAccounting.protectedArtifact tables) _
        (MemoryAccounting.referencesOf store principal) []
        ((same_members.map _).nodup_iff.mpr agreed.distinct) agreed.distinct
        (fun ref member => same_members.mem_iff.mp member)
        (fun ref member => agreed.shields ref (same_members.mem_iff.mp member))
    rw [sorted_views] at rows
    have counted := sorted_bytes options principal (MemoryAccounting.referencesOf store principal)
    rw [← agreed.references, counted.1, counted.2, rows]
    unfold MemoryAccounting.evictForNewReference
    simp only
    rw [memory]
    simp only [nil_append]
    by_cases full : MemoryAccounting.overBudget (sharedLimits options) after
        manifest.byteLength = true
    · have refused := (over_budget ..).mp full
      have full_rows : options.maxRetainedReferences ≤ after.length ∨
          (options.maxLogicalBytes : Int) < bytes after + manifest.byteLength := by omega
      rw [if_pos full, if_pos full_rows]
      rfl
    · have fits : ¬ (options.maxRetainedReferences ≤ after.length ∨
          (options.maxLogicalBytes : Int) < bytes after + manifest.byteLength) := by
        intro full_rows
        apply full
        rw [over_budget]
        omega
      rw [if_neg full, if_neg fits]
      have left_packages : (packages after).Nodup := by
        rw [remains]
        exact (filter_sublist.map _).nodup agreed.distinct
      refine ⟨rfl, rfl, rfl, ?_, ?_, ?_, exposed, ?_⟩
      · have rows_after := @own_after tables principal gone ⟨principal, manifest.packageId,
          manifest.byteLength, retainedAtMs * 1000⟩ rfl
        refine Eq.trans ?_ rows_after.symm
        simp only
        rw [map_append, remains, ← agreed.references, filter_map]
        rfl
      · exact fun other apart => @others_after tables principal gone ⟨principal,
          manifest.packageId, manifest.byteLength, retainedAtMs * 1000⟩ rfl other apart
      · unfold packages at left_packages ⊢
        rw [map_append, nodup_append]
        refine ⟨left_packages, by simp, ?_⟩
        intro first member last last_member same
        rw [map_cons, map_nil, mem_singleton] at last_member
        obtain ⟨ref, inside, own⟩ := mem_map.mp member
        apply retained
        rw [any_eq_true]
        rw [remains] at inside
        refine ⟨ref, (mem_filter.mp inside).1, ?_⟩
        rw [decide_eq_true_eq, own, same, last_member]
      · intro ref member
        rcases mem_append.mp member with old | last
        · rw [remains] at old
          exact Or.inr (original ref (mem_filter.mp old).1)
        · rw [mem_singleton.mp last]
          exact Or.inl rfl

theorem retain_error {limits} {failure : Failure}
    (failed : MemoryAccounting.retain limits store principal manifest retainedAtMs =
      .error failure) : failure = .principalQuota "retained artifact budget is full" := by
  unfold MemoryAccounting.retain at failed
  simp only at failed
  split at failed
  · cases failed
  · unfold MemoryAccounting.evictForNewReference at failed
    simp only at failed
    split at failed
    · exact (Except.error.inj failed).symm
    · cases failed

end

variable (related : Related store tables)
include related

theorem related_agreed (principal : String) : Agreed store tables principal where
  references := related.references principal
  distinct := related.distinct principal
  shields ref member := prepared_views related (related.proper principal ref member)

omit related in
theorem protected_views {next : Tables} (jobs : next.jobs.map rowView = tables.jobs.map rowView)
    (packageId : String) : PostgresAccounting.protectedArtifact next packageId =
      PostgresAccounting.protectedArtifact tables packageId := by
  have asked : ∀ rows : List JobRow,
      (rows.any fun job => job.packageId = packageId && job.status = .preparing) =
        (rows.map rowView).any fun view =>
          decide (view.packageId = packageId) && decide (view.status = .preparing) := by
    intro rows
    rw [any_map]
    rfl
  unfold PostgresAccounting.protectedArtifact
  rw [asked, asked, jobs]

theorem related_rows {next : Tables}
    (jobs : next.jobs.map rowView = tables.jobs.map rowView) (owners : next.owners = tables.owners)
    (references : next.references = tables.references) : Related store next := by
  refine ⟨?_, related.ids, ?_, related.owned, ?_, ?_, related.packages, ?_, related.principals,
    related.distinct, related.proper⟩
  · rw [jobs]
    exact related.jobs
  · rw [owners]
    exact related.owners
  · rw [owners]
    exact related.known
  · rw [owners]
    exact related.once
  · intro principal
    unfold PostgresAccounting.referencesOf
    rw [references]
    exact related.references principal

section

variable {packageId : String} {memory : List ArtifactReference × List String}
  {rows : List String × Tables} (proper : Proper packageId)
  (retained : Retained tables principal packageId memory rows)
include proper retained

theorem retained_proper : ∀ ref ∈ memory.1, Proper ref.packageId := by
  intro ref member
  rcases retained.known ref member with new | old
  · rw [new]
    exact proper
  · obtain ⟨row, inside, same⟩ := old
    rw [← related.references principal] at inside
    obtain ⟨held, held_member, shown⟩ := mem_map.mp inside
    have own := related.proper principal held held_member
    rw [← same, ← shown]
    exact own

theorem related_retained :
    Related (MemoryAccounting.setReferences store principal memory.1) rows.2 := by
  refine @Related.rereference store (MemoryAccounting.setReferences store principal memory.1)
    tables rows.2 related rfl retained.jobs retained.owners ?_ ?_ ?_ ?_
  · intro other
    rw [references_set]
    split
    · rename_i own
      rw [own]
      exact retained.references
    · rename_i apart
      rw [retained.others other apart]
      exact related.references other
  · exact set_key_nodup related.principals
  · intro other
    rw [references_set]
    split
    · exact retained.distinct
    · exact related.distinct other
  · intro other ref member
    rw [references_set] at member
    split at member
    · exact retained_proper related proper retained ref member
    · exact related.proper other ref member

end

theorem related_inserted {stored} {row : JobRow} (same : storedView stored = rowView row)
    (fresh : jobKey stored ∉ store.jobs.map jobKey) (owners : stored.owners = [principal])
    (proper : ∀ packageId, stored.record.packageId = some packageId → Proper packageId) :
    Related { store with jobs := store.jobs ++ [stored] }
      { tables with
        jobs := tables.jobs ++ [row]
        owners := tables.owners ++ [(row.id, principal)] } := by
  have id : row.id = jobKey stored := (congrArg View.id same).symm
  have absent : ∀ other, (row.id, other) ∉ tables.owners := by
    intro other member
    apply fresh
    rw [← id]
    exact related.known _ member
  refine ⟨?_, ?_, ?_, ?_, ?_, ?_, ?_, related.references, related.principals, related.distinct,
    related.proper⟩
  · rw [map_append, map_append, related.jobs, map_singleton, map_singleton,
      same]
  · rw [map_append, nodup_append]
    refine ⟨related.ids, by simp, ?_⟩
    intro first member last last_member again
    rw [map_singleton, mem_singleton] at last_member
    rw [again, last_member] at member
    exact fresh member
  · intro other member someone
    rw [mem_append, mem_singleton]
    rcases mem_append.mp member with old | last
    · have apart : jobKey other ≠ row.id := by
        intro again
        apply fresh
        rw [← id, ← again]
        exact mem_map_of_mem old
      rw [related.owners other old someone]
      constructor
      · exact Or.inl
      · intro either
        rcases either with kept | new
        · exact kept
        · exact absurd (congrArg Prod.fst new) apart
    · rw [mem_singleton.mp last, owners, mem_singleton, ← id]
      constructor
      · intro own
        rw [own]
        exact Or.inr rfl
      · intro either
        rcases either with old | new
        · exact absurd old (absent someone)
        · exact congrArg Prod.snd new
  · refine forall_mem_append.mpr ⟨related.owned, forall_mem_singleton.mpr ?_⟩
    rw [owners]
    simp
  · intro owner member
    rw [map_append, mem_append]
    rcases mem_append.mp member with old | last
    · exact Or.inl (related.known owner old)
    · rw [mem_singleton.mp last, id]
      exact Or.inr (by simp)
  · rw [nodup_append]
    refine ⟨related.once, by simp, ?_⟩
    intro first member last last_member again
    rw [mem_singleton] at last_member
    rw [again, last_member] at member
    exact absent principal member
  · refine forall_mem_append.mpr ⟨related.packages, forall_mem_singleton.mpr ?_⟩
    intro packageId given
    exact proper packageId given

theorem related_granted (principal : String) {jobId : String}
    (there : jobId ∈ store.jobs.map jobKey) (change : StoredJob → StoredJob)
    (views : ∀ stored ∈ store.jobs, jobKey stored = jobId →
      storedView (change stored) = storedView stored) (owners : ∀ stored, (change stored).owners =
      if principal ∈ stored.owners then stored.owners else stored.owners ++ [principal])
    (packages : ∀ stored, (change stored).record.packageId = stored.record.packageId) :
    Related (MemoryAccounting.updateJob store jobId change)
      { tables with owners := if (jobId, principal) ∈ tables.owners then tables.owners
        else tables.owners ++ [(jobId, principal)] } := by
  have same_views : (MemoryAccounting.updateJob store jobId change).jobs.map storedView =
      store.jobs.map storedView := by
    unfold MemoryAccounting.updateJob
    rw [map_map]
    apply map_congr_left
    intro stored member
    rw [Function.comp_apply]
    split
    · rename_i own
      exact views stored member own
    · rfl
  have same_keys : (MemoryAccounting.updateJob store jobId change).jobs.map jobKey =
      store.jobs.map jobKey := by
    have shown := congrArg (List.map View.id) same_views
    rw [map_map, map_map] at shown
    exact shown
  have granted : ∀ row : String × String, row ∈ (if (jobId, principal) ∈ tables.owners then
      tables.owners else tables.owners ++ [(jobId, principal)]) ↔
      row ∈ tables.owners ∨ row = (jobId, principal) := by
    intro row
    split
    · rename_i owned
      constructor
      · exact Or.inl
      · intro either
        rcases either with old | new
        · exact old
        · rw [new]
          exact owned
    · rw [mem_append, mem_singleton]
  refine ⟨?_, ?_, ?_, ?_, ?_, ?_, ?_, related.references, related.principals, related.distinct,
    related.proper⟩
  · rw [same_views]
    exact related.jobs
  · rw [same_keys]
    exact related.ids
  · intro stored member someone
    rw [granted]
    obtain ⟨before, inside, same⟩ := mem_map.mp member
    rw [← same]
    split
    · rename_i own
      have key : jobKey (change before) = jobKey before :=
        congrArg View.id (views before inside own)
      rw [key, own, owners]
      have held := related.owners before inside someone
      rw [own] at held
      split
      · rename_i already
        rw [held]
        constructor
        · exact Or.inl
        · intro either
          rcases either with old | new
          · exact old
          · have own_row := (related.owners before inside principal).mp already
            rw [own] at own_row
            rw [new]
            exact own_row
      · rw [mem_append, mem_singleton, held, Prod.mk.injEq]
        simp
    · rename_i apart
      rw [related.owners before inside someone]
      constructor
      · exact Or.inl
      · intro either
        rcases either with old | new
        · exact old
        · exact absurd (congrArg Prod.fst new) apart
  · intro stored member
    obtain ⟨before, inside, same⟩ := mem_map.mp member
    rw [← same]
    split
    · rw [owners]
      split
      · exact related.owned before inside
      · simp
    · exact related.owned before inside
  · intro row member
    rw [same_keys]
    rw [granted] at member
    rcases member with old | new
    · exact related.known row old
    · rw [new]
      exact there
  · simp only
    split
    · exact related.once
    · rename_i absent
      rw [nodup_append]
      refine ⟨related.once, by simp, ?_⟩
      intro first member last last_member again
      rw [mem_singleton] at last_member
      rw [again, last_member] at member
      exact absent member
  · intro stored member packageId given
    obtain ⟨before, inside, same⟩ := mem_map.mp member
    rw [← same] at given
    split at given
    · rw [packages] at given
      exact related.packages before inside packageId given
    · exact related.packages before inside packageId given

theorem unreferenced_views {removed}
    (exposed : ∀ gone ∈ removed, PostgresAccounting.protectedArtifact tables gone = false) :
    MemoryAccounting.unreferenced store removed =
      PostgresAccounting.unreferenced tables removed := by
  unfold MemoryAccounting.unreferenced PostgresAccounting.unreferenced
  apply filter_congr
  intro packageId member
  rw [referenced_views related, exposed packageId (mem_eraseDups.mp member), Bool.not_false,
    Bool.and_true]

omit related

theorem set_key_update {jobs} (ids : (jobs.map jobKey).Nodup) {stored changed}
    (member : stored ∈ jobs) (key : jobKey changed = jobKey stored) {change : StoredJob → StoredJob}
    (same : change stored = changed) : setKey jobKey jobs changed =
      jobs.map fun other => if jobKey other = jobKey stored then change other else other := by
  have known : (jobs.any fun other => jobKey other = jobKey changed) = true := by
    rw [any_eq_true]
    exact ⟨stored, member, by rw [key]; simp⟩
  unfold setKey
  rw [if_pos known, key]
  apply map_congr_left
  intro other inside
  split
  · rename_i own
    have found : other = stored := inj_on_of_nodup_map ids inside member own
    rw [found, same]
  · rfl

end OpenMapX.OfflinePackages.AccountingMatches
