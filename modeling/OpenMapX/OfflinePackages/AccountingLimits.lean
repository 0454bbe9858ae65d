import OpenMapX.OfflinePackages.PostgresAccounting

/-!
# Limits of the accounting

What a principal retains is bounded by a fact about the references alone, and the leases by one
about the jobs and their owners. Each change of the tables keeps both.
-/

namespace OpenMapX.OfflinePackages.AccountingLimits

open PostgresAccounting List Function
open Bool (and_eq_true)

theorem count_one_more {Row Key : Type} (key : Row → Key) {rows : List Row}
    (unique : (rows.map key).Nodup) {before after : Row → Bool} (changed : Key)
    (others : ∀ row ∈ rows, after row = true → before row = true ∨ key row = changed) :
    rows.countP after ≤ rows.countP before + 1 := by
  induction rows with
  | nil => simp
  | cons row rest ih =>
    rw [map_cons, nodup_cons] at unique
    have rest_others : ∀ other ∈ rest, after other = true →
        before other = true ∨ key other = changed :=
      fun other member => others other (mem_cons_of_mem row member)
    have later := ih unique.2 rest_others
    rw [countP_cons, countP_cons]
    by_cases own : key row = changed
    · have same : rest.countP after ≤ rest.countP before := by
        apply countP_mono_left
        intro other member counted
        rcases rest_others other member counted with kept | again
        · exact kept
        · rw [← own] at again
          exact absurd (mem_map.mpr ⟨other, member, again⟩) unique.1
      split
      · split
        · omega
        · omega
      · omega
    · have kept := others row mem_cons_self
      split
      · rename_i counted
        rcases kept counted with still | again
        · rw [if_pos still]
          omega
        · exact absurd again own
      · omega

theorem filter_keys {Row Key : Type} [DecidableEq Key] (key : Row → Key) {rows gone : List Row}
    (unique : (rows.map key).Nodup) (within : gone.Sublist rows) :
    rows.filter (fun row => decide (key row ∈ gone.map key)) = gone := by
  induction within with
  | slnil => rfl
  | @cons gone rows row within ih =>
    rw [map_cons, nodup_cons] at unique
    have absent : key row ∉ gone.map key := fun member => unique.1 ((within.map key).subset member)
    rw [filter_cons_of_neg (by simpa using absent)]
    exact ih unique.2
  | @cons_cons gone rows row within ih =>
    rw [map_cons, nodup_cons] at unique
    rw [filter_cons_of_pos (by simp)]
    apply congrArg (row :: ·)
    rw [← ih unique.2]
    apply filter_congr
    intro other member
    have apart : key other ≠ key row := by
      intro same
      exact unique.1 (mem_map.mpr ⟨other, member, same⟩)
    rw [ih unique.2]
    simp [apart]

variable (options : Options)

def retainedBytes (references : List ReferenceRow) (principal : String) : Int :=
  ((references.filter fun row => row.principal = principal).map fun row => row.byteLength).sum

structure Retained (references : List ReferenceRow) : Prop where
  keys : (references.map fun row => (row.principal, row.packageId)).Nodup
  positive : ∀ row ∈ references, 0 ≤ row.byteLength
  count : ∀ principal, (references.filter fun row => row.principal = principal).length ≤
    options.maxRetainedReferences
  bytes : ∀ principal, retainedBytes references principal ≤ options.maxLogicalBytes

theorem sum_filter_le {rows : List ReferenceRow} (keep : ReferenceRow → Bool)
    (positive : ∀ row ∈ rows, 0 ≤ row.byteLength) :
    ((rows.filter keep).map fun row => row.byteLength).sum ≤
      (rows.map fun row => row.byteLength).sum := by
  induction rows with
  | nil => simp
  | cons row rest ih =>
    have own := positive row mem_cons_self
    have later := ih fun other member => positive other (mem_cons_of_mem row member)
    rw [filter_cons]
    split
    · simp only [map_cons, sum_cons]
      omega
    · simp only [map_cons, sum_cons]
      omega

theorem retained_filter {references : List ReferenceRow} (retained : Retained options references)
    (keep : ReferenceRow → Bool) : Retained options (references.filter keep) := by
  apply Retained.mk
  · exact ((filter_sublist).map _).nodup retained.keys
  · exact fun row member => retained.positive row (mem_filter.mp member).1
  · intro principal
    rw [filter_comm]
    exact (length_filter_le _ _).trans (retained.count principal)
  · intro principal
    unfold retainedBytes
    rw [filter_comm]
    apply le_trans (sum_filter_le keep _) (retained.bytes principal)
    exact fun row member => retained.positive row (mem_filter.mp member).1

theorem evict_spec (byteLength : Int) (shielded : String → Bool) (refs : List ReferenceRow) :
    ∀ (count : Nat) (bytes : Int) (evicted : List String), refs.length ≤ count →
    ∃ gone : List ReferenceRow, gone.Sublist refs ∧
      (evict options byteLength shielded refs count bytes evicted).2.2 =
        evicted ++ gone.map (fun row => row.packageId) ∧
      (evict options byteLength shielded refs count bytes evicted).1 + gone.length = count ∧
      (evict options byteLength shielded refs count bytes evicted).2.1 +
        (gone.map fun row => row.byteLength).sum = bytes := by
  induction refs with
  | nil => exact fun count bytes evicted _ => ⟨[], List.Sublist.slnil, by simp [evict]⟩
  | cons ref refs ih =>
    intro count bytes evicted room
    rw [length_cons] at room
    unfold evict
    split
    · exact ⟨[], nil_sublist _, by simp⟩
    · split
      · obtain ⟨gone, within, names, counted, summed⟩ := ih count bytes evicted (by omega)
        exact ⟨gone, within.cons ref, names, counted, summed⟩
      · obtain ⟨gone, within, names, counted, summed⟩ :=
          ih (count - 1) (bytes - ref.byteLength) (evicted ++ [ref.packageId]) (by omega)
        refine ⟨ref :: gone, within.cons_cons ref, ?_, ?_, ?_⟩
        · rw [names]
          simp
        · rw [length_cons]
          omega
        · rw [map_cons, sum_cons]
          omega

theorem left_over {rows sorted gone : List ReferenceRow} (same : sorted.Perm rows)
    (unique : (rows.map fun row => row.packageId).Nodup) (within : gone.Sublist sorted) :
    let left := rows.filter fun row => !(decide (row.packageId ∈ gone.map fun row => row.packageId))
    left.length + gone.length = rows.length ∧
      (left.map fun row => row.byteLength).sum + (gone.map fun row => row.byteLength).sum =
        (rows.map fun row => row.byteLength).sum := by
  intro left
  have unique_sorted := (same.map fun row => row.packageId).nodup_iff.mpr unique
  have removed := filter_keys (fun row : ReferenceRow => row.packageId) unique_sorted within
  have parts := filter_append_perm
    (fun row : ReferenceRow => decide (row.packageId ∈ gone.map fun row => row.packageId)) sorted
  rw [removed] at parts
  have rest : (sorted.filter fun row =>
      !(decide (row.packageId ∈ gone.map fun row => row.packageId))).Perm left := same.filter _
  have whole : (gone ++ left).Perm rows :=
    ((List.Perm.append_left gone rest).symm.trans parts).trans same
  have counted := whole.length_eq
  have summed := (whole.map fun row => row.byteLength).sum_eq
  rw [length_append] at counted
  rw [map_append, sum_append] at summed
  omega

section

variable {references : List ReferenceRow} (retained : Retained options references)
include retained

theorem own_keys (principal : String) :
    ((references.filter fun row => row.principal = principal).map
      fun row => row.packageId).Nodup := by
  have pairs := ((filter_sublist
    (p := fun row : ReferenceRow => decide (row.principal = principal))).map
      fun row : ReferenceRow => (row.principal, row.packageId)).nodup retained.keys
  have shape : ((references.filter fun row => row.principal = principal).map
      fun row => row.packageId).map (fun packageId => (principal, packageId)) =
      (references.filter fun row => row.principal = principal).map
        fun row => (row.principal, row.packageId) := by
    rw [map_map]
    apply map_congr_left
    intro row member
    have owner : row.principal = principal := by simpa using (mem_filter.mp member).2
    simp [owner]
  rw [← shape] at pairs
  exact List.Nodup.of_map _ pairs

theorem retained_replace (row : ReferenceRow) (positive : 0 ≤ row.byteLength) {left}
    (gone : List String) (fresh : ∀ other ∈ references, other.principal = row.principal →
      other.packageId ≠ row.packageId)
    (remaining : left = (references.filter fun other => other.principal = row.principal).filter
      fun other => !(decide (other.packageId ∈ gone)))
    (counted : left.length < options.maxRetainedReferences)
    (summed : (left.map fun other => other.byteLength).sum + row.byteLength ≤
      options.maxLogicalBytes) : Retained options ((references.filter fun other =>
      !(decide (other.principal = row.principal) && decide (other.packageId ∈ gone))) ++ [row]) := by
  have kept := retained_filter options retained fun other =>
    !(decide (other.principal = row.principal) && decide (other.packageId ∈ gone))
  have own : ((references.filter fun other => !(decide (other.principal = row.principal) &&
      decide (other.packageId ∈ gone))).filter fun other => other.principal = row.principal) =
      left := by
    rw [remaining, filter_filter, filter_filter]
    apply filter_congr
    intro other _
    cases decide (other.principal = row.principal) with
    | true => simp
    | false => simp
  apply Retained.mk
  · rw [map_append, map_singleton, nodup_append]
    refine ⟨kept.keys, nodup_singleton _, ?_⟩
    intro pair inside other last
    rw [mem_singleton] at last
    obtain ⟨old, member, same⟩ := mem_map.mp inside
    rw [last, ← same]
    intro equal
    obtain ⟨owner, package⟩ := Prod.mk.inj equal
    exact fresh old (mem_filter.mp member).1 owner package
  · exact forall_mem_append.mpr ⟨kept.positive, forall_mem_singleton.mpr positive⟩
  · intro principal
    rw [filter_append, length_append]
    by_cases same : row.principal = principal
    · rw [← same, own]
      simp
      omega
    · rw [filter_cons_of_neg (by simpa using same)]
      exact kept.count principal
  · intro principal
    unfold retainedBytes
    rw [filter_append, map_append, sum_append]
    by_cases same : row.principal = principal
    · rw [← same, own]
      simpa using summed
    · rw [filter_cons_of_neg (by simpa using same)]
      have bounded := kept.bytes principal
      unfold retainedBytes at bounded
      simpa using bounded

end

theorem retain_spec {tables next : Tables} {principal packageId : String}
    {byteLength retainedAt : Int} {evicted : List String}
    (retained : Retained options tables.references)
    (result : retainReference options tables principal packageId byteLength retainedAt =
      .ok (evicted, next)) :
    next.jobs = tables.jobs ∧ next.owners = tables.owners ∧ Retained options next.references := by
  unfold retainReference at result
  split at result
  · cases result
  · rename_i fits
    split at result
    · have same := (Prod.mk.inj (Except.ok.inj result)).2
      rw [← same]
      exact ⟨rfl, rfl, retained⟩
    · rename_i fresh
      simp only at result
      split at result
      · cases result
      · rename_i room
        obtain ⟨names, same⟩ := Prod.mk.inj (Except.ok.inj result)
        rw [← same]
        refine ⟨rfl, rfl, ?_⟩
        have sorted : ((referencesOf tables principal).insertionSort
            (retainedBefore options)).Perm (referencesOf tables principal) :=
          perm_insertionSort _ _
        obtain ⟨gone, within, gone_names, counted, summed⟩ := evict_spec options byteLength
          (protectedArtifact tables)
          ((referencesOf tables principal).insertionSort (retainedBefore options)) _
          ((((referencesOf tables principal).insertionSort (retainedBefore options)).map
            fun ref => ref.byteLength).sum) [] (Nat.le_refl _)
        obtain ⟨left_count, left_sum⟩ := left_over sorted (own_keys options retained principal)
          within
        have whole_count := sorted.length_eq
        have whole_sum := (sorted.map fun ref => ref.byteLength).sum_eq
        rw [nil_append] at gone_names
        rw [gone_names]
        have positive : 0 ≤ byteLength := (not_not.mp fits).1
        apply retained_replace options retained ⟨principal, packageId, byteLength, retainedAt⟩
          positive _ _ rfl
        · unfold referencesOf at *
          simp only at *
          omega
        · unfold referencesOf at *
          simp only at *
          omega
        · intro other member owner package
          apply fresh
          simp only [referencesOf, any_filter, any_eq_true]
          exact ⟨other, member, by simp [owner, package]⟩

variable (maxRunning : Nat)

structure Leases (now : Int) (tables : Tables) : Prop where
  ids : (tables.jobs.map fun job => job.id).Nodup
  bounded : globalRunning tables now ≤ maxRunning
  principals : ∀ principal, runningCount tables principal now ≤ options.maxRunningPerPrincipal

theorem running_earlier {now later : Int} (passes : now ≤ later) {job : JobRow}
    (still : running later job = true) : running now job = true := by
  unfold running leased at still ⊢
  simp only [and_eq_true] at still ⊢
  apply And.intro still.1
  cases expires : job.leaseExpiresAt with
  | none =>
    rw [expires] at still
    cases still.2
  | some instant =>
    rw [expires] at still
    have before := still.2
    simp only [decide_eq_true_eq] at before ⊢
    omega

variable {options maxRunning}

theorem Leases.later {now later : Int} {tables : Tables}
    (leases : Leases options maxRunning now tables) (passes : now ≤ later) :
    Leases options maxRunning later tables := by
  apply Leases.mk leases.ids
  · apply le_trans _ leases.bounded
    exact countP_mono_left fun job _ still => running_earlier passes still
  · intro principal
    apply le_trans _ (leases.principals principal)
    apply countP_mono_left
    intro job _ still
    simp only [and_eq_true] at still ⊢
    exact ⟨still.1, running_earlier passes still.2⟩

theorem Leases.same {now : Int} {tables next : Tables}
    (leases : Leases options maxRunning now tables) (jobs : next.jobs = tables.jobs)
    (owners : next.owners = tables.owners) : Leases options maxRunning now next := by
  obtain ⟨next_jobs, next_owners, references⟩ := next
  simp only at jobs owners
  subst jobs owners
  exact ⟨leases.ids, leases.bounded, leases.principals⟩

theorem ids_update {tables : Tables} (ids : (tables.jobs.map fun job => job.id).Nodup)
    (jobId : String) {change : JobRow → JobRow} (same_id : ∀ job, (change job).id = job.id) :
    ((updateJob tables jobId change).jobs.map fun job => job.id).Nodup := by
  have same : (updateJob tables jobId change).jobs.map (fun job => job.id) =
      tables.jobs.map fun job => job.id := by
    simp only [updateJob, map_map]
    apply map_congr_left
    intro job _
    simp only [comp_apply]
    split
    · exact same_id job
    · rfl
  rw [same]
  exact ids

theorem Leases.map {now later : Int} {tables next : Tables}
    (leases : Leases options maxRunning now tables) (change : JobRow → JobRow)
    (jobs : next.jobs = tables.jobs.map change) (owners : next.owners = tables.owners)
    (same_id : ∀ job, (change job).id = job.id)
    (calm : ∀ job ∈ tables.jobs, running later (change job) = true → running now job = true) :
    Leases options maxRunning later next := by
  apply Leases.mk
  · have same : next.jobs.map (fun job => job.id) = tables.jobs.map fun job => job.id := by
      rw [jobs, map_map]
      apply map_congr_left
      exact fun job _ => same_id job
    rw [same]
    exact leases.ids
  · apply le_trans _ leases.bounded
    unfold globalRunning
    rw [jobs, countP_map]
    exact countP_mono_left calm
  · intro principal
    apply le_trans _ (leases.principals principal)
    unfold runningCount
    rw [jobs, countP_map]
    apply countP_mono_left
    intro job member counted
    simp only [comp_apply, and_eq_true] at counted ⊢
    apply And.intro _ (calm job member counted.2)
    have owned := counted.1
    unfold ownedBy at owned ⊢
    rw [owners, same_id] at owned
    exact owned

section

variable {now later : Int} {tables : Tables} (leases : Leases options maxRunning now tables)
  (passes : now ≤ later) (jobId : String) (change : JobRow → JobRow)
  (same_id : ∀ job, (change job).id = job.id)
include leases passes same_id

theorem Leases.update
    (calm : ∀ job ∈ tables.jobs, job.id = jobId → running later (change job) = true →
      running now job = true) :
    Leases options maxRunning later (updateJob tables jobId change) := by
  refine @Leases.map options maxRunning now later tables (updateJob tables jobId change) leases
    (fun job => if job.id = jobId then change job else job) rfl rfl ?_ ?_
  · intro job
    split
    · exact same_id job
    · rfl
  · intro job member still
    split at still
    · rename_i own
      exact calm job member own still
    · exact running_earlier passes still

theorem Leases.grant (room : ∃ reading, reading ≤ later ∧ globalRunning tables reading < maxRunning)
    (owners : ∀ principal, (jobId, principal) ∈ tables.owners → ∃ reading, reading ≤ later ∧
      runningCount tables principal reading < options.maxRunningPerPrincipal) :
    Leases options maxRunning later (updateJob tables jobId change) := by
  apply Leases.mk (ids_update leases.ids jobId same_id)
  · obtain ⟨reading, earlier, free⟩ := room
    apply le_trans _ (Nat.succ_le_of_lt free)
    unfold globalRunning updateJob
    rw [countP_map]
    apply count_one_more (fun job : JobRow => job.id) leases.ids jobId
    intro job _ still
    simp only [comp_apply] at still
    split at still
    · rename_i own
      exact Or.inr own
    · exact Or.inl (running_earlier earlier still)
  · intro principal
    by_cases owner : (jobId, principal) ∈ tables.owners
    · obtain ⟨reading, earlier, free⟩ := owners principal owner
      apply le_trans _ (Nat.succ_le_of_lt free)
      unfold runningCount updateJob
      rw [countP_map]
      apply count_one_more (fun job : JobRow => job.id) leases.ids jobId
      intro job _ counted
      simp only [comp_apply] at counted
      split at counted
      · rename_i own
        exact Or.inr own
      · simp only [and_eq_true] at counted ⊢
        exact Or.inl ⟨counted.1, running_earlier earlier counted.2⟩
    · apply le_trans _ (leases.principals principal)
      unfold runningCount updateJob
      rw [countP_map]
      apply countP_mono_left
      intro job _ counted
      simp only [comp_apply] at counted
      split at counted
      · rename_i own
        simp only [and_eq_true, ownedBy, decide_eq_true_eq] at counted
        rw [same_id, own] at counted
        exact absurd counted.1 owner
      · simp only [and_eq_true] at counted ⊢
        exact ⟨counted.1, running_earlier passes counted.2⟩

end

theorem Leases.delete {now : Int} {tables : Tables} (leases : Leases options maxRunning now tables)
    (doomed : JobRow → Bool) : Leases options maxRunning now (deleteJobs tables doomed) := by
  apply Leases.mk
  · exact (filter_sublist.map _).nodup leases.ids
  · exact (filter_sublist.countP_le).trans leases.bounded
  · intro principal
    apply le_trans _ (leases.principals principal)
    apply le_trans (filter_sublist.countP_le)
    apply countP_mono_left
    intro job _ counted
    simp only [and_eq_true, ownedBy, decide_eq_true_eq] at counted ⊢
    exact ⟨(mem_filter.mp counted.1).1, counted.2⟩

def Idle (tables : Tables) (jobId : String) : Prop :=
  ∀ job ∈ tables.jobs, job.id = jobId → ∀ now, running now job = false

theorem Leases.insert {now : Int} {tables next : Tables}
    (leases : Leases options maxRunning now tables) (row : JobRow)
    (unleased : row.leaseExpiresAt = none) (result : insertJob tables row = .ok next) :
    Leases options maxRunning now next ∧ Idle next row.id ∧ next.references = tables.references := by
  have quiet : ∀ instant, running instant row = false := by
    intro instant
    unfold running leased
    rw [unleased, Bool.and_false]
  unfold insertJob at result
  split at result
  · cases result
  · rename_i distinct
    have same := Except.ok.inj result
    rw [← same]
    simp only [Bool.or_eq_true, not_or, any_eq_true, not_exists, not_and,
      decide_eq_true_eq] at distinct
    refine ⟨?_, ?_, rfl⟩
    · apply Leases.mk
      · rw [map_append, map_singleton, nodup_append]
        refine ⟨leases.ids, nodup_singleton _, ?_⟩
        intro id inside other last
        rw [mem_singleton] at last
        obtain ⟨job, member, own⟩ := mem_map.mp inside
        rw [last, ← own]
        exact distinct.1 job member
      · unfold globalRunning
        rw [countP_append, countP_singleton, quiet]
        simpa [globalRunning] using leases.bounded
      · intro principal
        have bounded := leases.principals principal
        unfold runningCount at bounded ⊢
        rw [countP_append, countP_singleton, quiet]
        simpa [ownedBy] using bounded
    · intro job member own instant
      rcases mem_append.mp member with old | new
      · exact absurd own (distinct.1 job old)
      · rw [mem_singleton] at new
        rw [new]
        exact quiet instant

theorem Leases.join {now : Int} {tables : Tables} (leases : Leases options maxRunning now tables)
    (jobId principal : String) (room : Idle tables jobId ∨
      (∀ job ∈ tables.jobs, job.id = jobId → running now job = false) ∨
      ∃ reading, reading ≤ now ∧
        runningCount tables principal reading < options.maxRunningPerPrincipal) :
    Leases options maxRunning now (insertOwner tables jobId principal) := by
  refine @Leases.mk options maxRunning now (insertOwner tables jobId principal) leases.ids
    leases.bounded ?_
  intro other
  have shared : ∀ job : JobRow, ownedBy (insertOwner tables jobId principal) other job = true →
      ownedBy tables other job = true ∨ (job.id = jobId ∧ other = principal) := by
    intro job owned
    simp only [ownedBy, insertOwner, decide_eq_true_eq, mem_append, mem_singleton,
      Prod.mk.injEq] at owned ⊢
    exact owned
  have quiet_case : (∀ job ∈ tables.jobs, job.id = jobId → running now job = false) →
      runningCount (insertOwner tables jobId principal) other now ≤
        options.maxRunningPerPrincipal := by
    intro quiet
    apply le_trans _ (leases.principals other)
    apply countP_mono_left
    intro job member counted
    simp only [and_eq_true] at counted ⊢
    rcases shared job counted.1 with kept | own
    · exact ⟨kept, counted.2⟩
    · rw [quiet job member own.1] at counted
      cases counted.2
  rcases room with idle | rest
  · exact quiet_case fun job member own => idle job member own now
  · rcases rest with quiet | free
    · exact quiet_case quiet
    · obtain ⟨reading, earlier, few⟩ := free
      by_cases same : other = principal
      · rw [same]
        apply le_trans _ (Nat.succ_le_of_lt few)
        apply count_one_more (fun job : JobRow => job.id) leases.ids jobId
        intro job _ counted
        simp only [and_eq_true] at counted ⊢
        rw [same] at shared
        rcases shared job counted.1 with kept | own
        · exact Or.inl ⟨kept, running_earlier earlier counted.2⟩
        · exact Or.inr own.1
      · apply le_trans _ (leases.principals other)
        apply countP_mono_left
        intro job member counted
        simp only [and_eq_true] at counted ⊢
        rcases shared job counted.1 with kept | own
        · exact ⟨kept, counted.2⟩
        · exact absurd own.2 same

end OpenMapX.OfflinePackages.AccountingLimits
