import OpenMapX.OfflinePackages.AccountingLimits

/-!
# Calls of the accounting

Every call keeps the limits, provided that a claim takes over no live lease and that a renewal
finds its lease live or room for it.
-/

namespace OpenMapX.OfflinePackages.AccountingCalls

open PostgresAccounting AccountingLimits List Prod

theorem bind_ok {Value Result : Type} {first} {rest : Value → Except Failure Result}
    {result : Result} (done : (first >>= rest) = .ok result) :
    ∃ value, first = .ok value ∧ rest value = .ok result := by
  cases first with
  | error failure => cases done
  | ok value => exact ⟨value, rfl, done⟩

variable (options : Options) (maxRunning : Nat)

structure Sound (now : Int) (tables : Tables) : Prop where
  retained : Retained options tables.references
  leases : Leases options maxRunning now tables

/-- A call after `now` whose statements read a clock that does not go back. -/
structure Timed (now ends : Int) (clock : Nat → Int) : Prop where
  starts : now ≤ clock 0
  advances : Monotone clock
  finishes : ∀ reading, clock reading ≤ ends

variable {clock : Nat → Int} {now ends : Int}

theorem Timed.passes (timed : Timed now ends clock) :
    now ≤ ends := timed.starts.trans (timed.finishes 0)

variable {options maxRunning}

theorem idle_of_status {tables : Tables} (ids : (tables.jobs.map fun job => job.id).Nodup)
    {shared : JobRow} (member : shared ∈ tables.jobs) (through : shared.status ≠ .preparing) :
    Idle tables shared.id := by
  intro job inside own now
  have same : job = shared := inj_on_of_nodup_map ids inside member own
  rw [same]
  unfold running
  simp [through]

theorem tracked_sound {now : Int} {tables : Tables} (leases : Leases options maxRunning now tables)
    : Leases options maxRunning now (pruneTracked options tables) ∧
      (pruneTracked options tables).references = tables.references := by
  unfold pruneTracked
  split
  · split
    · exact ⟨leases, rfl⟩
    · exact ⟨leases.delete _, rfl⟩
  · exact ⟨leases, rfl⟩

variable {tables next : Tables}

theorem prune_sound {now first second : Int} {queued : Bool}
    (leases : Leases options maxRunning now tables)
    (result : pruneAndCheckGlobalCapacity options tables queued first second = .ok next) :
    Leases options maxRunning now next ∧ next.references = tables.references := by
  unfold pruneAndCheckGlobalCapacity at result
  simp only at result
  split at result
  · cases result
  · split at result
    · cases result
    · have same := Except.ok.inj result
      rw [← same]
      exact tracked_sound (leases.delete _)

variable {candidate : OfflinePackageJobRecord}

theorem persist_sound {now : Int} {kept} {status : Status} {manifest} {job : JobRow}
    (leases : Leases options maxRunning now tables)
    (idle : ∀ shared, kept = some shared → Idle tables shared.id)
    (result : persistJob options tables kept candidate status manifest clock = .ok (job, next)) :
    Leases options maxRunning now next ∧ Idle next job.id ∧
      next.references = tables.references := by
  unfold persistJob at result
  cases kept with
  | some shared =>
    obtain ⟨same_job, same⟩ := mk.inj (Except.ok.inj result)
    rw [← same, ← same_job]
    exact ⟨leases, idle shared rfl, rfl⟩
  | none =>
    obtain ⟨pruned, first, result⟩ := bind_ok result
    obtain ⟨createdAt, -, result⟩ := bind_ok result
    obtain ⟨updatedAt, -, result⟩ := bind_ok result
    obtain ⟨inserted, second, result⟩ := bind_ok result
    obtain ⟨same_job, same⟩ := mk.inj (Except.ok.inj result)
    obtain ⟨pruned_leases, pruned_references⟩ := prune_sound leases first
    obtain ⟨inserted_leases, inserted_idle, references⟩ := pruned_leases.insert _ rfl second
    rw [← same, ← same_job]
    exact ⟨inserted_leases, inserted_idle, references.trans pruned_references⟩

theorem invalidate_sound {now later : Int} {tables : Tables}
    (sound : Sound options maxRunning now tables) (passes : now ≤ later) (packageId : String)
    (at_time : Int) :
    Sound options maxRunning later (invalidateArtifact tables packageId at_time) := by
  apply Sound.mk
  · exact retained_filter options sound.retained _
  · refine @Leases.map options maxRunning now later tables
      (invalidateArtifact tables packageId at_time) sound.leases _ rfl rfl ?_ ?_
    · intro job
      split
      · rfl
      · rfl
    · intro job _ still
      split at still
      · simp [running] at still
      · exact running_earlier passes still

theorem drop_sound {now : Int} {tables : Tables} {shared} (candidate manifest) (at_time : Int)
    (sound : Sound options maxRunning now tables)
    (idle : ∀ job, shared = some job → Idle tables job.id) :
    Sound options maxRunning now (dropMissing tables shared candidate manifest at_time).2 ∧
      ∀ job, (dropMissing tables shared candidate manifest at_time).1 = some job →
        Idle (dropMissing tables shared candidate manifest at_time).2 job.id := by
  unfold dropMissing
  split
  · apply And.intro (invalidate_sound sound (le_refl now) _ at_time)
    intro job impossible
    cases impossible
  · exact ⟨sound, idle⟩

variable {principal : String}

theorem retain_manifest_sound {now : Int} {manifest evicted}
    (sound : Sound options maxRunning now tables)
    (result : retainManifest options tables principal candidate manifest = .ok (evicted, next)) :
    Sound options maxRunning now next ∧ next.jobs = tables.jobs := by
  unfold retainManifest at result
  cases manifest with
  | none =>
    have same := (mk.inj (Except.ok.inj result)).2
    rw [← same]
    exact ⟨sound, rfl⟩
  | some manifest =>
    obtain ⟨retainedAt, -, result⟩ := bind_ok result
    obtain ⟨jobs, owners, retained⟩ := retain_spec options sound.retained result
    exact ⟨⟨retained, sound.leases.same jobs owners⟩, jobs⟩

theorem manifest_sound {now : Int} {tables : Tables} (sound : Sound options maxRunning now tables)
    (jobId : String) (manifest) :
    Sound options maxRunning now (setManifest tables jobId manifest) := by
  unfold setManifest
  cases manifest with
  | none => exact sound
  | some manifest =>
    refine ⟨sound.retained, ?_⟩
    apply sound.leases.update (le_refl now)
    · exact fun job => rfl
    · exact fun job _ _ still => still

variable {admission : OfflinePackageAdmission}

theorem artifact_admission_sound {now : Int} {call shared}
    (sound : Sound options maxRunning now tables)
    (idle : ∀ job, shared = some job → Idle tables job.id)
    (result : admitArtifact options tables principal candidate call shared clock =
      .ok (admission, next)) : Sound options maxRunning now next := by
  unfold admitArtifact at result
  obtain ⟨manifest, -, result⟩ := bind_ok result
  obtain ⟨_, -, result⟩ := bind_ok result
  obtain ⟨_, -, result⟩ := bind_ok result
  obtain ⟨⟨job, stored⟩, persisted, result⟩ := bind_ok result
  obtain ⟨⟨evicted, retained⟩, retains, result⟩ := bind_ok result
  have same := (mk.inj (Except.ok.inj result)).2
  rw [← same]
  obtain ⟨dropped, dropped_idle⟩ := drop_sound candidate manifest (clock 1) sound idle
  obtain ⟨leases, job_idle, references⟩ := persist_sound dropped.leases dropped_idle persisted
  have stored_sound : Sound options maxRunning now stored := by
    apply Sound.mk _ leases
    rw [references]
    exact dropped.retained
  obtain ⟨retained_sound, jobs⟩ := retain_manifest_sound stored_sound retains
  apply manifest_sound
  split
  · refine ⟨retained_sound.retained, ?_⟩
    apply retained_sound.leases.join
    apply Or.inl
    unfold Idle
    rw [jobs]
    exact job_idle
  · exact retained_sound

variable (timed : Timed now ends clock)
include timed

theorem join_sound {shared : JobRow}
    (sound : Sound options maxRunning now tables) (member : shared ∈ tables.jobs)
    (result : joinShared options tables principal shared clock = .ok (admission, next)) :
    Sound options maxRunning ends next := by
  have later : Sound options maxRunning ends tables :=
    ⟨sound.retained, sound.leases.later timed.passes⟩
  unfold joinShared at result
  split at result
  · have same := (mk.inj (Except.ok.inj result)).2
    rw [← same]
    exact later
  · split at result
    · split at result
      · cases result
      · rename_i few
        have same := (mk.inj (Except.ok.inj result)).2
        rw [← same]
        refine ⟨later.retained, ?_⟩
        apply later.leases.join
        exact Or.inr (Or.inr ⟨clock 0, timed.finishes 0, Nat.lt_of_not_le few⟩)
    · rename_i unleased
      split at result
      · cases result
      · have same := (mk.inj (Except.ok.inj result)).2
        rw [← same]
        refine ⟨later.retained, ?_⟩
        apply later.leases.join
        apply Or.inr
        apply Or.inl
        intro job inside own
        have same_job : job = shared := inj_on_of_nodup_map later.leases.ids inside member own
        rw [same_job]
        cases still : running ends shared with
        | false => rfl
        | true =>
          have before := running_earlier (timed.finishes 1) still
          unfold running at before
          simp only [Bool.and_eq_true] at before
          exact absurd before.2 unleased

theorem admission_sound {call} (sound : Sound options maxRunning now tables)
    (result : admitPackage options tables principal candidate call clock = .ok (admission, next)) :
    Sound options maxRunning ends next := by
  have later : Sound options maxRunning ends tables :=
    ⟨sound.retained, sound.leases.later timed.passes⟩
  unfold admitPackage at result
  split at result
  · split at result
    · cases result
    · split at result
      · rename_i shared found
        have member : shared ∈ tables.jobs := mem_of_find?_eq_some found
        split at result
        · exact join_sound timed sound member result
        · rename_i through
          apply artifact_admission_sound later _ result
          intro job same
          rw [← Option.some.inj same]
          exact idle_of_status later.leases.ids member through
      · apply artifact_admission_sound later _ result
        intro job impossible
        cases impossible
  · cases result

section

variable {tables : Tables} (sound : Sound options maxRunning now tables)
include sound

theorem removal_sound (packageId : String) (storage) : Sound options maxRunning ends
      (removeUnreferencedArtifact tables packageId storage clock).2 := by
  have later : Sound options maxRunning ends tables :=
    ⟨sound.retained, sound.leases.later timed.passes⟩
  unfold removeUnreferencedArtifact
  split
  · exact later
  · simp only
    split
    · exact invalidate_sound sound timed.passes packageId (clock 0)
    · exact later

theorem remove_terminal_sound
    (jobId : String) : Sound options maxRunning ends (removeTerminal tables jobId) :=
  ⟨sound.retained, (sound.leases.later timed.passes).delete _⟩

end

omit timed in
theorem mem_owners_of {tables : Tables} {jobId principal : String} :
    principal ∈ ownersOf options tables jobId ↔ (jobId, principal) ∈ tables.owners := by
  unfold ownersOf
  rw [(perm_insertionSort _ _).mem_iff, mem_map]
  constructor
  · intro found
    obtain ⟨row, member, same⟩ := found
    obtain ⟨inside, own⟩ := mem_filter.mp member
    simp only [decide_eq_true_eq] at own
    rw [← own, ← same]
    exact inside
  · exact fun member => ⟨(jobId, principal), mem_filter.mpr ⟨member, by simp⟩, rfl⟩

omit timed in
theorem owners_free {tables : Tables} {principals} :
    ∀ {reading : Nat}, ownerBusy options tables clock reading principals = false →
      ∀ principal ∈ principals, ∃ later,
        runningCount tables principal (clock later) < options.maxRunningPerPrincipal := by
  induction principals with
  | nil =>
    intro reading _ principal member
    cases member
  | cons first rest ih =>
    intro reading free principal member
    unfold ownerBusy at free
    simp only [Bool.or_eq_false_iff, decide_eq_false_iff_not, Nat.not_le] at free
    rcases mem_cons.mp member with own | other
    · rw [own]
      exact ⟨reading, free.1⟩
    · exact ih free.2 principal other

theorem claim_sound {tables : Tables} (sound : Sound options maxRunning now tables)
    (jobId workerId : String) (leaseMs : Int) : Sound options maxRunning ends
      (claim options maxRunning tables jobId workerId leaseMs clock).2 := by
  have later : Sound options maxRunning ends tables :=
    ⟨sound.retained, sound.leases.later timed.passes⟩
  unfold claim
  split
  · exact later
  · split
    · exact later
    · split
      · exact later
      · split
        · exact later
        · rename_i room
          split
          · exact later
          · rename_i free
            refine ⟨sound.retained, ?_⟩
            apply later.leases.grant (le_refl ends) jobId
            · exact fun job => rfl
            · exact ⟨clock 1, timed.finishes 1, Nat.lt_of_not_le room⟩
            · intro principal owner
              have idle : ownerBusy options tables clock 2 (ownersOf options tables jobId) = false := by
                simpa using free
              obtain ⟨reading, few⟩ := owners_free idle principal (mem_owners_of.mpr owner)
              exact ⟨clock reading, timed.finishes reading, few⟩

omit timed

def Room (tables : Tables) (jobId : String) (now : Int) : Prop :=
  globalRunning tables now < maxRunning ∧ ∀ principal ∈ ownersOf options tables jobId,
    runningCount tables principal now < options.maxRunningPerPrincipal

theorem renew_sound {tables : Tables} (timed : Timed now ends clock)
    (sound : Sound options maxRunning now tables) (jobId workerId : String) (leaseMs : Int)
    (allowed : ∀ job, renewable tables jobId workerId = some job → leased (clock 0) job = true ∨
      @Room options maxRunning tables jobId (clock 0)) :
    Sound options maxRunning ends (renew tables jobId workerId leaseMs clock).2 := by
  have later : Sound options maxRunning ends tables :=
    ⟨sound.retained, sound.leases.later timed.passes⟩
  unfold renew
  split
  · exact later
  · rename_i job found
    have member : job ∈ tables.jobs := mem_of_find?_eq_some found
    have matched := find?_some found
    simp only [Bool.and_eq_true, decide_eq_true_eq] at matched
    refine ⟨sound.retained, ?_⟩
    rcases allowed job found with live | room
    · apply (sound.leases.later timed.starts).update (timed.finishes 0)
      · exact fun row => rfl
      · intro row inside own _
        have same : row = job := inj_on_of_nodup_map sound.leases.ids inside member own
        rw [same]
        unfold running
        simp [matched.1.2, live]
    · apply later.leases.grant (le_refl ends)
      · exact fun row => rfl
      · exact ⟨clock 0, timed.finishes 0, room.1⟩
      · intro principal owner
        rw [matched.1.1] at owner
        exact ⟨clock 0, timed.finishes 0, room.2 principal (mem_owners_of.mpr owner)⟩

theorem retain_all_spec (manifest) (retainedAt : Int) (principals : List String) :
    ∀ {tables next : Tables} {evicted : List String}, Retained options tables.references →
    retainAll options manifest retainedAt principals tables = .ok (evicted, next) →
    next.jobs = tables.jobs ∧ next.owners = tables.owners ∧ Retained options next.references := by
  induction principals with
  | nil =>
    intro tables next evicted retained result
    have same := (mk.inj (Except.ok.inj result)).2
    rw [← same]
    exact ⟨rfl, rfl, retained⟩
  | cons principal rest ih =>
    intro tables next evicted retained result
    unfold retainAll at result
    obtain ⟨⟨first, middle⟩, own, result⟩ := bind_ok result
    obtain ⟨⟨others, final⟩, remaining, result⟩ := bind_ok result
    have same := (mk.inj (Except.ok.inj result)).2
    obtain ⟨jobs, owners, kept⟩ := retain_spec options retained own
    obtain ⟨final_jobs, final_owners, final_kept⟩ := ih kept remaining
    rw [← same]
    exact ⟨final_jobs.trans jobs, final_owners.trans owners, final_kept⟩

theorem complete_sound {jobId workerId : String} {manifest freed} (timed : Timed now ends clock)
    (sound : Sound options maxRunning now tables)
    (result : complete options tables jobId workerId manifest clock = .ok (freed, next)) :
    Sound options maxRunning ends next := by
  unfold complete at result
  split at result
  · cases result
  · split at result
    · cases result
    · obtain ⟨⟨evicted, retained⟩, retains, result⟩ := bind_ok result
      have same := (mk.inj (Except.ok.inj result)).2
      obtain ⟨jobs, owners, kept⟩ := retain_all_spec manifest _ _ sound.retained retains
      rw [← same]
      refine ⟨kept, ?_⟩
      apply (sound.leases.same jobs owners).update timed.passes
      · exact fun job => rfl
      · intro job _ _ still
        simp [running] at still

theorem end_sound {jobId : String} {workerId} {status : Status} {errorCode} {errorMessage : String}
    {updatedAtMs : Int} (timed : Timed now ends clock) (sound : Sound options maxRunning now tables)
    (result : endJob tables jobId workerId status errorCode errorMessage updatedAtMs = .ok next) :
    Sound options maxRunning ends next := by
  unfold endJob at result
  obtain ⟨updatedAt, -, result⟩ := bind_ok result
  split at result
  · have same := Except.ok.inj result
    rw [← same]
    exact ⟨sound.retained, sound.leases.later timed.passes⟩
  · have same := Except.ok.inj result
    rw [← same]
    refine ⟨sound.retained, ?_⟩
    apply sound.leases.update timed.passes
    · exact fun job => rfl
    · intro job _ _ still
      simp [running, leased] at still

variable (options maxRunning)

/-- A claim of a live job by another worker is refused for want of room, a renewal finds its lease
live or room for it, and a failing worker has a name. -/
def Allowed (tables : Tables) (clock : Nat → Int) : Call → Prop
  | .claim jobId workerId _ => ∀ job, jobsOf tables jobId = some job →
      running (clock 0) job = true → job.leaseOwner ≠ some workerId →
      maxRunning ≤ globalRunning tables (clock 1) ∨
        ownerBusy options tables clock 2 (ownersOf options tables jobId) = true
  | .renew jobId workerId _ => ∀ job, renewable tables jobId workerId = some job →
      leased (clock 0) job = true ∨ @Room options maxRunning tables jobId (clock 0)
  | .fail _ workerId _ _ _ => workerId ≠ some ""
  | .admission _ _ _ | .removeUnreferencedArtifact _ _ | .complete _ _ _ | .expire _ _
  | .removeTerminal _ => True

variable {options maxRunning}

theorem map_ok {Value Result : Type} {first : Except Failure Value} {change : Value → Result}
    {result : Result} (done : first.map change = .ok result) :
    ∃ value, first = .ok value ∧ change value = result := by
  cases first with
  | error failure => cases done
  | ok value => exact ⟨value, rfl, Except.ok.inj done⟩

theorem perform_sound {call : Call}
    {answer : Answer} (timed : Timed now ends clock) (sound : Sound options maxRunning now tables)
    (allowed : Allowed options maxRunning tables clock call)
    (result : perform options maxRunning tables clock call = .ok (answer, next)) :
    Sound options maxRunning ends next := by
  cases call with
  | admission principal candidate access =>
    obtain ⟨⟨admission, final⟩, admitted, same⟩ := map_ok result
    have same_tables := (mk.inj same).2
    rw [← same_tables]
    exact admission_sound timed sound admitted
  | removeUnreferencedArtifact packageId storage =>
    have same_tables := (mk.inj (Except.ok.inj result)).2
    rw [← same_tables]
    exact removal_sound timed sound packageId storage
  | claim jobId workerId leaseMs =>
    have same_tables := (mk.inj (Except.ok.inj result)).2
    rw [← same_tables]
    exact claim_sound timed sound jobId workerId leaseMs
  | renew jobId workerId leaseMs =>
    have same_tables := (mk.inj (Except.ok.inj result)).2
    rw [← same_tables]
    exact renew_sound timed sound jobId workerId leaseMs allowed
  | complete jobId workerId manifest =>
    obtain ⟨⟨freed, final⟩, completed, same⟩ := map_ok result
    have same_tables := (mk.inj same).2
    rw [← same_tables]
    exact complete_sound timed sound completed
  | fail jobId workerId errorCode errorMessage updatedAtMs =>
    obtain ⟨final, ended, same⟩ := map_ok result
    have same_tables := (mk.inj same).2
    rw [← same_tables]
    exact end_sound timed sound ended
  | expire jobId updatedAtMs =>
    obtain ⟨final, ended, same⟩ := map_ok result
    have same_tables := (mk.inj same).2
    rw [← same_tables]
    exact end_sound timed sound ended
  | removeTerminal jobId =>
    have same_tables := (mk.inj (Except.ok.inj result)).2
    rw [← same_tables]
    exact remove_terminal_sound timed sound jobId

end OpenMapX.OfflinePackages.AccountingCalls
