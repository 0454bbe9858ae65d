import OpenMapX.Ops.JobJournal

/-!
# Recovery of the operations journal

What the journal accepts it can write, and what it has written it can read again. A job that
was not through is failed, keeps its identity and passes the parser again.
-/

namespace OpenMapX.Ops.JournalRecovery

open JobJournal List Bool

variable {Json : Type} (schemas : Schemas Json) (limits : Limits)

section

variable (now : Int) (job : Job Json)

theorem recover_identity : (recoverJob now job).toIdentity = job.toIdentity := by
  unfold recoverJob
  split
  · rfl
  · rfl

theorem recover_operation : (recoverJob now job).operation = job.operation := by
  unfold recoverJob
  split
  · rfl
  · rfl

theorem recover_historical : historical (recoverJob now job) = historical job := by
  unfold historical
  rw [recover_operation]

end

variable {job : Job Json} {now : Int}

theorem recover_settled (through : interrupted job.state = false) : recoverJob now job = job := by
  unfold recoverJob
  rw [if_neg (by simp [through])]

theorem deadline_positive (accepted : checkAdmission schemas job = true)
    {deadline : Int} (present : job.deadlineAt = some deadline) : 0 ≤ deadline := by
  unfold checkAdmission at accepted
  split at accepted
  · simp only [and_eq_true] at accepted
    exact schemas.admitted_deadline job.operation job.toIdentity deadline accepted.1.1 present
  · simp [present] at accepted

theorem iso_between {instant now : Int} (valid : iso now = true) (positive : 0 ≤ instant)
    (before : instant ≤ now) : iso instant = true := by
  unfold iso at valid ⊢
  simp only [and_eq_true, decide_eq_true_eq] at valid ⊢
  omega

theorem recover_fields (valid : iso now = true)
    (accepted : checkFields schemas job = true) (admitted : checkAdmission schemas job = true) :
    checkFields schemas (recoverJob now job) = true := by
  unfold recoverJob
  split
  · unfold checkFields at accepted ⊢
    simp only [and_eq_true] at accepted ⊢
    obtain ⟨⟨⟨⟨⟨⟨⟨id, key⟩, print⟩, submitted⟩, -⟩, -⟩, requested⟩, adoption⟩ := accepted
    refine ⟨⟨⟨⟨⟨⟨⟨id, key⟩, print⟩, submitted⟩, valid⟩, valid⟩, ?_⟩, adoption⟩
    cases deadline : job.deadlineAt with
    | none => exact requested
    | some instant =>
      simp only
      split
      · rename_i passed
        cases asked : job.terminationRequestedAt with
        | none =>
          exact iso_between valid (deadline_positive schemas admitted deadline) passed
        | some earlier =>
          rw [asked] at requested
          exact requested
      · exact requested
  · exact accepted

theorem recover_reports (accepted : checkReports schemas job = true) :
    checkReports schemas (recoverJob now job) = true := by
  unfold recoverJob
  split
  · rename_i active
    unfold checkReports at accepted ⊢
    simp only [and_eq_true] at accepted ⊢
    obtain ⟨⟨diagnostics, progress⟩, failure⟩ := accepted
    refine ⟨⟨diagnostics, trivial⟩, ?_⟩
    cases reported : job.progressResult with
    | some value =>
      rw [reported] at progress
      simp only [and_eq_true] at progress
      have bounded := schemas.progress_failure job.operation value progress.2
      simp [bounded]
    | none =>
      cases failed : job.failureResult with
      | none => rfl
      | some value =>
        rw [failed] at failure
        simp only [and_eq_true, or_eq_true, decide_eq_true_eq] at failure
        rcases failure.1 with state | state
        · rw [state] at active
          cases active
        · rw [state] at active
          cases active
  · exact accepted

theorem recover_state (accepted : checkState schemas job = true) :
    checkState schemas (recoverJob now job) = true := by
  unfold recoverJob
  split
  · rename_i active
    have pending : job.result = none := by
      unfold checkState at accepted
      cases state : job.state with
      | queued | running | terminationPending =>
        rw [state] at accepted
        simp only [and_eq_true, decide_eq_true_eq] at accepted
        exact accepted.1.1
      | succeeded | failed | timedOut =>
        rw [state] at active
        cases active
    simp [checkState, pending]
  · exact accepted

theorem recover_parses (valid : iso now = true)
    (accepted : parseJob schemas job = true) : parseJob schemas (recoverJob now job) = true := by
  unfold parseJob at accepted ⊢
  simp only [and_eq_true] at accepted ⊢
  obtain ⟨⟨⟨⟨fields, operation⟩, admission⟩, reports⟩, state⟩ := accepted
  refine ⟨⟨⟨⟨recover_fields schemas valid fields admission, ?_⟩, ?_⟩,
    recover_reports schemas reports⟩, recover_state schemas state⟩
  · unfold recoverJob
    split
    · exact operation
    · exact operation
  · unfold recoverJob
    split
    · exact admission
    · exact admission

structure Good (jobs : List (Job Json)) : Prop where
  parses : ∀ job ∈ jobs, parseJob schemas job = true
  entries : jobs.length ≤ limits.maxEntries
  ids : (operationIds jobs).Nodup
  keys : (operationKeys jobs).Nodup
  bytes : schemas.byteLength jobs ≤ limits.maxBytes

def Retains (before after : List (Job Json)) : Prop :=
  ∀ prior ∈ before, ∀ record ∈ after, sameExecution record prior = true →
    sameIdentity schemas prior record = true

theorem same_identity_refl {prior record}
    (same : prior.toIdentity = record.toIdentity) : sameIdentity schemas prior record = true := by
  cases prior
  cases record
  simp only at same
  subst same
  simp [sameIdentity]

theorem same_identity_id {prior record} (same : sameIdentity schemas prior record = true) :
    prior.operationId = record.operationId ∧ prior.operationKey = record.operationKey ∧
      prior.role = record.role := by
  unfold sameIdentity at same
  simp only [and_eq_true, decide_eq_true_eq] at same
  exact ⟨same.1.1.1.1.1.1.1.1.1.1.1, same.1.1.1.1.1.1.1.1.1.1.2, same.1.1.1.1.1.1.1.1.1.2⟩

variable {jobs : List (Job Json)}

theorem unique_execution (ids : (operationIds jobs).Nodup)
    (keys : (operationKeys jobs).Nodup) {job other} (first : job ∈ jobs)
    (second : other ∈ jobs) (same : job.operationId = other.operationId ∨
      (job.role = other.role ∧ job.operationKey = other.operationKey)) : job = other := by
  rcases same with id | key
  · exact inj_on_of_nodup_map ids first second id
  · apply inj_on_of_nodup_map keys first second
    rw [key.1, key.2]

theorem execution_cases {record prior : Job Json} (same : sameExecution record prior = true) :
    prior.operationId = record.operationId ∨
      (prior.role = record.role ∧ prior.operationKey = record.operationKey) := by
  unfold sameExecution at same
  simpa using same

theorem find_own (ids : (operationIds jobs).Nodup) (keys : (operationKeys jobs).Nodup)
    {job record prior : Job Json} (member : job ∈ jobs) (same : record.toIdentity = job.toIdentity)
    (found : jobs.find? (sameExecution record) = some prior) : prior = job := by
  apply unique_execution ids keys (mem_of_find?_eq_some found) member
  have matched := execution_cases (find?_some found)
  rw [same] at matched
  exact matched

theorem retains_of_checked {current validated : List (Job Json)}
    (ids : (operationIds current).Nodup) (keys : (operationKeys current).Nodup)
    (checked : ∀ record ∈ validated, ∀ prior, current.find? (sameExecution record) = some prior →
      sameIdentity schemas prior record = true) : Retains schemas current validated := by
  intro prior member record inside same
  cases found : current.find? (sameExecution record) with
  | none =>
    have missed := find?_eq_none.mp found prior member
    exact absurd same missed
  | some first =>
    have identical := checked record inside first found
    obtain ⟨id, key, role⟩ := same_identity_id schemas identical
    have equal : prior = first := by
      apply unique_execution ids keys member (mem_of_find?_eq_some found)
      rw [id, key, role]
      exact execution_cases same
    rw [equal]
    exact identical

theorem validate_some {current records validated}
    (parses : ∀ job ∈ current, parseJob schemas job = true)
    (unique : (operationIds current).Nodup) (apart : (operationKeys current).Nodup)
    (accepted : validate schemas limits current records = some validated) :
    validated = current.filter historical ++ records ∧ Good schemas limits validated ∧
      Retains schemas current validated ∧ ∀ job ∈ records, historical job = false := by
  unfold validate at accepted
  simp only at accepted
  split at accepted
  · rename_i checks
    obtain ⟨fresh, entries, identities, ids, keys, bytes⟩ := checks
    have same := Option.some.inj accepted
    rw [← same]
    refine ⟨rfl, Good.mk ?_ entries ids keys bytes,
      retains_of_checked schemas unique apart identities,
      fun job member => (fresh job member).2⟩
    intro job member
    rcases mem_append.mp member with observed | new
    · exact parses job (mem_filter.mp observed).1
    · exact (fresh job new).1
  · cases accepted

theorem read_written (good : Good schemas limits jobs) :
    readFile schemas limits (some (written schemas jobs)) = some jobs := by
  have fits : ¬ limits.maxBytes < (written schemas jobs).bytes := Nat.not_lt_of_le good.bytes
  simp only [readFile]
  rw [if_neg fits]
  unfold parseFile
  apply if_pos
  exact ⟨Or.inr rfl, good.entries, good.parses, (fun impossible => by cases impossible), good.ids,
    good.keys⟩

theorem read_parsed {file} (read : readFile schemas limits file = some jobs) :
    (∀ job ∈ jobs, parseJob schemas job = true) ∧ (operationIds jobs).Nodup ∧
      (operationKeys jobs).Nodup := by
  cases file with
  | none =>
    have empty := Option.some.inj read
    rw [← empty]
    exact ⟨by simp, by simp [operationIds], by simp [operationKeys]⟩
  | some file =>
    simp only [readFile] at read
    split at read
    · cases read
    · unfold parseFile at read
      split at read
      · rename_i checks
        obtain ⟨-, -, parses, -, ids, keys⟩ := checks
        have same := Option.some.inj read
        rw [← same]
        exact ⟨parses, ids, keys⟩
      · cases read

def reopened (now : Int) (jobs : List (Job Json)) : List (Job Json) :=
  jobs.filter historical ++ openingRecords now jobs

section

variable (now : Int) (jobs : List (Job Json))

theorem opening_ids : operationIds (openingRecords now jobs) =
      operationIds (jobs.filter fun job => !historical job) := by
  unfold operationIds openingRecords
  rw [map_map]
  apply map_congr_left
  intro job member
  have same := recover_identity now job
  exact congrArg Identity.operationId same

theorem opening_keys : operationKeys (openingRecords now jobs) =
      operationKeys (jobs.filter fun job => !historical job) := by
  unfold operationKeys openingRecords
  rw [map_map]
  apply map_congr_left
  intro job member
  have same := recover_identity now job
  exact Prod.ext (congrArg Identity.role same) (congrArg Identity.operationKey same)

theorem reopened_ids : (operationIds (reopened now jobs)).Perm (operationIds jobs) := by
  have split := filter_append_perm historical jobs
  have mapped := split.map fun job => job.operationId
  unfold reopened operationIds
  rw [map_append]
  have same := opening_ids now jobs
  unfold operationIds at same
  rw [same, ← map_append]
  exact mapped

theorem reopened_keys : (operationKeys (reopened now jobs)).Perm (operationKeys jobs) := by
  have split := filter_append_perm historical jobs
  have mapped := split.map fun job => (job.role, job.operationKey)
  unfold reopened operationKeys
  rw [map_append]
  have same := opening_keys now jobs
  unfold operationKeys at same
  rw [same, ← map_append]
  exact mapped

end

theorem reopened_origin {record} (member : record ∈ reopened now jobs) :
    ∃ job ∈ jobs, record.toIdentity = job.toIdentity := by
  rcases mem_append.mp member with observed | recovered
  · exact ⟨record, (mem_filter.mp observed).1, rfl⟩
  · obtain ⟨job, inside, same⟩ := mem_map.mp recovered
    refine ⟨job, (mem_filter.mp inside).1, ?_⟩
    rw [← same]
    exact recover_identity now job

theorem reopen_validates (valid : iso now = true)
    (parses : ∀ job ∈ jobs, parseJob schemas job = true) (entries : jobs.length ≤ limits.maxEntries)
    (ids : (operationIds jobs).Nodup) (keys : (operationKeys jobs).Nodup)
    (room : schemas.byteLength (reopened now jobs) ≤ limits.maxBytes) :
    validate schemas limits jobs (openingRecords now jobs) = some (reopened now jobs) := by
  unfold validate
  apply if_pos
  refine ⟨?_, ?_, ?_, ?_, ?_, room⟩
  · intro record member
    obtain ⟨job, inside, same⟩ := mem_map.mp member
    obtain ⟨present, fresh⟩ := mem_filter.mp inside
    rw [← same]
    apply And.intro (recover_parses schemas valid (parses job present))
    rw [recover_historical]
    simpa using fresh
  · have count := (reopened_ids now jobs).length_eq
    simp only [operationIds, length_map] at count
    unfold reopened at count
    rw [count]
    exact entries
  · intro record member prior found
    obtain ⟨job, inside, same⟩ := reopened_origin member
    have own := find_own ids keys inside same found
    rw [own]
    exact same_identity_refl schemas same.symm
  · exact (reopened_ids now jobs).nodup_iff.mpr ids
  · exact (reopened_keys now jobs).nodup_iff.mpr keys

end OpenMapX.Ops.JournalRecovery
