import OpenMapX.Foundation.Runs
import OpenMapX.Ops.JournalRecovery

/-!
# Runs of the operations journal

A journal that has been opened takes replacing calls, failures of their writes and restarts.
Memory and file agree until a directory sync fails after the rename, and a snapshot reopens
while its recovered jobs still fit into the file.
-/

namespace OpenMapX.Ops.JournalRuns

open Foundation.Runs JobJournal JournalRecovery List Bool

variable {Json : Type} (schemas : Schemas Json) (limits : Limits)

def onDisk (state : State Json) : Option (List (Job Json)) := readFile schemas limits state.file

def stored (state : State Json) : List (Job Json) := (onDisk schemas limits state).getD []

def opened (file : Option (JournalFile Json)) (now : Int) : State Json :=
  openJournal schemas limits ⟨false, [], file, [], none, []⟩ now true true

def rejects (state : State Json) : Event Json → Bool
  | .write succeeds =>
    match state.queue, state.renamed with
    | snapshot :: _, none =>
      (validate schemas limits state.current snapshot).isNone || !succeeds
    | _, _ => false
  | .sync succeeds => state.renamed.isSome && !succeeds
  | .replace _ | .restart _ _ _ => false

/-- No directory sync fails after its rename, and a journal is opened again at an instant with a
date while the jobs that it recovers fit into the file. -/
def Allowed (state : State Json) : Event Json → Prop
  | .sync succeeds => succeeds = true ∨ state.renamed = none
  | .restart now _ _ => iso now = true ∧
      schemas.byteLength (reopened now (stored schemas limits state)) ≤ limits.maxBytes
  | .replace _ | .write _ => True

structure Recovered (now : Int) (job after : Job Json) : Prop where
  through : interrupted job.state = false → after = job
  failed : interrupted job.state = true →
    after.state = .failed ∧ after.errorClass = some .recoveryRequired ∧
      after.toIdentity = job.toIdentity ∧ after.operation = job.operation

/-- What the journal promises in a state, with the pulls that it was opened with. -/
structure Promise (pulls : List (Job Json)) (state : State Json) : Prop where
  latest : state.alive = true → records state = state.last
  rejected : ∀ event, Allowed schemas limits state event →
    rejects schemas limits state event = true →
    records (step schemas limits state event) = records state ∧
      onDisk schemas limits (step schemas limits state event) = onDisk schemas limits state
  settled : state.alive = true → state.renamed = none →
    onDisk schemas limits state = some state.current
  identities : ∀ event, Allowed schemas limits state event →
    Retains schemas (stored schemas limits state)
      (stored schemas limits (step schemas limits state event))
  observed : (stored schemas limits state).filter historical = pulls ∧
    (state.alive = true → historicalPullRecords state = pulls)
  reopens : ∀ now, Allowed schemas limits state (.restart now true true) →
    (openJournal schemas limits state now true true).alive = true ∧
    historicalPullRecords (openJournal schemas limits state now true true) = pulls ∧
    records (openJournal schemas limits state now true true) =
      ((stored schemas limits state).filter fun job => !historical job).map (recoverJob now) ∧
    ∀ job ∈ stored schemas limits state, Recovered now job (recoverJob now job)

structure Sound (pulls : List (Job Json)) (state : State Json) : Prop where
  file : ∃ shown, state.file = some (written schemas shown) ∧ Good schemas limits shown ∧
    shown.filter historical = pulls ∧
    (state.alive = true → state.renamed = none → shown = state.current) ∧
    (∀ validated, state.renamed = some validated → shown = validated)
  stopped : state.alive = false → state.renamed = none ∧ state.queue = []
  memory : state.alive = true → Good schemas limits state.current ∧
    state.current.filter historical = pulls ∧ records state = state.last
  pending : ∀ validated, state.renamed = some validated → ∃ snapshot rest,
    state.queue = snapshot :: rest ∧
    (validated.filter fun job => !historical job) = snapshot ∧
    Retains schemas state.current validated

variable {pulls : List (Job Json)} {state : State Json}

theorem sound_stored (sound : Sound schemas limits pulls state) :
    state.file = some (written schemas (stored schemas limits state)) ∧
      Good schemas limits (stored schemas limits state) ∧
      onDisk schemas limits state = some (stored schemas limits state) := by
  obtain ⟨shown, same_file, good, -, -, -⟩ := sound.file
  have read : onDisk schemas limits state = some shown := by
    unfold onDisk
    rw [same_file]
    exact read_written schemas limits good
  have same : stored schemas limits state = shown := by
    unfold stored
    rw [read]
    rfl
  rw [same]
  exact ⟨same_file, good, read⟩

theorem sound_shown {shown} (good : Good schemas limits shown)
    (same : state.file = some (written schemas shown)) : stored schemas limits state = shown := by
  unfold stored onDisk
  rw [same, read_written schemas limits good]
  rfl

theorem retains_refl {jobs} (good : Good schemas limits jobs) : Retains schemas jobs jobs := by
  intro prior member record inside same
  have equal := unique_execution good.ids good.keys member inside (execution_cases same)
  rw [equal]
  exact same_identity_refl schemas rfl

variable {now : Int}

theorem retains_reopened {jobs} (good : Good schemas limits jobs) :
    Retains schemas jobs (reopened now jobs) := by
  intro prior member record inside same
  obtain ⟨job, origin, identical⟩ := reopened_origin inside
  have matched := execution_cases same
  rw [identical] at matched
  have equal := unique_execution good.ids good.keys member origin matched
  rw [equal]
  exact same_identity_refl schemas identical.symm

theorem filter_validated {current validated snapshot : List (Job Json)}
    (same : validated = current.filter historical ++ snapshot)
    (fresh : ∀ job ∈ snapshot, historical job = false) :
    validated.filter historical = current.filter historical ∧
      (validated.filter fun job => !historical job) = snapshot := by
  have no_pull : snapshot.filter historical = [] := by
    apply filter_eq_nil_iff.mpr
    intro job member
    simp [fresh job member]
  have all_jobs : (snapshot.filter fun job => !historical job) = snapshot := by
    apply filter_eq_self.mpr
    intro job member
    simp [fresh job member]
  have no_job : ((current.filter historical).filter fun job => !historical job) = [] := by
    apply filter_eq_nil_iff.mpr
    intro job member
    simp [(mem_filter.mp member).2]
  rw [same]
  apply And.intro
  · rw [filter_append, no_pull, append_nil, filter_filter]
    simp
  · rw [filter_append, no_job, all_jobs, nil_append]

theorem filter_reopened (now : Int) (jobs : List (Job Json)) :
    (reopened now jobs).filter historical = jobs.filter historical ∧
      ((reopened now jobs).filter fun job => !historical job) = openingRecords now jobs := by
  apply filter_validated rfl
  intro record member
  obtain ⟨job, inside, same⟩ := mem_map.mp member
  rw [← same, recover_historical]
  simpa using (mem_filter.mp inside).2

variable (sound : Sound schemas limits pulls state)
include sound

theorem sound_queue (queue) (alive : state.alive = true) (quiet : state.renamed = none) :
    Sound schemas limits pulls { state with queue } := by
  apply Sound.mk
  · exact sound.file
  · intro stopped
    rw [alive] at stopped
    cases stopped
  · exact sound.memory
  · intro validated renamed
    rw [quiet] at renamed
    cases renamed

theorem replace_sound (snapshot : List (Job Json)) :
    Sound schemas limits pulls (step schemas limits state (.replace snapshot)) := by
  simp only [step]
  split
  · rename_i alive
    apply Sound.mk
    · exact sound.file
    · intro stopped
      rw [alive] at stopped
      cases stopped
    · exact sound.memory
    · intro other same
      obtain ⟨first, rest, queued, matched, kept⟩ := sound.pending other same
      refine ⟨first, rest ++ [snapshot], ?_, matched, kept⟩
      simp only [queued, cons_append]
  · exact sound

theorem queue_alive {snapshot rest} (queued : state.queue = snapshot :: rest) :
    state.alive = true := by
  cases alive : state.alive with
  | true => rfl
  | false =>
    have empty := (sound.stopped alive).2
    rw [queued] at empty
    cases empty

theorem write_sound (succeeds : Bool) :
    Sound schemas limits pulls (runWrite schemas limits state succeeds) := by
  unfold runWrite
  split
  · rename_i snapshot rest queued quiet
    have alive := queue_alive schemas limits sound queued
    obtain ⟨good, observed, latest⟩ := sound.memory alive
    split
    · rename_i validated accepted
      obtain ⟨same, valid, kept, fresh⟩ :=
        validate_some schemas limits good.parses good.ids good.keys accepted
      obtain ⟨pulls_same, rest_same⟩ := filter_validated same fresh
      split
      · apply Sound.mk
        · refine ⟨validated, rfl, valid, ?_, ?_, ?_⟩
          · rw [pulls_same, observed]
          · intro _ impossible
            cases impossible
          · exact fun _ renamed => Option.some.inj renamed
        · intro stopped
          rw [alive] at stopped
          cases stopped
        · exact fun _ => ⟨good, observed, latest⟩
        · intro other renamed
          have equal := Option.some.inj renamed
          rw [← equal]
          exact ⟨snapshot, rest, queued, rest_same, kept⟩
      · exact sound_queue schemas limits sound rest alive quiet
    · exact sound_queue schemas limits sound rest alive quiet
  · exact sound

theorem sync_sound (succeeds : Bool) (allowed : Allowed schemas limits state (.sync succeeds)) :
    Sound schemas limits pulls (runSync state succeeds) := by
  unfold runSync
  split
  · rename_i snapshot rest validated queued renamed
    have alive := queue_alive schemas limits sound queued
    cases allowed with
    | inr quiet =>
      rw [renamed] at quiet
      cases quiet
    | inl succeeded =>
      rw [if_pos succeeded]
      obtain ⟨shown, same_file, good, observed, -, shows⟩ := sound.file
      have equal := shows validated renamed
      rw [equal] at same_file good observed
      apply Sound.mk
      · refine ⟨validated, same_file, good, observed, fun _ _ => rfl, ?_⟩
        intro other impossible
        cases impossible
      · intro stopped
        rw [alive] at stopped
        cases stopped
      · intro _
        obtain ⟨first, others, same_queue, matched, -⟩ := sound.pending validated renamed
        rw [queued] at same_queue
        have same_first := (List.cons.inj same_queue).1
        rw [← same_first] at matched
        exact ⟨good, observed, matched⟩
      · intro other impossible
        cases impossible
  · exact sound

omit sound in
theorem opening_sound {pulls jobs validated snapshot}
    (before : ∃ shown, state.file = some (written schemas shown) ∧
      Good schemas limits shown ∧ shown.filter historical = pulls)
    (good : Good schemas limits validated) (observed : validated.filter historical = pulls)
    (fresh : (validated.filter fun job => !historical job) = snapshot)
    (read : readFile schemas limits state.file = some jobs)
    (accepted : validate schemas limits jobs (openingRecords now jobs) = some validated)
    (opens : openingRecords now jobs = snapshot) (writes syncs : Bool) :
    Sound schemas limits pulls (openJournal schemas limits state now writes syncs) := by
  have closed_sound : ∀ file, (∃ shown, file = some (written schemas shown) ∧
      Good schemas limits shown ∧ shown.filter historical = pulls) →
      Sound schemas limits pulls { closed state with file } := by
    intro file holds
    obtain ⟨shown, same, valid, kept⟩ := holds
    apply Sound.mk
    · refine ⟨shown, same, valid, kept, ?_, ?_⟩
      · intro impossible
        cases impossible
      · intro other impossible
        cases impossible
    · exact fun _ => ⟨rfl, rfl⟩
    · intro impossible
      cases impossible
    · intro other impossible
      cases impossible
  unfold openJournal
  rw [read]
  simp only [accepted]
  cases writes with
  | false => exact closed_sound state.file before
  | true =>
    cases syncs with
    | false => exact closed_sound _ ⟨validated, rfl, good, observed⟩
    | true =>
      apply Sound.mk
      · refine ⟨validated, rfl, good, observed, fun _ _ => rfl, ?_⟩
        intro other impossible
        cases impossible
      · intro impossible
        cases impossible
      · intro _
        refine ⟨good, observed, ?_⟩
        rw [opens]
        exact fresh
      · intro other impossible
        cases impossible

theorem restart_sound (now : Int) (writes syncs : Bool)
    (allowed : Allowed schemas limits state (.restart now writes syncs)) :
    Sound schemas limits pulls (openJournal schemas limits state now writes syncs) := by
  obtain ⟨same_file, good, read⟩ := sound_stored schemas limits sound
  have observed : (stored schemas limits state).filter historical = pulls := by
    obtain ⟨shown, same, valid, kept, -, -⟩ := sound.file
    rw [sound_shown schemas limits valid same]
    exact kept
  obtain ⟨valid, room⟩ := allowed
  have accepted := reopen_validates schemas limits valid good.parses good.entries good.ids good.keys
    room
  obtain ⟨-, next, -, -⟩ := validate_some schemas limits good.parses good.ids good.keys accepted
  obtain ⟨kept, fresh⟩ := filter_reopened now (stored schemas limits state)
  apply opening_sound schemas limits ⟨_, same_file, good, observed⟩ next _ fresh read accepted rfl
  rw [kept]
  exact observed

omit sound in
theorem step_sound (state : State Json) (event : Event Json)
    (allowed : Allowed schemas limits state event) (sound : Sound schemas limits pulls state) :
    Sound schemas limits pulls (step schemas limits state event) := by
  cases event with
  | replace snapshot => exact replace_sound schemas limits sound snapshot
  | write succeeds => exact write_sound schemas limits sound succeeds
  | sync succeeds => exact sync_sound schemas limits sound succeeds allowed
  | restart now writes syncs => exact restart_sound schemas limits sound now writes syncs allowed

omit sound in
theorem recovered_job (now : Int) (job : Job Json) : Recovered now job (recoverJob now job) := by
  apply Recovered.mk
  · exact fun through => recover_settled through
  · intro active
    refine ⟨?_, ?_, recover_identity now job, recover_operation now job⟩
    · unfold recoverJob
      rw [if_pos active]
    · unfold recoverJob
      rw [if_pos active]

theorem reopen_opens (allowed : Allowed schemas limits state (.restart now true true)) :
    openJournal schemas limits state now true true =
      ⟨true, reopened now (stored schemas limits state),
        some (written schemas (reopened now (stored schemas limits state))), [], none,
        openingRecords now (stored schemas limits state)⟩ := by
  obtain ⟨same_file, good, read⟩ := sound_stored schemas limits sound
  have accepted := reopen_validates schemas limits allowed.1 good.parses good.entries good.ids
    good.keys allowed.2
  have read_file : readFile schemas limits state.file = some (stored schemas limits state) := read
  unfold openJournal
  rw [read_file]
  simp only [accepted]
  rfl

omit sound in
theorem step_retains (event : Event Json) (allowed : Allowed schemas limits state event)
    (sound : Sound schemas limits pulls state) : Retains schemas (stored schemas limits state)
      (stored schemas limits (step schemas limits state event)) := by
  obtain ⟨same_file, good, read⟩ := sound_stored schemas limits sound
  have unchanged : ∀ next : State Json, next.file = state.file →
      Retains schemas (stored schemas limits state) (stored schemas limits next) := by
    intro next same
    rw [same_file] at same
    rw [sound_shown schemas limits good same]
    exact retains_refl schemas limits good
  cases event with
  | replace snapshot =>
    apply unchanged
    simp only [step]
    split
    · rfl
    · rfl
  | sync succeeds =>
    apply unchanged
    simp only [step, runSync]
    split
    · split
      · rfl
      · rfl
    · rfl
  | restart now writes syncs =>
    have accepted := reopen_validates schemas limits allowed.1 good.parses good.entries good.ids
      good.keys allowed.2
    obtain ⟨-, next, -, -⟩ := validate_some schemas limits good.parses good.ids good.keys accepted
    have read_file : readFile schemas limits state.file = some (stored schemas limits state) := read
    have kept : ∀ after : State Json, (after.file = state.file ∨
        after.file = some (written schemas (reopened now (stored schemas limits state)))) →
        Retains schemas (stored schemas limits state) (stored schemas limits after) := by
      intro after shape
      rcases shape with same | same
      · exact unchanged after same
      · rw [sound_shown schemas limits next same]
        exact retains_reopened schemas limits good
    apply kept
    simp only [step, openJournal]
    rw [read_file]
    simp only [accepted]
    cases writes with
    | false => exact Or.inl rfl
    | true =>
      cases syncs with
      | false => exact Or.inr rfl
      | true => exact Or.inr rfl
  | write succeeds =>
    simp only [step, runWrite]
    split
    · rename_i snapshot rest queued quiet
      have alive := queue_alive schemas limits sound queued
      obtain ⟨current, -, -⟩ := sound.memory alive
      obtain ⟨shown, shows, valid, -, settled, -⟩ := sound.file
      have same_current : stored schemas limits state = state.current := by
        rw [sound_shown schemas limits valid shows]
        exact settled alive quiet
      split
      · rename_i validated accepted
        obtain ⟨-, next, kept, -⟩ :=
          validate_some schemas limits current.parses current.ids current.keys accepted
        split
        · rw [same_current, sound_shown schemas limits next rfl]
          exact kept
        · exact unchanged _ rfl
      · exact unchanged _ rfl
    · exact unchanged _ rfl

omit sound in
theorem step_rejected (event : Event Json) (allowed : Allowed schemas limits state event)
    (rejected : rejects schemas limits state event = true) :
    records (step schemas limits state event) = records state ∧
      onDisk schemas limits (step schemas limits state event) = onDisk schemas limits state := by
  cases event with
  | replace snapshot => cases rejected
  | restart now writes syncs => cases rejected
  | sync succeeds =>
    simp only [rejects, and_eq_true, not_eq_true'] at rejected
    rcases allowed with succeeded | quiet
    · rw [succeeded] at rejected
      cases rejected.2
    · rw [quiet] at rejected
      cases rejected.1
  | write succeeds =>
    simp only [rejects] at rejected
    simp only [step, runWrite]
    split
    · rename_i snapshot rest queued quiet
      rw [queued, quiet] at rejected
      simp only [or_eq_true, not_eq_true'] at rejected
      split
      · rename_i validated accepted
        rw [accepted] at rejected
        rcases rejected with impossible | failed
        · cases impossible
        · rw [failed]
          exact ⟨rfl, rfl⟩
      · exact ⟨rfl, rfl⟩
    · exact ⟨rfl, rfl⟩

theorem sound_promise : Promise schemas limits pulls state := by
  obtain ⟨same_file, good, read⟩ := sound_stored schemas limits sound
  have observed : (stored schemas limits state).filter historical = pulls := by
    obtain ⟨shown, same, valid, kept, -, -⟩ := sound.file
    rw [sound_shown schemas limits valid same]
    exact kept
  apply Promise.mk
  · exact fun alive => (sound.memory alive).2.2
  · exact fun event allowed rejected => step_rejected schemas limits event allowed rejected
  · intro alive quiet
    obtain ⟨shown, same, valid, -, settled, -⟩ := sound.file
    rw [read, sound_shown schemas limits valid same, settled alive quiet]
  · exact fun event allowed => step_retains schemas limits event allowed sound
  · exact ⟨observed, fun alive => (sound.memory alive).2.1⟩
  · intro now allowed
    rw [reopen_opens schemas limits sound allowed]
    obtain ⟨kept, fresh⟩ := filter_reopened now (stored schemas limits state)
    refine ⟨rfl, ?_, ?_, fun job _ => recovered_job now job⟩
    · exact kept.trans observed
    · exact fresh

omit sound

theorem opened_sound {file : Option (JournalFile Json)}
    (opens : (opened schemas limits file now).alive = true) :
    Sound schemas limits (historicalPullRecords (opened schemas limits file now))
      (opened schemas limits file now) := by
  revert opens
  unfold opened openJournal
  cases read : readFile schemas limits file with
  | none =>
    intro impossible
    cases impossible
  | some jobs =>
    simp only
    cases accepted : validate schemas limits jobs (openingRecords now jobs) with
    | none =>
      intro impossible
      cases impossible
    | some validated =>
      intro _
      obtain ⟨parses, ids, keys⟩ := read_parsed schemas limits read
      obtain ⟨same, good, -, fresh⟩ := validate_some schemas limits parses ids keys accepted
      apply Sound.mk
      · refine ⟨validated, rfl, good, rfl, fun _ _ => rfl, ?_⟩
        intro other impossible
        cases impossible
      · intro impossible
        cases impossible
      · exact fun _ => ⟨good, rfl, (filter_validated same fresh).2⟩
      · intro other impossible
        cases impossible

/-- Every run from an opened journal, whose steps are allowed, keeps the promise. -/
theorem job_journal_kept (file : Option (JournalFile Json)) (now : Int)
    (opens : (opened schemas limits file now).alive = true) (events : List (Event Json))
    (allowed : ∀ earlier event, earlier ++ [event] <+: events →
      Allowed schemas limits (run (step schemas limits) earlier (opened schemas limits file now))
        event) (reached : List (Event Json)) (within : reached <+: events) :
    Promise schemas limits (historicalPullRecords (opened schemas limits file now))
      (run (step schemas limits) reached (opened schemas limits file now)) := by
  apply sound_promise
  exact run_guarded (step_sound schemas limits) events _ (opened_sound schemas limits opens)
    allowed reached within

def buildJob : Job String where
  operationId := "job1_abcdefghijklmnop"
  role := .api
  operationKey := "opk1_abcdefghijklmnop"
  fingerprint := "e501e47d4ea6c2745f5bdd5126d3fab58db1cfa3874105fd11dd6b5910fc6c34"
  executionVersion := none
  requestVersion := none
  admittedAt := none
  deadlineAt := none
  operationFingerprint := none
  requestedDeadlineAt := none
  deploymentBudgetMs := none
  parent := none
  controlAdoption := none
  diagnostics := none
  failureResult := none
  progressResult := none
  operation := .current "service.build valhalla"
  resourceId := "valhalla"
  state := .queued
  submittedAt := 1788220800000
  updatedAt := 1788220800000
  result := none
  errorClass := none
  terminalAt := none
  terminationRequestedAt := none

/-- The checks on that operation, and the length of a file with such jobs: 23 bytes when it is
empty, 376 with one queued job and 449 with one recovered job. -/
def buildSchemas : Schemas String where
  controlAdoption _ := false
  operation body := body = "service.build valhalla"
  operationFingerprint _ := "e501e47d4ea6c2745f5bdd5126d3fab58db1cfa3874105fd11dd6b5910fc6c34"
  resourceId _ := "valhalla"
  admission _ _ := false
  settles _ := false
  diagnostics _ := false
  failureResult _ _ := false
  progressResult _ _ := false
  result _ _ := false
  parentText := id
  byteLength jobs :=
    if jobs.isEmpty then 23
    else 22 + (jobs.map fun job => if job.terminalAt.isSome then 427 else 354).sum
  progress_failure := by simp
  admitted_deadline := by simp

def buildLimits : Limits := ⟨256, 25165824⟩

theorem build_journal_opens_again :
    Promise buildSchemas buildLimits [] (run (step buildSchemas buildLimits)
      [.replace [buildJob], .write true, .sync true, .restart 1788220860000 true true]
      (opened buildSchemas buildLimits none 1788220800000)) := by
  have kept := job_journal_kept buildSchemas buildLimits none 1788220800000 (by decide +kernel)
    [.replace [buildJob], .write true, .sync true, .restart 1788220860000 true true]
    (guarded_cons trivial (guarded_cons trivial (guarded_cons (Or.inl rfl)
      (guarded_cons (And.intro (by decide +kernel) (by decide +kernel)) guarded_nil))))
    [.replace [buildJob], .write true, .sync true, .restart 1788220860000 true true]
    prefix_rfl
  have pulls : historicalPullRecords (opened buildSchemas buildLimits none 1788220800000) = [] := by
    decide +kernel
  rw [pulls] at kept
  exact kept

/-- A directory sync that fails after the rename rejects the call and leaves the new file; and a
queued job that just fits into the file cannot be recovered in it. -/
theorem failed_sync_keeps_file :
    (rejects buildSchemas buildLimits (run (step buildSchemas buildLimits)
        [.replace [buildJob], .write true] (opened buildSchemas buildLimits none 1788220800000))
        (.sync false) = true ∧ records (run (step buildSchemas buildLimits)
        [.replace [buildJob], .write true, .sync false]
        (opened buildSchemas buildLimits none 1788220800000)) = [] ∧
      onDisk buildSchemas buildLimits (opened buildSchemas buildLimits none 1788220800000) =
        some [] ∧ onDisk buildSchemas buildLimits (run (step buildSchemas buildLimits)
        [.replace [buildJob], .write true, .sync false]
        (opened buildSchemas buildLimits none 1788220800000)) = some [buildJob]) ∧
    (records (run (step buildSchemas ⟨256, 400⟩) [.replace [buildJob], .write true, .sync true]
        (opened buildSchemas ⟨256, 400⟩ none 1788220800000)) = [buildJob] ∧
      (run (step buildSchemas ⟨256, 400⟩)
        [.replace [buildJob], .write true, .sync true, .restart 1788220860000 true true]
        (opened buildSchemas ⟨256, 400⟩ none 1788220800000)).alive = false) := by
  decide +kernel

end OpenMapX.Ops.JournalRuns
