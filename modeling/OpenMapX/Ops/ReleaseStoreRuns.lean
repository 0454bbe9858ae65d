import OpenMapX.Foundation.Runs
import OpenMapX.Ops.ReleaseStoreLock

/-!
# Runs of the release store lock

As long as nobody makes the directory while another process is removing an expired one, the
directory at the path is that of the one process inside, and what is removed was abandoned.
-/

namespace OpenMapX.Ops.ReleaseStoreRuns

open Foundation.Runs ReleaseStoreLock

def live : Stage → Bool
  | .made _ | .stamped _ _ | .writing _ | .published _ | .held _ | .clearing => true
  | .idle | .trying _ | .looking _ | .missing _ | .read _ _ _ | .dated _ _ _ | .removing _ _
  | .ended => false

def isRemoving : Stage → Bool
  | .removing _ _ => true
  | _ => false

def recordOf : Stage → Option OwnerRecord
  | .stamped _ record | .writing record | .published record | .held record => some record
  | _ => none

def publishedOf : Stage → Option OwnerRecord
  | .published record | .held record => some record
  | _ => none

structure Sound (state : State) : Prop where
  mine : ∀ process, live (state.stage process) = true →
    ∃ dir, state.dir = some dir ∧ dir.maker = process
  removal : ∀ process attempt maker, state.stage process = .removing attempt maker →
    ∀ dir, state.dir = some dir → dir.maker = maker ∧ live (state.stage maker) = false
  named : ∀ process record, recordOf (state.stage process) = some record → record.nonce = process
  owner : ∀ process record, publishedOf (state.stage process) = some record →
    ∀ dir, state.dir = some dir → dir.owner = some record

variable {state : State}

theorem Sound.alone (sound : Sound state) {process other : Nat}
    (first : live (state.stage process) = true) (second : live (state.stage other) = true) :
    process = other := by
  obtain ⟨dir, present, own⟩ := sound.mine process first
  obtain ⟨same, again, others⟩ := sound.mine other second
  rw [present] at again
  cases again
  exact own.symm.trans others

variable {attempt : Attempt}

theorem Sound.none_live (sound : Sound state) {process maker : Nat}
    (removes : state.stage process = .removing attempt maker) (other : Nat) :
    live (state.stage other) = false := by
  cases inside : live (state.stage other) with
  | false => rfl
  | true =>
    obtain ⟨dir, present, own⟩ := sound.mine other inside
    obtain ⟨observed, gone⟩ := sound.removal process attempt maker removes dir present
    rw [← observed, own, inside] at gone
    cases gone

theorem Sound.frame {state next : State} (sound : Sound state)
    (still : ∀ process, live (next.stage process) = true → live (state.stage process) = true)
    (made : ∀ dir, next.dir = some dir → ∃ before, state.dir = some before ∧
      dir.maker = before.maker)
    (present : ∀ process, live (next.stage process) = true → next.dir ≠ none)
    (removes : ∀ process attempt maker, next.stage process = .removing attempt maker →
      state.stage process = .removing attempt maker ∨
        ∀ dir, state.dir = some dir → dir.maker = maker ∧ live (state.stage maker) = false)
    (named : ∀ process record, recordOf (next.stage process) = some record →
      recordOf (state.stage process) = some record ∨ record.nonce = process)
    (owner : ∀ process record, publishedOf (next.stage process) = some record →
      ∀ dir, next.dir = some dir → dir.owner = some record) : Sound next := by
  apply Sound.mk
  · intro process inside
    obtain ⟨before, there, own⟩ := sound.mine process (still process inside)
    cases at_path : next.dir with
    | none => exact absurd at_path (present process inside)
    | some dir =>
      obtain ⟨same, found, maker⟩ := made dir at_path
      rw [there] at found
      cases found
      exact ⟨dir, rfl, maker.trans own⟩
  · intro process attempt maker removing dir at_path
    obtain ⟨before, there, same⟩ := made dir at_path
    have observed : before.maker = maker ∧ live (state.stage maker) = false := by
      rcases removes process attempt maker removing with already | found
      · exact sound.removal process attempt maker already before there
      · exact found before there
    apply And.intro (same.trans observed.1)
    cases again : live (next.stage maker) with
    | false => rfl
    | true =>
      have was := still maker again
      rw [observed.2] at was
      cases was
  · intro process record holds
    rcases named process record holds with already | own
    · exact sound.named process record already
    · exact own
  · exact owner

@[simp] theorem set_stage_dir (state : State) (process : Nat) (stage : Stage) :
    (setStage state process stage).dir = state.dir := rfl

@[simp] theorem set_stage_self (state : State) (process : Nat) (stage : Stage) :
    (setStage state process stage).stage process = stage := by simp [setStage]

theorem set_stage_other (state : State) {process other : Nat} (stage : Stage)
    (different : other ≠ process) :
    (setStage state process stage).stage other = state.stage other := by
  simp [setStage, different]

variable {process : Nat} {stage : Stage}

theorem stage_sound (sound : Sound state)
    (still : live stage = true → live (state.stage process) = true)
    (removes : ∀ attempt maker, stage = .removing attempt maker →
      ∀ dir, state.dir = some dir → dir.maker = maker ∧ live (state.stage maker) = false)
    (named : ∀ record, recordOf stage = some record → record.nonce = process)
    (owner : ∀ record, publishedOf stage = some record →
      ∀ dir, state.dir = some dir → dir.owner = some record) :
    Sound (setStage state process stage) := by
  have lives : ∀ other, live ((setStage state process stage).stage other) = true →
      live (state.stage other) = true := by
    intro other inside
    by_cases same : other = process
    · rw [same] at inside ⊢
      rw [set_stage_self] at inside
      exact still inside
    · rw [set_stage_other state stage same] at inside
      exact inside
  apply sound.frame lives
  · exact fun dir at_path => ⟨dir, at_path, rfl⟩
  · intro other inside absent
    obtain ⟨dir, there, own⟩ := sound.mine other (lives other inside)
    rw [set_stage_dir, there] at absent
    cases absent
  · intro other attempt maker removing
    by_cases same : other = process
    · rw [same, set_stage_self] at removing
      exact Or.inr (removes attempt maker removing)
    · rw [set_stage_other state stage same] at removing
      exact Or.inl removing
  · intro other record holds
    by_cases same : other = process
    · rw [same, set_stage_self] at holds
      rw [same]
      exact Or.inr (named record holds)
    · rw [set_stage_other state stage same] at holds
      exact Or.inl holds
  · intro other record holds dir at_path
    by_cases same : other = process
    · rw [same, set_stage_self] at holds
      exact owner record holds dir at_path
    · rw [set_stage_other state stage same] at holds
      exact sound.owner other record holds dir at_path

variable {record : OwnerRecord}

theorem published_live (published : publishedOf stage = some record) : live stage = true := by
  cases stage with
  | published _ | held _ => rfl
  | idle | trying _ | made _ | stamped _ _ | writing _ | clearing | looking _ | missing _
  | read _ _ _ | dated _ _ _ | removing _ _ | ended => cases published

theorem entries_sound {state : State} (sound : Sound state)
    {change : LockDirectory → LockDirectory} (same : ∀ dir, (change dir).maker = dir.maker)
    (unpublished : ∀ other, publishedOf (state.stage other) = none) :
    Sound (changeEntries state change) := by
  apply sound.frame
  · exact fun _ inside => inside
  · intro dir at_path
    obtain ⟨before, there, changed⟩ := Option.map_eq_some_iff.mp at_path
    refine ⟨before, there, ?_⟩
    rw [← changed]
    exact same before
  · intro other inside absent
    obtain ⟨dir, there, own⟩ := sound.mine other inside
    simp [changeEntries, there] at absent
  · exact fun _ _ _ removing => Or.inl removing
  · exact fun _ _ holds => Or.inl holds
  · intro other record holds
    have none_there : publishedOf (state.stage other) = none := unpublished other
    change publishedOf (state.stage other) = some record at holds
    rw [none_there] at holds
    cases holds

variable (sound : Sound state)
include sound

theorem gone_sound
    (nobody : ∀ other, live (state.stage other) = false) : Sound (setDirectory state none) := by
  apply sound.frame
  · exact fun _ inside => inside
  · intro dir at_path
    cases at_path
  · intro other inside
    change live (state.stage other) = true at inside
    rw [nobody other] at inside
    cases inside
  · exact fun _ _ _ removing => Or.inl removing
  · exact fun _ _ holds => Or.inl holds
  · intro other record holds dir at_path
    cases at_path

theorem removing_unpublished {process maker : Nat}
    (removes : state.stage process = .removing attempt maker) (other : Nat) :
    publishedOf (state.stage other) = none := by
  cases published : publishedOf (state.stage other) with
  | none => rfl
  | some record =>
    have inside := published_live published
    rw [sound.none_live removes other] at inside
    cases inside

theorem alone_unpublished (inside : live (state.stage process) = true)
    (own : publishedOf (state.stage process) = none) (other : Nat) :
    publishedOf (state.stage other) = none := by
  cases published : publishedOf (state.stage other) with
  | none => rfl
  | some record =>
    have same := sound.alone inside (published_live published)
    rw [← same, own] at published
    cases published

theorem made_sound (ino : Nat) (attempt : Attempt) (absent : state.dir = none)
    (calm : ∀ other, other ≠ process → isRemoving (state.stage other) = false) :
    Sound (setStage (setDirectory state (some ⟨ino, process, none, [], state.clock⟩)) process
      (.made attempt)) := by
  have empty : ∀ other, live (state.stage other) = false := by
    intro other
    cases inside : live (state.stage other) with
    | false => rfl
    | true =>
      obtain ⟨dir, there, own⟩ := sound.mine other inside
      rw [absent] at there
      cases there
  apply Sound.mk
  · intro other inside
    by_cases same : other = process
    · exact ⟨_, rfl, same.symm⟩
    · rw [set_stage_other _ _ same] at inside
      have outside := empty other
      change live (state.stage other) = true at inside
      rw [outside] at inside
      cases inside
  · intro other attempt maker removing
    by_cases same : other = process
    · rw [same, set_stage_self] at removing
      cases removing
    · rw [set_stage_other _ _ same] at removing
      have quiet := calm other same
      change state.stage other = _ at removing
      rw [removing] at quiet
      cases quiet
  · intro other record holds
    by_cases same : other = process
    · rw [same, set_stage_self] at holds
      cases holds
    · rw [set_stage_other _ _ same] at holds
      exact sound.named other record holds
  · intro other record holds
    by_cases same : other = process
    · rw [same, set_stage_self] at holds
      cases holds
    · rw [set_stage_other _ _ same] at holds
      have inside := published_live holds
      change live (state.stage other) = true at inside
      rw [empty other] at inside
      cases inside

omit sound

/-- The directory that a process looked at is still at the path and its maker has left. -/
def Abandoned (state : State) (maker : Nat) : Prop :=
  (∃ dir, state.dir = some dir ∧ dir.maker = maker) ∧ live (state.stage maker) = false

def Allowed (state : State) : Event → Prop
  | .tick _ => True
  | .act process action =>
    match state.stage process, action with
    | .read _ record maker, .judge =>
      recordExpired state.clock record = true → Abandoned state maker
    | .dated _ mtimeMs maker, .judge =>
      directoryExpired state.clock mtimeMs = true → Abandoned state maker
    | .trying _, .mkdir _ =>
      state.dir = none → ∀ other, other ≠ process → isRemoving (state.stage other) = false
    | _, _ => True

variable (sound : Sound state)
include sound

theorem leave_sound (outside : live stage = false) (kept : isRemoving stage = false)
    (unnamed : recordOf stage = none) : Sound (setStage state process stage) := by
  apply stage_sound sound
  · intro inside
    rw [outside] at inside
    cases inside
  · intro attempt maker removing
    rw [removing] at kept
    cases kept
  · intro record holds
    rw [unnamed] at holds
    cases holds
  · intro record holds
    have inside := published_live holds
    rw [outside] at inside
    cases inside

theorem decide_sound {process maker : Nat}
    {expired : Bool} (allowed : expired = true → Abandoned state maker) :
    Sound (decideExpired state process attempt maker expired) := by
  unfold decideExpired
  split
  · rename_i old
    obtain ⟨⟨dir, there, observed⟩, left⟩ := allowed old
    apply stage_sound sound
    · intro inside
      cases inside
    · intro other_attempt other_maker removing other at_path
      cases removing
      rw [there] at at_path
      cases at_path
      exact And.intro observed left
    · intro record holds
      cases holds
    · intro record holds
      cases holds
  · split
    · exact leave_sound sound rfl rfl rfl
    · exact leave_sound sound rfl rfl rfl

theorem open_sound (at_stage : state.stage process = .stamped attempt record) :
    Sound (openTemporary state process record) := by
  have inside : live (state.stage process) = true := by
    rw [at_stage]
    rfl
  have named := sound.named process record (by rw [at_stage]; rfl)
  unfold openTemporary
  split
  · exact leave_sound sound rfl rfl rfl
  · have unpublished := alone_unpublished sound inside (by rw [at_stage]; rfl)
    have changed := @entries_sound state sound (fun dir =>
      { dir with temporaries := process :: dir.temporaries }) (fun _ => rfl) unpublished
    apply stage_sound changed
    · exact fun _ => inside
    · intro other_attempt maker removing
      cases removing
    · intro other holds
      cases holds
      exact named
    · intro other holds
      cases holds

theorem rename_sound (at_stage : state.stage process = .writing record) :
    Sound (renameOwner state process record) := by
  have inside : live (state.stage process) = true := by
    rw [at_stage]
    rfl
  have named := sound.named process record (by rw [at_stage]; rfl)
  unfold renameOwner
  split
  · exact leave_sound sound rfl rfl rfl
  · split
    · have unpublished := alone_unpublished sound inside (by rw [at_stage]; rfl)
      have changed := @entries_sound state sound (fun dir =>
        { dir with owner := some record, temporaries := dir.temporaries.erase process })
        (fun _ => rfl) unpublished
      apply stage_sound changed
      · exact fun _ => inside
      · intro other_attempt maker removing
        cases removing
      · intro other holds
        cases holds
        exact named
      · intro other holds dir at_path
        cases holds
        obtain ⟨before, there, same⟩ := Option.map_eq_some_iff.mp at_path
        rw [← same]
    · exact leave_sound sound rfl rfl rfl

theorem unlink_held_sound (at_stage : state.stage process = .held record) :
    Sound (setStage (unlinkOwner state) process .clearing) := by
  have released : Sound (setStage state process .clearing) := by
    apply stage_sound sound
    · intro inside
      rw [at_stage]
      rfl
    · intro attempt maker removing
      cases removing
    · intro other holds
      cases holds
    · intro other holds
      cases holds
  have unpublished := alone_unpublished released
    (by rw [set_stage_self]; rfl : live ((setStage state process .clearing).stage process) = true)
    (by rw [set_stage_self]; rfl)
  exact @entries_sound _ released (fun dir => { dir with owner := none }) (fun _ => rfl) unpublished

theorem remove_clearing_sound (at_stage : state.stage process = .clearing) :
    Sound (removeDirectory state process .ended) := by
  have left : Sound (setStage state process .ended) := leave_sound sound rfl rfl rfl
  unfold removeDirectory
  split
  · exact left
  · split
    · apply gone_sound left
      intro other
      by_cases same : other = process
      · rw [same, set_stage_self]
        rfl
      · rw [set_stage_other _ _ same]
        cases inside : live (state.stage other) with
        | false => rfl
        | true =>
          have own : live (state.stage process) = true := by
            rw [at_stage]
            rfl
          exact absurd (sound.alone inside own) same
    · exact left

theorem remove_expired_sound {process maker : Nat}
    (at_stage : state.stage process = .removing attempt maker) :
    Sound (removeDirectory state process (.trying attempt)) := by
  unfold removeDirectory
  split
  · exact leave_sound sound rfl rfl rfl
  · split
    · exact leave_sound (gone_sound sound (sound.none_live at_stage)) rfl rfl rfl
    · exact leave_sound sound rfl rfl rfl

theorem act_sound {action : Action}
    (allowed : Allowed state (.act process action)) : Sound (act state process action) := by
  unfold act
  split
  · unfold start
    split
    · exact leave_sound sound rfl rfl rfl
    · exact leave_sound sound rfl rfl rfl
  · rename_i attempt ino at_stage
    simp only [Allowed, at_stage] at allowed
    unfold mkdir
    split
    · rename_i absent
      exact made_sound sound ino attempt absent (allowed absent)
    · split
      · exact leave_sound sound rfl rfl rfl
      · exact leave_sound sound rfl rfl rfl
  · rename_i attempt at_stage
    apply stage_sound sound
    · intro inside
      rw [at_stage]
      rfl
    · intro other_attempt maker removing
      cases removing
    · intro record holds
      cases holds
      rfl
    · intro record holds
      cases holds
  · rename_i at_stage
    exact open_sound sound at_stage
  · rename_i at_stage
    exact rename_sound sound at_stage
  · rename_i record at_stage
    apply stage_sound sound
    · intro inside
      rw [at_stage]
      rfl
    · intro attempt maker removing
      cases removing
    · intro other holds
      cases holds
      exact sound.named process record (by rw [at_stage]; rfl)
    · intro other holds
      cases holds
      exact sound.owner process record (by rw [at_stage]; rfl)
  · unfold readOwner
    split
    · exact leave_sound sound rfl rfl rfl
    · split
      · exact leave_sound sound rfl rfl rfl
      · exact leave_sound sound rfl rfl rfl
  · unfold statDirectory
    split
    · exact leave_sound sound rfl rfl rfl
    · exact leave_sound sound rfl rfl rfl
  · rename_i at_stage
    simp only [Allowed, at_stage] at allowed
    exact decide_sound sound allowed
  · rename_i at_stage
    simp only [Allowed, at_stage] at allowed
    exact decide_sound sound allowed
  · rename_i at_stage
    exact @entries_sound _ sound (fun dir => { dir with owner := none }) (fun _ => rfl)
      (removing_unpublished sound at_stage)
  · rename_i other at_stage
    exact @entries_sound _ sound
      (fun dir => { dir with temporaries := dir.temporaries.erase other }) (fun _ => rfl)
      (removing_unpublished sound at_stage)
  · rename_i at_stage
    exact remove_expired_sound sound at_stage
  · rename_i at_stage
    exact unlink_held_sound sound at_stage
  · rename_i at_stage
    exact @entries_sound _ sound (fun dir => { dir with owner := none }) (fun _ => rfl)
      (alone_unpublished sound (by rw [at_stage]; rfl : live (state.stage process) = true)
        (by rw [at_stage]; rfl))
  · rename_i other at_stage
    exact @entries_sound _ sound
      (fun dir => { dir with temporaries := dir.temporaries.erase other }) (fun _ => rfl)
      (alone_unpublished sound (by rw [at_stage]; rfl : live (state.stage process) = true)
        (by rw [at_stage]; rfl))
  · rename_i at_stage
    exact remove_clearing_sound sound at_stage
  · exact leave_sound sound rfl rfl rfl
  · exact sound

omit sound

theorem step_sound (state : State) (event : Event) (allowed : Allowed state event)
    (sound : Sound state) : Sound (step state event) := by
  cases event with
  | tick ms => exact Sound.mk sound.mine sound.removal sound.named sound.owner
  | act process action => exact act_sound sound allowed

theorem initial_sound : Sound initial := by
  apply Sound.mk
  · intro process inside
    cases inside
  · intro process attempt maker removing
    cases removing
  · intro process record holds
    cases holds
  · intro process record holds
    cases holds

/-- In every run whose steps are allowed: no two processes hold the lock, what a reclaimer
removes is the directory that it found expired, what a release removes is its own directory,
and the lock of a process is no longer asserted once another process holds it. -/
theorem release_store_exclusive (events : List Event)
    (allowed : ∀ earlier event, earlier ++ [event] <+: events →
      Allowed (run step earlier initial) event) (reached : List Event) (within : reached <+: events)
    : (∀ process other, Holds (run step reached initial) process →
      Holds (run step reached initial) other → process = other) ∧ (∀ process attempt maker dir,
      (run step reached initial).stage process = .removing attempt maker →
      (run step reached initial).dir = some dir → dir.maker = maker) ∧
    (∀ process dir, Holds (run step reached initial) process ∨
        (run step reached initial).stage process = .clearing →
      (run step reached initial).dir = some dir → dir.maker = process) ∧
    ∀ process other ino record, other ≠ process → Holds (run step reached initial) other →
      record.nonce = process → assertLock (run step reached initial) ino record = false := by
  have sound := run_guarded step_sound events initial initial_sound allowed reached within
  have inside : ∀ process, Holds (run step reached initial) process →
      live ((run step reached initial).stage process) = true := by
    intro process holds
    obtain ⟨record, at_stage⟩ := holds
    rw [at_stage]
    rfl
  refine ⟨?_, ?_, ?_, ?_⟩
  · intro process other first second
    exact sound.alone (inside process first) (inside other second)
  · intro process attempt maker dir removing at_path
    exact (sound.removal process attempt maker removing dir at_path).1
  · intro process dir either at_path
    have there : live ((run step reached initial).stage process) = true := by
      rcases either with holds | clearing
      · exact inside process holds
      · rw [clearing]
        rfl
    obtain ⟨own, present, maker⟩ := sound.mine process there
    rw [at_path] at present
    cases present
    exact maker
  · intro process other ino record different holds named
    obtain ⟨held, at_stage⟩ := holds
    have published : publishedOf ((run step reached initial).stage other) = some held := by
      rw [at_stage]
      rfl
    have other_name := sound.named other held (by rw [at_stage]; rfl)
    unfold assertLock
    split
    · rfl
    · rename_i dir at_path
      have owner := sound.owner other held published dir at_path
      rw [decide_eq_false_iff_not]
      intro both
      rw [owner] at both
      have equal := Option.some.inj both.2
      rw [equal, named] at other_name
      exact different other_name.symm

def heldAndLookedAt : List Event :=
  [.act 0 (.start false ttlMs), .act 0 (.mkdir 7), .act 0 .stamp, .act 0 .openTemporary,
    .act 0 .rename, .act 0 .hand, .tick 1000, .act 1 (.start false ttlMs), .act 1 (.mkdir 8),
    .act 1 .readOwner, .act 1 .judge]

theorem looking_is_harmless : ¬Holds (run step heldAndLookedAt initial) 1 ∧
      assertLock (run step heldAndLookedAt initial) 7 ⟨1, 1000, ttlMs⟩ = false := by
  have exclusive := release_store_exclusive heldAndLookedAt
    (by
      apply guarded_cons
      · trivial
      apply guarded_cons
      · intro absent other different
        have idle : (step initial (.act 0 (.start false ttlMs))).stage other = .idle :=
          set_stage_other initial _ different
        rw [idle]
        rfl
      apply guarded_cons
      · trivial
      apply guarded_cons
      · trivial
      apply guarded_cons
      · trivial
      apply guarded_cons
      · trivial
      apply guarded_cons
      · trivial
      apply guarded_cons
      · trivial
      apply guarded_cons
      · intro absent
        exact absurd absent (by decide +kernel)
      apply guarded_cons
      · trivial
      apply guarded_cons
      · intro expired
        exact absurd expired (by decide +kernel)
      exact guarded_nil)
    heldAndLookedAt List.prefix_rfl
  have holds : Holds (run step heldAndLookedAt initial) 0 := ⟨⟨0, 0, ttlMs⟩, by decide +kernel⟩
  apply And.intro
  · intro other
    have same := exclusive.1 0 1 holds other
    cases same
  · exact exclusive.2.2.2 1 0 7 ⟨1, 1000, ttlMs⟩ (by decide) holds rfl

def acquisition (process ino : Nat) : List Event :=
  [.act process (.mkdir ino), .act process .stamp, .act process .openTemporary,
    .act process .rename, .act process .hand]

/-- The owner crashed; two processes read its record, and the second removes the directory that
the first has made after its own removal. -/
def reclaimedTwice : List Event :=
  .act 0 (.start false ttlMs) :: (acquisition 0 7 ++
    [.act 0 .abandon, .tick 1000000,
      .act 1 (.start false ttlMs), .act 1 (.mkdir 8), .act 1 .readOwner, .act 1 .judge,
      .act 2 (.start false ttlMs), .act 2 (.mkdir 8), .act 2 .readOwner, .act 2 .judge,
      .act 1 .unlinkOwner, .act 1 .removeDirectory] ++ acquisition 1 8 ++
    [.act 2 .unlinkOwner, .act 2 .removeDirectory] ++ acquisition 2 9)

theorem reclaimed_twice_both_hold :
    Holds (run step reclaimedTwice initial) 1 ∧ Holds (run step reclaimedTwice initial) 2 :=
  And.intro ⟨⟨1, 1000000, ttlMs⟩, by decide +kernel⟩ ⟨⟨2, 1000000, ttlMs⟩, by decide +kernel⟩

end OpenMapX.Ops.ReleaseStoreRuns
