import OpenMapX.Foundation.Runs
import OpenMapX.Transit.RefreshReplay

/-!
# One successor for a refresh handle

While its lease lasts, a request that found no cached result is the only one that can
store one. If the calls between taking the lease and starting the work and the write after
the work are quick, every write falls into its request's lease, so that a cached result is
never replaced while it lives, and all answers that rest on one life of it are equal.
-/

namespace OpenMapX.Transit.RefreshSuccessor

open Foundation.Runs RefreshReplay List

variable {Body : Type} {receipts : Body → List String}

theorem unavailable_status : (unavailable : RefreshResponse Body).status ≠ 200 := by
  unfold unavailable
  dsimp only
  decide

theorem refused_status : (refused : RefreshResponse Body).status ≠ 200 := by
  unfold refused
  dsimp only
  decide

theorem permitted_cases (policy : Policy) (result) : permitted receipts policy result = result ∨
      (permitted receipts policy result).status ≠ 200 := by
  unfold permitted
  split
  · exact Or.inl rfl
  · split
    · exact Or.inr unavailable_status
    · split
      · exact Or.inr refused_status
      · exact Or.inl rfl

theorem permitted_ok {policy : Policy} {result}
    (passes : (permitted receipts policy result).status = 200) :
    permitted receipts policy result = result := by
  rcases @permitted_cases Body receipts policy result with same | other
  · exact same
  · exact absurd passes other

def holds : Phase Body → Bool
  | .completed | .permitCompleted _ _ | .start | .captureWriter _ | .working _ | .permitWork _ _
  | .store _ _ _ | .readBack _ | .recheck _ _ | .delete _ _ | .finish _ _ | .release _ => true
  | _ => false

def fresh : Phase Body → Bool
  | .start | .captureWriter _ | .working _ | .permitWork _ _ | .store _ _ _ => true
  | _ => false

def startOf : Phase Body → Option Nat
  | .captureWriter startedAt | .working startedAt | .permitWork _ startedAt
  | .store _ startedAt _ => some startedAt
  | _ => none

/-- The result that the request carries to its answer, with the life that it rests on. -/
def carried : Phase Body → Option (RefreshResponse Body × Nat)
  | .permitCached result life | .permitCompleted result life | .recheck result life
  | .delete result life | .answer result life | .done result life => some (result, life)
  | .finish result life => some (result, life)
  | .release result => result
  | _ => none

/-- The result that the request has read back from the cache and not yet retired. -/
def readBackOf : Phase Body → Option (RefreshResponse Body)
  | .recheck result _ | .delete result _ => some result
  | _ => none

def AfterRetiring (value : RefreshResponse Body) : Phase Body → Prop
  | .finish result _ | .answer result _ | .done result _ | .release (some (result, _)) =>
    result.status = 200 → result = value
  | .release none => True
  | _ => False

structure RequestOk (state : ReplayState Body) (request : Nat) : Prop where
  since : holds (state.requests request).phase = true →
    (state.requests request).acquiredAt ≤ state.now
  leased : holds (state.requests request).phase = true →
    state.now < (state.requests request).acquiredAt + LEASE_TTL_MS →
    state.lease = some { holder := request
                         expiresAt := (state.requests request).acquiredAt + LEASE_TTL_MS }
  absent : fresh (state.requests request).phase = true →
    state.now < (state.requests request).acquiredAt + LEASE_TTL_MS → state.live = none
  began : ∀ startedAt, startOf (state.requests request).phase = some startedAt →
    (state.requests request).acquiredAt ≤ startedAt ∧ startedAt ≤ state.now
  checked : ∀ result startedAt checkedAt,
    (state.requests request).phase = .store result startedAt checkedAt →
    checkedAt ≤ state.now ∧ checkedAt < startedAt + WORK_LIMIT_MS
  carries : ∀ result life, carried (state.requests request).phase = some (result, life) →
    result.status = 200 → (life, result) ∈ state.stored
  verifies : ∀ result, readBackOf (state.requests request).phase = some result →
    (request, result) ∈ state.verified
  retires : ∀ result, (request, result) ∈ state.retired →
    AfterRetiring result (state.requests request).phase
  answered : ∀ answer ∈ state.answers, answer.request = request →
    (state.requests request).phase = .done answer.response answer.life

structure StateOk (state : ReplayState Body) : Prop where
  each : ∀ request, RequestOk state request
  current : ∀ entry, state.result = some entry → (state.life, entry.value) ∈ state.stored
  bounded : ∀ life value, (life, value) ∈ state.stored → life ≤ state.life
  distinct : ∀ life value other, (life, value) ∈ state.stored → (life, other) ∈ state.stored →
    value = other
  answersStored : ∀ answer ∈ state.answers, answer.response.status = 200 →
    (answer.life, answer.response) ∈ state.stored
  order : ∀ entry ∈ state.retired, entry ∈ state.verified

theorem live_stored {state : ReplayState Body} (ok : StateOk state) {value : RefreshResponse Body}
    (found : state.live = some value) : (state.life, value) ∈ state.stored := by
  unfold ReplayState.live at found
  rw [Option.bind_eq_some_iff] at found
  obtain ⟨entry, given⟩ := found
  have live := given.2
  split at live
  · cases live
    exact ok.current entry given.1
  · cases live

section

variable {state : ReplayState Body} {request : Nat}

@[simp] theorem move_phase (phase : Phase Body) :
    ((state.move request phase).requests request).phase = phase := by
  unfold ReplayState.move ReplayState.setRequest
  dsimp only
  rw [if_pos rfl]

@[simp] theorem move_acquired (phase : Phase Body) :
    ((state.move request phase).requests request).acquiredAt =
      (state.requests request).acquiredAt := by
  unfold ReplayState.move ReplayState.setRequest
  dsimp only
  rw [if_pos rfl]

theorem move_other (phase : Phase Body) {other : Nat} (apart : other ≠ request) :
    (state.move request phase).requests other = state.requests other := by
  unfold ReplayState.move ReplayState.setRequest
  dsimp only
  rw [if_neg apart]

structure Frames (state after : ReplayState Body) (other : Nat) : Prop where
  requests : after.requests other = state.requests other
  now : after.now = state.now
  lease : ∀ expiresAt, state.now < expiresAt →
    state.lease = some { holder := other, expiresAt := expiresAt } → after.lease = state.lease
  live : state.lease = some { holder := other
                              expiresAt := (state.requests other).acquiredAt + LEASE_TTL_MS } →
    state.live = none → after.live = none
  stored : ∀ entry ∈ state.stored, entry ∈ after.stored
  verified : ∀ entry ∈ state.verified, entry ∈ after.verified
  retired : ∀ result, (other, result) ∈ after.retired → (other, result) ∈ state.retired
  answers : ∀ answer ∈ after.answers, answer.request = other → answer ∈ state.answers

theorem fresh_holds {phase : Phase Body} (isFresh : fresh phase = true) : holds phase = true := by
  cases phase <;> first | rfl | cases isFresh

theorem other_kept {after : ReplayState Body} {other : Nat} (frames : Frames state after other)
    (ok : RequestOk state other) : RequestOk after other := by
  have same := frames.requests
  have now := frames.now
  apply RequestOk.mk
  · rw [same, now]
    exact ok.since
  · rw [same, now]
    intro held within
    have before := ok.leased held within
    rw [frames.lease _ within before]
    exact before
  · rw [same, now]
    intro isFresh within
    exact frames.live (ok.leased (fresh_holds isFresh) within) (ok.absent isFresh within)
  · rw [same, now]
    exact ok.began
  · rw [same, now]
    exact ok.checked
  · rw [same]
    intro result life carries passes
    exact frames.stored _ (ok.carries result life carries passes)
  · rw [same]
    intro result read
    exact frames.verified _ (ok.verifies result read)
  · rw [same]
    intro result retired
    exact ok.retires result (frames.retired result retired)
  · rw [same]
    intro answer member own
    exact ok.answered answer (frames.answers answer member own) own

theorem frames_same (state : ReplayState Body) (other : Nat) : Frames state state other :=
  ⟨rfl, rfl, fun _ _ _ => rfl, fun _ absent => absent, fun _ member => member,
    fun _ member => member, fun _ member => member, fun _ member _ => member⟩

theorem move_frames (phase : Phase Body) {other : Nat} (apart : other ≠ request) :
    Frames state (state.move request phase) other :=
  { frames_same state other with requests := move_other phase apart }

theorem move_ok {phase} (ok : StateOk state)
    (new : RequestOk (state.move request phase) request) : StateOk (state.move request phase) := by
  refine { ok with each := ?_ }
  intro other
  by_cases same : other = request
  · rw [same]
    exact new
  · exact other_kept (move_frames phase same) (ok.each other)

structure Ready (state : ReplayState Body) (request : Nat) (phase : Phase Body) : Prop where
  held : holds phase = true → (state.requests request).acquiredAt ≤ state.now ∧
    (state.now < (state.requests request).acquiredAt + LEASE_TTL_MS →
      state.lease = some { holder := request
                           expiresAt := (state.requests request).acquiredAt + LEASE_TTL_MS })
  absent : fresh phase = true →
    state.now < (state.requests request).acquiredAt + LEASE_TTL_MS → state.live = none
  began : ∀ startedAt, startOf phase = some startedAt →
    (state.requests request).acquiredAt ≤ startedAt ∧ startedAt ≤ state.now
  checked : ∀ result startedAt checkedAt, phase = .store result startedAt checkedAt →
    checkedAt ≤ state.now ∧ checkedAt < startedAt + WORK_LIMIT_MS
  carries : ∀ result life, carried phase = some (result, life) → result.status = 200 →
    (life, result) ∈ state.stored
  verifies : ∀ result, readBackOf phase = some result → (request, result) ∈ state.verified
  retires : ∀ result, (request, result) ∈ state.retired → AfterRetiring result phase
  unanswered : ∀ answer ∈ state.answers, answer.request ≠ request

theorem arrives {phase} (ready : Ready state request phase) :
    RequestOk (state.move request phase) request := by
  apply RequestOk.mk
  · rw [move_phase, move_acquired]
    intro held
    exact (ready.held held).1
  · rw [move_phase, move_acquired]
    intro held
    exact (ready.held held).2
  · rw [move_phase, move_acquired]
    exact ready.absent
  · rw [move_phase, move_acquired]
    exact ready.began
  · rw [move_phase]
    exact ready.checked
  · rw [move_phase]
    exact ready.carries
  · rw [move_phase]
    exact ready.verifies
  · rw [move_phase]
    exact ready.retires
  · intro answer member same
    exact absurd same (ready.unanswered answer member)

theorem ready_moves {phase} (ok : StateOk state)
    (ready : Ready state request phase) : StateOk (state.move request phase) :=
  move_ok ok (arrives ready)

section

variable {state : ReplayState Body} {request : Nat} (ok : StateOk state)
include ok

theorem unanswered_before
    (under_way : ∀ result life, (state.requests request).phase ≠ .done result life) :
    ∀ answer ∈ state.answers, answer.request ≠ request := by
  intro answer member same
  exact under_way _ _ ((ok.each request).answered answer member same)

theorem unretired_before (before : ∀ value, ¬ AfterRetiring value (state.requests request).phase) :
    ∀ value, (request, value) ∉ state.retired := by
  intro value member
  exact before value ((ok.each request).retires value member)

end

theorem settle_ok {result} {life : Nat} (ok : StateOk state)
    (ready : Ready state request (.done result life)) :
    StateOk (state.settle request result life) := by
  have moved := ready_moves ok ready
  have before := moved.each request
  refine { moved with each := ?_, answersStored := ?_ }
  · intro other
    by_cases same : other = request
    · rw [same]
      refine { before with answered := ?_ }
      refine forall_mem_append.mpr ⟨?_, forall_mem_singleton.mpr fun _ => move_phase _⟩
      exact fun answer member own => absurd own (ready.unanswered answer member)
    · apply other_kept _ (ok.each other)
      have frames : Frames state (state.move request (.done result life)) other :=
        move_frames (.done result life) same
      refine { frames with now := ?_, answers := ?_ }
      · rfl
      · refine forall_mem_append.mpr ⟨fun answer member _ => member, ?_⟩
        exact forall_mem_singleton.mpr fun own => absurd own.symm same
  · exact forall_mem_append.mpr ⟨moved.answersStored,
      forall_mem_singleton.mpr (ready.carries result life rfl)⟩

theorem start_is_fresh {phase : Phase Body} {startedAt : Nat}
    (starts : startOf phase = some startedAt) : fresh phase = true := by
  cases phase <;> first | rfl | cases starts

theorem read_back_holds {phase : Phase Body} {result : RefreshResponse Body}
    (read : readBackOf phase = some result) : holds phase = true ∧ fresh phase = false := by
  cases phase <;> first | exact ⟨rfl, rfl⟩ | cases read

theorem fresh_carries_nothing {phase : Phase Body} (isFresh : fresh phase = true) :
    carried phase = none ∧ readBackOf phase = none := by
  cases phase <;> first | exact ⟨rfl, rfl⟩ | cases isFresh

variable {phase : Phase Body}

theorem ready_outside (outside : holds phase = false)
    (carries : ∀ result life, carried phase = some (result, life) → result.status = 200 →
      (life, result) ∈ state.stored)
    (retires : ∀ result, (request, result) ∈ state.retired → AfterRetiring result phase)
    (unanswered : ∀ answer ∈ state.answers, answer.request ≠ request) :
    Ready state request phase := by
  have stale : fresh phase ≠ true := by
    intro isFresh
    rw [fresh_holds isFresh] at outside
    cases outside
  apply Ready.mk
  · intro held
    rw [held] at outside
    cases outside
  · intro isFresh
    exact absurd isFresh stale
  · intro startedAt starts
    exact absurd (start_is_fresh starts) stale
  · intro result startedAt checkedAt same
    rw [same] at stale
    exact absurd rfl stale
  · exact carries
  · intro result read
    rw [(read_back_holds read).1] at outside
    cases outside
  · exact retires
  · exact unanswered

section

variable (ok : StateOk state) (held : holds (state.requests request).phase = true)
include ok held

theorem ready_inside (stale : fresh phase = false)
    (carries : ∀ result life, carried phase = some (result, life) → result.status = 200 →
      (life, result) ∈ state.stored)
    (verifies : ∀ result, readBackOf phase = some result → (request, result) ∈ state.verified)
    (retires : ∀ result, (request, result) ∈ state.retired → AfterRetiring result phase)
    (unanswered : ∀ answer ∈ state.answers, answer.request ≠ request) :
    Ready state request phase := by
  apply Ready.mk
  · intro _
    exact ⟨(ok.each request).since held, (ok.each request).leased held⟩
  · intro isFresh
    rw [isFresh] at stale
    cases stale
  · intro startedAt starts
    rw [start_is_fresh starts] at stale
    cases stale
  · intro result startedAt checkedAt same
    rw [same] at stale
    cases stale
  · exact carries
  · exact verifies
  · exact retires
  · exact unanswered

theorem ready_fresh (isFresh : fresh phase = true)
    (absent : state.now < (state.requests request).acquiredAt + LEASE_TTL_MS → state.live = none)
    (began : ∀ startedAt, startOf phase = some startedAt →
      (state.requests request).acquiredAt ≤ startedAt ∧ startedAt ≤ state.now)
    (checked : ∀ result startedAt checkedAt, phase = .store result startedAt checkedAt →
      checkedAt ≤ state.now ∧ checkedAt < startedAt + WORK_LIMIT_MS)
    (unretired : ∀ result, (request, result) ∉ state.retired)
    (unanswered : ∀ answer ∈ state.answers, answer.request ≠ request) :
    Ready state request phase := by
  have nothing := fresh_carries_nothing isFresh
  apply Ready.mk
  · intro _
    exact ⟨(ok.each request).since held, (ok.each request).leased held⟩
  · intro _
    exact absent
  · exact began
  · exact checked
  · intro result life carries
    rw [nothing.1] at carries
    cases carries
  · intro result read
    rw [nothing.2] at read
    cases read
  · intro result retired
    exact absurd retired (unretired result)
  · exact unanswered

theorem throws_ok : StateOk (state.throws request) := by
  apply ready_moves ok
  apply ready_inside ok held rfl
  · intro result life carries
    cases carries
  · intro result read
    cases read
  · intro result _
    trivial
  · apply unanswered_before ok
    intro result life same
    rw [same] at held
    cases held

end

section

variable (ok : StateOk state)
include ok

theorem fails_ok (under_way : ∀ result life, (state.requests request).phase ≠ .done result life) :
    StateOk (state.fails request) := by
  apply settle_ok ok
  apply ready_outside rfl
  · intro result life carries passes
    cases carries
    exact absurd passes unavailable_status
  · intro result _ passes
    exact absurd passes unavailable_status
  · exact unanswered_before ok under_way

theorem look_ok {missing : Phase Body} (unretired : ∀ value, (request, value) ∉ state.retired)
    (unanswered : ∀ answer ∈ state.answers, answer.request ≠ request)
    (outside : holds missing = false)
    (bare : ∀ result life, carried missing = some (result, life) → result.status ≠ 200) :
    StateOk (look state request .permitCached missing) := by
  unfold look
  split
  · rename_i value found
    apply ready_moves ok
    apply ready_outside rfl
    · intro result life carries _
      cases carries
      exact live_stored ok found
    · intro result retired
      exact absurd retired (unretired result)
    · exact unanswered
  · apply ready_moves ok
    apply ready_outside outside
    · intro result life carries passes
      exact absurd passes (bare result life carries)
    · intro result retired
      exact absurd retired (unretired result)
    · exact unanswered

theorem completed_ok (here : (state.requests request).phase = .completed) :
    StateOk (look state request .permitCompleted .start) := by
  have held : holds (state.requests request).phase = true := by rw [here]; rfl
  have unretired : ∀ value, (request, value) ∉ state.retired := by
    apply unretired_before ok
    intro value
    rw [here]
    exact id
  have unanswered : ∀ answer ∈ state.answers, answer.request ≠ request := by
    apply unanswered_before ok
    intro result life
    rw [here]
    intro same
    cases same
  unfold look
  split
  · rename_i value found
    apply ready_moves ok
    apply ready_inside ok held rfl
    · intro result life carries _
      cases carries
      exact live_stored ok found
    · intro result read
      cases read
    · intro result retired
      exact absurd retired (unretired result)
    · exact unanswered
  · rename_i missing
    apply ready_moves ok
    apply ready_fresh ok held rfl
    · intro _
      exact missing
    · intro startedAt starts
      cases starts
    · intro result startedAt checkedAt same
      cases same
    · exact unretired
    · exact unanswered

theorem leave_ok {result} {life : Nat} (held : holds (state.requests request).phase = true)
    (carries : carried (state.requests request).phase = some (result, life))
    (retires : ∀ value, (request, value) ∈ state.retired → result.status = 200 → result = value) :
    StateOk (leave receipts state request result life) := by
  apply ready_moves ok
  apply ready_inside ok held rfl
  · intro other life' given passes
    cases given
    have same := permitted_ok passes
    rw [same] at passes ⊢
    exact (ok.each request).carries result life carries passes
  · intro other read
    cases read
  · intro value retired passes
    have same := permitted_ok passes
    rw [same] at passes ⊢
    exact retires value retired passes
  · apply unanswered_before ok
    intro other life' same
    rw [same] at held
    cases held

end

def early : Phase Body → Bool
  | .finish _ _ | .release _ | .answer _ _ | .done _ _ => false
  | _ => true

section

variable (ok : StateOk state) (isEarly : early (state.requests request).phase = true)
include ok isEarly

theorem early_unretired : ∀ value, (request, value) ∉ state.retired := by
  intro value member
  have after := (ok.each request).retires value member
  cases here : (state.requests request).phase <;> rw [here] at isEarly after <;>
    first | exact after | cases isEarly

theorem early_unanswered : ∀ answer ∈ state.answers, answer.request ≠ request := by
  apply unanswered_before ok
  intro result life same
  rw [same] at isEarly
  cases isEarly

theorem early_outside (outside : holds phase = false)
    (carries : ∀ result life, carried phase = some (result, life) → result.status = 200 →
      (life, result) ∈ state.stored) : StateOk (state.move request phase) := by
  apply ready_moves ok
  apply ready_outside outside carries
  · intro value retired
    exact absurd retired (early_unretired ok isEarly value)
  · exact early_unanswered ok isEarly

theorem early_inside
    (held : holds (state.requests request).phase = true) (stale : fresh phase = false)
    (carries : ∀ result life, carried phase = some (result, life) → result.status = 200 →
      (life, result) ∈ state.stored)
    (verifies : ∀ result, readBackOf phase = some result → (request, result) ∈ state.verified) :
    StateOk (state.move request phase) := by
  apply ready_moves ok
  apply ready_inside ok held stale carries verifies
  · intro value retired
    exact absurd retired (early_unretired ok isEarly value)
  · exact early_unanswered ok isEarly

end

theorem fresh_onward (ok : StateOk state) (old : fresh (state.requests request).phase = true)
    (isFresh : fresh phase = true) (isEarly : early (state.requests request).phase = true)
    (began : ∀ startedAt, startOf phase = some startedAt →
      (state.requests request).acquiredAt ≤ startedAt ∧ startedAt ≤ state.now)
    (checked : ∀ result startedAt checkedAt, phase = .store result startedAt checkedAt →
      checkedAt ≤ state.now ∧ checkedAt < startedAt + WORK_LIMIT_MS) :
    StateOk (state.move request phase) := by
  apply ready_moves ok
  exact ready_fresh ok (fresh_holds old) isFresh ((ok.each request).absent old) began checked
    (early_unretired ok isEarly) (early_unanswered ok isEarly)

theorem refuse_ok (ok : StateOk state) (held : holds (state.requests request).phase = true) {result}
    (bad : result.status ≠ 200) : StateOk (state.move request (.release (some (result, 0)))) := by
  apply ready_moves ok
  apply ready_inside ok held rfl
  · intro other life carries passes
    cases carries
    exact absurd passes bad
  · intro other read
    cases read
  · intro value _ passes
    exact absurd passes bad
  · apply unanswered_before ok
    intro other life same
    rw [same] at held
    cases held

section

variable {result : RefreshResponse Body} {startedAt : Nat}

theorem check_work_ok (ok : StateOk state)
    (here : (state.requests request).phase = .permitWork result startedAt) :
    StateOk (checkWork receipts state request result startedAt) := by
  have began := (ok.each request).began startedAt (by rw [here]; rfl)
  have held : holds (state.requests request).phase = true := by rw [here]; rfl
  unfold checkWork
  dsimp only
  split
  · exact refuse_ok ok held unavailable_status
  · rename_i inTime
    split
    · apply fresh_onward ok
      · rw [here]
        rfl
      · rfl
      · rw [here]
        rfl
      · intro other starts
        cases starts
        exact began
      · intro other startedAt' checkedAt same
        cases same
        exact ⟨le_rfl, by omega⟩
    · rename_i bad
      apply early_inside ok (by rw [here]; rfl) held rfl
      · intro other life carries passes
        cases carries
        exact absurd passes bad
      · intro other read
        cases read

end

theorem acts_ok {after} (ok : StateOk state)
    (frames : ∀ other, other ≠ request → Frames state after other) (own : RequestOk after request)
    (current : ∀ entry, after.result = some entry → (after.life, entry.value) ∈ after.stored)
    (bounded : ∀ life value, (life, value) ∈ after.stored → life ≤ after.life)
    (distinct : ∀ life value other, (life, value) ∈ after.stored →
      (life, other) ∈ after.stored → value = other)
    (answersStored : ∀ answer ∈ after.answers, answer.response.status = 200 →
      (answer.life, answer.response) ∈ after.stored)
    (order : ∀ entry ∈ after.retired, entry ∈ after.verified) : StateOk after := by
  apply StateOk.mk
  · intro other
    by_cases same : other = request
    · rw [same]
      exact own
    · exact other_kept (frames other same) (ok.each other)
  · exact current
  · exact bounded
  · exact distinct
  · exact answersStored
  · exact order

theorem take_lease_ok (ok : StateOk state) (free : state.leaseFree = true)
    (isEarly : early (state.requests request).phase = true)
    (stale : fresh phase = false) (bare : carried phase = none)
    (unread : readBackOf phase = none) : StateOk (state.takeLease request phase) := by
  have here : (state.takeLease request phase).requests request =
      { phase := phase, acquiredAt := state.now } := by
    unfold ReplayState.takeLease ReplayState.setRequest
    exact if_pos rfl
  apply @acts_ok Body state request _ ok
  · intro other apart
    refine { frames_same state other with requests := if_neg apart, lease := ?_ }
    intro expiresAt within taken
    unfold ReplayState.leaseFree at free
    rw [taken] at free
    have expired := of_decide_eq_true free
    dsimp only at expired
    omega
  · apply RequestOk.mk
    · rw [here]
      intro _
      exact le_rfl
    · rw [here]
      intro _ _
      rfl
    · rw [here]
      intro isFresh
      rw [isFresh] at stale
      cases stale
    · rw [here]
      intro startedAt starts
      rw [start_is_fresh starts] at stale
      cases stale
    · rw [here]
      intro result startedAt checkedAt same
      dsimp only at same
      rw [same] at stale
      cases stale
    · rw [here]
      intro result life carries
      rw [bare] at carries
      cases carries
    · rw [here]
      intro result read
      rw [unread] at read
      cases read
    · intro result retired
      exact absurd retired (early_unretired ok isEarly result)
    · intro answer member same
      exact absurd same (early_unanswered ok isEarly answer member)
  · exact ok.current
  · exact ok.bounded
  · exact ok.distinct
  · exact ok.answersStored
  · exact ok.order

theorem write_ok (ok : StateOk state) {result : RefreshResponse Body} {startedAt checkedAt : Nat}
    (here : (state.requests request).phase = .store result startedAt checkedAt)
    (within : state.now < (state.requests request).acquiredAt + LEASE_TTL_MS)
    (stale : fresh phase = false) (bare : carried phase = none) (unread : readBackOf phase = none) :
    StateOk ((state.write result).move request phase) := by
  have isFresh : fresh (state.requests request).phase = true := by rw [here]; rfl
  have isEarly : early (state.requests request).phase = true := by rw [here]; rfl
  have held := fresh_holds isFresh
  have leased := (ok.each request).leased held within
  have absent := (ok.each request).absent isFresh within
  have life : (state.write result).life = state.life + 1 := by
    unfold ReplayState.write
    rw [absent]
    rfl
  have stored : (state.write result).stored = state.stored ++ [(state.life + 1, result)] := by
    unfold ReplayState.write
    rw [absent]
    rfl
  have before : Ready state request phase := by
    apply ready_inside ok held stale _ _ _ (early_unanswered ok isEarly)
    · simp [bare]
    · simp [unread]
    · exact fun value retired => absurd retired (early_unretired ok isEarly value)
  have ready : Ready (state.write result) request phase :=
    { before with absent := by simp [stale], carries := by simp [bare] }
  apply @acts_ok Body state request _ ok
  · intro other apart
    have moved : Frames (state.write result) ((state.write result).move request phase) other :=
      move_frames phase apart
    refine { moved with live := ?_, stored := ?_ }
    · intro taken
      rw [leased] at taken
      cases taken
      exact absurd rfl apart
    · intro entry member
      apply moved.stored
      rw [stored]
      exact mem_append_left _ member
  · exact arrives ready
  · intro entry written
    cases written
    have member : (state.life + 1, result) ∈ (state.write result).stored := by
      rw [stored]
      exact mem_append_right _ mem_cons_self
    rw [← life] at member
    exact member
  · intro life' value member
    have inside : (life', value) ∈ (state.write result).stored := member
    have bound : life' ≤ (state.write result).life := by
      rw [stored, mem_append, mem_singleton] at inside
      rw [life]
      rcases inside with earlier | last
      · exact (ok.bounded life' value earlier).trans (Nat.le_succ _)
      · cases last
        exact le_rfl
    exact bound
  · intro life' value other inFirst inSecond
    have first : (life', value) ∈ (state.write result).stored := inFirst
    have second : (life', other) ∈ (state.write result).stored := inSecond
    rw [stored, mem_append, mem_singleton] at first second
    rcases first with earlier | last
    · rcases second with earlier' | last
      · exact ok.distinct life' value other earlier earlier'
      · cases last
        have bound := ok.bounded _ _ earlier
        omega
    · cases last
      rcases second with earlier | last'
      · have bound := ok.bounded _ _ earlier
        omega
      · cases last'
        rfl
  · intro answer member passes
    have before := ok.answersStored answer member passes
    have after : (answer.life, answer.response) ∈ (state.write result).stored := by
      rw [stored]
      exact mem_append_left _ before
    exact after
  · exact ok.order

theorem release_ok (ok : StateOk state) (outside : holds (state.requests request).phase = false) :
    StateOk (state.releaseLease request) := by
  unfold ReplayState.releaseLease
  split
  · rename_i lease taken
    split
    · rename_i own
      apply @acts_ok Body state request _ ok
      · intro other apart
        refine { frames_same state other with lease := ?_ }
        intro expiresAt _ theirs
        rw [theirs] at taken
        cases taken
        exact absurd own apart
      · have before := ok.each request
        refine { before with leased := ?_ }
        intro held
        rw [held] at outside
        cases outside
      · exact ok.current
      · exact ok.bounded
      · exact ok.distinct
      · exact ok.answersStored
      · exact ok.order
    · exact ok
  · exact ok

theorem release_move (phase : Phase Body) : (state.releaseLease request).move request phase =
      (state.move request phase).releaseLease request := by
  unfold ReplayState.releaseLease ReplayState.move ReplayState.setRequest
  dsimp only
  split
  · split
    · rfl
    · rfl
  · rfl

theorem release_fails :
    (state.releaseLease request).fails request = (state.fails request).releaseLease request := by
  unfold ReplayState.fails ReplayState.settle
  rw [release_move]
  unfold ReplayState.releaseLease ReplayState.move ReplayState.setRequest
  dsimp only
  split
  · split
    · rfl
    · rfl
  · rfl

theorem verify_ok (ok : StateOk state) (value) : StateOk (state.verify request value) := by
  have grows : ∀ entry ∈ state.verified, entry ∈ (state.verify request value).verified :=
    fun entry member => mem_append_left _ member
  refine { ok with each := ?_, order := ?_ }
  · intro other
    have before := ok.each other
    refine { before with verifies := ?_ }
    intro result read
    exact grows _ (before.verifies result read)
  · intro entry member
    exact grows entry (ok.order entry member)

theorem retire_ok (ok : StateOk state) {value} {life : Nat}
    (here : (state.requests request).phase = .delete value life) (stale : fresh phase = false)
    (unread : readBackOf phase = none)
    (carries : ∀ result life, carried phase = some (result, life) → result.status = 200 →
      (life, result) ∈ state.stored) (after : AfterRetiring value phase) :
    StateOk ((state.retire request value).move request phase) := by
  have held : holds (state.requests request).phase = true := by rw [here]; rfl
  have isEarly : early (state.requests request).phase = true := by rw [here]; rfl
  have read := (ok.each request).verifies value (by rw [here]; rfl)
  have unretired := early_unretired ok isEarly
  have before : Ready state request phase := by
    apply ready_inside ok held stale carries _ _ (early_unanswered ok isEarly)
    · simp [unread]
    · exact fun result retired => absurd retired (unretired result)
  have ready : Ready (state.retire request value) request phase := by
    refine { before with retires := ?_ }
    intro result retired
    rcases mem_append.mp retired with earlier | last
    · exact absurd earlier (unretired result)
    · cases mem_singleton.mp last
      exact after
  apply @acts_ok Body state request _ ok
  · intro other apart
    have moved : Frames (state.retire request value)
        ((state.retire request value).move request phase) other := move_frames phase apart
    refine { moved with retired := ?_ }
    intro result member
    rcases mem_append.mp member with earlier | last
    · exact earlier
    · cases mem_singleton.mp last
      exact absurd rfl apart
  · exact arrives ready
  · exact ok.current
  · exact ok.bounded
  · exact ok.distinct
  · exact ok.answersStored
  · exact forall_mem_append.mpr ⟨ok.order, forall_mem_singleton.mpr read⟩

section

variable {outcome : Outcome}

theorem acquire_ok (ok : StateOk state) (here : (state.requests request).phase = .acquire) :
    StateOk (acquireStep state request outcome) := by
  have isEarly : early (state.requests request).phase = true := by rw [here]; rfl
  have polls : StateOk (state.move request (.poll 0)) := by
    apply early_outside ok isEarly rfl
    intro result life carries
    cases carries
  unfold acquireStep
  split
  · split
    · rename_i free
      exact take_lease_ok ok free isEarly rfl rfl rfl
    · exact polls
  · split
    · rename_i free
      exact take_lease_ok ok free isEarly rfl rfl rfl
    · exact polls
  · exact polls
  · apply fails_ok ok
    intro result life same
    rw [same] at here
    cases here

theorem store_ok (ok : StateOk state) {result} {startedAt checkedAt : Nat}
    (here : (state.requests request).phase = .store result startedAt checkedAt)
    (within : outcome = .succeeds ∨ outcome = .throwsLate →
      state.now < (state.requests request).acquiredAt + LEASE_TTL_MS) :
    StateOk (storeResult state request outcome result) := by
  have held : holds (state.requests request).phase = true := by rw [here]; rfl
  have isEarly : early (state.requests request).phase = true := by rw [here]; rfl
  cases outcome with
  | succeeds => exact write_ok ok here (within (Or.inl rfl)) rfl rfl rfl
  | throwsLate => exact write_ok ok here (within (Or.inr rfl)) rfl rfl rfl
  | throws => exact throws_ok ok held
  | dropped =>
    apply early_inside ok isEarly held rfl
    · intro other life carries
      cases carries
    · intro other read
      cases read

theorem compare_ok [DecidableEq Body] (ok : StateOk state) {result : RefreshResponse Body}
    (here : (state.requests request).phase = .readBack result) :
    StateOk (compareStored state request result) := by
  have held : holds (state.requests request).phase = true := by rw [here]; rfl
  have isEarly : early (state.requests request).phase = true := by rw [here]; rfl
  unfold compareStored
  split
  · rename_i found
    have verified := @verify_ok Body state request ok result
    apply early_inside verified isEarly held rfl
    · intro other life carries _
      cases carries
      exact live_stored ok found
    · intro other read
      cases read
      exact mem_append_right _ mem_cons_self
  · exact refuse_ok ok held unavailable_status

section

variable (ok : StateOk state) {result : RefreshResponse Body} {life : Nat}
include ok

theorem recheck_ok (here : (state.requests request).phase = .recheck result life) :
    StateOk (recheckPolicy receipts state request result life) := by
  have held : holds (state.requests request).phase = true := by rw [here]; rfl
  have isEarly : early (state.requests request).phase = true := by rw [here]; rfl
  unfold recheckPolicy
  dsimp only
  split
  · rename_i bad
    exact refuse_ok ok held bad
  · apply ready_moves ok
    apply ready_inside ok held rfl
    · intro other life' carries passes
      cases carries
      exact (ok.each request).carries result life (by rw [here]; rfl) passes
    · intro other read
      cases read
      exact (ok.each request).verifies result (by rw [here]; rfl)
    · intro value retired
      exact absurd retired (early_unretired ok isEarly value)
    · exact early_unanswered ok isEarly

theorem delete_ok (here : (state.requests request).phase = .delete result life) :
    StateOk (deleteHandle state request outcome result life) := by
  have held : holds (state.requests request).phase = true := by rw [here]; rfl
  have isEarly : early (state.requests request).phase = true := by rw [here]; rfl
  have carries : ∀ other life', some (result, life) = some (other, life') → other.status = 200 →
      (life', other) ∈ state.stored := by
    intro other life' same passes
    cases same
    exact (ok.each request).carries result life (by rw [here]; rfl) passes
  cases outcome with
  | succeeds => exact retire_ok ok here rfl rfl carries (fun _ => rfl)
  | throwsLate =>
    have after : AfterRetiring result (.release none : Phase Body) := trivial
    apply retire_ok ok here rfl rfl _ after
    intro other life' same
    cases same
  | throws => exact throws_ok ok held
  | dropped =>
    apply early_inside ok isEarly held rfl
    · exact carries
    · intro other read
      cases read

end

theorem release_step_ok (ok : StateOk state) {result}
    (here : (state.requests request).phase = .release result) :
    StateOk (releaseStep state request outcome result) := by
  have underWay : ∀ value life, (state.requests request).phase ≠ .done value life := by
    intro value life same
    rw [same] at here
    cases here
  have failed := fails_ok ok underWay
  have freed : StateOk ((state.releaseLease request).fails request) := by
    rw [release_fails]
    apply release_ok failed
    have ends : ((state.fails request).requests request).phase = .done unavailable 0 := move_phase _
    rw [ends]
    rfl
  unfold releaseStep
  dsimp only
  cases result with
  | none =>
    dsimp only
    split
    · exact freed
    · exact failed
  | some pair =>
    have answers : StateOk (state.move request (.answer pair.1 pair.2)) := by
      apply ready_moves ok
      apply ready_outside rfl
      · intro other life carries passes
        cases carries
        exact (ok.each request).carries pair.1 pair.2 (by rw [here]; rfl) passes
      · intro value retired
        have after := (ok.each request).retires value retired
        rw [here] at after
        exact after
      · exact unanswered_before ok underWay
    have answersFreed : StateOk
        ((state.releaseLease request).move request (.answer pair.1 pair.2)) := by
      rw [release_move]
      apply release_ok answers
      rw [move_phase]
      rfl
    dsimp only
    split
    · split
      · exact freed
      · exact failed
    · split
      · exact answersFreed
      · exact answers

/-- A write is quick if the time between taking the lease and starting the work and the
time of the write after the work are together less than what the work's limit leaves. -/
def Prompt (state : ReplayState Body) : ReplayEvent Body → Prop
  | .call request .succeeds | .call request .throwsLate =>
    match (state.requests request).phase with
    | .store _ startedAt checkedAt =>
      (startedAt - (state.requests request).acquiredAt) + (state.now - checkedAt) <
        LEASE_TTL_MS - WORK_LIMIT_MS
    | _ => True
  | _ => True

theorem prompt_within (ok : StateOk state) {result} {startedAt checkedAt : Nat}
    (here : (state.requests request).phase = .store result startedAt checkedAt)
    (prompt : Prompt state (.call request outcome))
    (writes : outcome = .succeeds ∨ outcome = .throwsLate) :
    state.now < (state.requests request).acquiredAt + LEASE_TTL_MS := by
  have began := (ok.each request).began startedAt (by rw [here]; rfl)
  have checked := (ok.each request).checked result startedAt checkedAt here
  have quick : (startedAt - (state.requests request).acquiredAt) + (state.now - checkedAt) <
      LEASE_TTL_MS - WORK_LIMIT_MS := by
    rcases writes with succeeds | late
    · rw [succeeds] at prompt
      unfold Prompt at prompt
      dsimp only at prompt
      rw [here] at prompt
      exact prompt
    · rw [late] at prompt
      unfold Prompt at prompt
      dsimp only at prompt
      rw [here] at prompt
      exact prompt
  unfold LEASE_TTL_MS WORK_LIMIT_MS at *
  omega

theorem call_ok [DecidableEq Body] (ok : StateOk state)
    (prompt : Prompt state (.call request outcome)) :
    StateOk (callStep receipts state request outcome) := by
  unfold callStep
  split
  · rename_i here
    apply early_outside ok (by rw [here]; rfl) rfl
    intro result life carries
    cases carries
  · rename_i here
    split
    · apply look_ok ok
      · exact early_unretired ok (by rw [here]; rfl)
      · exact early_unanswered ok (by rw [here]; rfl)
      · rfl
      · intro result life carries
        cases carries
    · apply fails_ok ok
      intro result life same
      rw [same] at here
      cases here
  · rename_i result life here
    apply early_outside ok (by rw [here]; rfl) rfl
    intro other life' carries passes
    cases carries
    have same := permitted_ok passes
    rw [same] at passes ⊢
    exact (ok.each request).carries result life (by rw [here]; rfl) passes
  · rename_i here
    exact acquire_ok ok here
  · rename_i round here
    split
    · apply look_ok ok
      · exact early_unretired ok (by rw [here]; rfl)
      · exact early_unanswered ok (by rw [here]; rfl)
      · split
        · rfl
        · rfl
      · intro result life carries
        split at carries
        · cases carries
        · cases carries
          exact unavailable_status
    · apply fails_ok ok
      intro result life same
      rw [same] at here
      cases here
  · rename_i here
    split
    · exact completed_ok ok here
    · exact throws_ok ok (by rw [here]; rfl)
  · rename_i result life here
    apply leave_ok ok
    · rw [here]
      rfl
    · rw [here]
      rfl
    · intro value retired
      exact absurd retired (early_unretired ok (by rw [here]; rfl) value)
  · rename_i here
    apply fresh_onward ok (by rw [here]; rfl) rfl (by rw [here]; rfl)
    · intro startedAt starts
      cases starts
      exact ⟨(ok.each request).since (by rw [here]; rfl), le_rfl⟩
    · intro result startedAt checkedAt same
      cases same
  · rename_i startedAt here
    split
    · apply fresh_onward ok (by rw [here]; rfl) rfl (by rw [here]; rfl)
      · intro other starts
        cases starts
        exact (ok.each request).began startedAt (by rw [here]; rfl)
      · intro result other checkedAt same
        cases same
    · exact throws_ok ok (by rw [here]; rfl)
  · rename_i startedAt here
    split
    · exact ok
    · exact throws_ok ok (by rw [here]; rfl)
  · rename_i result startedAt here
    exact check_work_ok ok here
  · rename_i result startedAt checkedAt here
    exact store_ok ok here (prompt_within ok here prompt)
  · rename_i result here
    split
    · exact compare_ok ok here
    · exact throws_ok ok (by rw [here]; rfl)
  · rename_i result life here
    exact recheck_ok ok here
  · rename_i result life here
    exact delete_ok ok here
  · rename_i result life here
    apply leave_ok ok
    · rw [here]
      rfl
    · rw [here]
      rfl
    · intro value retired
      have after := (ok.each request).retires value retired
      rw [here] at after
      exact after
  · rename_i result here
    exact release_step_ok ok here
  · rename_i result life here
    apply settle_ok ok
    apply ready_outside rfl
    · intro other life' carries passes
      cases carries
      have same := permitted_ok passes
      rw [same] at passes ⊢
      exact (ok.each request).carries result life (by rw [here]; rfl) passes
    · intro value retired passes
      have after := (ok.each request).retires value retired
      have same := permitted_ok passes
      rw [same] at passes ⊢
      rw [here] at after
      exact after passes
    · apply unanswered_before ok
      intro other life' same
      rw [same] at here
      cases here
  · exact ok

theorem work_ends_ok (ok : StateOk state) (result) : StateOk (workEnds state request result) := by
  unfold workEnds
  split
  · rename_i startedAt here
    apply fresh_onward ok (by rw [here]; rfl) rfl (by rw [here]; rfl)
    · intro other starts
      cases starts
      exact (ok.each request).began startedAt (by rw [here]; rfl)
    · intro other startedAt' checkedAt same
      cases same
  · exact ok

end

end

section

variable {state : ReplayState Body}

theorem wait_ok (ok : StateOk state) (duration : Nat) :
    StateOk { state with now := state.now + duration } := by
  refine { ok with each := ?_ }
  intro request
  have before := ok.each request
  refine { before with since := ?_, leased := ?_, absent := ?_, began := ?_, checked := ?_ }
  · intro held
    exact (before.since held).trans (Nat.le_add_right _ _)
  · intro held within
    dsimp only at within
    exact before.leased held (by omega)
  · intro isFresh within
    dsimp only at within
    have absent := before.absent isFresh (by omega)
    unfold ReplayState.live at absent ⊢
    rw [Option.bind_eq_none_iff] at absent ⊢
    intro entry found
    have gone := absent entry found
    split at gone
    · cases gone
    · rename_i expired
      dsimp only
      rw [if_neg (by omega)]
  · intro startedAt starts
    have began := before.began startedAt starts
    exact ⟨began.1, began.2.trans (Nat.le_add_right _ _)⟩
  · intro result startedAt checkedAt here
    have checked := before.checked result startedAt checkedAt here
    exact ⟨checked.1.trans (Nat.le_add_right _ _), checked.2⟩

theorem evict_ok (ok : StateOk state) : StateOk { state with result := none } := by
  refine { ok with each := ?_, current := ?_ }
  · intro request
    have before := ok.each request
    refine { before with absent := ?_ }
    intro _ _
    rfl
  · intro entry found
    cases found

theorem policy_ok (ok : StateOk state) (policy : Policy) :
    StateOk { state with policy := policy } := by
  refine { ok with each := ?_ }
  intro request
  have before := ok.each request
  exact ⟨before.since, before.leased, before.absent, before.began, before.checked,
    before.carries, before.verifies, before.retires, before.answered⟩

theorem step_ok [DecidableEq Body] (event : ReplayEvent Body) (prompt : Prompt state event)
    (ok : StateOk state) : StateOk (replayStep receipts state event) := by
  cases event with
  | wait duration => exact wait_ok ok duration
  | evict => exact evict_ok ok
  | changePolicy policy => exact policy_ok ok policy
  | workEnds request result => exact work_ends_ok ok result
  | call request outcome => exact call_ok ok prompt

theorem initial_ok (now : Nat) (policy : Policy) :
    StateOk (initialState now policy : ReplayState Body) := by
  apply StateOk.mk
  · intro request
    apply RequestOk.mk
    · intro held
      cases held
    · intro held
      cases held
    · intro isFresh
      cases isFresh
    · intro startedAt starts
      cases starts
    · intro result startedAt checkedAt here
      cases here
    · intro result life carries
      cases carries
    · intro result read
      cases read
    · intro result retired
      cases retired
    · intro answer member
      cases member
  · intro entry found
    cases found
  · intro life value member
    cases member
  · intro life value other member
    cases member
  · intro answer member
    cases member
  · intro entry member
    cases member

def IsWorking (phase : Phase Body) : Prop := ∃ startedAt, phase = .working startedAt

theorem work_apart (ok : StateOk state) {first second : Nat} (apart : first ≠ second)
    (firstWorks : IsWorking (state.requests first).phase)
    (secondWorks : IsWorking (state.requests second).phase) :
    (state.requests first).acquiredAt + LEASE_TTL_MS ≤ state.now ∨
      (state.requests second).acquiredAt + LEASE_TTL_MS ≤ state.now := by
  have heldBy : ∀ request, IsWorking (state.requests request).phase →
      holds (state.requests request).phase = true := by
    intro request works
    obtain ⟨startedAt, here⟩ := works
    rw [here]
    rfl
  by_contra neither
  rw [not_or, not_le, not_le] at neither
  have first' := (ok.each first).leased (heldBy first firstWorks) neither.1
  have second' := (ok.each second).leased (heldBy second secondWorks) neither.2
  rw [first'] at second'
  cases second'
  exact apart rfl

/-- Where every write is quick: answers with 200 that rest on one life of the cached result
are the value stored in it, the handle is deleted only after its successor was read back
and nothing else is answered with 200 by who deletes it, and two requests work at one time
only when one of them has outlived its lease. -/
theorem refresh_has_one_successor [DecidableEq Body] (receipts : Body → List String)
    (now : Nat) (policy : Policy) (events : List (ReplayEvent Body))
    (prompt : ∀ earlier event, earlier ++ [event] <+: events →
      Prompt (run (replayStep receipts) earlier (initialState now policy)) event)
    (reached : List (ReplayEvent Body)) (within : reached <+: events) :
    let state := run (replayStep receipts) reached (initialState now policy)
    (∀ first ∈ state.answers, ∀ second ∈ state.answers, first.response.status = 200 →
      second.response.status = 200 → first.life = second.life → first.response = second.response) ∧
    (∀ answer ∈ state.answers, answer.response.status = 200 →
      (answer.life, answer.response) ∈ state.stored) ∧
    (∀ deletion ∈ state.retired, deletion ∈ state.verified ∧
      ∀ answer ∈ state.answers, answer.request = deletion.1 → answer.response.status = 200 →
        answer.response = deletion.2) ∧
    ∀ first second, first ≠ second → IsWorking (state.requests first).phase →
      IsWorking (state.requests second).phase →
      (state.requests first).acquiredAt + LEASE_TTL_MS ≤ state.now ∨
        (state.requests second).acquiredAt + LEASE_TTL_MS ≤ state.now := by
  have ok := run_guarded (fun state event allowed ok => step_ok event allowed ok) events
    (initialState now policy) (initial_ok now policy) prompt reached within
  refine ⟨?_, ok.answersStored, ?_, ?_⟩
  · intro first inFirst second inSecond firstPasses secondPasses same
    have atFirst := ok.answersStored first inFirst firstPasses
    have atSecond := ok.answersStored second inSecond secondPasses
    rw [same] at atFirst
    exact ok.distinct _ _ _ atFirst atSecond
  · intro deletion member
    apply And.intro (ok.order deletion member)
    intro answer inAnswers own passes
    have done := (ok.each answer.request).answered answer inAnswers rfl
    rw [own] at done
    have after := (ok.each deletion.1).retires deletion.2 member
    rw [done] at after
    exact after passes
  · intro first second apart firstWorks secondWorks
    exact work_apart ok apart firstWorks secondWorks

end

section

def itineraryAt (sources : List String) (time : Nat) : RefreshResponse Nat :=
  { status := 200, body := .itinerary time, sourceIds := sources }

def noReceipts (_ : Nat) : List String := []

def calls (request count : Nat) : List (ReplayEvent Nat) :=
  List.replicate count (.call request .succeeds)

def answeredTwice : List (ReplayEvent Nat) :=
  calls 0 6 ++ [.workEnds 0 (itineraryAt [] 1)] ++ calls 0 8 ++ calls 1 4

theorem answered_twice_prompt : ∀ earlier event, earlier ++ [event] <+: answeredTwice →
    Prompt (run (replayStep noReceipts) earlier (initialState 0 (some []))) event := by
  unfold answeredTwice calls
  simp only [List.replicate, cons_append, nil_append]
  iterate 8
    apply guarded_cons
    · exact trivial
  apply guarded_cons
  · show 0 < 5000
    decide
  iterate 10
    apply guarded_cons
    · exact trivial
  exact guarded_nil

theorem both_answers_stored :
    (run (replayStep noReceipts) answeredTwice (initialState 0 (some []))).answers =
        [⟨0, 1, itineraryAt [] 1⟩, ⟨1, 1, itineraryAt [] 1⟩] ∧ (1, itineraryAt [] 1) ∈
        (run (replayStep noReceipts) answeredTwice (initialState 0 (some []))).stored := by
  apply And.intro
  · decide +kernel
  · exact (refresh_has_one_successor noReceipts 0 (some []) answeredTwice answered_twice_prompt
      answeredTwice (prefix_refl _)).2.1 ⟨1, 1, itineraryAt [] 1⟩ (by decide +kernel) rfl

/-- The second look into the cache takes ten seconds, which the work's limit does not see. -/
def untilBothWork : List (ReplayEvent Nat) :=
  calls 0 3 ++ [.wait 10000] ++ calls 0 3 ++ [.wait 20000] ++ calls 1 6

def bothStore : List (ReplayEvent Nat) :=
  untilBothWork ++ [.wait 4000, .workEnds 0 (itineraryAt [] 1)] ++ calls 0 8 ++
    [.workEnds 1 (itineraryAt [] 2)] ++ calls 1 8

def refusedAfterDeletion : List (ReplayEvent Nat) :=
  calls 0 6 ++ [.workEnds 0 (itineraryAt ["feed"] 1)] ++ calls 0 5 ++
    [.changePolicy (some ["feed"])] ++ calls 0 3

theorem both_work_and_successor_refused :
    ((run (replayStep noReceipts) untilBothWork (initialState 0 (some []))).requests 0).phase =
        .working 10000 ∧
      ((run (replayStep noReceipts) untilBothWork (initialState 0 (some []))).requests 1).phase =
        .working 30000 ∧
      (run (replayStep noReceipts) bothStore (initialState 0 (some []))).answers =
        [⟨0, 1, itineraryAt [] 1⟩, ⟨1, 1, itineraryAt [] 2⟩] ∧
      (run (replayStep noReceipts) refusedAfterDeletion (initialState 0 (some []))).retired =
        [(0, itineraryAt ["feed"] 1)] ∧
      (run (replayStep noReceipts) refusedAfterDeletion (initialState 0 (some []))).answers =
        [⟨0, 1, refused⟩] := by
  decide +kernel

end

end OpenMapX.Transit.RefreshSuccessor
