import OpenMapX.Upstream.AdmissionRuns

/-!
# The policy of shared upstream admission

Over all executions of all replicas on a key: no window of a policy holds more than its
limit, two admissions keep the policy's spacing, and nobody is admitted during a cooldown.
-/

namespace OpenMapX.Upstream.SharedAdmission

open Foundation.Runs Foundation.FixedWindows SharedRequest AdmissionReplies AdmissionRuns List
  Function

variable {Key Id : Type} [DecidableEq Id] {policies : Id → Policy}

def admissionFields (policy : Policy) (now : Nat) (hash : Option (Hash Id)) (id : Id) :
    List (HashField Id × Nat) :=
  [(.start id, startAt policy now hash id), (.count id, countAt policy now hash id + 1),
    (.next id, now + policy.minIntervalMs)]

def admissionLife (policy : Policy) (now : Nat) (hash : Option (Hash Id)) (id : Id) : Int :=
  max (max ((startAt policy now hash id + policy.durationMs : Int) - now) policy.minIntervalMs)
    ((cooldownOf hash : Int) - now)

omit [DecidableEq Id] in
theorem start_at_ahead (policy : Policy) (now : Nat) (hash : Option (Hash Id)) (id : Id) :
    now < startAt policy now hash id + policy.durationMs := by
  have positive := policy.duration_positive
  unfold startAt
  split <;> omega

omit [DecidableEq Id] in
theorem admission_life_positive (policy : Policy) (now : Nat) (hash : Option (Hash Id))
    (id : Id) : 0 < admissionLife policy now hash id := by
  have ahead := start_at_ahead policy now hash id
  unfold admissionLife
  omega

section

variable (policies : Id → Policy) (now : Nat) (hash : Option (Hash Id))

theorem script_admit_some (id : Id) : script policies now hash (.admitCall (some id)) =
      if cooldownOf hash > now then (hash, deny now "cooldown" (cooldownOf hash))
      else if now + max (policies id).durationMs (policies id).minIntervalMs >
          MAX_SAFE_INTEGER then (hash, .error "Unsafe policy duration")
      else if countAt (policies id) now hash id ≥ (policies id).limit then
        (hash, deny now "quota" (startAt (policies id) now hash id + (policies id).durationMs))
      else if (hget hash (.next id)).getD 0 > now then
        (hash, deny now "spacing" ((hget hash (.next id)).getD 0)) else
        (retain now (hset hash (admissionFields (policies id) now hash id))
          (admissionLife (policies id) now hash id), .array [.integer 1, .text
            (toString (((policies id).limit : Int) - countAt (policies id) now hash id - 1))]) :=
  rfl

inductive Admission (policies : Id → Policy) (now : Nat) (hash : Option (Hash Id)) (id : Id) :
    Option (Hash Id) × Reply → Prop where
  | cooling (ahead : now < cooldownOf hash) :
      Admission policies now hash id (hash, deny now "cooldown" (cooldownOf hash))
  | unsafe_duration
      (large : MAX_SAFE_INTEGER < now + max (policies id).durationMs (policies id).minIntervalMs) :
      Admission policies now hash id (hash, .error "Unsafe policy duration")
  | full
      (safe : now + max (policies id).durationMs (policies id).minIntervalMs ≤ MAX_SAFE_INTEGER) :
      Admission policies now hash id
        (hash, deny now "quota" (startAt (policies id) now hash id + (policies id).durationMs))
  | early (next : Nat)
      (safe : now + max (policies id).durationMs (policies id).minIntervalMs ≤ MAX_SAFE_INTEGER)
      (known : hget hash (.next id) = some next) (ahead : now < next) :
      Admission policies now hash id (hash, deny now "spacing" next)
  | admitted (passed : cooldownOf hash ≤ now)
      (room : countAt (policies id) now hash id < (policies id).limit)
      (free : (hget hash (.next id)).getD 0 ≤ now) :
      Admission policies now hash id
        (retain now (hset hash (admissionFields (policies id) now hash id))
          (admissionLife (policies id) now hash id),
          .array [.integer 1, .text
            (toString (((policies id).limit : Int) - countAt (policies id) now hash id - 1))])

theorem admission_cases (id : Id) :
    Admission policies now hash id (script policies now hash (.admitCall (some id))) := by
  rw [script_admit_some]
  split
  · rename_i ahead
    exact Admission.cooling ahead
  · rename_i passed
    split
    · rename_i large
      exact Admission.unsafe_duration large
    · rename_i safe
      split
      · exact Admission.full (Nat.le_of_not_gt safe)
      · rename_i room
        split
        · rename_i ahead
          cases known : hget hash (.next id) with
          | none =>
            rw [known] at ahead
            exact absurd ahead (Nat.not_lt_zero now)
          | some next =>
            rw [known] at ahead
            exact Admission.early next (Nat.le_of_not_gt safe) known ahead
        · rename_i free
          exact Admission.admitted (Nat.le_of_not_gt passed) (Nat.lt_of_not_ge room)
            (Nat.le_of_not_gt free)

theorem script_admit_none : script policies now hash (.admitCall none) =
      if cooldownOf hash > now then (hash, deny now "cooldown" (cooldownOf hash))
      else (hash, .array [.integer 1]) := rfl

theorem script_defer (delay : Nat) : script policies now hash (.defer delay) =
      if now + delay > MAX_SAFE_INTEGER then (hash, .error "Unsafe delay")
      else if max (cooldownOf hash) (now + delay) > now then
        (retain now (hset hash [(.cooldown, max (cooldownOf hash) (now + delay))])
          ((max (cooldownOf hash) (now + delay) : Nat) - now), .integer 1)
      else (hash, .integer 1) := rfl

end

variable [DecidableEq Key]

structure KeyInv (policies : Id → Policy) (clock : Nat) (hash : Option (Hash Id))
    (log : List (Execution Key Id)) (key : Key) : Prop where
  cooldown_kept : Outlives hash (cooldownOf hash)
  cooldown_safe : cooldownOf hash ≤ MAX_SAFE_INTEGER
  deferred : ∀ execution ∈ log, execution.key = key → ∀ untilAt,
    execution.deferredUntil = some untilAt → untilAt ≤ clock ∨ untilAt ≤ cooldownOf hash
  policy : ∀ id, PolicyInv (policies id) clock hash id (admissions log key id)

variable {execution : Execution Key Id} {key : Key}

theorem admissions_skip {id : Id} (skipped : execution.admits key id = false) (log) :
    admissions (execution :: log) key id = admissions log key id := by
  simp [admissions, skipped]

theorem admissions_count {id : Id} (counted : execution.admits key id = true) (log) :
    admissions (execution :: log) key id = execution.time :: admissions log key id := by
  simp [admissions, counted]

variable {hash : Option (Hash Id)} {log : List (Execution Key Id)} {clock : Nat}

theorem key_inv_quiet (inv : KeyInv policies clock hash log key)
    (nobody : ∀ id, execution.admits key id = false)
    (recorded : execution.key = key → ∀ untilAt, execution.deferredUntil = some untilAt →
      untilAt ≤ clock ∨ untilAt ≤ cooldownOf hash) :
    KeyInv policies clock hash (execution :: log) key := by
  apply KeyInv.mk
  · exact inv.cooldown_kept
  · exact inv.cooldown_safe
  · intro other member
    rcases mem_cons.mp member with same | earlier
    · rw [same]
      exact recorded
    · exact inv.deferred other earlier
  · intro id
    rw [admissions_skip (nobody id)]
    exact inv.policy id

theorem admits_other_key
    (other : execution.key ≠ key) (id : Id) : execution.admits key id = false := by
  unfold Execution.admits
  split
  · simp [other]
  · rfl

theorem admits_refused (refused : execution.admitted = false)
    (key : Key) (id : Id) : execution.admits key id = false := by
  unfold Execution.admits
  split
  · simp [refused]
  · rfl

omit [DecidableEq Id] [DecidableEq Key] in
theorem denied_not_admitted (time : Nat) (key : Key) (call : Call Id) (now : Nat)
    (reason : String) (untilAt : Nat) :
    (⟨time, key, call, deny now reason untilAt⟩ : Execution Key Id).admitted = false := by
  cases call with
  | admitCall policy => rfl
  | defer delay => rfl

omit [DecidableEq Id] [DecidableEq Key] in
theorem admit_not_deferred (time : Nat) (key : Key) (policy : Option Id) (reply : Reply) :
    (⟨time, key, .admitCall policy, reply⟩ : Execution Key Id).deferredUntil = none := rfl

theorem hget_deferred (hash : Option (Hash Id)) (untilAt deadline : Nat)
    {field} (other : field ≠ .cooldown) :
    hget (some { hset hash [(.cooldown, untilAt)] with expireAt := some deadline }) field =
      hget hash field := by
  simp only [hget, Option.bind_some, hset, foldl_cons, foldl_nil]
  rw [update_of_ne other, hset_fields]
  rfl

theorem cooldown_deferred (hash : Option (Hash Id)) (untilAt deadline : Nat) :
    cooldownOf (some { hset hash [(.cooldown, untilAt)] with expireAt := some deadline }) =
      untilAt := by
  simp [cooldownOf, hget, hset]

omit [DecidableEq Id] in
theorem outlives_deadline (hash : Hash Id) {deadline moment : Nat} (le : moment ≤ deadline) :
    Outlives (some { hash with expireAt := some deadline }) moment := by
  intro stored present
  apply Exists.intro deadline
  rw [← Option.some.inj present]
  exact And.intro rfl le

theorem key_inv_defer (inv : KeyInv policies clock hash log key) (delay : Nat) :
    let result := script policies clock hash (.defer delay)
    KeyInv policies clock result.1 (⟨clock, key, .defer delay, result.2⟩ :: log) key ∧
      cooldownOf hash ≤ cooldownOf result.1 := by
  have nobody : ∀ (reply : Reply) (id : Id),
      (⟨clock, key, .defer delay, reply⟩ : Execution Key Id).admits key id = false :=
    fun reply id => rfl
  intro result
  simp only [result]
  rw [script_defer]
  split
  · apply And.intro
    · apply key_inv_quiet inv (nobody _)
      intro _ untilAt recorded
      simp [Execution.deferredUntil] at recorded
    · exact Nat.le_refl _
  · rename_i safe
    split
    · rename_i ahead
      obtain ⟨deadline, result, reaches, keeps⟩ := written clock hash
        [(.cooldown, max (cooldownOf hash) (clock + delay))]
        (show (0 : Int) < (max (cooldownOf hash) (clock + delay) : Nat) - clock by omega)
      dsimp only
      rw [result]
      have covered : max (cooldownOf hash) (clock + delay) ≤ deadline := by omega
      have grown := le_max_left (cooldownOf hash) (clock + delay)
      apply And.intro
      · apply KeyInv.mk
        · rw [cooldown_deferred]
          exact outlives_deadline _ covered
        · rw [cooldown_deferred]
          have earlier := inv.cooldown_safe
          omega
        · rw [cooldown_deferred]
          intro other member
          rcases mem_cons.mp member with same | earlier
          · rw [same]
            intro _ untilAt recorded
            have until_at : clock + delay = untilAt := by
              simpa [Execution.deferredUntil] using recorded
            apply Or.inr
            omega
          · intro own untilAt recorded
            rcases inv.deferred other earlier own untilAt recorded with passed | known
            · exact Or.inl passed
            · exact Or.inr (known.trans grown)
        · intro id
          rw [admissions_skip (nobody _ id)]
          apply policy_inv_frame (inv.policy id)
          · exact hget_deferred hash _ deadline (by simp)
          · exact hget_deferred hash _ deadline (by simp)
          · exact hget_deferred hash _ deadline (by simp)
          · intro moment present outlives
            exact outlives_deadline _ (keeps moment present outlives)
      · rw [cooldown_deferred]
        exact grown
    · rename_i passed
      apply And.intro
      · apply key_inv_quiet inv (nobody _)
        intro _ untilAt recorded
        have until_at : clock + delay = untilAt := by
          simpa [Execution.deferredUntil] using recorded
        apply Or.inl
        omega
      · exact Nat.le_refl _

section

variable (policy : Policy) (now : Nat) (hash : Option (Hash Id)) (id : Id) (deadline : Nat)
include deadline

theorem hget_admitted_start :
    hget (some { hset hash (admissionFields policy now hash id) with expireAt := some deadline })
      (.start id) = some (startAt policy now hash id) := by
  simp [hget, hset, admissionFields]

theorem hget_admitted_count :
    hget (some { hset hash (admissionFields policy now hash id) with expireAt := some deadline })
      (.count id) = some (countAt policy now hash id + 1) := by
  simp [hget, hset, admissionFields]

theorem hget_admitted_next :
    hget (some { hset hash (admissionFields policy now hash id) with expireAt := some deadline })
      (.next id) = some (now + policy.minIntervalMs) := by
  simp [hget, hset, admissionFields]

theorem hget_admitted_other {field} (not_start : field ≠ .start id)
    (not_count : field ≠ .count id) (not_next : field ≠ .next id) :
    hget (some { hset hash (admissionFields policy now hash id) with expireAt := some deadline })
      field = hget hash field := by
  simp only [hget, Option.bind_some, hset, admissionFields, foldl_cons, foldl_nil]
  rw [update_of_ne not_next, update_of_ne not_count,
    update_of_ne not_start, hset_fields]
  rfl

end

theorem key_inv_admit (inv : KeyInv policies clock hash log key) (id : Id) :
    let result := script policies clock hash (.admitCall (some id))
    KeyInv policies clock result.1 (⟨clock, key, .admitCall (some id), result.2⟩ :: log) key := by
  intro result
  have none_recorded : ∀ (reply : Reply),
      (⟨clock, key, .admitCall (some id), reply⟩ : Execution Key Id).key = key → ∀ untilAt,
      (⟨clock, key, .admitCall (some id), reply⟩ : Execution Key Id).deferredUntil = some untilAt →
      untilAt ≤ clock ∨ untilAt ≤ cooldownOf hash := by
    intro reply _ untilAt recorded
    rw [admit_not_deferred] at recorded
    cases recorded
  have cases_of := admission_cases policies clock hash id
  generalize shape : script policies clock hash (.admitCall (some id)) = outcome at cases_of
  simp only [result, shape]
  cases cases_of with
  | cooling ahead =>
    exact key_inv_quiet inv (admits_refused (denied_not_admitted _ _ _ _ _ _) key)
      (none_recorded _)
  | unsafe_duration large => exact key_inv_quiet inv (admits_refused rfl key) (none_recorded _)
  | full safe =>
    exact key_inv_quiet inv (admits_refused (denied_not_admitted _ _ _ _ _ _) key)
      (none_recorded _)
  | early next safe known ahead =>
    exact key_inv_quiet inv (admits_refused (denied_not_admitted _ _ _ _ _ _) key)
      (none_recorded _)
  | admitted passed room free =>
    obtain ⟨deadline, result, reaches, keeps⟩ := written clock hash
      (admissionFields (policies id) clock hash id)
      (admission_life_positive (policies id) clock hash id)
    unfold admissionLife at reaches
    dsimp only
    rw [result]
    have cooldown_same : cooldownOf
        (some { hset hash (admissionFields (policies id) clock hash id) with
          expireAt := some deadline }) = cooldownOf hash := by
      unfold cooldownOf
      rw [hget_admitted_other (policies id) clock hash id deadline (by simp) (by simp) (by simp)]
    apply KeyInv.mk
    · rw [cooldown_same]
      apply outlives_deadline
      omega
    · rw [cooldown_same]
      exact inv.cooldown_safe
    · rw [cooldown_same]
      intro other member
      rcases mem_cons.mp member with same | earlier
      · rw [same]
        exact none_recorded _
      · exact inv.deferred other earlier
    · intro other
      by_cases same : other = id
      · subst same
        rw [admissions_count (by simp [Execution.admits, Execution.admitted])]
        apply policy_inv_admitted (inv.policy other) room free
        · exact hget_admitted_start (policies other) clock hash other deadline
        · exact hget_admitted_count (policies other) clock hash other deadline
        · exact hget_admitted_next (policies other) clock hash other deadline
        · apply outlives_deadline
          omega
        · apply outlives_deadline
          omega
      · rw [admissions_skip (by simp [Execution.admits, Ne.symm same])]
        apply policy_inv_frame (inv.policy other)
        · exact hget_admitted_other (policies id) clock hash id deadline (by simp [same])
            (by simp) (by simp)
        · exact hget_admitted_other (policies id) clock hash id deadline (by simp)
            (by simp [same]) (by simp)
        · exact hget_admitted_other (policies id) clock hash id deadline (by simp)
            (by simp) (by simp [same])
        · intro moment present outlives
          exact outlives_deadline _ (keeps moment present outlives)

theorem key_inv_admit_anyone (inv : KeyInv policies clock hash log key) :
    let result := script policies clock hash (.admitCall none)
    KeyInv policies clock result.1 (⟨clock, key, .admitCall none, result.2⟩ :: log) key := by
  have kept : (script policies clock hash (.admitCall none)).1 = hash := by
    rw [script_admit_none]
    split <;> rfl
  intro result
  simp only [result]
  rw [kept]
  apply key_inv_quiet inv
  · intro id
    rfl
  · intro _ untilAt recorded
    rw [admit_not_deferred] at recorded
    cases recorded

omit [DecidableEq Key] in
theorem admitted_after_cooldown {call : Call Id}
    (admitted : (⟨clock, key, call, (script policies clock hash call).2⟩ :
      Execution Key Id).admitted = true) : cooldownOf hash ≤ clock := by
  cases call with
  | defer delay => simp [Execution.admitted] at admitted
  | admitCall policy =>
    apply Nat.le_of_not_gt
    intro ahead
    have denied : (script policies clock hash (.admitCall policy)).2 =
        deny clock "cooldown" (cooldownOf hash) := by
      cases policy with
      | none => rw [script_admit_none, if_pos ahead]
      | some id => rw [script_admit_some, if_pos ahead]
    rw [denied, denied_not_admitted] at admitted
    cases admitted

/-- What the reply to an admission request says. Only a policy whose window or spacing
would end beyond the safe integers gets an error. -/
def Replied (policies : Id → Policy) (execution : Execution Key Id) : Prop :=
  ∀ policy, execution.call = .admitCall policy →
    (∃ id message, policy = some id ∧ execution.reply = .error message ∧
      MAX_SAFE_INTEGER < execution.time +
        max (policies id).durationMs (policies id).minIntervalMs) ∨
    ∃ decision, decode execution.reply = some decision ∧
      ∀ reason retryAfterMs, decision = .refused reason retryAfterMs →
        ∃ delay, retryAfterMs = some delay ∧ 0 < delay

omit [DecidableEq Id] [DecidableEq Key] in
theorem refused_later {now untilAt : Nat} {reason : String} {known : Reason}
    (named : reasonOf (.text reason) = some known) (future : now < untilAt)
    (safe : untilAt ≤ MAX_SAFE_INTEGER) :
    ∃ decision, decode (deny now reason untilAt) = some decision ∧
      ∀ reason retryAfterMs, decision = .refused reason retryAfterMs →
        ∃ delay, retryAfterMs = some delay ∧ 0 < delay := by
  apply Exists.intro (.refused known (some (untilAt - now)))
  apply And.intro (decode_deny named future safe)
  intro reason retryAfterMs same
  rw [Decision.refused.injEq] at same
  apply Exists.intro (untilAt - now)
  exact And.intro same.2.symm (Nat.sub_pos_of_lt future)

omit [DecidableEq Key] in
theorem replied_anyone (safe : cooldownOf hash ≤ MAX_SAFE_INTEGER) :
    Replied policies (⟨clock, key, .admitCall none, (script policies clock hash (.admitCall none)).2⟩ :
      Execution Key Id) := by
  intro policy _
  apply Or.inr
  dsimp only
  rw [script_admit_none]
  split
  · rename_i ahead
    exact refused_later rfl ahead safe
  · apply Exists.intro (.allowed none)
    apply And.intro rfl
    intro reason retryAfterMs other
    cases other

theorem replied_admit (inv : KeyInv policies clock hash log key) (id : Id) :
    Replied policies (⟨clock, key, .admitCall (some id),
      (script policies clock hash (.admitCall (some id))).2⟩ : Execution Key Id) := by
  intro policy own
  have own_policy : policy = some id := (Call.admitCall.inj own).symm
  have cases_of := admission_cases policies clock hash id
  generalize script policies clock hash (.admitCall (some id)) = outcome at cases_of
  dsimp only
  cases cases_of with
  | cooling ahead => exact Or.inr (refused_later rfl ahead inv.cooldown_safe)
  | unsafe_duration large =>
    apply Or.inl
    apply Exists.intro id
    apply Exists.intro "Unsafe policy duration"
    exact And.intro own_policy (And.intro rfl large)
  | full safe =>
    apply Or.inr
    apply refused_later rfl (start_at_ahead (policies id) clock hash id)
    have started : startAt (policies id) clock hash id ≤ clock := by
      obtain ⟨before, opened⟩ := (admission_window (inv.policy id)).1
      have member := opening_mem (startAt (policies id) clock hash id)
        (by rw [opened]; exact mem_cons_self)
      rcases mem_cons.mp member with same | earlier
      · exact Nat.le_of_eq same
      · exact (inv.policy id).past _ earlier
    omega
  | early next safe known ahead =>
    apply Or.inr
    apply refused_later rfl ahead
    obtain ⟨time, member, spaced⟩ := (inv.policy id).next_of next known
    have past := (inv.policy id).past time member
    omega
  | admitted passed room free =>
    apply Or.inr
    apply Exists.intro _
    apply And.intro (decode_admitted room (policies id).limit_safe)
    intro reason retryAfterMs other
    cases other

structure Inv (policies : Id → Policy) (state : State Key Id) : Prop where
  past : ∀ execution ∈ state.log, execution.time ≤ state.clock
  keys : ∀ key, KeyInv policies state.clock (state.store key) state.log key
  waited : state.log.Pairwise fun later earlier => later.key = earlier.key →
    later.admitted = true → ∀ untilAt, earlier.deferredUntil = some untilAt → untilAt ≤ later.time
  replied : ∀ execution ∈ state.log, Replied policies execution

theorem inv_initial : Inv policies (initial : State Key Id) := by
  apply Inv.mk
  · simp [initial]
  · intro key
    apply KeyInv.mk
    · exact outlives_none _
    · exact Nat.zero_le _
    · simp [initial]
    · intro id
      exact policy_inv_start (policies id) 0 id
  · exact List.Pairwise.nil
  · simp [initial]

variable {state : State Key Id}

theorem inv_tick (inv : Inv policies state) (elapsed : Nat) :
    Inv policies (step policies state (.tick elapsed)) := by
  have later : state.clock ≤ state.clock + elapsed := Nat.le_add_right _ _
  apply Inv.mk
  · intro execution member
    exact (inv.past execution member).trans later
  · intro key
    have before := inv.keys key
    apply KeyInv.mk
    · exact before.cooldown_kept
    · exact before.cooldown_safe
    · intro execution member own untilAt recorded
      exact (before.deferred execution member own untilAt recorded).imp_left
        fun passed => passed.trans later
    · intro id
      exact policy_inv_later (before.policy id) later
  · exact inv.waited
  · exact inv.replied

theorem key_inv_expired (inv : KeyInv policies clock hash log key)
    (gone : expired clock hash = true) : KeyInv policies clock none log key := by
  apply KeyInv.mk
  · exact outlives_none _
  · exact Nat.zero_le _
  · intro execution member own untilAt recorded
    apply Or.inl
    rcases inv.deferred execution member own untilAt recorded with passed | known
    · exact passed
    · exact known.trans (outlived gone inv.cooldown_kept)
  · intro id
    exact policy_inv_expired (inv.policy id) gone

theorem inv_expire (inv : Inv policies state) (key : Key) :
    Inv policies (step policies state (.expire key)) := by
  unfold step
  dsimp only
  split
  · rename_i gone
    refine { inv with keys := ?_ }
    intro other
    by_cases same : other = key
    · subst same
      dsimp only
      rw [update_self]
      exact key_inv_expired (inv.keys other) gone
    · dsimp only
      rw [update_of_ne same]
      exact inv.keys other
  · exact inv

theorem inv_execute (inv : Inv policies state) (key : Key)
    (call : Call Id) : Inv policies (step policies state (.execute key call)) := by
  have before := inv.keys key
  apply Inv.mk
  · intro execution member
    rcases mem_cons.mp member with same | earlier
    · rw [same]
      exact Nat.le_refl _
    · exact inv.past execution earlier
  · intro other
    by_cases same : other = key
    · subst same
      simp only [step, update_self]
      cases call with
      | defer delay => exact (key_inv_defer before delay).1
      | admitCall policy =>
        cases policy with
        | none => exact key_inv_admit_anyone before
        | some id => exact key_inv_admit before id
    · simp only [step, update_of_ne same]
      apply key_inv_quiet (inv.keys other)
      · exact admits_other_key (Ne.symm same)
      · intro own
        exact absurd own.symm same
  · apply pairwise_cons.mpr
    apply And.intro
    · intro earlier member own admitted untilAt recorded
      have passed : cooldownOf (state.store key) ≤ state.clock := admitted_after_cooldown admitted
      rcases before.deferred earlier member own.symm untilAt recorded with past | known
      · exact past
      · exact known.trans passed
    · exact inv.waited
  · intro execution member
    rcases mem_cons.mp member with same | earlier
    · rw [same]
      cases call with
      | defer delay =>
        intro policy other
        cases other
      | admitCall policy =>
        cases policy with
        | none => exact replied_anyone before.cooldown_safe
        | some id => exact replied_admit before id
    · exact inv.replied execution earlier

theorem inv_after (policies : Id → Policy) (events : List (Event Key Id)) :
    Inv policies (after policies events) := by
  apply @run_keeps (State Key Id) (Event Key Id) (step policies) (Inv policies)
  · intro state event inv
    cases event with
    | tick elapsed => exact inv_tick inv elapsed
    | expire key => exact inv_expire inv key
    | execute key call => exact inv_execute inv key call
  · exact inv_initial

theorem expired_binds_nothing (inv : KeyInv policies clock hash log key)
    (gone : expired clock hash = true) : cooldownOf hash ≤ clock ∧ ∀ id,
      (∀ start, hget hash (.start id) = some start → start + (policies id).durationMs ≤ clock) ∧
      (∀ next, hget hash (.next id) = some next → next ≤ clock) := by
  apply And.intro (outlived gone inv.cooldown_kept)
  intro id
  apply And.intro
  · intro start known
    exact outlived gone ((inv.policy id).window_kept start known)
  · intro next known
    exact outlived gone ((inv.policy id).next_kept next known)

/-- In every state that a sequence of executions reaches, each policy of a key kept its
limit and its spacing, nobody was admitted before a recorded cooldown ended, a deferral
shortens no cooldown, an expired hash binds nothing, and every reply to an admission
request decodes to a decision unless it is the error for an unsafe duration. -/
theorem shared_admission_enforced (policies : Id → Policy) (events : List (Event Key Id))
    (key : Key) :
    let state := after policies events
    (∀ id, let times := admissions state.log key id
      (∀ start ∈ openings (policies id).durationMs times,
        countIn start (start + (policies id).durationMs) times ≤ (policies id).limit) ∧
      (∀ start, countIn start (start + (policies id).durationMs) times ≤
        2 * (policies id).limit - 1) ∧
      times.Pairwise fun later earlier => earlier + (policies id).minIntervalMs ≤ later) ∧
    (state.log.Pairwise fun later earlier => later.key = earlier.key →
      later.admitted = true → ∀ untilAt, earlier.deferredUntil = some untilAt →
        untilAt ≤ later.time) ∧
    (∀ delay, cooldownOf (state.store key) ≤
      cooldownOf (script policies state.clock (state.store key) (.defer delay)).1) ∧
    (expired state.clock (state.store key) = true →
      cooldownOf (state.store key) ≤ state.clock ∧ ∀ id,
        (∀ start, hget (state.store key) (.start id) = some start →
          start + (policies id).durationMs ≤ state.clock) ∧
        (∀ next, hget (state.store key) (.next id) = some next → next ≤ state.clock)) ∧
    ∀ execution ∈ state.log, Replied policies execution := by
  intro state
  have inv : Inv policies state := inv_after policies events
  have known := inv.keys key
  apply And.intro
  · intro id times
    have policy := known.policy id
    apply And.intro policy.limited
    apply And.intro
    · intro start
      exact interval_limited (policies id).duration_positive (policies id).limit_positive start
        policy.ordered policy.limited
    · exact policy.spaced
  · apply And.intro inv.waited
    apply And.intro
    · intro delay
      exact (key_inv_defer known delay).2
    · apply And.intro
      · exact expired_binds_nothing known
      · exact inv.replied

/-- A window of the longest duration that a policy may have ends beyond the safe integers. -/
def unboundedPolicy : Policy :=
  ⟨1, MAX_SAFE_INTEGER, 0, Nat.le_refl 1, by decide, by decide, Nat.le_refl _, Nat.zero_le _⟩

theorem an_error_reply_does_not_decode :
    ¬∀ (policies : Unit → Policy) (events : List (Event Unit Unit)),
      ∀ execution ∈ (after policies events).log, ∀ policy, execution.call = .admitCall policy →
          ∃ decision, decode execution.reply = some decision := by
  intro always
  have claimed := always (fun _ => unboundedPolicy) [.tick 1, .execute () (.admitCall (some ()))]
    ⟨1, (), .admitCall (some ()), .error "Unsafe policy duration"⟩ (by
      apply mem_singleton.mpr
      rfl) (some ()) rfl
  obtain ⟨decision, decoded⟩ := claimed
  cases decoded

end OpenMapX.Upstream.SharedAdmission
