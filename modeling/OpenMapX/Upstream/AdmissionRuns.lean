import OpenMapX.Upstream.AdmissionReplies

/-!
# Runs of shared upstream admission

After every sequence of executions, whatever the hash of a key has forgotten no longer
binds, and what it still holds is the last window, the next admissible moment and the
latest cooldown of the key's history.
-/

namespace OpenMapX.Upstream.AdmissionRuns

open Foundation.Runs Foundation.FixedWindows SharedRequest AdmissionReplies List

variable {Key Id : Type}

def Outlives (hash : Option (Hash Id)) (moment : Nat) : Prop :=
  ∀ stored, hash = some stored → ∃ deadline, stored.expireAt = some deadline ∧ moment ≤ deadline

def cooldownOf (hash : Option (Hash Id)) : Nat := (hget hash .cooldown).getD 0

@[simp]
theorem hget_none (field : HashField Id) : hget (none : Option (Hash Id)) field = none := rfl

theorem outlives_none (moment : Nat) : Outlives (none : Option (Hash Id)) moment := by
  intro stored present
  cases present

variable {hash : Option (Hash Id)}

theorem outlived {clock moment : Nat}
    (gone : expired clock hash = true) (outlives : Outlives hash moment) : moment ≤ clock := by
  cases hash with
  | none => simp [expired] at gone
  | some stored =>
    obtain ⟨deadline, expires, bound⟩ := outlives stored rfl
    simp only [expired, Option.bind_some, expires, decide_eq_true_eq] at gone
    exact bound.trans gone

theorem hset_expire_at [DecidableEq Id] (hash : Option (Hash Id))
    (values) : (hset hash values).expireAt = hash.bind Hash.expireAt := by
  have folded : ∀ stored : Hash Id,
      (values.foldl (fun (stored : Hash Id) (value : HashField Id × Nat) =>
        { stored with fields := Function.update stored.fields value.1 (some value.2) })
        stored).expireAt = stored.expireAt := by
    induction values with
    | nil =>
      intro stored
      rfl
    | cons value rest ih =>
      intro stored
      rw [foldl_cons, ih]
  unfold hset
  rw [folded]
  cases hash with
  | none => rfl
  | some stored => rfl

theorem hset_fields [DecidableEq Id] (hash : Option (Hash Id)) :
    (hash.getD ⟨fun _ => none, none⟩).fields = fun field => hget hash field := by
  cases hash with
  | none => rfl
  | some stored => rfl

theorem retain_spec (now : Nat) (hash : Hash Id) {ttl : Int} (positive : 0 < ttl) :
    ∃ deadline, retain now hash ttl = some { hash with expireAt := some deadline } ∧
      (now : Int) + ttl ≤ deadline ∧ ∀ old, hash.expireAt = some old → old ≤ deadline := by
  have kept : ¬max (pttl now hash) ttl ≤ 0 := by
    have bound := le_max_right (pttl now hash) ttl
    omega
  apply Exists.intro (now + (max (pttl now hash) ttl).toNat)
  apply And.intro
  · simp only [retain, pexpire, if_neg kept]
  · have longer := le_max_left (pttl now hash) ttl
    have asked := le_max_right (pttl now hash) ttl
    apply And.intro
    · omega
    · intro old expires
      have before : pttl now hash = (old : Int) - now := by simp only [pttl, expires]
      omega

theorem written [DecidableEq Id] (now : Nat) (hash : Option (Hash Id)) (values) {ttl : Int}
    (positive : 0 < ttl) : ∃ deadline, retain now (hset hash values) ttl =
        some { hset hash values with expireAt := some deadline } ∧
      (now : Int) + ttl ≤ deadline ∧
      ∀ moment, hash.isSome = true → Outlives hash moment → moment ≤ deadline := by
  obtain ⟨deadline, result, reaches, keeps⟩ := retain_spec now (hset hash values) positive
  apply Exists.intro deadline
  apply And.intro result
  apply And.intro reaches
  intro moment present outlives
  cases hash with
  | none => simp at present
  | some stored =>
    obtain ⟨old, expires, bound⟩ := outlives stored rfl
    apply bound.trans
    apply keeps
    rw [hset_expire_at]
    exact expires

structure PolicyInv (policy : Policy) (clock : Nat) (hash : Option (Hash Id)) (id : Id)
    (times : List Nat) : Prop where
  ordered : Ordered times
  past : ∀ time ∈ times, time ≤ clock
  limited : Limited policy.limit policy.durationMs times
  spaced : times.Pairwise fun later earlier => earlier + policy.minIntervalMs ≤ later
  window : ∀ start before, openings policy.durationMs times = start :: before →
    start + policy.durationMs ≤ clock ∨
      hget hash (.start id) = some start ∧
        hget hash (.count id) = some (countIn start (start + policy.durationMs) times)
  spacing : ∀ time ∈ times, time + policy.minIntervalMs ≤ clock ∨
    ∃ next, hget hash (.next id) = some next ∧ time + policy.minIntervalMs ≤ next
  started : ∀ start, hget hash (.start id) = some start →
    ∃ before, openings policy.durationMs times = start :: before
  uncounted : hget hash (.start id) = none → hget hash (.count id) = none
  next_of : ∀ next, hget hash (.next id) = some next →
    ∃ time ∈ times, next = time + policy.minIntervalMs
  window_kept : ∀ start, hget hash (.start id) = some start →
    Outlives hash (start + policy.durationMs)
  next_kept : ∀ next, hget hash (.next id) = some next → Outlives hash next

theorem policy_inv_start (policy : Policy) (clock : Nat) (id : Id) :
    PolicyInv policy clock none id [] := by
  apply PolicyInv.mk
  · exact List.Pairwise.nil
  · simp
  · simp [Limited, openings]
  · exact List.Pairwise.nil
  · simp [openings]
  · simp
  · simp
  · simp
  · simp
  · simp
  · simp

variable {times : List Nat} {policy : Policy} {id : Id}

theorem policy_inv_later {clock later : Nat} (inv : PolicyInv policy clock hash id times)
    (le : clock ≤ later) : PolicyInv policy later hash id times :=
  { inv with
    past := fun time member => (inv.past time member).trans le
    window := fun start before opened => (inv.window start before opened).imp_left
      fun ended => ended.trans le
    spacing := fun time member => (inv.spacing time member).imp_left
      fun free => free.trans le }

theorem policy_inv_expired {clock : Nat} (inv : PolicyInv policy clock hash id times)
    (gone : expired clock hash = true) : PolicyInv policy clock none id times := by
  apply PolicyInv.mk
  · exact inv.ordered
  · exact inv.past
  · exact inv.limited
  · exact inv.spaced
  · intro start before opened
    apply Or.inl
    rcases inv.window start before opened with ended | held
    · exact ended
    · exact outlived gone (inv.window_kept start held.1)
  · intro time member
    apply Or.inl
    rcases inv.spacing time member with free | held
    · exact free
    · obtain ⟨next, known, bound⟩ := held
      exact bound.trans (outlived gone (inv.next_kept next known))
  · simp
  · simp
  · simp
  · simp
  · simp

theorem policy_inv_frame {clock : Nat} {hash after} (inv : PolicyInv policy clock hash id times)
    (same_start : hget after (.start id) = hget hash (.start id))
    (same_count : hget after (.count id) = hget hash (.count id))
    (same_next : hget after (.next id) = hget hash (.next id))
    (keeps : ∀ moment, hash.isSome = true → Outlives hash moment → Outlives after moment) :
    PolicyInv policy clock after id times := by
  have present : ∀ field value, hget hash field = some value → hash.isSome = true := by
    intro field value found
    cases hash with
    | none => simp at found
    | some stored => rfl
  apply PolicyInv.mk
  · exact inv.ordered
  · exact inv.past
  · exact inv.limited
  · exact inv.spaced
  · rw [same_start, same_count]
    exact inv.window
  · rw [same_next]
    exact inv.spacing
  · rw [same_start]
    exact inv.started
  · rw [same_start, same_count]
    exact inv.uncounted
  · rw [same_next]
    exact inv.next_of
  · intro start found
    rw [same_start] at found
    exact keeps _ (present _ start found) (inv.window_kept start found)
  · intro next found
    rw [same_next] at found
    exact keeps _ (present _ next found) (inv.next_kept next found)

/-- The window and the count that an admission at `now` would write. -/
def startAt (policy : Policy) (now : Nat) (hash : Option (Hash Id)) (id : Id) : Nat :=
  if now ≥ (hget hash (.start id)).getD now + policy.durationMs then now
  else (hget hash (.start id)).getD now

def countAt (policy : Policy) (now : Nat) (hash : Option (Hash Id)) (id : Id) : Nat :=
  if now ≥ (hget hash (.start id)).getD now + policy.durationMs then 0
  else (hget hash (.count id)).getD 0

theorem admission_window {now : Nat} (inv : PolicyInv policy now hash id times) :
    (∃ before, openings policy.durationMs (now :: times) = startAt policy now hash id :: before) ∧
      countIn (startAt policy now hash id) (startAt policy now hash id + policy.durationMs)
        (now :: times) = countAt policy now hash id + 1 := by
  have positive := policy.duration_positive
  have ordered : Ordered (now :: times) := pairwise_cons.mpr (And.intro inv.past inv.ordered)
  have fresh : (∀ time ∈ times, time < now) →
      countIn now (now + policy.durationMs) (now :: times) = 0 + 1 := by
    intro earlier
    rw [count_in_inside (Nat.le_refl now) (by omega), count_in_zero]
    intro time member
    exact Or.inl (earlier time member)
  cases found : hget hash (.start id) with
  | none =>
    have start_now : startAt policy now hash id = now := by
      simp [startAt, found]
    have count_zero : countAt policy now hash id = 0 := by
      simp [countAt, found, inv.uncounted found]
    rw [start_now, count_zero]
    cases opened : openings policy.durationMs times with
    | nil =>
      rw [openings_nil_iff] at opened
      subst opened
      apply And.intro
      · exact Exists.intro [] rfl
      · apply fresh
        simp
    | cons last before =>
      have ended : last + policy.durationMs ≤ now := by
        rcases inv.window last before opened with ended | held
        · exact ended
        · rw [found] at held
          cases held.1
      apply And.intro
      · exact Exists.intro _ (openings_reopen opened ended)
      · apply fresh
        intro time member
        exact (before_last_end positive inv.ordered opened time member).trans_le ended
  | some start =>
    obtain ⟨before, opened⟩ := inv.started start found
    by_cases ended : start + policy.durationMs ≤ now
    · have start_now : startAt policy now hash id = now := by
        simp [startAt, found, ended]
      have count_zero : countAt policy now hash id = 0 := by
        simp [countAt, found, ended]
      rw [start_now, count_zero]
      apply And.intro
      · exact Exists.intro _ (openings_reopen opened ended)
      · apply fresh
        intro time member
        exact (before_last_end positive inv.ordered opened time member).trans_le ended
    · have held : hget hash (.count id) =
          some (countIn start (start + policy.durationMs) times) := by
        rcases inv.window start before opened with passed | held
        · exact absurd passed ended
        · exact held.2
      have start_same : startAt policy now hash id = start := by
        simp [startAt, found, ended]
      have count_same : countAt policy now hash id =
          countIn start (start + policy.durationMs) times := by
        simp [countAt, found, ended, held]
      rw [start_same, count_same]
      apply And.intro
      · exact Exists.intro _ (openings_continue opened (by omega))
      · exact count_in_inside (last_opening_le ordered opened) (by omega) times

theorem policy_inv_admitted {now : Nat} {hash after} (inv : PolicyInv policy now hash id times)
    (room : countAt policy now hash id < policy.limit) (free : (hget hash (.next id)).getD 0 ≤ now)
    (new_start : hget after (.start id) = some (startAt policy now hash id))
    (new_count : hget after (.count id) = some (countAt policy now hash id + 1))
    (new_next : hget after (.next id) = some (now + policy.minIntervalMs))
    (window_kept : Outlives after (startAt policy now hash id + policy.durationMs))
    (next_kept : Outlives after (now + policy.minIntervalMs)) :
    PolicyInv policy now after id (now :: times) := by
  obtain ⟨opened, counted⟩ := admission_window inv
  have ordered : Ordered (now :: times) := pairwise_cons.mpr (And.intro inv.past inv.ordered)
  apply PolicyInv.mk
  · exact ordered
  · intro time member
    rcases mem_cons.mp member with same | earlier
    · exact Nat.le_of_eq same
    · exact inv.past time earlier
  · -- the last window is over, or it is the stored one and has room
    apply limited_cons policy.duration_positive policy.limit_positive ordered inv.limited
    intro start before earlier
    by_cases ended : start + policy.durationMs ≤ now
    · exact Or.inl ended
    · rcases inv.window start before earlier with passed | held
      · exact absurd passed ended
      · have running : countAt policy now hash id =
            countIn start (start + policy.durationMs) times := by
          simp [countAt, held.1, held.2, ended]
        apply Or.inr
        rw [← running]
        exact room
  · apply pairwise_cons.mpr
    apply And.intro
    · intro time member
      rcases inv.spacing time member with passed | held
      · exact passed
      · obtain ⟨next, known, bound⟩ := held
        rw [known] at free
        exact bound.trans free
    · exact inv.spaced
  · intro start before found
    apply Or.inr
    obtain ⟨others, head⟩ := opened
    rw [head, List.cons.injEq] at found
    rw [← found.1, counted]
    exact And.intro new_start new_count
  · intro time member
    apply Or.inr
    apply Exists.intro (now + policy.minIntervalMs)
    apply And.intro new_next
    rcases mem_cons.mp member with same | earlier
    · rw [same]
    · exact Nat.add_le_add_right (inv.past time earlier) _
  · intro start found
    rw [new_start, Option.some.injEq] at found
    rw [← found]
    exact opened
  · intro missing
    rw [new_start] at missing
    cases missing
  · intro next found
    rw [new_next, Option.some.injEq] at found
    apply Exists.intro now
    exact And.intro mem_cons_self found.symm
  · intro start found
    rw [new_start, Option.some.injEq] at found
    rw [← found]
    exact window_kept
  · intro next found
    rw [new_next, Option.some.injEq] at found
    rw [← found]
    exact next_kept

end OpenMapX.Upstream.AdmissionRuns
