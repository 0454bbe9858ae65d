import Mathlib

/-!
# Fixed windows over a history of moments

A history lists moments, the latest first. The first moment opens a window of a fixed
length; every later moment falls into the last window that was opened or, once that one
has ended, opens the next. If no window holds more than `limit` moments, then no half-open
interval of a window's length holds `2 * limit` of them.
-/

namespace OpenMapX.Foundation.FixedWindows

open List

def Ordered (times : List Nat) : Prop := times.Pairwise fun later earlier => earlier ≤ later

def openings (duration : Nat) : List Nat → List Nat
  | [] => []
  | time :: earlier =>
    match openings duration earlier with
    | [] => [time]
    | start :: before =>
      if start + duration ≤ time then time :: start :: before else start :: before

/-- The number of moments in the half-open interval from `start` to `stop`. -/
def countIn (start stop : Nat) (times : List Nat) : Nat :=
  times.countP fun time => decide (start ≤ time) && decide (time < stop)

/-- No window holds more than `limit` moments. -/
def Limited (limit duration : Nat) (times : List Nat) : Prop :=
  ∀ start ∈ openings duration times, countIn start (start + duration) times ≤ limit

@[simp]
theorem count_in_nil (start stop : Nat) : countIn start stop [] = 0 := rfl

theorem count_in_inside {start stop time : Nat} (after : start ≤ time) (before : time < stop)
    (times : List Nat) : countIn start stop (time :: times) = countIn start stop times + 1 := by
  apply countP_cons_of_pos
  simp [after, before]

theorem count_in_outside {start stop time : Nat} (outside : time < start ∨ stop ≤ time)
    (times : List Nat) : countIn start stop (time :: times) = countIn start stop times := by
  apply countP_cons_of_neg
  simp only [Bool.and_eq_true, decide_eq_true_eq, not_and, not_lt]
  omega

variable {times : List Nat}

theorem count_in_zero {start stop : Nat}
    (outside : ∀ time ∈ times, time < start ∨ stop ≤ time) : countIn start stop times = 0 := by
  apply countP_eq_zero.mpr
  intro time member
  have away := outside time member
  simp only [Bool.and_eq_true, decide_eq_true_eq, not_and, not_lt]
  omega

theorem openings_nil_iff {duration : Nat} : openings duration times = [] ↔ times = [] := by
  cases times with
  | nil => simp [openings]
  | cons time earlier =>
    simp only [openings, reduceCtorEq, iff_false]
    split
    · simp
    · split <;> simp

variable {duration time start : Nat} {earlier before : List Nat}

theorem openings_continue (opened : openings duration earlier = start :: before)
    (inside : time < start + duration) : openings duration (time :: earlier) = start :: before := by
  simp only [openings, opened]
  rw [if_neg (by omega)]

theorem openings_reopen
    (opened : openings duration earlier = start :: before) (ended : start + duration ≤ time) :
    openings duration (time :: earlier) = time :: start :: before := by
  simp only [openings, opened]
  rw [if_pos ended]

theorem opening_mem {duration : Nat} : ∀ start ∈ openings duration times, start ∈ times := by
  induction times with
  | nil => simp [openings]
  | cons time earlier ih =>
    intro start member
    simp only [openings] at member
    split at member
    · exact mem_cons.mpr (Or.inl (mem_singleton.mp member))
    · rename_i last before opened
      rw [opened] at ih
      split at member
      · rcases mem_cons.mp member with first | later
        · exact mem_cons.mpr (Or.inl first)
        · exact mem_cons_of_mem time (ih start later)
      · exact mem_cons_of_mem time (ih start member)

theorem before_last_end {duration start : Nat} (positive : 0 < duration) {times before}
    (ordered : Ordered times) (opened : openings duration times = start :: before) :
    ∀ time ∈ times, time < start + duration := by
  induction times generalizing start before with
  | nil => simp [openings] at opened
  | cons time earlier ih =>
    have latest : ∀ other ∈ earlier, other ≤ time := (pairwise_cons.mp ordered).1
    have rest : Ordered earlier := ordered.of_cons
    have bounded : time < start + duration := by
      simp only [openings] at opened
      split at opened
      · rw [List.cons.injEq] at opened
        omega
      · split at opened
        · rw [List.cons.injEq] at opened
          omega
        · rw [List.cons.injEq] at opened
          omega
    intro other member
    rcases mem_cons.mp member with same | later
    · rw [same]
      exact bounded
    · exact (latest other later).trans_lt bounded

theorem earlier_window_ended {duration start : Nat} {times before}
    (opened : openings duration times = start :: before) :
    ∀ other ∈ before, other + duration ≤ start := by
  induction times generalizing start before with
  | nil => simp [openings] at opened
  | cons time earlier ih =>
    simp only [openings] at opened
    split at opened
    · rw [List.cons.injEq] at opened
      simp [← opened.2]
    · rename_i last previous found
      have inner := ih found
      split at opened
      · rename_i ended
        rw [List.cons.injEq] at opened
        rw [← opened.1, ← opened.2]
        intro other member
        rcases mem_cons.mp member with same | older
        · rw [same]
          exact ended
        · have gap := inner other older
          omega
      · rw [List.cons.injEq] at opened
        rw [← opened.1, ← opened.2]
        exact inner

theorem last_opening_le (ordered : Ordered (time :: earlier))
    (opened : openings duration earlier = start :: before) : start ≤ time :=
  (pairwise_cons.mp ordered).1 start
    (opening_mem start (by rw [opened]; exact mem_cons_self))

theorem limited_of_cons {limit duration time : Nat} {earlier}
    (limited : Limited limit duration (time :: earlier)) : Limited limit duration earlier := by
  intro start member
  have kept : start ∈ openings duration (time :: earlier) := by
    simp only [openings]
    split
    · rename_i none_open
      rw [none_open] at member
      simp at member
    · rename_i last before opened
      rw [opened] at member
      split
      · exact mem_cons_of_mem time member
      · exact member
  have grown : countIn start (start + duration) earlier ≤
      countIn start (start + duration) (time :: earlier) :=
    (sublist_cons_self time earlier).countP_le
  exact grown.trans (limited start kept)

/-- One more moment keeps the windows within the limit if the last window has ended or is
not full. -/
theorem limited_cons {limit duration time : Nat} (positive : 0 < duration) (some_room : 1 ≤ limit)
    (ordered : Ordered (time :: times)) (limited : Limited limit duration times)
    (room : ∀ start before, openings duration times = start :: before →
      start + duration ≤ time ∨ countIn start (start + duration) times < limit) :
    Limited limit duration (time :: times) := by
  cases opened : openings duration times with
  | nil =>
    rw [openings_nil_iff] at opened
    subst opened
    intro start member
    have first : start = time := by simpa [openings] using member
    subst first
    rw [count_in_inside (Nat.le_refl start) (by omega), count_in_nil]
    exact some_room
  | cons last before =>
    have reached := last_opening_le ordered opened
    have inside : ∀ other ∈ times, other < last + duration :=
      before_last_end positive ordered.of_cons opened
    have older : ∀ start ∈ before, countIn start (start + duration) (time :: times) ≤ limit := by
      intro start member
      have ended := earlier_window_ended opened start member
      rw [count_in_outside (Or.inr (ended.trans reached))]
      apply limited
      rw [opened]
      exact mem_cons_of_mem last member
    have held := limited last (by rw [opened]; exact mem_cons_self)
    intro start member
    by_cases passed : last + duration ≤ time
    · rw [openings_reopen opened passed] at member
      rcases mem_cons.mp member with first | previous
      · subst first
        rw [count_in_inside (Nat.le_refl start) (by omega), count_in_zero]
        · exact some_room
        · intro other old
          have bound := inside other old
          omega
      · rcases mem_cons.mp previous with same | oldest
        · subst same
          rw [count_in_outside (Or.inr passed)]
          exact held
        · exact older start oldest
    · rw [openings_continue opened (by omega)] at member
      rcases mem_cons.mp member with same | oldest
      · subst same
        rw [count_in_inside reached (by omega)]
        rcases room start before opened with ended | free
        · exact absurd ended passed
        · omega
      · exact older start oldest

section

variable {limit duration : Nat} (positive : 0 < duration) (some_room : 1 ≤ limit) (from_ : Nat)
  (ordered : Ordered times) (limited : Limited limit duration times)
include positive some_room ordered limited

theorem interval_count : (times = [] ∧ countIn from_ (from_ + duration) times = 0) ∨
      ∃ last before, openings duration times = last :: before ∧ (last < from_ →
          countIn from_ (from_ + duration) times + 1 ≤ countIn last (last + duration) times) ∧
        (from_ ≤ last → last < from_ + duration → countIn from_ (from_ + duration) times + 1 ≤
            limit + countIn last (last + duration) times) ∧
        (from_ + duration ≤ last → countIn from_ (from_ + duration) times + 1 ≤ limit + limit) := by
  induction times with
  | nil => exact Or.inl (And.intro rfl rfl)
  | cons time earlier ih =>
    apply Or.inr
    have rest : Ordered earlier := ordered.of_cons
    have held := ih rest (limited_of_cons limited)
    rcases held with empty | found
    · obtain ⟨none_before, nothing⟩ := empty
      subst none_before
      apply Exists.intro time
      apply Exists.intro []
      apply And.intro rfl
      have own : countIn time (time + duration) [time] = 1 :=
        count_in_inside (Nat.le_refl time) (by omega) []
      have at_most : countIn from_ (from_ + duration) [time] ≤ 1 := countP_le_length
      apply And.intro
      · intro early
        rw [own, count_in_outside (Or.inl early)]
        exact Nat.le_refl 1
      · apply And.intro
        · intro _ _
          omega
        · intro late
          rw [count_in_outside (Or.inr late)]
          simp only [count_in_nil]
          omega
    · obtain ⟨last, before, opened, early, middle, late⟩ := found
      have reached := last_opening_le ordered opened
      have inside := before_last_end positive rest opened
      have full : countIn last (last + duration) earlier ≤ limit :=
        limited_of_cons limited last (by rw [opened]; exact mem_cons_self)
      by_cases passed : last + duration ≤ time
      · -- the moment opens the next window
        apply Exists.intro time
        apply Exists.intro (last :: before)
        apply And.intro (openings_reopen opened passed)
        have own : countIn time (time + duration) (time :: earlier) = 1 := by
          rw [count_in_inside (Nat.le_refl time) (by omega), count_in_zero]
          intro other old
          have bound := inside other old
          omega
        rw [own]
        apply And.intro
        · intro before_interval
          rw [count_in_outside (Or.inl before_interval), count_in_zero]
          intro other old
          have bound := inside other old
          omega
        · apply And.intro
          · intro after_start before_end
            rw [count_in_inside after_start before_end]
            have held := early (by omega)
            omega
          · intro after_end
            rw [count_in_outside (Or.inr after_end)]
            by_cases before_start : last < from_
            · have held := early before_start
              omega
            · by_cases before_end : last < from_ + duration
              · have held := middle (by omega) before_end
                omega
              · exact late (by omega)
      · apply Exists.intro last
        apply Exists.intro before
        apply And.intro (openings_continue opened (by omega))
        have own : countIn last (last + duration) (time :: earlier) =
            countIn last (last + duration) earlier + 1 :=
          count_in_inside reached (by omega) earlier
        have at_most : countIn from_ (from_ + duration) (time :: earlier) ≤
            countIn from_ (from_ + duration) earlier + 1 := by
          unfold countIn
          rw [countP_cons]
          split <;> omega
        rw [own]
        apply And.intro
        · intro before_start
          have held := early before_start
          omega
        · apply And.intro
          · intro after_start before_end
            have held := middle after_start before_end
            omega
          · intro after_end
            rw [count_in_outside (Or.inr (by omega))]
            exact late after_end

/-- If no window holds more than `limit` moments, an interval of a window's length
holds at most `2 * limit - 1`. -/
theorem interval_limited : countIn from_ (from_ + duration) times ≤ 2 * limit - 1 := by
  rcases interval_count positive some_room from_ ordered limited with empty | found
  · omega
  · obtain ⟨last, before, opened, early, middle, late⟩ := found
    have full : countIn last (last + duration) times ≤ limit :=
      limited last (by rw [opened]; exact mem_cons_self)
    by_cases before_start : last < from_
    · have held := early before_start
      omega
    · by_cases before_end : last < from_ + duration
      · have held := middle (by omega) before_end
        omega
      · have held := late (by omega)
        omega

end

end OpenMapX.Foundation.FixedWindows
