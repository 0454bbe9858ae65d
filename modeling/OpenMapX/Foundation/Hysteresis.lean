import Mathlib

/-!
# Zigzags of a series

The turns of a series by hysteresis, the latest first. Between its neighbours
every turn is the outermost value of its side, and two turns in a row lie apart
by the threshold. A candidate is the turn that is waiting to be confirmed.
-/

namespace OpenMapX.Foundation.Hysteresis

open List

inductive Side where
  | high
  | low
  deriving DecidableEq

def Side.other : Side → Side
  | .high => .low
  | .low => .high

@[simp] theorem other_other (side : Side) : side.other.other = side := by
  cases side <;> rfl

variable {K : Type} [AddCommGroup K]

def level : Side → K → K
  | .high, x => x
  | .low, x => -x

@[simp] theorem level_other (side : Side) (x : K) : level side.other x = -level side x := by
  cases side with
  | high => rfl
  | low => simp [level, Side.other]

variable [LinearOrder K]

/-- Sample `c` is the outermost on its side from `a` up to `b`. -/
def Leads (v : ℕ → K) (side : Side) (a b c : ℕ) : Prop :=
  ∀ j, a ≤ j → j < b → level side (v j) ≤ level side (v c)

def turnStart (before : List (ℕ × Side)) : ℕ := before.head?.elim 0 Prod.fst

/-- A turn is on the other side of the one before it, and apart from it by the threshold. -/
def Joined (v : ℕ → K) (delta : K) (later earlier : ℕ × Side) : Prop :=
  earlier.1 < later.1 ∧ earlier.2 = later.2.other ∧
    level later.2 (v earlier.1) + delta ≤ level later.2 (v later.1)

def Zigzag (v : ℕ → K) (delta : K) : ℕ → List (ℕ × Side) → Prop
  | _, [] => True
  | k, turn :: before =>
    turn.1 < k ∧ Leads v turn.2 (turnStart before) k turn.1 ∧
      (∀ earlier ∈ before.head?, Joined v delta turn earlier) ∧ Zigzag v delta (turn.1 + 1) before

/-- The outermost sample since `a`, from which the series has not yet moved away. -/
structure Candidate (v : ℕ → K) (delta : K) (side : Side) (a k c : ℕ) : Prop where
  start : a ≤ c
  seen : c < k
  leads : Leads v side a k c
  near : ∀ j, c ≤ j → j < k → level side (v c) ≤ level side (v j) + delta

variable {v : ℕ → K} {delta : K} {side : Side} {a k c : ℕ}

def nextCandidate (v : ℕ → K) (side : Side) (k c : ℕ) : ℕ :=
  if level side (v c) < level side (v k) then k else c

theorem nextCandidate_lt (v : ℕ → K) (side : Side) {i c : ℕ} (seen : c < i) :
    nextCandidate v side i c < i + 1 := by
  unfold nextCandidate
  split_ifs
  · exact Nat.lt_succ_self i
  · omega

theorem le_nextCandidate (v : ℕ → K) (side : Side) (k c : ℕ) :
    level side (v c) ≤ level side (v (nextCandidate v side k c)) := by
  unfold nextCandidate
  split_ifs with higher
  · exact higher.le
  · exact le_rfl

variable {turns : List (ℕ × Side)}

variable (zigzag : Zigzag v delta k turns)
include zigzag

theorem Zigzag.earlier {m : ℕ}
    (within : m ≤ k) (seen : ∀ turn ∈ turns.head?, turn.1 < m) : Zigzag v delta m turns := by
  cases turns with
  | nil => trivial
  | cons turn before =>
    exact ⟨seen turn rfl, fun j from_a below => zigzag.2.1 j from_a (by omega), zigzag.2.2⟩

/-- A sample that is no further out than the last turn leaves the zigzag as it is. -/
theorem Zigzag.extend (inside : ∀ turn ∈ turns.head?, level turn.2 (v k) ≤ level turn.2 (v turn.1))
    : Zigzag v delta (k + 1) turns := by
  cases turns with
  | nil => trivial
  | cons turn before =>
    refine ⟨zigzag.1.trans (Nat.lt_succ_self k), ?_, zigzag.2.2⟩
    intro j from_a below
    rcases Nat.lt_succ_iff_lt_or_eq.mp below with earlier | rfl
    · exact zigzag.2.1 j from_a earlier
    · exact inside turn rfl

/-- A turn at the first sample can be left out: only the first turn can be there. -/
theorem Zigzag.inner : Zigzag v delta k (turns.filter fun turn => 0 < turn.1) := by
  induction turns generalizing k with
  | nil => trivial
  | cons turn before ih =>
    have rest := ih zigzag.2.2.2
    cases before with
    | nil =>
      rw [filter_cons]
      split_ifs with later
      · exact ⟨zigzag.1, zigzag.2.1, by simp, trivial⟩
      · trivial
    | cons previous older =>
      have joined := zigzag.2.2.1 previous rfl
      have later : 0 < turn.1 := Nat.zero_lt_of_lt joined.1
      rw [filter_cons_of_pos (by simpa using later)]
      refine ⟨zigzag.1, ?_, ?_, rest⟩
      · rw [filter_cons]
        split_ifs with inside
        · exact zigzag.2.1
        · have first : previous.1 = 0 := by simpa using inside
          cases older with
          | nil =>
            have whole := zigzag.2.1
            simpa [turnStart, first] using whole
          | cons oldest _ =>
            have before := (zigzag.2.2.2.2.2.1 oldest rfl).1
            omega
      · rw [filter_cons]
        split_ifs with inside
        · exact zigzag.2.2.1
        · have first : previous.1 = 0 := by simpa using inside
          cases older with
          | nil => simp
          | cons oldest _ =>
            have before := (zigzag.2.2.2.2.2.1 oldest rfl).1
            omega

omit zigzag in
theorem Zigzag.leads_between {newer older turn} (zigzag : Zigzag v delta k (newer ++ turn :: older))
    : Leads v turn.2 (turnStart older) (newer.getLast?.elim k fun next => next.1 + 1) turn.1 := by
  induction newer generalizing k with
  | nil => exact zigzag.2.1
  | cons next rest ih =>
    have inner := ih zigzag.2.2.2
    cases rest with
    | nil => exact inner
    | cons _ _ => rwa [getLast?_cons_cons]

theorem Zigzag.joined : turns.IsChain (Joined v delta) := by
  induction turns generalizing k with
  | nil => exact .nil
  | cons turn before ih =>
    cases before with
    | nil => exact .singleton _
    | cons previous older =>
      exact .cons_cons (zigzag.2.2.1 previous rfl) (ih zigzag.2.2.2)

theorem Zigzag.seen : ∀ turn ∈ turns, turn.1 < k := by
  induction turns generalizing k with
  | nil => simp
  | cons first before ih =>
    intro turn member
    rcases mem_cons.mp member with rfl | member
    · exact zigzag.1
    · have := ih zigzag.2.2.2 turn member
      have := zigzag.1
      omega

omit zigzag

variable [IsOrderedAddMonoid K]

theorem Candidate.next (held : Candidate v delta side a k c) (positive : 0 < delta)
    (stays : ¬level side (v k) + delta < level side (v (nextCandidate v side k c))) :
    Candidate v delta side a (k + 1) (nextCandidate v side k c) := by
  unfold nextCandidate at stays ⊢
  have start := held.start
  have seen := held.seen
  split_ifs at stays ⊢ with higher
  · constructor
    · omega
    · omega
    · intro j from_a below
      rcases Nat.lt_succ_iff_lt_or_eq.mp below with before | rfl
      · exact (held.leads j from_a before).trans higher.le
      · exact le_rfl
    · intro j from_k below
      have same : j = k := by omega
      rw [same]
      exact le_add_of_nonneg_right positive.le
  · constructor
    · omega
    · omega
    · intro j from_a below
      rcases Nat.lt_succ_iff_lt_or_eq.mp below with before | rfl
      · exact held.leads j from_a before
      · exact not_lt.mp higher
    · intro j from_c below
      rcases Nat.lt_succ_iff_lt_or_eq.mp below with before | rfl
      · exact held.near j from_c before
      · exact not_lt.mp stays

/-- A sample beyond the threshold confirms the candidate and opens one on the other side. -/
theorem Candidate.turn (held : Candidate v delta side a k c) (positive : 0 < delta)
    (moved : level side (v k) + delta < level side (v c)) :
    Leads v side a (k + 1) c ∧ Candidate v delta side.other c (k + 1) k ∧
      level side.other (v c) + delta < level side.other (v k) := by
  have lower : level side (v k) < level side (v c) := (lt_add_of_pos_right _ positive).trans moved
  refine ⟨?_, ⟨?_, ?_, ?_, ?_⟩, ?_⟩
  · intro j from_a below
    rcases Nat.lt_succ_iff_lt_or_eq.mp below with before | rfl
    · exact held.leads j from_a before
    · exact lower.le
  · exact held.seen.le
  · exact Nat.lt_succ_self k
  · intro j from_c below
    rw [level_other, level_other, neg_le_neg_iff]
    rcases Nat.lt_succ_iff_lt_or_eq.mp below with before | rfl
    · have far := moved.trans_le (held.near j from_c before)
      exact (lt_of_add_lt_add_right far).le
    · exact le_rfl
  · intro j from_k below
    have same : j = k := by omega
    rw [same]
    exact le_add_of_nonneg_right positive.le
  · rw [level_other, level_other, ← sub_eq_neg_add, sub_lt_iff_lt_add, neg_add_eq_sub,
      lt_sub_iff_add_lt, add_comm]
    exact moved

theorem far_keeps (positive : 0 < delta)
    (far : level side (v k) + delta < level side (v (nextCandidate v side k c))) :
    nextCandidate v side k c = c := by
  unfold nextCandidate at far ⊢
  split_ifs at far ⊢ with higher
  · exact absurd far (lt_add_of_pos_right _ positive).not_gt
  · rfl

end OpenMapX.Foundation.Hysteresis
