import Mathlib

/-!
# Duality of the assignment problem

Potentials of rows and columns that stay below the cost of each pair bound the weight of
every matching, and a perfect matching whose pairs are all tight attains the bound.
-/

namespace OpenMapX.Foundation.AssignmentDuality

open Prod (fst snd)

variable {Row Column Value : Type*} [DecidableEq Row] [DecidableEq Column]
variable [Field Value] [LinearOrder Value] [IsStrictOrderedRing Value]

omit [DecidableEq Column] in
theorem paired_sum_le (left : Finset Row) (right : Finset Column) (f : Row → Value)
    (g : Column → Value) (bound : Value) (same : left.card = right.card)
    (pairs : ∀ i ∈ left, ∀ j ∈ right, f i + g j ≤ bound) :
    ∑ i ∈ left, f i + ∑ j ∈ right, g j ≤ left.card • bound := by
  by_cases empty : left = ∅
  · have other : right = ∅ := by
      rw [← Finset.card_eq_zero, ← same, empty, Finset.card_empty]
    simp [empty, other]
  · have some_left := Finset.nonempty_iff_ne_empty.mpr empty
    have some_right : right.Nonempty := by
      rw [← Finset.card_pos, ← same]
      exact some_left.card_pos
    obtain ⟨i, top_left⟩ := Finset.exists_max_image left f some_left
    obtain ⟨j, top_right⟩ := Finset.exists_max_image right g some_right
    have left_sum : ∑ k ∈ left, f k ≤ left.card • f i :=
      Finset.sum_le_card_nsmul left f (f i) top_left.2
    have right_sum : ∑ k ∈ right, g k ≤ right.card • g j :=
      Finset.sum_le_card_nsmul right g (g j) top_right.2
    have pair := nsmul_le_nsmul_right (pairs i top_left.1 j top_right.1) left.card
    rw [nsmul_add] at pair
    rw [← same] at right_sum
    exact (add_le_add left_sum right_sum).trans pair

structure IsMatching (matching : Finset (Row × Column)) : Prop where
  rows : ∀ e ∈ matching, ∀ e' ∈ matching, e.1 = e'.1 → e = e'
  columns : ∀ e ∈ matching, ∀ e' ∈ matching, e.2 = e'.2 → e = e'

section

variable (rows : Finset Row) (columns : Finset Column) (u : Row → Value) (v : Column → Value)
variable (weight : Row → Column → Value) (bound : Value)

/-- The potentials of a pair stay below its cost, the weight that it lacks to the bound,
and no cost exceeds the bound. -/
structure FeasiblePotentials : Prop where
  below : ∀ i ∈ rows, ∀ j ∈ columns, u i + v j ≤ bound - weight i j
  nonneg : ∀ i ∈ rows, ∀ j ∈ columns, 0 ≤ weight i j

variable {rows columns u v weight bound}

/-- Weak duality: a matching weighs no more than the rows' bounds without the
potentials. -/
theorem matching_weight_le (potentials : FeasiblePotentials rows columns u v weight bound)
    (square : rows.card = columns.card) (matching)
    (inside : ∀ e ∈ matching, e.1 ∈ rows ∧ e.2 ∈ columns) (apart : IsMatching matching) :
    ∑ e ∈ matching, weight e.1 e.2 ≤
      rows.card • bound - (∑ i ∈ rows, u i + ∑ j ∈ columns, v j) := by
  have rowsCard : (matching.image fst).card = matching.card :=
    Finset.card_image_of_injOn (fun e member e' member' => apart.rows e member e' member')
  have columnsCard : (matching.image snd).card = matching.card :=
    Finset.card_image_of_injOn (fun e member e' member' => apart.columns e member e' member')
  have rowsInside : matching.image fst ⊆ rows := by
    intro i member
    rw [Finset.mem_image] at member
    obtain ⟨e, given⟩ := member
    rw [← given.2]
    exact (inside e given.1).1
  have columnsInside : matching.image snd ⊆ columns := by
    intro j member
    rw [Finset.mem_image] at member
    obtain ⟨e, given⟩ := member
    rw [← given.2]
    exact (inside e given.1).2
  have matchedRows : ∑ i ∈ matching.image fst, u i = ∑ e ∈ matching, u e.1 :=
    Finset.sum_image (fun e member e' member' => apart.rows e member e' member')
  have matchedColumns : ∑ j ∈ matching.image snd, v j = ∑ e ∈ matching, v e.2 :=
    Finset.sum_image (fun e member e' member' => apart.columns e member e' member')
  have pairs : ∑ e ∈ matching, (u e.1 + v e.2) ≤ ∑ e ∈ matching, (bound - weight e.1 e.2) := by
    apply Finset.sum_le_sum
    intro e member
    exact potentials.below e.1 (inside e member).1 e.2 (inside e member).2
  rw [Finset.sum_add_distrib, Finset.sum_sub_distrib, Finset.sum_const] at pairs
  -- the rows and columns that the matching leaves over are equally many
  have restCard : (rows \ matching.image fst).card =
      (columns \ matching.image snd).card := by
    rw [Finset.card_sdiff_of_subset rowsInside, Finset.card_sdiff_of_subset columnsInside,
      rowsCard, columnsCard, square]
  have rest := paired_sum_le (rows \ matching.image fst)
    (columns \ matching.image snd) u v bound restCard (by
      intro i i_in j j_in
      rw [Finset.mem_sdiff] at i_in j_in
      have below := potentials.below i i_in.1 j j_in.1
      have nonneg := potentials.nonneg i i_in.1 j j_in.1
      linarith)
  rw [Finset.card_sdiff_of_subset rowsInside, rowsCard] at rest
  have splitRows := Finset.sum_sdiff (f := u) rowsInside
  have splitColumns := Finset.sum_sdiff (f := v) columnsInside
  rw [matchedRows] at splitRows
  rw [matchedColumns] at splitColumns
  have fits : matching.card ≤ rows.card := by
    rw [← rowsCard]
    exact Finset.card_le_card rowsInside
  have count : (rows.card - matching.card) • bound + matching.card • bound =
      rows.card • bound := by
    rw [← add_nsmul, Nat.sub_add_cancel fits]
  linarith

omit [DecidableEq Column] in
theorem tight_weight_eq (assigned : Column → Row) (onto : columns.image assigned = rows)
    (once : ∀ j ∈ columns, ∀ k ∈ columns, assigned j = assigned k → j = k)
    (tight : ∀ j ∈ columns, u (assigned j) + v j = bound - weight (assigned j) j) :
    ∑ j ∈ columns, weight (assigned j) j =
      rows.card • bound - (∑ i ∈ rows, u i + ∑ j ∈ columns, v j) := by
  have rowSum : ∑ i ∈ rows, u i = ∑ j ∈ columns, u (assigned j) := by
    rw [← onto]
    exact Finset.sum_image once
  have card : rows.card = columns.card := by
    rw [← onto]
    exact Finset.card_image_of_injOn once
  have pairs : ∑ j ∈ columns, (u (assigned j) + v j) =
      ∑ j ∈ columns, (bound - weight (assigned j) j) := Finset.sum_congr rfl tight
  rw [Finset.sum_add_distrib, Finset.sum_sub_distrib, Finset.sum_const, ← card] at pairs
  linarith

end

end OpenMapX.Foundation.AssignmentDuality
