import OpenMapX.Foundation.AssignmentDuality
import OpenMapX.Places.HungarianSearch

/-!
# The optimum of a component

The edges that a component selects use every point at most once, and no matching of the
component has more edges, or as many with a higher total confidence.
-/

namespace OpenMapX.Places.ComponentOptimality

open Foundation.AssignmentDuality Foundation.TextOrder PoiConflation HungarianLoops HungarianSearch
  List
open Finset (ext mem_Icc mem_image)

theorem mem_sorted_ids (ids : List String) (id : String) : id ∈ sortedIds ids ↔ id ∈ ids := by
  unfold sortedIds sortTexts
  rw [mem_sort_by, mem_dedup]

theorem sorted_ids_nodup (ids : List String) : (sortedIds ids).Nodup := by
  unfold sortedIds sortTexts
  rw [(sort_by_perm textLe _).nodup_iff]
  exact nodup_dedup ids

theorem sorted_ids_congr {first second}
    (same : ∀ id, id ∈ first ↔ id ∈ second) : sortedIds first = sortedIds second := by
  apply sort_texts_perm
  rw [perm_ext_iff_of_nodup (nodup_dedup first) (nodup_dedup second)]
  intro id
  rw [mem_dedup, mem_dedup]
  exact same id

def SeparatorFree (id : String) : Prop := '\x00' ∉ id.toList

def ReadableIds (edges : List ScoredConflationPair) : Prop :=
  ∀ edge ∈ edges, SeparatorFree edge.a.id ∧ SeparatorFree edge.b.id

theorem append_separator_inj (left left' right right' : List Char) (free : '\x00' ∉ left)
    (free' : '\x00' ∉ left') (same : left ++ '\x00' :: right = left' ++ '\x00' :: right') :
    left = left' ∧ right = right' := by
  induction left generalizing left' with
  | nil =>
    cases left' with
    | nil => simpa using same
    | cons d left' =>
      simp only [nil_append, cons_append, List.cons.injEq] at same
      exact absurd (same.1 ▸ mem_cons_self) free'
  | cons c left ih =>
    cases left' with
    | nil =>
      simp only [nil_append, cons_append, List.cons.injEq] at same
      exact absurd (same.1 ▸ mem_cons_self) free
    | cons d left' =>
      simp only [cons_append, List.cons.injEq] at same
      have rest := ih left' (fun member => free (mem_cons_of_mem c member))
        (fun member => free' (mem_cons_of_mem d member)) same.2
      rw [same.1, rest.1]
      exact ⟨rfl, rest.2⟩

theorem pair_key_inj {aId bId aId' bId' : String} (free : SeparatorFree aId)
    (free' : SeparatorFree aId') (same : pairKey aId bId = pairKey aId' bId') :
    aId = aId' ∧ bId = bId' := by
  have lists := congrArg String.toList same
  unfold pairKey at lists
  simp only [String.toList_append, append_assoc] at lists
  have both := append_separator_inj aId.toList aId'.toList bId.toList bId'.toList free free' lists
  exact ⟨String.toList_inj.mp both.1, String.toList_inj.mp both.2⟩

def keepBetter (key : String) (existing : Option ScoredConflationPair)
    (edge : ScoredConflationPair) : Option ScoredConflationPair :=
  if pairKey edge.a.id edge.b.id = key then
    match existing with
    | none => some edge
    | some kept =>
      if kept.score.matchConfidence < edge.score.matchConfidence then some edge else some kept
  else existing

section

variable (key : String) (existing : Option ScoredConflationPair) (edge : ScoredConflationPair)

theorem keep_better_cases : keepBetter key existing edge = existing ∨
    (pairKey edge.a.id edge.b.id = key ∧ keepBetter key existing edge = some edge) := by
  unfold keepBetter
  split
  · rename_i same
    split
    · exact Or.inr ⟨same, rfl⟩
    · split
      · exact Or.inr ⟨same, rfl⟩
      · exact Or.inl rfl
  · exact Or.inl rfl

theorem keep_better_le :
    (∀ kept, existing = some kept → ∃ best, keepBetter key existing edge = some best ∧
      kept.score.matchConfidence ≤ best.score.matchConfidence) ∧
    (pairKey edge.a.id edge.b.id = key → ∃ best, keepBetter key existing edge = some best ∧
      edge.score.matchConfidence ≤ best.score.matchConfidence) := by
  unfold keepBetter
  constructor
  · intro kept present
    rw [present]
    split
    · dsimp only
      split
      · rename_i less
        exact ⟨edge, rfl, less.le⟩
      · exact ⟨kept, rfl, le_rfl⟩
    · exact ⟨kept, rfl, le_rfl⟩
  · intro same
    rw [if_pos same]
    split
    · exact ⟨edge, rfl, le_rfl⟩
    · rename_i kept
      split
      · exact ⟨edge, rfl, le_rfl⟩
      · rename_i notLess
        exact ⟨kept, rfl, not_lt.mp notLess⟩

end

section

variable (key : String) (edges : List ScoredConflationPair) (existing : Option ScoredConflationPair)

theorem fold_better_from (best) (result : edges.foldl (keepBetter key) existing = some best) :
    existing = some best ∨ (best ∈ edges ∧ pairKey best.a.id best.b.id = key) := by
  induction edges generalizing existing with
  | nil => exact Or.inl result
  | cons edge edges ih =>
    rw [foldl_cons] at result
    rcases ih _ result with before | later
    · rcases keep_better_cases key existing edge with same | chosen
      · exact Or.inl (same.symm.trans before)
      · rw [chosen.2] at before
        have equal : edge = best := Option.some.inj before
        rw [← equal]
        exact Or.inr ⟨mem_cons_self, chosen.1⟩
    · exact Or.inr ⟨mem_cons_of_mem edge later.1, later.2⟩

theorem fold_better_le :
    (∀ kept, existing = some kept → ∃ best, edges.foldl (keepBetter key) existing = some best ∧
      kept.score.matchConfidence ≤ best.score.matchConfidence) ∧
    (∀ edge ∈ edges, pairKey edge.a.id edge.b.id = key →
      ∃ best, edges.foldl (keepBetter key) existing = some best ∧
        edge.score.matchConfidence ≤ best.score.matchConfidence) := by
  induction edges generalizing existing with
  | nil =>
    constructor
    · intro kept present
      exact ⟨kept, present, le_rfl⟩
    · intro edge member
      cases member
  | cons edge edges ih =>
    rw [foldl_cons]
    have one := keep_better_le key existing edge
    have rest := ih (keepBetter key existing edge)
    constructor
    · intro kept present
      obtain ⟨middle, better⟩ := one.1 kept present
      obtain ⟨best, final⟩ := rest.1 middle better.1
      exact ⟨best, final.1, better.2.trans final.2⟩
    · intro other member same
      rcases mem_cons.mp member with head | tail
      · rw [head] at same ⊢
        obtain ⟨middle, better⟩ := one.2 same
        obtain ⟨best, final⟩ := rest.1 middle better.1
        exact ⟨best, final.1, better.2.trans final.2⟩
      · exact rest.2 other tail same

end

theorem edge_by_pair_mem {edges} {key : String} {best} (found : edgeByPair edges key = some best) :
    best ∈ edges ∧ pairKey best.a.id best.b.id = key := by
  rcases fold_better_from key edges none best found with initial | later
  · cases initial
  · exact later

theorem edge_by_pair_best {edges edge} (member : edge ∈ edges) :
    ∃ best, edgeByPair edges (pairKey edge.a.id edge.b.id) = some best ∧
      edge.score.matchConfidence ≤ best.score.matchConfidence :=
  (fold_better_le ..).2 edge member rfl

section

variable {edges : List ScoredConflationPair}

variable {edge : ScoredConflationPair}

theorem edge_at_ids (readable : ReadableIds edges) {i j : Nat}
    (found : edgeAt edges i j = some edge) :
    edge ∈ edges ∧ (aIdsOf edges)[i]? = some edge.a.id ∧ (bIdsOf edges)[j]? = some edge.b.id := by
  unfold edgeAt at found
  split at found
  · rename_i aId bId row column
    have known := edge_by_pair_mem found
    have present : aId ∈ aIdsOf edges := mem_of_getElem? row
    unfold aIdsOf at present
    rw [mem_sorted_ids, mem_map] at present
    obtain ⟨source, given⟩ := present
    have free : SeparatorFree aId := by
      rw [← given.2]
      exact (readable source given.1).1
    have same := pair_key_inj (readable edge known.1).1 free known.2
    rw [same.1, same.2]
    exact ⟨known.1, row, column⟩
  · cases found

theorem index_of_a (member : edge ∈ edges) :
    (aIdsOf edges)[(aIdsOf edges).idxOf edge.a.id]? = some edge.a.id ∧
      (aIdsOf edges).idxOf edge.a.id < matrixSize edges := by
  have present : edge.a.id ∈ aIdsOf edges := by
    unfold aIdsOf
    rw [mem_sorted_ids]
    exact mem_map_of_mem member
  have inside := idxOf_lt_length_iff.mpr present
  constructor
  · exact getElem?_idxOf present
  · exact lt_of_lt_of_le inside (Nat.le_max_left _ _)

theorem index_of_b (member : edge ∈ edges) :
    (bIdsOf edges)[(bIdsOf edges).idxOf edge.b.id]? = some edge.b.id ∧
      (bIdsOf edges).idxOf edge.b.id < matrixSize edges := by
  have present : edge.b.id ∈ bIdsOf edges := by
    unfold bIdsOf
    rw [mem_sorted_ids]
    exact mem_map_of_mem member
  have inside := idxOf_lt_length_iff.mpr present
  constructor
  · exact getElem?_idxOf present
  · exact lt_of_lt_of_le inside (Nat.le_max_right _ _)

def UnitConfidence (edges : List ScoredConflationPair) : Prop :=
  ∀ edge ∈ edges, 0 ≤ edge.score.matchConfidence ∧ edge.score.matchConfidence ≤ 1

theorem edge_at_mem {i j : Nat} (found : edgeAt edges i j = some edge) : edge ∈ edges := by
  unfold edgeAt at found
  split at found
  · exact (edge_by_pair_mem found).1
  · cases found

theorem bonus_nonneg : 0 ≤ cardinalityBonus edges := by
  unfold cardinalityBonus
  positivity

theorem weight_bounds (unit : UnitConfidence edges) (i j : Nat) :
    0 ≤ weightAt edges i j ∧ weightAt edges i j ≤ cardinalityBonus edges + 1 := by
  have bonus : 0 ≤ cardinalityBonus edges := bonus_nonneg
  unfold weightAt
  split
  · rename_i edge found
    have bounds := unit edge (edge_at_mem found)
    constructor <;> linarith
  · constructor <;> linarith

theorem weight_of_edge (edge) (member : edge ∈ edges) :
    cardinalityBonus edges + edge.score.matchConfidence ≤
      weightAt edges ((aIdsOf edges).idxOf edge.a.id) ((bIdsOf edges).idxOf edge.b.id) := by
  obtain ⟨best, found⟩ := edge_by_pair_best member
  unfold weightAt edgeAt
  rw [(index_of_a member).1, (index_of_b member).1]
  dsimp only
  rw [found.1]
  dsimp only
  linarith [found.2]

end

structure OneToOne (pairs : List ScoredConflationPair) : Prop where
  a : (pairs.map (·.a.id)).Nodup
  b : (pairs.map (·.b.id)).Nodup

def totalConfidence (pairs : List ScoredConflationPair) : ℚ :=
  (pairs.map (·.score.matchConfidence)).sum

section

variable {edges : List ScoredConflationPair} {assignment : Assignment}

theorem selected_mem {p : Nat → Nat} {edge}
    (member : edge ∈ selectedEdges edges p) : edge ∈ edges := by
  unfold selectedEdges at member
  rw [mem_filterMap] at member
  obtain ⟨j, found⟩ := member
  have given := found.2
  split at given
  · cases given
  · exact edge_at_mem given

theorem selected_one_to_one (readable : ReadableIds edges)
    (assigned : Assigned (matrixSize edges) (costAt edges) (matrixSize edges) assignment) :
    OneToOne (selectedEdges edges assignment.p) := by
  have cells : ∀ j ∈ range' 1 (matrixSize edges), ∀ edge,
      (if assignment.p j = 0 then none else edgeAt edges (assignment.p j - 1) (j - 1)) = some edge →
      assignment.p j ≠ 0 ∧ (aIdsOf edges)[assignment.p j - 1]? = some edge.a.id ∧
        (bIdsOf edges)[j - 1]? = some edge.b.id := by
    intro j _ edge given
    split at given
    · cases given
    · rename_i row
      exact ⟨row, (edge_at_ids readable given).2⟩
  have pairwise : (selectedEdges edges assignment.p).Pairwise fun left right =>
      left.a.id ≠ right.a.id ∧ left.b.id ≠ right.b.id := by
    unfold selectedEdges
    rw [pairwise_filterMap]
    have increasing : (range' 1 (matrixSize edges)).Pairwise (· < ·) := pairwise_lt_range'
    apply List.Pairwise.imp_of_mem _ increasing
    intro j k j_in k_in less left left_at right right_at
    have first := cells j j_in left left_at
    have second := cells k k_in right right_at
    rw [mem_range'_1] at j_in k_in
    constructor
    · intro same
      rw [← same] at second
      have rows := (getElem?_inj (List.getElem?_eq_some_iff.mp first.2.1).1
        (sorted_ids_nodup _)).mp (first.2.1.trans second.2.1.symm)
      have equal : assignment.p j = assignment.p k := by
        have one := first.1
        have two := second.1
        omega
      have columns := assigned.placed.once j (by omega) k (by omega) (by omega) (by omega)
        first.1 equal
      omega
    · intro same
      rw [← same] at second
      have columns := (getElem?_inj (List.getElem?_eq_some_iff.mp first.2.2).1
        (sorted_ids_nodup _)).mp (first.2.2.trans second.2.2.symm)
      omega
  constructor
  · rw [nodup_iff_pairwise_ne, pairwise_map]
    exact pairwise.imp fun both => both.1
  · rw [nodup_iff_pairwise_ne, pairwise_map]
    exact pairwise.imp fun both => both.2

theorem selected_weight (p : Nat → Nat) (columns : List Nat) (rows : ∀ j ∈ columns, p j ≠ 0) :
    (columns.map fun j => weightAt edges (p j - 1) (j - 1)).sum = ((columns.filterMap fun j =>
        if p j = 0 then none else edgeAt edges (p j - 1) (j - 1)).map fun edge =>
          cardinalityBonus edges + edge.score.matchConfidence).sum := by
  induction columns with
  | nil => rfl
  | cons j columns ih =>
    have rest := ih fun k member => rows k (mem_cons_of_mem j member)
    have row := rows j mem_cons_self
    rw [map_cons, sum_cons, rest]
    unfold weightAt
    cases found : edgeAt edges (p j - 1) (j - 1) with
    | none =>
      rw [filterMap_cons_none (by rw [if_neg row, found])]
      dsimp only
      rw [zero_add]
    | some edge =>
      rw [filterMap_cons_some (by rw [if_neg row, found])]
      rw [map_cons, sum_cons]

theorem sum_bonus (bonus : ℚ) (pairs) :
    (pairs.map fun edge => bonus + edge.score.matchConfidence).sum =
      pairs.length * bonus + totalConfidence pairs := by
  unfold totalConfidence
  induction pairs with
  | nil => simp
  | cons edge pairs ih =>
    rw [map_cons, sum_cons, ih, map_cons, sum_cons, length_cons]
    push_cast
    ring

def cellOf (edges : List ScoredConflationPair) (edge : ScoredConflationPair) : Nat × Nat :=
  ((aIdsOf edges).idxOf edge.a.id + 1, (bIdsOf edges).idxOf edge.b.id + 1)

theorem feasible_potentials (unit : UnitConfidence edges)
    (assigned : Assigned (matrixSize edges) (costAt edges) (matrixSize edges) assignment) :
    FeasiblePotentials (Finset.Icc 1 (matrixSize edges)) (Finset.Icc 1 (matrixSize edges))
      assignment.u assignment.v (fun i j => weightAt edges (i - 1) (j - 1))
      (cardinalityBonus edges + 1) := by
  apply FeasiblePotentials.mk
  · intro i i_in j j_in
    rw [mem_Icc] at i_in j_in
    have feasible := assigned.feasible i j i_in.1 i_in.2 j_in.1 j_in.2
    unfold reducedCost costAt at feasible
    linarith
  · intro i _ j _
    exact (weight_bounds unit (i - 1) (j - 1)).1

theorem selected_bound (assigned : Assigned (matrixSize edges) (costAt edges) (matrixSize edges)
    assignment) :
    (selectedEdges edges assignment.p).length * cardinalityBonus edges +
        totalConfidence (selectedEdges edges assignment.p) =
      (Finset.Icc 1 (matrixSize edges)).card • (cardinalityBonus edges + 1) -
        (∑ i ∈ Finset.Icc 1 (matrixSize edges), assignment.u i +
          ∑ j ∈ Finset.Icc 1 (matrixSize edges), assignment.v j) := by
  have placed := assigned.placed
  have once : ∀ j ∈ Finset.Icc 1 (matrixSize edges), ∀ k ∈ Finset.Icc 1 (matrixSize edges),
      assignment.p j = assignment.p k → j = k := by
    -- a square matching that holds every row holds one in every column
    have full : (Finset.Icc 1 (matrixSize edges)) ⊆
        (Finset.Icc 1 (matrixSize edges)).image assignment.p := by
      intro i member
      rw [mem_Icc] at member
      obtain ⟨j, held⟩ := placed.onto i member.1 member.2
      rw [mem_image]
      apply Exists.intro j
      rw [mem_Icc]
      exact ⟨⟨by omega, held.1⟩, held.2.2⟩
    have card := Finset.card_le_card full
    have injective := Finset.card_image_iff.mp (le_antisymm Finset.card_image_le card)
    intro j j_in k k_in same
    exact injective j_in k_in same
  have onto : (Finset.Icc 1 (matrixSize edges)).image assignment.p =
      Finset.Icc 1 (matrixSize edges) := by
    symm
    apply Finset.eq_of_subset_of_card_le
    · intro i member
      rw [mem_Icc] at member
      obtain ⟨j, held⟩ := placed.onto i member.1 member.2
      rw [mem_image]
      apply Exists.intro j
      rw [mem_Icc]
      exact ⟨⟨by omega, held.1⟩, held.2.2⟩
    · exact Finset.card_image_le
  have rows : ∀ j ∈ Finset.Icc 1 (matrixSize edges), assignment.p j ≠ 0 := by
    intro j member
    have image := Finset.mem_image_of_mem assignment.p member
    rw [onto, mem_Icc] at image
    omega
  have weights := @tight_weight_eq _ _ _ _ _ _ _ _ _ assignment.u assignment.v
    (fun i j => weightAt edges (i - 1) (j - 1)) (cardinalityBonus edges + 1) assignment.p onto
    once (by
      intro j member
      have row := rows j member
      rw [mem_Icc] at member
      have tight := assigned.tight j member.1 member.2 (by omega) row
      unfold reducedCost costAt at tight
      linarith)
  rw [← weights, ← sum_bonus]
  have list : ∑ j ∈ Finset.Icc 1 (matrixSize edges), weightAt edges (assignment.p j - 1) (j - 1) =
      ((range' 1 (matrixSize edges)).map fun j =>
        weightAt edges (assignment.p j - 1) (j - 1)).sum := by
    rw [← sum_toFinset _ nodup_range']
    apply Finset.sum_congr _ (fun _ _ => rfl)
    apply ext
    intro j
    rw [mem_Icc, mem_toFinset, mem_range'_1]
    omega
  rw [list, selected_weight assignment.p]
  · rfl
  · intro j member
    apply rows
    rw [mem_range'_1] at member
    rw [mem_Icc]
    omega

theorem one_to_one_nodup {pairs} (apart : OneToOne pairs) :
    pairs.Nodup := List.Nodup.of_map _ apart.a

theorem matching_bound (unit : UnitConfidence edges)
    (assigned : Assigned (matrixSize edges) (costAt edges) (matrixSize edges) assignment) (matching)
    (inside : ∀ edge ∈ matching, edge ∈ edges) (apart : OneToOne matching) :
    matching.length * cardinalityBonus edges + totalConfidence matching ≤
      (selectedEdges edges assignment.p).length * cardinalityBonus edges +
        totalConfidence (selectedEdges edges assignment.p) := by
  have sameA : ∀ edge ∈ matching, ∀ other ∈ matching,
      (cellOf edges edge).1 = (cellOf edges other).1 → edge = other := by
    intro edge member other member' same
    apply inj_on_of_nodup_map apart.a member member'
    have first := (index_of_a (inside edge member)).1
    have second := (index_of_a (inside other member')).1
    have index : (aIdsOf edges).idxOf edge.a.id = (aIdsOf edges).idxOf other.a.id := by
      unfold cellOf at same
      dsimp only at same
      omega
    rw [index] at first
    exact Option.some.inj (first.symm.trans second)
  have sameB : ∀ edge ∈ matching, ∀ other ∈ matching,
      (cellOf edges edge).2 = (cellOf edges other).2 → edge = other := by
    intro edge member other member' same
    apply inj_on_of_nodup_map apart.b member member'
    have first := (index_of_b (inside edge member)).1
    have second := (index_of_b (inside other member')).1
    have index : (bIdsOf edges).idxOf edge.b.id = (bIdsOf edges).idxOf other.b.id := by
      unfold cellOf at same
      dsimp only at same
      omega
    rw [index] at first
    exact Option.some.inj (first.symm.trans second)
  have cells : ∀ cell ∈ matching.toFinset.image (cellOf edges), ∃ edge ∈ matching,
      cellOf edges edge = cell := by
    intro cell member
    rw [mem_image] at member
    obtain ⟨edge, given⟩ := member
    exact ⟨edge, mem_toFinset.mp given.1, given.2⟩
  have bound := matching_weight_le (feasible_potentials unit assigned) rfl
    (matching.toFinset.image (cellOf edges)) (by
      intro cell member
      obtain ⟨edge, given⟩ := cells cell member
      rw [← given.2, mem_Icc, mem_Icc]
      have row := (index_of_a (inside edge given.1)).2
      have column := (index_of_b (inside edge given.1)).2
      unfold cellOf
      dsimp only
      omega) (by
      constructor
      · intro cell member cell' member' same
        obtain ⟨edge, given⟩ := cells cell member
        obtain ⟨other, given'⟩ := cells cell' member'
        rw [← given.2, ← given'.2] at same ⊢
        rw [sameA edge given.1 other given'.1 same]
      · intro cell member cell' member' same
        obtain ⟨edge, given⟩ := cells cell member
        obtain ⟨other, given'⟩ := cells cell' member'
        rw [← given.2, ← given'.2] at same ⊢
        rw [sameB edge given.1 other given'.1 same])
  rw [selected_bound assigned]
  apply le_trans _ bound
  rw [Finset.sum_image (by
    intro edge member other member' same
    rw [Finset.mem_coe, mem_toFinset] at member member'
    exact sameA edge member other member' (congrArg Prod.fst same))]
  rw [← sum_bonus, ← sum_toFinset _ (one_to_one_nodup apart)]
  apply Finset.sum_le_sum
  intro edge member
  exact weight_of_edge edge (inside edge (mem_toFinset.mp member))

/-- The selection has as many edges as any matching of the component, and among those of
its size none has a higher total confidence. -/
structure BestMatching (edges pairs : List ScoredConflationPair) : Prop where
  within : ∀ edge ∈ pairs, edge ∈ edges
  oneToOne : OneToOne pairs
  largest : ∀ matching : List ScoredConflationPair, (∀ edge ∈ matching, edge ∈ edges) →
    OneToOne matching → matching.length ≤ pairs.length
  heaviest : ∀ matching : List ScoredConflationPair, (∀ edge ∈ matching, edge ∈ edges) →
    OneToOne matching → matching.length = pairs.length →
    totalConfidence matching ≤ totalConfidence pairs

theorem total_confidence_bounds (unit : UnitConfidence edges)
    (pairs) (inside : ∀ edge ∈ pairs, edge ∈ edges) :
    0 ≤ totalConfidence pairs ∧ totalConfidence pairs ≤ pairs.length := by
  unfold totalConfidence
  induction pairs with
  | nil => simp
  | cons edge pairs ih =>
    have rest := ih fun other member => inside other (mem_cons_of_mem edge member)
    have one := unit edge (inside edge mem_cons_self)
    rw [map_cons, sum_cons, length_cons]
    push_cast
    constructor <;> linarith

theorem selected_best (readable : ReadableIds edges) (unit : UnitConfidence edges)
    (assigned : Assigned (matrixSize edges) (costAt edges) (matrixSize edges) assignment) :
    BestMatching edges (selectedEdges edges assignment.p) := by
  apply BestMatching.mk
  · intro edge member
    exact selected_mem member
  · exact selected_one_to_one readable assigned
  · intro matching inside apart
    have bound := matching_bound unit assigned matching inside apart
    have low := (total_confidence_bounds unit matching inside).1
    have high := (total_confidence_bounds unit (selectedEdges edges assignment.p)
      (fun edge member => selected_mem member)).2
    have few : (selectedEdges edges assignment.p).length ≤ matrixSize edges := by
      unfold selectedEdges
      apply (length_filterMap_le _ _).trans
      rw [length_range']
    by_contra more
    have count : ((selectedEdges edges assignment.p).length : ℚ) + 1 ≤ matching.length := by
      exact_mod_cast Nat.lt_of_not_le more
    have limit : ((selectedEdges edges assignment.p).length : ℚ) ≤ matrixSize edges := by
      exact_mod_cast few
    have bonus : 0 ≤ cardinalityBonus edges := bonus_nonneg
    have product := mul_le_mul_of_nonneg_right count bonus
    unfold cardinalityBonus at bound product
    linarith
  · intro matching inside apart same
    have bound := matching_bound unit assigned matching inside apart
    rw [same] at bound
    linarith

end

end OpenMapX.Places.ComponentOptimality
