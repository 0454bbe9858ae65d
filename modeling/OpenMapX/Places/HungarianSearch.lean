import OpenMapX.Places.HungarianLoops

/-!
# The Hungarian search

A row's search grows a tree of columns whose edges are tight for the potentials, and
moves the potentials by the least reduced cost that leaves the tree. It reaches a free
column, and the rows moved along the path to it stay on tight edges. After all rows the
matching is perfect, tight and feasible.
-/

namespace OpenMapX.Places.HungarianSearch

open PoiConflation HungarianLoops List Function

section

variable (size rows : Nat) (cost : Nat → Nat → ℚ) (p : Nat → Nat)

def Feasible (u v : Nat → ℚ) : Prop :=
  ∀ i j, 1 ≤ i → i ≤ size → 1 ≤ j → j ≤ size → 0 ≤ reducedCost cost u v i j

structure Placed (hole : Nat) : Prop where
  bound : ∀ j ≤ size, j ≠ hole → p j ≤ rows
  onto : ∀ i, 1 ≤ i → i ≤ rows → ∃ j ≤ size, j ≠ hole ∧ p j = i
  once : ∀ j ≤ size, ∀ k ≤ size, j ≠ hole → k ≠ hole → p j ≠ 0 → p j = p k → j = k

def Tight (u v : Nat → ℚ) (hole : Nat) : Prop :=
  ∀ j, 1 ≤ j → j ≤ size → j ≠ hole → p j ≠ 0 → reducedCost cost u v (p j) j = 0

def openColumns (used : Nat → Bool) : Finset Nat :=
  (Finset.range (size + 1)).filter fun j => used j = false

/-- The state at the head of the loop with the column `j0`, where `stamp` says how far
from the root a column of the tree is. -/
structure Tree (state : SearchState) (j0 : Nat) (stamp : Nat → Nat) : Prop where
  feasible : Feasible size cost state.u state.v
  tight : Tight size cost p state.u state.v (size + 1)
  headOpen : state.used j0 = false
  headColumn : j0 ≤ size
  inTree : ∀ j, state.used j = true → j ≤ size ∧ p j ≠ 0
  rooted : j0 ≠ 0 → state.used 0 = true
  least : ∀ j, 1 ≤ j → j ≤ size → state.used j = false → ∀ k, state.used k = true →
    ∃ m, state.minv j = some m ∧ m ≤ reducedCost cost state.u state.v (p k) j
  attained : ∀ j, 1 ≤ j → j ≤ size → state.used j = false → ∀ m, state.minv j = some m →
    state.used (state.way j) = true ∧
    reducedCost cost state.u state.v (p (state.way j)) j = m
  path : ∀ j, j ≠ 0 → (state.used j = true ∨ j = j0) →
    state.used (state.way j) = true ∧
    reducedCost cost state.u state.v (p (state.way j)) j = 0 ∧ stamp (state.way j) < stamp j
  short : ∀ j, (state.used j = true ∨ j = j0) →
    stamp j + (openColumns size state.used).card ≤ size + 1

def mark (state : SearchState) (j0 : Nat) : SearchState :=
  { state with used := Function.update state.used j0 true }

theorem mark_used (state : SearchState) (j0 j : Nat) :
    (mark state j0).used j = true ↔ (state.used j = true ∨ j = j0) := by
  unfold mark
  by_cases same : j = j0
  · simp [same]
  · simp [same]

theorem mark_open (state : SearchState) (j0 j : Nat) (still : (mark state j0).used j = false) :
    state.used j = false ∧ j ≠ j0 := by
  have unmarked : ¬ (state.used j = true ∨ j = j0) := by
    rw [← mark_used, still]
    decide
  rw [not_or] at unmarked
  exact ⟨Bool.eq_false_of_not_eq_true unmarked.1, unmarked.2⟩

variable {size rows cost p} {state : SearchState} {j0 : Nat} {stamp : Nat → Nat}

variable (tree : Tree size cost p state j0 stamp)
include tree

theorem mark_in_tree (taken : p j0 ≠ 0) (j : Nat)
    (used : (mark state j0).used j = true) : j ≤ size ∧ p j ≠ 0 := by
  rw [mark_used] at used
  rcases used with earlier | head
  · exact tree.inTree j earlier
  · rw [head]
    exact ⟨tree.headColumn, taken⟩

theorem mark_root : (mark state j0).used 0 = true := by
  rw [mark_used]
  by_cases root : j0 = 0
  · exact Or.inr root.symm
  · exact Or.inl (tree.rooted root)

omit tree in
theorem open_column (placed : Placed size rows p (size + 1)) (fits : rows ≤ size)
    (tree : Tree size cost p state j0 stamp) (taken : p j0 ≠ 0) :
    ∃ j, 1 ≤ j ∧ j ≤ size ∧ (mark state j0).used j = false := by
  by_contra none_
  have all : ∀ j ≤ size, (mark state j0).used j = true := by
    intro j inside
    by_contra unused
    rcases Nat.eq_zero_or_pos j with root | positive
    · rw [root] at unused
      exact unused (mark_root tree)
    · exact none_ ⟨j, positive, inside, Bool.eq_false_of_not_eq_true unused⟩
  have maps : ∀ j ∈ Finset.range (size + 1), p j ∈ Finset.Icc 1 rows := by
    intro j member
    have inside : j ≤ size := by
      rw [Finset.mem_range] at member
      omega
    have row := (mark_in_tree tree taken j (all j inside)).2
    have bound := placed.bound j inside (by omega)
    rw [Finset.mem_Icc]
    omega
  have injective : ∀ j ∈ Finset.range (size + 1), ∀ k ∈ Finset.range (size + 1),
      p j = p k → j = k := by
    intro j j_in k k_in same
    rw [Finset.mem_range] at j_in k_in
    apply placed.once j (by omega) k (by omega) (by omega) (by omega) _ same
    exact (mark_in_tree tree taken j (all j (by omega))).2
  have counts := Finset.card_le_card_of_injOn p maps injective
  rw [Finset.card_range, Nat.card_Icc] at counts
  omega

omit tree in
theorem tree_apart (placed : Placed size rows p (size + 1)) (tree : Tree size cost p state j0 stamp)
    (taken : p j0 ≠ 0) : ∀ k ≤ size, ∀ j ≤ size, k ≠ j → (mark state j0).used k = true →
      (mark state j0).used j = true → p k ≠ p j := by
  intro k k_in j j_in other used_k _ same
  apply other
  exact placed.once k k_in j j_in (by omega) (by omega)
    (mark_in_tree tree taken k used_k).2 same

theorem mark_open_count :
    (openColumns size (mark state j0).used).card + 1 = (openColumns size state.used).card := by
  have without : openColumns size (mark state j0).used =
      (openColumns size state.used).erase j0 := by
    apply Finset.ext
    intro j
    simp only [openColumns, Finset.mem_filter, Finset.mem_erase]
    constructor
    · intro still
      have apart := mark_open state j0 j still.2
      exact ⟨apart.2, still.1, apart.1⟩
    · intro still
      apply And.intro still.2.1
      apply Bool.eq_false_of_not_eq_true
      rw [mark_used]
      intro used
      rcases used with earlier | head
      · rw [still.2.2] at earlier
        cases earlier
      · exact still.1 head
  rw [without]
  apply Finset.card_erase_add_one
  simp only [openColumns, Finset.mem_filter, Finset.mem_range]
  have inside := tree.headColumn
  exact ⟨by omega, tree.headOpen⟩

theorem scan_least (j : Nat) (low : 1 ≤ j)
    (high : j ≤ size) (still : (mark state j0).used j = false) :
    ∃ m, (scanColumns size cost p (mark state j0) j0).minv j = some m ∧
      (∀ k, (mark state j0).used k = true → m ≤ reducedCost cost state.u state.v (p k) j) ∧
      (mark state j0).used ((scanColumns size cost p (mark state j0) j0).way j) = true ∧
      reducedCost cost state.u state.v
        (p ((scanColumns size cost p (mark state j0) j0).way j)) j = m := by
  have scanned := scan_columns cost p (mark state j0) j0 size
  have before := mark_open state j0 j still
  have looked : j ∈ range' 1 size ∧ (mark state j0).used j = false := by
    apply And.intro _ still
    rw [mem_range'_1]
    omega
  obtain ⟨m, finite⟩ := new_min_finite cost p (mark state j0) j0 j
  have bounds := new_min_le cost p (mark state j0) j0 j m finite
  apply Exists.intro m
  rw [scanned.minv j, scanned.way j, if_pos looked, if_pos looked]
  apply And.intro finite
  constructor
  · intro k used
    rw [mark_used] at used
    rcases used with earlier | head
    · obtain ⟨old, known⟩ := tree.least j low high before.1 k earlier
      exact (bounds.2 old known.1).trans known.2
    · rw [head]
      exact bounds.1
  · unfold newMin at finite
    unfold newWay
    split at finite
    · rename_i better
      rw [if_pos better]
      constructor
      · rw [mark_used]
        exact Or.inr rfl
      · exact Option.some.inj finite
    · rename_i kept
      rw [if_neg kept]
      have attained := tree.attained j low high before.1 m finite
      constructor
      · rw [mark_used]
        exact Or.inl attained.1
      · exact attained.2

omit tree

theorem scan_way_kept (state : SearchState) (j0 j : Nat) (used : (mark state j0).used j = true) :
    (scanColumns size cost p (mark state j0) j0).way j = state.way j := by
  rw [(scan_columns ..).way j, if_neg]
  · rfl
  · intro both
    rw [used] at both
    cases both.2

theorem scan_picks (placed : Placed size rows p (size + 1)) (fits : rows ≤ size)
    (tree : Tree size cost p state j0 stamp) (taken : p j0 ≠ 0) :
    ∃ delta, (scanColumns size cost p (mark state j0) j0).delta = some delta ∧
      let j1 := (scanColumns size cost p (mark state j0) j0).j1
      1 ≤ j1 ∧ j1 ≤ size ∧ (mark state j0).used j1 = false ∧
      (scanColumns size cost p (mark state j0) j0).minv j1 = some delta ∧
      ∀ j, 1 ≤ j → j ≤ size → (mark state j0).used j = false →
        ∀ k, (mark state j0).used k = true → delta ≤ reducedCost cost state.u state.v (p k) j := by
  have scanned := scan_columns cost p (mark state j0) j0 size
  have within : ∀ j, j ∈ range' 1 size ↔ 1 ≤ j ∧ j ≤ size := by
    intro j
    rw [mem_range'_1]
    omega
  obtain ⟨spare, free⟩ := open_column placed fits tree taken
  obtain ⟨delta, found⟩ := scanned.least spare ((within spare).mpr ⟨free.1, free.2.1⟩) free.2.2
  have chosen := scanned.chosen delta found.1
  have inside := (within _).mp chosen.1
  apply Exists.intro delta
  apply And.intro found.1
  refine ⟨inside.1, inside.2, chosen.2.1, ?_, ?_⟩
  · rw [scanned.minv, if_pos ⟨chosen.1, chosen.2.1⟩]
    exact chosen.2.2
  · intro j low high still k used
    obtain ⟨other, same⟩ := scanned.least j ((within j).mpr ⟨low, high⟩) still
    rw [found.1] at same
    have equal : delta = other := Option.some.inj same.1
    obtain ⟨m, known⟩ := scan_least tree j low high still
    have looked : j ∈ range' 1 size ∧ (mark state j0).used j = false :=
      ⟨(within j).mpr ⟨low, high⟩, still⟩
    have entry := known.1
    rw [scanned.minv j, if_pos looked] at entry
    rw [equal]
    exact (same.2 m entry).trans (known.2.1 k used)

section

variable {before after : SearchState} {delta : ℚ}
variable (shifted : Shifted p delta before (range (size + 1)) after)

include shifted

theorem moved_tree_row (k : Nat) (inside : k ≤ size) (used : before.used k = true) :
    after.u (p k) = before.u (p k) + delta :=
  shifted.tree k (mem_range.mpr (by omega)) used

theorem moved_tree_column (j : Nat) (inside : j ≤ size) (used : before.used j = true) :
    after.v j = before.v j - delta := by
  rw [shifted.v j, if_pos ⟨mem_range.mpr (by omega), used⟩]

theorem moved_open_column (j : Nat) (still : before.used j = false) : after.v j = before.v j := by
  rw [shifted.v j, if_neg]
  intro both
  rw [still] at both
  cases both.2

theorem moved_inside (k j : Nat) (k_in : k ≤ size) (j_in : j ≤ size)
    (used_k : before.used k = true) (used_j : before.used j = true) :
    reducedCost cost after.u after.v (p k) j = reducedCost cost before.u before.v (p k) j := by
  unfold reducedCost
  rw [moved_tree_row shifted k k_in used_k, moved_tree_column shifted j j_in used_j]
  ring

theorem moved_leaving (k j : Nat) (k_in : k ≤ size) (used : before.used k = true)
    (still : before.used j = false) : reducedCost cost after.u after.v (p k) j =
      reducedCost cost before.u before.v (p k) j - delta := by
  unfold reducedCost
  rw [moved_tree_row shifted k k_in used, moved_open_column shifted j still]
  ring

section

variable (i j : Nat) (outside : ∀ k ≤ size, before.used k = true → p k ≠ i)
include outside

theorem moved_entering (j_in : j ≤ size) (used : before.used j = true) :
    reducedCost cost after.u after.v i j = reducedCost cost before.u before.v i j + delta := by
  unfold reducedCost
  rw [shifted.outside i (fun k member => outside k (by rw [mem_range] at member; omega)),
    moved_tree_column shifted j j_in used]
  ring

theorem moved_outside (still : before.used j = false) :
    reducedCost cost after.u after.v i j = reducedCost cost before.u before.v i j := by
  unfold reducedCost
  rw [shifted.outside i (fun k member => outside k (by rw [mem_range] at member; omega)),
    moved_open_column shifted j still]

end

theorem moved_feasible (feasible : Feasible size cost before.u before.v) (nonneg : 0 ≤ delta)
    (minimum : ∀ j, 1 ≤ j → j ≤ size → before.used j = false → ∀ k, before.used k = true →
      delta ≤ reducedCost cost before.u before.v (p k) j) : Feasible size cost after.u after.v := by
  intro i j low_i high_i low_j high_j
  have was := feasible i j low_i high_i low_j high_j
  by_cases row : ∃ k ≤ size, before.used k = true ∧ p k = i
  · obtain ⟨k, k_in, used_k, same⟩ := row
    rw [← same] at was ⊢
    by_cases used : before.used j = true
    · rw [moved_inside shifted k j k_in high_j used_k used]
      exact was
    · have still := Bool.eq_false_of_not_eq_true used
      rw [moved_leaving shifted k j k_in used_k still]
      exact sub_nonneg.mpr (minimum j low_j high_j still k used_k)
  · have outside : ∀ k ≤ size, before.used k = true → p k ≠ i := by
      intro k k_in used same
      exact row ⟨k, k_in, used, same⟩
    by_cases used : before.used j = true
    · rw [moved_entering shifted i j outside high_j used]
      exact add_nonneg was nonneg
    · rw [moved_outside shifted i j outside (Bool.eq_false_of_not_eq_true used)]
      exact was

theorem moved_tight {hole : Nat} (tight : Tight size cost p before.u before.v hole)
    (treeRow : ∀ j, 1 ≤ j → j ≤ size → p j ≠ 0 → before.used j = false →
      ∀ k ≤ size, before.used k = true → p k ≠ p j) : Tight size cost p after.u after.v hole := by
  intro j low high other row
  have was := tight j low high other row
  by_cases used : before.used j = true
  · rw [moved_inside shifted j j high high used used]
    exact was
  · have still := Bool.eq_false_of_not_eq_true used
    rw [moved_outside shifted (p j) j (treeRow j low high row still) still]
    exact was

end

def scannedState (size : Nat) (cost : Nat → Nat → ℚ) (p : Nat → Nat) (state : SearchState)
    (j0 : Nat) : SearchState :=
  { mark state j0 with
    minv := (scanColumns size cost p (mark state j0) j0).minv
    way := (scanColumns size cost p (mark state j0) j0).way }

theorem tree_grows (placed : Placed size rows p (size + 1)) (fits : rows ≤ size)
    (tree : Tree size cost p state j0 stamp) (taken : p j0 ≠ 0) :
    ∃ delta next, (scanColumns size cost p (mark state j0) j0).delta = some delta ∧
      1 ≤ (scanColumns size cost p (mark state j0) j0).j1 ∧
      Tree size cost p (shiftPotentials size p delta (scannedState size cost p state j0))
        (scanColumns size cost p (mark state j0) j0).j1 next ∧ (openColumns size
        (shiftPotentials size p delta (scannedState size cost p state j0)).used).card + 1 =
        (openColumns size state.used).card := by
  obtain ⟨delta, picked⟩ := scan_picks placed fits tree taken
  have shifted := shift_potentials p delta (scannedState size cost p state j0) size
    (tree_apart placed tree taken)
  generalize final : shiftPotentials size p delta (scannedState size cost p state j0) = after
    at shifted
  generalize next : (scanColumns size cost p (mark state j0) j0).j1 = j1 at picked ⊢
  have first : 1 ≤ j1 := picked.2.1
  have inside : j1 ≤ size := picked.2.2.1
  have open_ : (mark state j0).used j1 = false := picked.2.2.2.1
  have minimum : ∀ j, 1 ≤ j → j ≤ size → (mark state j0).used j = false →
      ∀ k, (mark state j0).used k = true →
        delta ≤ reducedCost cost state.u state.v (p k) j := picked.2.2.2.2.2
  have inTree := mark_in_tree tree taken
  have usedAfter : after.used = (mark state j0).used := shifted.used
  have wayAfter : after.way = (scanColumns size cost p (mark state j0) j0).way := shifted.way
  -- a row of the tree is a real row
  have realRow : ∀ k, (mark state j0).used k = true → 1 ≤ p k ∧ p k ≤ size := by
    intro k used
    have member := inTree k used
    have bound := placed.bound k member.1 (by omega)
    omega
  have nonneg : 0 ≤ delta := by
    obtain ⟨m, known⟩ := scan_least tree j1 first inside open_
    have entry := picked.2.2.2.2.1
    rw [known.1] at entry
    have equal : m = delta := Option.some.inj entry
    have row := realRow _ known.2.2.1
    rw [← equal, ← known.2.2.2]
    exact tree.feasible _ j1 row.1 row.2 first inside
  have treeRow : ∀ j, 1 ≤ j → j ≤ size → p j ≠ 0 → (mark state j0).used j = false →
      ∀ k ≤ size, (mark state j0).used k = true → p k ≠ p j := by
    intro j low high row still k k_in used same
    have equal := placed.once k k_in j high (by omega) (by omega) (inTree k used).2 same
    rw [equal, still] at used
    cases used
  apply Exists.intro delta
  apply Exists.intro (Function.update stamp j1
    (stamp ((scanColumns size cost p (mark state j0) j0).way j1) + 1))
  apply And.intro picked.1
  apply And.intro first
  rw [final]
  have count : (openColumns size after.used).card + 1 =
      (openColumns size state.used).card := by
    rw [usedAfter]
    exact mark_open_count tree
  apply And.intro _ count
  apply Tree.mk
  · exact moved_feasible shifted tree.feasible nonneg minimum
  · exact moved_tight shifted tree.tight treeRow
  · rw [usedAfter]
    exact open_
  · exact inside
  · intro j used
    rw [usedAfter] at used
    exact inTree j used
  · intro _
    rw [usedAfter]
    exact mark_root tree
  · -- least
    intro j low high still k used
    rw [usedAfter] at still used
    obtain ⟨m, known⟩ := scan_least tree j low high still
    apply Exists.intro (m - delta)
    constructor
    · rw [shifted.minv j, if_pos ⟨mem_range.mpr (by omega), still⟩]
      change ((scanColumns size cost p (mark state j0) j0).minv j).map (· - delta) = _
      rw [known.1]
      rfl
    · rw [moved_leaving shifted k j (inTree k used).1 used still]
      have bound := known.2.1 k used
      change m - delta ≤ reducedCost cost state.u state.v (p k) j - delta
      linarith
  · -- attained
    intro j low high still m' value
    rw [usedAfter] at still ⊢
    rw [wayAfter]
    obtain ⟨m, known⟩ := scan_least tree j low high still
    rw [shifted.minv j, if_pos ⟨mem_range.mpr (by omega), still⟩] at value
    change ((scanColumns size cost p (mark state j0) j0).minv j).map (· - delta) = _ at value
    rw [known.1] at value
    have equal : m - delta = m' := Option.some.inj value
    apply And.intro known.2.2.1
    rw [moved_leaving shifted _ j (inTree _ known.2.2.1).1 known.2.2.1 still, ← equal]
    change reducedCost cost state.u state.v _ j - delta = m - delta
    rw [known.2.2.2]
  · -- path
    intro j positive member
    rw [usedAfter] at member ⊢
    rw [wayAfter]
    rcases member with used | last
    · have other : j ≠ j1 := by
        intro same
        rw [same, open_] at used
        cases used
      rw [scan_way_kept state j0 j used]
      have was := tree.path j positive ((mark_used state j0 j).mp used)
      have marked : (mark state j0).used (state.way j) = true :=
        (mark_used state j0 _).mpr (Or.inl was.1)
      have otherWay : state.way j ≠ j1 := by
        intro same
        rw [same, open_] at marked
        cases marked
      apply And.intro marked
      rw [moved_inside shifted _ j (inTree _ marked).1 (inTree j used).1 marked used]
      apply And.intro was.2.1
      rw [update_of_ne otherWay, update_of_ne other]
      exact was.2.2
    · rw [last]
      obtain ⟨m, known⟩ := scan_least tree j1 first inside open_
      have entry := picked.2.2.2.2.1
      rw [known.1] at entry
      have equal : m = delta := Option.some.inj entry
      have otherWay : (scanColumns size cost p (mark state j0) j0).way j1 ≠ j1 := by
        intro same
        have used := known.2.2.1
        rw [same, open_] at used
        cases used
      apply And.intro known.2.2.1
      constructor
      · rw [moved_leaving shifted _ j1 (inTree _ known.2.2.1).1 known.2.2.1 open_]
        change reducedCost cost state.u state.v _ j1 - delta = 0
        rw [known.2.2.2, equal, sub_self]
      · rw [update_of_ne otherWay, update_self]
        omega
  · -- short
    intro j member
    rw [usedAfter] at member
    rcases member with used | last
    · have other : j ≠ j1 := by
        intro same
        rw [same, open_] at used
        cases used
      rw [update_of_ne other]
      have was := tree.short j ((mark_used state j0 j).mp used)
      omega
    · rw [last, update_self]
      obtain ⟨m, known⟩ := scan_least tree j1 first inside open_
      have was := tree.short _ ((mark_used state j0 _).mp known.2.2.1)
      omega

theorem search_finds (placed : Placed size rows p (size + 1)) (fits : rows ≤ size)
    (fuel : Nat) (tree : Tree size cost p state j0 stamp) (taken : p j0 ≠ 0)
    (enough : (openColumns size state.used).card ≤ fuel) :
    ∃ found after next, searchColumn size cost p fuel j0 state = some (found, after) ∧
      1 ≤ found ∧ p found = 0 ∧ Tree size cost p after found next := by
  induction fuel generalizing state j0 stamp with
  | zero =>
    have count := mark_open_count tree
    omega
  | succ fuel ih =>
    obtain ⟨delta, next, grown⟩ := tree_grows placed fits tree taken
    have body : searchColumn size cost p (fuel + 1) j0 state =
        (if p (scanColumns size cost p (mark state j0) j0).j1 ≠ 0 then
          searchColumn size cost p fuel (scanColumns size cost p (mark state j0) j0).j1
            (shiftPotentials size p delta (scannedState size cost p state j0))
        else some ((scanColumns size cost p (mark state j0) j0).j1,
          shiftPotentials size p delta (scannedState size cost p state j0))) := by
      have chosen := grown.1
      unfold mark at chosen
      conv_lhs => unfold searchColumn
      dsimp only
      rw [chosen]
      rfl
    rw [body]
    by_cases more : p (scanColumns size cost p (mark state j0) j0).j1 = 0
    · rw [if_neg (not_not.mpr more)]
      exact ⟨_, _, next, rfl, grown.2.1, more, grown.2.2.1⟩
    · rw [if_pos more]
      apply ih grown.2.2.1 more
      have count := grown.2.2.2
      omega

end

section

variable {size rows : Nat} {cost : Nat → Nat → ℚ} {p : Nat → Nat} {state : SearchState}
variable {found : Nat} {stamp : Nat → Nat}

theorem augment_moves (tree : Tree size cost p state found stamp) (fuel : Nat) (current : Nat → Nat)
    (hole : Nat) (onPath : state.used hole = true ∨ hole = found) (positive : hole ≠ 0)
    (inside : hole ≤ size) (enough : stamp hole ≤ fuel) (placed : Placed size rows current hole)
    (tight : Tight size cost current state.u state.v hole)
    (ahead : ∀ j, state.used j = true → stamp j < stamp hole → current j = p j) :
    ∃ moved, augment state.way fuel current hole = some moved ∧ Placed size rows moved 0 ∧
      Tight size cost moved state.u state.v 0 := by
  induction fuel generalizing current hole with
  | zero =>
    have later := (tree.path hole positive onPath).2.2
    omega
  | succ fuel ih =>
    have link := tree.path hole positive onPath
    have parent := tree.inTree _ link.1
    have kept := ahead _ link.1 link.2.2
    have other : state.way hole ≠ hole := by
      intro same
      have later := link.2.2
      rw [same] at later
      omega
    have placedNext : Placed size rows
        (Function.update current hole (current (state.way hole))) (state.way hole) := by
      apply Placed.mk
      · intro j j_in apart
        by_cases same : j = hole
        · rw [same, update_self]
          exact placed.bound _ parent.1 other
        · rw [update_of_ne same]
          exact placed.bound j j_in same
      · intro i low high
        obtain ⟨j, held⟩ := placed.onto i low high
        by_cases source : j = state.way hole
        · apply Exists.intro hole
          rw [update_self, ← source]
          exact ⟨inside, by rw [source]; exact other.symm, held.2.2⟩
        · apply Exists.intro j
          rw [update_of_ne held.2.1]
          exact ⟨held.1, source, held.2.2⟩
      · intro j j_in k k_in apart_j apart_k row same
        by_cases first : j = hole
        · by_cases second : k = hole
          · rw [first, second]
          · rw [first, update_self, update_of_ne second] at same
            have equal := placed.once _ parent.1 k k_in other second
              (by rw [kept]; exact parent.2) same
            exact absurd equal.symm apart_k
        · rw [update_of_ne first] at row same
          by_cases second : k = hole
          · rw [second, update_self] at same
            have equal := placed.once j j_in _ parent.1 first other row same
            exact absurd equal apart_j
          · rw [update_of_ne second] at same
            exact placed.once j j_in k k_in first second row same
    have tightNext : Tight size cost
        (Function.update current hole (current (state.way hole))) state.u state.v
        (state.way hole) := by
      intro j low high apart row
      by_cases same : j = hole
      · rw [same, update_self, kept]
        exact link.2.1
      · rw [update_of_ne same] at row ⊢
        exact tight j low high same row
    unfold augment
    dsimp only
    by_cases root : state.way hole = 0
    · rw [if_neg (not_not.mpr root)]
      rw [root] at placedNext tightNext
      rw [root]
      exact ⟨_, rfl, placedNext, tightNext⟩
    · rw [if_pos root]
      apply ih _ _ (Or.inl link.1) root parent.1 (by omega) placedNext tightNext
      intro j used before
      have apart : j ≠ hole := by
        intro same
        rw [same] at before
        omega
      rw [update_of_ne apart]
      exact ahead j used (by omega)

end

/-- The first `rows` rows are matched on tight edges, and the potentials are feasible. -/
structure Assigned (size : Nat) (cost : Nat → Nat → ℚ) (rows : Nat) (assignment : Assignment) :
    Prop where
  placed : Placed size rows assignment.p 0
  tight : Tight size cost assignment.p assignment.u assignment.v 0
  feasible : Feasible size cost assignment.u assignment.v

theorem row_assigned {size : Nat} {cost : Nat → Nat → ℚ} {rows fuel : Nat}
    {assignment} (assigned : Assigned size cost rows assignment)
    (fits : rows + 1 ≤ size) (enough : size + 1 ≤ fuel) :
    ∃ after, assignRow fuel size cost assignment (rows + 1) = some after ∧
      Assigned size cost (rows + 1) after := by
  have placed : Placed size (rows + 1) (Function.update assignment.p 0 (rows + 1)) (size + 1) := by
    apply Placed.mk
    · intro j j_in _
      by_cases root : j = 0
      · rw [root, update_self]
      · rw [update_of_ne root]
        have bound := assigned.placed.bound j j_in root
        omega
    · intro i low high
      by_cases last : i = rows + 1
      · exact ⟨0, by omega, by omega, by rw [update_self, last]⟩
      · obtain ⟨j, held⟩ := assigned.placed.onto i low (by omega)
        apply Exists.intro j
        rw [update_of_ne held.2.1]
        exact ⟨held.1, by omega, held.2.2⟩
    · intro j j_in k k_in _ _ row same
      by_cases first : j = 0
      · by_cases second : k = 0
        · rw [first, second]
        · rw [first, update_self, update_of_ne second] at same
          have bound := assigned.placed.bound k k_in second
          omega
      · by_cases second : k = 0
        · rw [second, update_self, update_of_ne first] at same
          have bound := assigned.placed.bound j j_in first
          omega
        · rw [update_of_ne first] at row same
          rw [update_of_ne second] at same
          exact assigned.placed.once j j_in k k_in first second row same
  have tight : Tight size cost (Function.update assignment.p 0 (rows + 1))
      assignment.u assignment.v (size + 1) := by
    intro j low high _ row
    have other : j ≠ 0 := by omega
    rw [update_of_ne other] at row ⊢
    exact assigned.tight j low high other row
  have tree : Tree size cost (Function.update assignment.p 0 (rows + 1))
      { u := assignment.u, v := assignment.v, way := assignment.way
        minv := fun _ => none, used := fun _ => false } 0 (fun _ => 0) := by
    apply Tree.mk assigned.feasible tight rfl (Nat.zero_le size)
    · intro j used
      cases used
    · intro other
      exact absurd rfl other
    · intro j _ _ _ k used
      cases used
    · intro j _ _ _ m value
      cases value
    · intro j other member
      rcases member with used | head
      · cases used
      · exact absurd head other
    · intro j _
      simp [openColumns]
  have all : (openColumns size fun _ => false).card ≤ fuel := by
    simp only [openColumns, Finset.filter_true, Finset.card_range]
    exact enough
  have taken : Function.update assignment.p 0 (rows + 1) 0 ≠ 0 := by
    rw [update_self]
    omega
  obtain ⟨found, rest⟩ := search_finds placed fits fuel tree taken all
  obtain ⟨state, stamp, searched⟩ := rest
  have grown := searched.2.2.2
  have placedHole : Placed size (rows + 1)
      (Function.update assignment.p 0 (rows + 1)) found := by
    apply Placed.mk
    · intro j j_in _
      exact placed.bound j j_in (by omega)
    · intro i low high
      obtain ⟨j, held⟩ := placed.onto i low high
      apply Exists.intro j
      apply And.intro held.1
      apply And.intro _ held.2.2
      intro same
      rw [same, searched.2.2.1] at held
      omega
    · intro j j_in k k_in _ _ row same
      exact placed.once j j_in k k_in (by omega) (by omega) row same
  have tightHole : Tight size cost (Function.update assignment.p 0 (rows + 1))
      state.u state.v found := by
    intro j low high _ row
    exact grown.tight j low high (by omega) row
  have short := grown.short found (Or.inr rfl)
  cases augment_moves grown fuel _ found (Or.inr rfl) (by omega) grown.headColumn
      (by omega) placedHole tightHole (fun _ _ _ => rfl) with
  | intro moved augmented =>
    unfold assignRow
    dsimp only
    rw [searched.1, Option.bind_some, augmented.1, Option.map_some]
    exact ⟨_, rfl, augmented.2.1, augmented.2.2, grown.feasible⟩

theorem rows_assigned_from {size : Nat} {cost : Nat → Nat → ℚ} {fuel : Nat}
    (enough : size + 1 ≤ fuel) (count rows : Nat) (fits : rows + count ≤ size)
    (assignment : Assignment) (assigned : Assigned size cost rows assignment) :
    ∃ after, (range' (rows + 1) count).foldlM (assignRow fuel size cost) assignment =
      some after ∧ Assigned size cost (rows + count) after := by
  induction count generalizing rows assignment with
  | zero => exact ⟨assignment, rfl, assigned⟩
  | succ count ih =>
    obtain ⟨next, step⟩ := row_assigned assigned (by omega) enough
    obtain ⟨after, rest⟩ := ih (rows + 1) (by omega) next step.2
    apply Exists.intro after
    rw [range'_succ, foldlM_cons, step.1]
    apply And.intro rest.1
    have total : rows + (count + 1) = rows + 1 + count := by omega
    rw [total]
    exact rest.2

theorem rows_assigned (fuel size : Nat) (cost : Nat → Nat → ℚ) (enough : size + 1 ≤ fuel)
    (costs : ∀ i j, i < size → j < size → 0 ≤ cost i j) :
    ∃ assignment, assignRows fuel size cost = some assignment ∧
      Assigned size cost size assignment := by
  have initially : Assigned size cost 0
      { u := fun _ => 0, v := fun _ => 0, p := fun _ => 0, way := fun _ => 0 } := by
    apply Assigned.mk
    · apply Placed.mk
      · intro j _ _
        exact le_rfl
      · intro i low high
        omega
      · intro j _ k _ _ _ row
        exact absurd rfl row
    · intro j _ _ _ row
      exact absurd rfl row
    · intro i j low_i high_i low_j high_j
      have known := costs (i - 1) (j - 1) (by omega) (by omega)
      unfold reducedCost
      linarith
  have assigned := rows_assigned_from enough size 0 (by omega) _ initially
  simp only [Nat.zero_add] at assigned
  exact assigned

end OpenMapX.Places.HungarianSearch
