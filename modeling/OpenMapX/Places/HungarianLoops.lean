import OpenMapX.Places.PoiConflation

/-!
# The loops of the Hungarian search

What the loop over the columns has made of its variables, and what the loop that moves
the potentials has made of the arrays, after any of their rounds.
-/

namespace OpenMapX.Places.HungarianLoops

open PoiConflation List Function

/-- `x` does not exceed the extended value. -/
def AtMost (x : ℚ) (bound : Extended) : Prop := ∀ y, bound = some y → x ≤ y

section

variable (cost : Nat → Nat → ℚ) (p : Nat → Nat) (state : SearchState) (j0 : Nat)

def reducedCost (u v : Nat → ℚ) (i j : Nat) : ℚ := cost (i - 1) (j - 1) - u i - v j

def improvesAt (j : Nat) : Bool :=
  Extended.less (some (reducedCost cost state.u state.v (p j0) j)) (state.minv j)

def newMin (j : Nat) : Extended :=
  if improvesAt cost p state j0 j then some (reducedCost cost state.u state.v (p j0) j)
  else state.minv j

def newWay (j : Nat) : Nat := if improvesAt cost p state j0 j then j0 else state.way j

theorem new_min_finite (j : Nat) : ∃ m, newMin cost p state j0 j = some m := by
  unfold newMin
  split
  · exact ⟨_, rfl⟩
  · rename_i kept
    cases least : state.minv j with
    | none =>
      unfold improvesAt at kept
      rw [least] at kept
      exact absurd rfl kept
    | some m => exact ⟨m, rfl⟩

theorem new_min_le (j : Nat) (m : ℚ) (least : newMin cost p state j0 j = some m) :
    m ≤ reducedCost cost state.u state.v (p j0) j ∧ AtMost m (state.minv j) := by
  unfold newMin at least
  split at least
  · rename_i better
    cases least
    apply And.intro le_rfl
    intro y old
    unfold improvesAt at better
    rw [old] at better
    simp only [Extended.less, decide_eq_true_eq] at better
    exact better.le
  · rename_i kept
    constructor
    · unfold improvesAt at kept
      rw [least] at kept
      simp only [Extended.less, decide_eq_true_eq, not_lt] at kept
      exact kept
    · intro y old
      rw [least] at old
      exact (Option.some.inj old).le

structure Scanned (columns : List Nat) (scan : ColumnScan) : Prop where
  minv : ∀ j, scan.minv j = if j ∈ columns ∧ state.used j = false
    then newMin cost p state j0 j else state.minv j
  way : ∀ j, scan.way j = if j ∈ columns ∧ state.used j = false
    then newWay cost p state j0 j else state.way j
  least : ∀ j ∈ columns, state.used j = false →
    ∃ delta, scan.delta = some delta ∧ AtMost delta (newMin cost p state j0 j)
  chosen : ∀ delta, scan.delta = some delta →
    scan.j1 ∈ columns ∧ state.used scan.j1 = false ∧ newMin cost p state j0 scan.j1 = some delta

theorem scanned_nil : Scanned cost p state j0 []
    { minv := state.minv, way := state.way, delta := none, j1 := 0 } := by
  apply Scanned.mk
  · intro j
    simp
  · intro j
    simp
  · intro j member
    cases member
  · intro delta given
    cases given

theorem scanned_snoc (columns : List Nat) (scan : ColumnScan) (j : Nat) (new : j ∉ columns)
    (scanned : Scanned cost p state j0 columns scan) :
    Scanned cost p state j0 (columns ++ [j]) (scanColumn cost p state j0 scan j) := by
  unfold scanColumn
  split
  · rename_i used
    apply Scanned.mk
    · intro k
      rw [scanned.minv k]
      by_cases same : k = j
      · rw [same]
        simp [used]
      · simp [same]
    · intro k
      rw [scanned.way k]
      by_cases same : k = j
      · rw [same]
        simp [used]
      · simp [same]
    · refine forall_mem_append.mpr ⟨scanned.least, forall_mem_singleton.mpr ?_⟩
      intro unused
      rw [used] at unused
      cases unused
    · intro delta given
      have chosen := scanned.chosen delta given
      exact ⟨mem_append_left [j] chosen.1, chosen.2⟩
  · rename_i open_
    have unused : state.used j = false := Bool.eq_false_of_not_eq_true open_
    have oldMin : scan.minv j = state.minv j := by
      rw [scanned.minv j, if_neg (fun both => new both.1)]
    have oldWay : scan.way j = state.way j := by
      rw [scanned.way j, if_neg (fun both => new both.1)]
    have decides : Extended.less
        (some (cost (p j0 - 1) (j - 1) - state.u (p j0) - state.v j)) (scan.minv j) =
        improvesAt cost p state j0 j := by
      rw [oldMin]
      rfl
    have scannedNow : j ∈ columns ++ [j] ∧ state.used j = false := ⟨by simp, unused⟩
    dsimp only
    rw [decides]
    have minvs : ∀ k, (if improvesAt cost p state j0 j then
        Function.update scan.minv j
          (some (cost (p j0 - 1) (j - 1) - state.u (p j0) - state.v j)) else scan.minv) k =
        if k ∈ columns ++ [j] ∧ state.used k = false then newMin cost p state j0 k
        else state.minv k := by
      intro k
      by_cases same : k = j
      · rw [same, if_pos scannedNow]
        unfold newMin
        split
        · rw [update_self]
          rfl
        · exact oldMin
      · have others : (if improvesAt cost p state j0 j then
            Function.update scan.minv j
              (some (cost (p j0 - 1) (j - 1) - state.u (p j0) - state.v j)) else scan.minv) k =
            scan.minv k := by
          split
          · exact update_of_ne same _ _
          · rfl
        rw [others, scanned.minv k]
        simp [same]
    have ways : ∀ k, (if improvesAt cost p state j0 j then
        Function.update scan.way j j0 else scan.way) k =
        if k ∈ columns ++ [j] ∧ state.used k = false then newWay cost p state j0 k
        else state.way k := by
      intro k
      by_cases same : k = j
      · rw [same, if_pos scannedNow]
        unfold newWay
        split
        · rw [update_self]
        · exact oldWay
      · have others : (if improvesAt cost p state j0 j then
            Function.update scan.way j j0 else scan.way) k = scan.way k := by
          split
          · exact update_of_ne same _ _
          · rfl
        rw [others, scanned.way k]
        simp [same]
    have here := minvs j
    rw [if_pos scannedNow] at here
    generalize (if improvesAt cost p state j0 j then
      Function.update scan.minv j
        (some (cost (p j0 - 1) (j - 1) - state.u (p j0) - state.v j)) else scan.minv) = minv
      at minvs here ⊢
    generalize (if improvesAt cost p state j0 j then
      Function.update scan.way j j0 else scan.way) = way at ways ⊢
    obtain ⟨m, finite⟩ := new_min_finite cost p state j0 j
    split
    · rename_i smaller
      apply Scanned.mk minvs ways
      · intro k member open_k
        dsimp only
        rw [here]
        apply Exists.intro m
        apply And.intro finite
        rw [mem_append, mem_singleton] at member
        rcases member with earlier | last
        · obtain ⟨delta, known⟩ := scanned.least k earlier open_k
          intro y value
          rw [here, finite, known.1] at smaller
          simp only [Extended.less, decide_eq_true_eq] at smaller
          exact smaller.le.trans (known.2 y value)
        · rw [last]
          intro y value
          rw [finite] at value
          exact (Option.some.inj value).le
      · intro delta given
        dsimp only at given ⊢
        rw [here] at given
        exact ⟨by simp, unused, given⟩
    · rename_i larger
      rw [here, finite] at larger
      apply Scanned.mk minvs ways
      · intro k member open_k
        dsimp only
        rw [mem_append, mem_singleton] at member
        rcases member with earlier | last
        · exact scanned.least k earlier open_k
        · cases known : scan.delta with
          | none =>
            rw [known] at larger
            exact absurd rfl larger
          | some delta =>
            rw [known] at larger
            simp only [Extended.less, decide_eq_true_eq, not_lt] at larger
            apply Exists.intro delta
            apply And.intro rfl
            rw [last]
            intro y value
            rw [finite] at value
            exact larger.trans (Option.some.inj value).le
      · intro delta given
        have chosen := scanned.chosen delta given
        exact ⟨mem_append_left [j] chosen.1, chosen.2⟩

theorem scanned_fold (earlier columns : List Nat) (distinct : (earlier ++ columns).Nodup)
    (scan : ColumnScan) (scanned : Scanned cost p state j0 earlier scan) :
    Scanned cost p state j0 (earlier ++ columns)
      (columns.foldl (scanColumn cost p state j0) scan) := by
  induction columns generalizing earlier scan with
  | nil =>
    rw [append_nil]
    exact scanned
  | cons j columns ih =>
    have split : earlier ++ j :: columns = (earlier ++ [j]) ++ columns := by simp
    rw [split] at distinct ⊢
    rw [foldl_cons]
    apply ih _ distinct
    apply scanned_snoc _ _ _ _ _ _ _ _ scanned
    intro member
    have front := (nodup_append.mp distinct).1
    have apart := (nodup_append.mp front).2.2
    exact apart j member j (mem_singleton.mpr rfl) rfl

theorem scan_columns (size : Nat) :
    Scanned cost p state j0 (range' 1 size) (scanColumns size cost p state j0) := by
  have scanned := scanned_fold cost p state j0 [] (range' 1 size)
    (by simpa using nodup_range') _ (scanned_nil cost p state j0)
  exact scanned

end

section

variable (p : Nat → Nat) (delta : ℚ) (before : SearchState)

structure Shifted (columns : List Nat) (after : SearchState) : Prop where
  used : after.used = before.used
  way : after.way = before.way
  tree : ∀ j ∈ columns, before.used j = true → after.u (p j) = before.u (p j) + delta
  outside : ∀ i, (∀ j ∈ columns, before.used j = true → p j ≠ i) → after.u i = before.u i
  v : ∀ j, after.v j = if j ∈ columns ∧ before.used j = true
    then before.v j - delta else before.v j
  minv : ∀ j, after.minv j = if j ∈ columns ∧ before.used j = false
    then (before.minv j).map (· - delta) else before.minv j

theorem shifted_nil : Shifted p delta before [] before := by
  apply Shifted.mk rfl rfl
  · intro j member
    cases member
  · intro i outside
    rfl
  · intro j
    simp
  · intro j
    simp

theorem shifted_snoc (columns : List Nat) (after : SearchState) (j : Nat) (new : j ∉ columns)
    (apart : ∀ k ∈ columns, before.used k = true → before.used j = true → p k ≠ p j)
    (shifted : Shifted p delta before columns after) :
    Shifted p delta before (columns ++ [j]) (shiftColumn p delta after j) := by
  unfold shiftColumn
  rw [shifted.used]
  split
  · rename_i used
    have unmoved : after.u (p j) = before.u (p j) :=
      shifted.outside (p j) (fun k member used_k => apart k member used_k used)
    have still : after.v j = before.v j := by
      rw [shifted.v j, if_neg (fun both => new both.1)]
    apply Shifted.mk
    · rfl
    · exact shifted.way
    · intro k member used_k
      dsimp only
      rw [mem_append, mem_singleton] at member
      rcases member with earlier | last
      · rw [update_of_ne (apart k earlier used_k used)]
        exact shifted.tree k earlier used_k
      · rw [last, update_self, unmoved]
    · intro i outside
      dsimp only
      have other : i ≠ p j := (outside j (by simp) used).symm
      rw [update_of_ne other]
      exact shifted.outside i (fun k member used_k =>
        outside k (mem_append_left [j] member) used_k)
    · intro k
      dsimp only
      by_cases same : k = j
      · rw [same, update_self, still, if_pos ⟨by simp, used⟩]
      · rw [update_of_ne same, shifted.v k]
        simp [same]
    · intro k
      dsimp only
      rw [shifted.minv k]
      by_cases same : k = j
      · rw [same]
        simp [used]
      · simp [same]
  · rename_i open_
    have unused : before.used j = false := Bool.eq_false_of_not_eq_true open_
    have still : after.minv j = before.minv j := by
      rw [shifted.minv j, if_neg (fun both => new both.1)]
    apply Shifted.mk
    · rfl
    · exact shifted.way
    · refine forall_mem_append.mpr ⟨shifted.tree, forall_mem_singleton.mpr ?_⟩
      intro used_k
      rw [unused] at used_k
      cases used_k
    · intro i outside
      exact shifted.outside i (fun k member used_k =>
        outside k (mem_append_left [j] member) used_k)
    · intro k
      dsimp only
      rw [shifted.v k]
      by_cases same : k = j
      · rw [same]
        simp [unused]
      · simp [same]
    · intro k
      dsimp only
      by_cases same : k = j
      · rw [same, update_self, still, if_pos ⟨by simp, unused⟩]
      · rw [update_of_ne same, shifted.minv k]
        simp [same]

theorem shifted_fold (earlier columns : List Nat) (after : SearchState)
    (distinct : (earlier ++ columns).Nodup)
    (apart : ∀ k ∈ earlier ++ columns, ∀ j ∈ earlier ++ columns, k ≠ j →
      before.used k = true → before.used j = true → p k ≠ p j)
    (shifted : Shifted p delta before earlier after) :
    Shifted p delta before (earlier ++ columns) (columns.foldl (shiftColumn p delta) after) := by
  induction columns generalizing earlier after with
  | nil =>
    rw [append_nil]
    exact shifted
  | cons j columns ih =>
    have split : earlier ++ j :: columns = (earlier ++ [j]) ++ columns := by simp
    have new : j ∉ earlier := by
      intro member
      exact (nodup_append.mp distinct).2.2 j member j mem_cons_self rfl
    have step : Shifted p delta before (earlier ++ [j]) (shiftColumn p delta after j) := by
      apply shifted_snoc p delta before earlier after j new _ shifted
      intro k member used_k used_j
      apply apart k (mem_append_left _ member) j (by simp) _ used_k used_j
      intro same
      rw [same] at member
      exact new member
    rw [split] at distinct apart ⊢
    rw [foldl_cons]
    exact ih _ _ distinct apart step

theorem shift_potentials (size : Nat) (apart : ∀ k ≤ size, ∀ j ≤ size, k ≠ j →
      before.used k = true → before.used j = true → p k ≠ p j) :
    Shifted p delta before (range (size + 1)) (shiftPotentials size p delta before) := by
  apply shifted_fold p delta before [] (range (size + 1)) before
  · simpa using nodup_range
  · intro k k_in j j_in
    apply apart k _ j
    · rw [nil_append, mem_range] at j_in
      omega
    · rw [nil_append, mem_range] at k_in
      omega
  · exact shifted_nil p delta before

end

end OpenMapX.Places.HungarianLoops
