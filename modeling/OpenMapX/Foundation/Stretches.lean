import Mathlib

/-!
# Stretches between cuts

A function on a line that takes one value on each open stretch between consecutive
cuts. The shares of its values, read off the middle of each stretch, do not change
when cuts are added, and they add up to the integral.
-/

namespace OpenMapX.Foundation.Stretches

open MeasureTheory List

variable {Value : Type*} [DecidableEq Value]

section

variable {K : Type*} [Field K] [LinearOrder K]

/-- The share goes to the entry of its value, which is added at the end when it is new. -/
def addShare (value : Value) (share : K) : List (Value × K) → List (Value × K)
  | [] => [(value, share)]
  | entry :: rest =>
    if entry.1 = value then (value, entry.2 + share) :: rest
    else entry :: addShare value share rest

structure Shares (Value K : Type*) where
  entries : List (Value × K)
  uncovered : Bool

def noShares : Shares Value K := ⟨[], false⟩

def takeStretch (value : Option Value) (length : K) (shares : Shares Value K) : Shares Value K :=
  match value with
  | some value => { shares with entries := addShare value length shares.entries }
  | none => { shares with uncovered := true }

def middle (start cut : K) : K := (start + cut) / (2 : ℕ)

def takeStretches (valueAt : K → Option Value) : K → List K → Shares Value K → Shares Value K
  | _, [], shares => shares
  | start, cut :: rest, shares =>
    takeStretches valueAt cut rest
      (takeStretch (valueAt (middle start cut)) (cut - start) shares)

def sharesOf (valueAt : K → Option Value) : List K → Shares Value K
  | [] => noShares
  | start :: rest => takeStretches valueAt start rest noShares

omit [LinearOrder K] in
theorem add_share_twice (value : Value) (first second : K) (entries : List (Value × K)) :
    addShare value second (addShare value first entries) =
      addShare value (first + second) entries := by
  induction entries with
  | nil => simp [addShare]
  | cons entry rest ih =>
    by_cases same : entry.1 = value
    · simp [addShare, same, add_assoc]
    · simp [addShare, same, ih]

omit [LinearOrder K] in
theorem take_stretch_twice (value : Option Value) (first second : K) (shares : Shares Value K) :
    takeStretch value second (takeStretch value first shares) =
      takeStretch value (first + second) shares := by
  cases value with
  | none => rfl
  | some value => simp only [takeStretch, add_share_twice]

def SteadyOn (valueAt : K → Option Value) (start cut : K) : Prop :=
  ∀ first second, start < first → first < cut → start < second → second < cut →
    valueAt first = valueAt second

def Steady (valueAt : K → Option Value) : K → List K → Prop
  | _, [] => True
  | start, cut :: rest => SteadyOn valueAt start cut ∧ Steady valueAt cut rest

variable [IsStrictOrderedRing K]

omit [DecidableEq Value] [Field K] [IsStrictOrderedRing K] in
theorem SteadyOn.within {valueAt : K → Option Value} {start cut first second : K}
    (steady : SteadyOn valueAt start cut) (after : start ≤ first) (before : second ≤ cut) :
    SteadyOn valueAt first second := by
  intro here there hereAfter hereBefore thereAfter thereBefore
  exact steady here there (lt_of_le_of_lt after hereAfter) (lt_of_lt_of_le hereBefore before)
    (lt_of_le_of_lt after thereAfter) (lt_of_lt_of_le thereBefore before)

def Avoids (points : List K) (start cut : K) : Prop := ∀ point ∈ points, point ≤ start ∨ cut ≤ point

omit [Field K] [IsStrictOrderedRing K] in
/-- Between consecutive cuts there is no point, if each point is a cut or lies outside. -/
theorem avoids_chain {low high : K} (points : List K) (cuts : List K)
    (sorted : cuts.Pairwise (· < ·)) (bounds : ∀ cut ∈ cuts, low ≤ cut ∧ cut ≤ high)
    (placed : ∀ point ∈ points, point ∈ cuts ∨ (∀ cut ∈ cuts, point ≤ cut) ∨
      ∀ cut ∈ cuts, cut ≤ point) :
    cuts.IsChain fun start cut => start < cut ∧ low ≤ start ∧ cut ≤ high ∧
      Avoids points start cut := by
  induction cuts with
  | nil => exact .nil
  | cons start cuts ih =>
    cases cuts with
    | nil => exact .singleton _
    | cons cut rest =>
      have tail := pairwise_cons.mp sorted
      have later : ∀ other ∈ cut :: rest, cut ≤ other := by
        intro other member
        rcases mem_cons.mp member with same | beyond
        · exact le_of_eq same.symm
        · exact le_of_lt ((pairwise_cons.mp tail.2).1 other beyond)
      apply List.IsChain.cons_cons
      · refine ⟨tail.1 cut mem_cons_self, (bounds start mem_cons_self).1,
          (bounds cut (by simp)).2, ?_⟩
        intro point member
        rcases placed point member with among | below | above
        · rcases mem_cons.mp among with same | beyond
          · exact Or.inl (le_of_eq same)
          · exact Or.inr (later point beyond)
        · exact Or.inl (below start mem_cons_self)
        · exact Or.inr (above cut (by simp))
      · apply ih tail.2 (fun other member => bounds other (mem_cons_of_mem start member))
        intro point member
        rcases placed point member with among | below | above
        · rcases mem_cons.mp among with same | beyond
          · apply Or.inr (Or.inl _)
            intro other beyond
            rw [same]
            exact le_of_lt (tail.1 other beyond)
          · exact Or.inl beyond
        · exact Or.inr (Or.inl fun other beyond => below other (mem_cons_of_mem start beyond))
        · exact Or.inr (Or.inr fun other beyond => above other (mem_cons_of_mem start beyond))

omit [DecidableEq Value] [Field K] [IsStrictOrderedRing K] in
theorem steady_of_chain {valueAt : K → Option Value} {holds : K → K → Prop}
    (each : ∀ start cut, holds start cut → SteadyOn valueAt start cut) (cuts : List K) :
    ∀ start : K, (start :: cuts).IsChain holds → Steady valueAt start cuts := by
  induction cuts with
  | nil => exact fun _ _ => trivial
  | cons cut rest ih =>
    intro start chain
    cases chain with
    | cons_cons first later => exact ⟨each start cut first, ih cut later⟩

omit [Field K] [IsStrictOrderedRing K] in
theorem last_of_greatest {cuts : List K} {greatest : K} (sorted : cuts.Pairwise (· < ·))
    (member : greatest ∈ cuts) (bound : ∀ cut ∈ cuts, cut ≤ greatest) :
    cuts.getLast? = some greatest := by
  induction cuts with
  | nil => cases member
  | cons start rest ih =>
    have tail := pairwise_cons.mp sorted
    cases rest with
    | nil =>
      rw [mem_singleton.mp member]
      rfl
    | cons cut rest =>
      have beyond : greatest ∈ cut :: rest := by
        rcases mem_cons.mp member with same | beyond
        · have above := tail.1 cut mem_cons_self
          rw [← same] at above
          exact absurd above (not_lt_of_ge (bound cut (by simp)))
        · exact beyond
      rw [getLast?_cons_cons]
      exact ih tail.2 beyond fun other later => bound other (mem_cons_of_mem start later)

theorem middle_after {start cut : K} (lt : start < cut) : start < middle start cut := by
  unfold middle
  push_cast
  linarith

theorem middle_before {start cut : K} (lt : start < cut) : middle start cut < cut := by
  unfold middle
  push_cast
  linarith

variable (valueAt : K → Option Value)

theorem take_cut_stretch {start inner cut : K} (rest : List K)
    (steady : SteadyOn valueAt start cut) (after : start < inner) (before : inner < cut)
    (shares : Shares Value K) : takeStretches valueAt start (inner :: cut :: rest) shares =
      takeStretches valueAt start (cut :: rest) shares := by
  have whole := middle_after (after.trans before)
  have whole' := middle_before (after.trans before)
  have left : valueAt (middle start inner) = valueAt (middle start cut) :=
    steady _ _ (middle_after after) ((middle_before after).trans before) whole whole'
  have right : valueAt (middle inner cut) = valueAt (middle start cut) :=
    steady _ _ (after.trans (middle_after before)) (middle_before before) whole whole'
  have length : inner - start + (cut - inner) = cut - start := by ring
  simp only [takeStretches]
  rw [left, right, take_stretch_twice, length]

/-- More cuts with the same end leave the shares of a steady function as they are. -/
theorem take_refined (refined : List K) : ∀ (start : K) (cuts : List K) (shares : Shares Value K),
      (start :: cuts).Pairwise (· < ·) → (start :: refined).Pairwise (· < ·) →
      cuts ⊆ refined → refined.getLast? = cuts.getLast? → Steady valueAt start cuts →
      takeStretches valueAt start refined shares = takeStretches valueAt start cuts shares := by
  induction refined with
  | nil =>
    intro start cuts shares _ _ among _ _
    rw [eq_nil_of_subset_nil among]
  | cons inner refined ih =>
    intro start cuts shares sorted sortedRefined among last steady
    cases cuts with
    | nil =>
      rw [getLast?_nil, getLast?_eq_none_iff] at last
      cases last
    | cons cut cuts =>
      have sortedTail := (pairwise_cons.mp sorted).2
      have refinedTail := (pairwise_cons.mp sortedRefined).2
      have after := (pairwise_cons.mp sortedRefined).1 inner mem_cons_self
      have before : inner ≤ cut := by
        rcases mem_cons.mp (among mem_cons_self) with same | later
        · exact le_of_eq same.symm
        · exact le_of_lt ((pairwise_cons.mp refinedTail).1 cut later)
      have later : ∀ other ∈ cut :: cuts, other ≠ inner → other ∈ refined := by
        intro other member apart
        exact (mem_cons.mp (among member)).resolve_left apart
      by_cases same : inner = cut
      · subst same
        simp only [takeStretches]
        apply ih inner cuts _ sortedTail refinedTail _ _ steady.2
        · intro other member
          have beyond := (pairwise_cons.mp sortedTail).1 other member
          exact later other (mem_cons_of_mem inner member) (ne_of_gt beyond)
        · cases cuts with
          | nil =>
            cases refined with
            | nil => rfl
            | cons next refined =>
              have ends : (next :: refined).getLast? = some inner := by
                simpa using last
              have beyond := (pairwise_cons.mp refinedTail).1 inner
                (mem_of_getLast? ends)
              exact absurd beyond (lt_irrefl inner)
          | cons next cuts =>
            have member : next ∈ refined :=
              later next (by simp) (ne_of_gt ((pairwise_cons.mp sortedTail).1 next
                mem_cons_self))
            cases refined with
            | nil => cases member
            | cons other refined => simpa using last
      · have inside := lt_of_le_of_ne before same
        have moved := ih inner (cut :: cuts)
          (takeStretch (valueAt (middle start inner)) (inner - start) shares)
          (pairwise_cons.mpr ⟨by
            intro other member
            rcases mem_cons.mp member with first | other'
            · rw [first]; exact inside
            · exact inside.trans ((pairwise_cons.mp sortedTail).1 other other'),
            sortedTail⟩) refinedTail
          (by
            intro other member
            apply later other member
            rcases mem_cons.mp member with first | other'
            · rw [first]; exact ne_of_gt inside
            · exact ne_of_gt (inside.trans
                ((pairwise_cons.mp sortedTail).1 other other')))
          (by
            have member := later cut mem_cons_self (ne_of_gt inside)
            cases refined with
            | nil => cases member
            | cons other refined => simpa using last)
          ⟨steady.1.within (le_of_lt after) (le_refl cut), steady.2⟩
        have split := take_cut_stretch valueAt cuts steady.1 after inside shares
        simp only [takeStretches] at moved split ⊢
        rw [moved, split]

omit [LinearOrder K] in
theorem add_share_nonempty (value : Value) (share : K) (entries : List (Value × K)) :
    addShare value share entries ≠ [] := by
  cases entries with
  | nil => simp [addShare]
  | cons entry rest =>
    unfold addShare
    split <;> simp

omit [LinearOrder K] [IsStrictOrderedRing K] in
theorem take_stretches_nonempty (cuts : List K) :
    ∀ (start : K) (shares : Shares Value K), shares.entries ≠ [] →
      (takeStretches valueAt start cuts shares).entries ≠ [] := by
  induction cuts with
  | nil => exact fun _ _ some => some
  | cons cut rest ih =>
    intro start shares some
    apply ih
    unfold takeStretch
    split
    · exact add_share_nonempty _ _ _
    · exact some

omit [LinearOrder K] [IsStrictOrderedRing K] in
theorem take_stretches_uncovered (cuts : List K) :
    ∀ (start : K) (shares : Shares Value K), shares.uncovered = true →
      (takeStretches valueAt start cuts shares).uncovered = true := by
  induction cuts with
  | nil => exact fun _ _ open_ => open_
  | cons cut rest ih =>
    intro start shares open_
    apply ih
    unfold takeStretch
    split
    · exact open_
    · rfl

omit [LinearOrder K] [IsStrictOrderedRing K] in
theorem covered_nonempty (start cut : K) (rest : List K)
    (covered : (sharesOf valueAt (start :: cut :: rest)).uncovered = false) :
    (sharesOf valueAt (start :: cut :: rest)).entries ≠ [] := by
  simp only [sharesOf, takeStretches] at covered ⊢
  cases value : valueAt (middle start cut) with
  | none =>
    rw [value, take_stretches_uncovered valueAt rest cut _ rfl] at covered
    cases covered
  | some value => exact take_stretches_nonempty valueAt rest cut _ (add_share_nonempty _ _ _)

omit [LinearOrder K] [IsStrictOrderedRing K] in
theorem valueless_entries (none_ : ∀ share, valueAt share = none)
    (cuts : List K) : ∀ (start : K) (shares : Shares Value K),
      (takeStretches valueAt start cuts shares).entries = shares.entries := by
  induction cuts with
  | nil => exact fun _ _ => rfl
  | cons cut rest ih =>
    intro start shares
    simp only [takeStretches, ih, none_, takeStretch]

omit [LinearOrder K] [IsStrictOrderedRing K] in
theorem add_share_values {kind : Value → Prop} (value : Value) (share : K) (right : kind value)
    (entries : List (Value × K)) (each : ∀ entry ∈ entries, kind entry.1) :
    ∀ entry ∈ addShare value share entries, kind entry.1 := by
  induction entries with
  | nil => simpa [addShare] using right
  | cons first rest ih =>
    intro entry member
    unfold addShare at member
    split at member
    · rcases mem_cons.mp member with same | later
      · rw [same]; exact right
      · exact each entry (mem_cons_of_mem first later)
    · rcases mem_cons.mp member with same | later
      · rw [same]; exact each first mem_cons_self
      · exact ih (fun other among => each other (mem_cons_of_mem first among)) entry later

omit [LinearOrder K] [IsStrictOrderedRing K] in
theorem take_stretches_values {kind : Value → Prop} (valueAt : K → Option Value)
    (right : ∀ share value, valueAt share = some value → kind value) (cuts : List K) :
    ∀ (start : K) (shares : Shares Value K), (∀ entry ∈ shares.entries, kind entry.1) →
      ∀ entry ∈ (takeStretches valueAt start cuts shares).entries, kind entry.1 := by
  induction cuts with
  | nil => exact fun _ _ each => each
  | cons cut rest ih =>
    intro start shares each
    apply ih
    unfold takeStretch
    split
    · rename_i value found
      exact add_share_values value _ (right _ value found) _ each
    · exact each

end

section

def endOf : ℝ → List ℝ → ℝ
  | start, [] => start
  | _, cut :: rest => endOf cut rest

def weigh (rate : Value → ℝ) (entries : List (Value × ℝ)) : ℝ :=
  (entries.map fun entry => rate entry.1 * entry.2).sum

def rateOf (rate : Value → ℝ) (value : Option Value) : ℝ := value.elim 0 rate

variable (rate : Value → ℝ) (valueAt : ℝ → Option Value) (cuts : List ℝ)

theorem weigh_add_share (value : Value) (share : ℝ) (entries) :
    weigh rate (addShare value share entries) = weigh rate entries + rate value * share := by
  induction entries with
  | nil => simp [weigh, addShare]
  | cons entry rest ih =>
    unfold weigh at ih ⊢
    by_cases same : entry.1 = value
    · simp only [addShare, same, if_true, map_cons, sum_cons]
      ring
    · simp only [addShare, same, if_false, map_cons, sum_cons, ih]
      ring

theorem weigh_take_stretch (value : Option Value) (length : ℝ) (shares : Shares Value ℝ) :
    weigh rate (takeStretch value length shares).entries =
      weigh rate shares.entries + rateOf rate value * length := by
  cases value with
  | none => simp [takeStretch, rateOf]
  | some value => exact weigh_add_share rate value length shares.entries

omit [DecidableEq Value]

theorem steady_integral {start cut : ℝ} (lt : start < cut) (steady : SteadyOn valueAt start cut) :
    IntervalIntegrable (fun share => rateOf rate (valueAt share)) volume start cut ∧
      ∫ share in start..cut, rateOf rate (valueAt share) =
        rateOf rate (valueAt (middle start cut)) * (cut - start) := by
  have same : Set.EqOn (fun share => rateOf rate (valueAt share))
      (fun _ => rateOf rate (valueAt (middle start cut))) (Set.Ioo start cut) := by
    intro share inside
    have value := steady share (middle start cut) inside.1 inside.2 (middle_after lt)
      (middle_before lt)
    simp only [value]
  apply And.intro
  · rw [intervalIntegrable_iff_integrableOn_Ioo_of_le (le_of_lt lt)]
    exact (integrableOn_const (by simp)).congr_fun same.symm measurableSet_Ioo
  · rw [intervalIntegral.integral_of_le (le_of_lt lt), integral_Ioc_eq_integral_Ioo,
      setIntegral_congr_fun measurableSet_Ioo same]
    simp [max_eq_left (le_of_lt (sub_pos.mpr lt)), mul_comm]

variable [DecidableEq Value]

theorem weigh_stretches :
    ∀ (start : ℝ) (shares : Shares Value ℝ), (start :: cuts).Pairwise (· < ·) →
      Steady valueAt start cuts →
      IntervalIntegrable (fun share => rateOf rate (valueAt share)) volume start
        (endOf start cuts) ∧ weigh rate (takeStretches valueAt start cuts shares).entries =
        weigh rate shares.entries + ∫ share in start..endOf start cuts,
          rateOf rate (valueAt share) := by
  induction cuts with
  | nil =>
    intro start shares _ _
    simp [takeStretches, endOf]
  | cons cut rest ih =>
    intro start shares sorted steady
    have lt := (pairwise_cons.mp sorted).1 cut mem_cons_self
    have first := steady_integral rate valueAt lt steady.1
    have later := ih cut (takeStretch (valueAt (middle start cut)) (cut - start) shares)
      (pairwise_cons.mp sorted).2 steady.2
    apply And.intro (first.1.trans later.1)
    rw [takeStretches, endOf, later.2, weigh_take_stretch,
      ← intervalIntegral.integral_add_adjacent_intervals first.1 later.1, first.2]
    ring

omit [DecidableEq Value] in
theorem steady_uncovered {start cut : ℝ} (lt : start < cut) (steady : SteadyOn valueAt start cut) :
    0 < volume {share | share ∈ Set.Ioc start cut ∧ valueAt share = none} ↔
      valueAt (middle start cut) = none := by
  apply Iff.intro
  · intro positive
    by_contra covered
    have among : {share | share ∈ Set.Ioc start cut ∧ valueAt share = none} ⊆ {cut} := by
      intro share member
      by_contra apart
      have inside := lt_of_le_of_ne member.1.2 apart
      have same := steady share (middle start cut) member.1.1 inside (middle_after lt)
        (middle_before lt)
      exact covered (same.symm.trans member.2)
    have nothing := measure_mono_null among Real.volume_singleton
    rw [nothing] at positive
    exact lt_irrefl _ positive
  · intro missing
    have among : Set.Ioo start cut ⊆
        {share | share ∈ Set.Ioc start cut ∧ valueAt share = none} := by
      intro share inside
      refine ⟨⟨inside.1, le_of_lt inside.2⟩, ?_⟩
      exact (steady share _ inside.1 inside.2 (middle_after lt) (middle_before lt)).trans missing
    apply lt_of_lt_of_le _ (measure_mono among)
    rw [Real.volume_Ioo]
    exact ENNReal.ofReal_pos.mpr (sub_pos.mpr lt)

omit [DecidableEq Value] in
theorem end_of_last : ∀ (start last : ℝ), cuts.getLast? = some last → endOf start cuts = last := by
  induction cuts with
  | nil => intro start last found; cases found
  | cons cut rest ih =>
    intro start last found
    cases rest with
    | nil => exact Option.some.inj found
    | cons next rest => exact ih cut last (by simpa using found)

omit [DecidableEq Value] in
theorem end_of_le : ∀ start : ℝ, (start :: cuts).Pairwise (· < ·) → start ≤ endOf start cuts := by
  induction cuts with
  | nil => exact fun start _ => le_refl start
  | cons cut rest ih =>
    intro start sorted
    have lt := (pairwise_cons.mp sorted).1 cut mem_cons_self
    exact le_trans (le_of_lt lt) (ih cut (pairwise_cons.mp sorted).2)

theorem uncovered_iff : ∀ (start : ℝ) (shares : Shares Value ℝ), (start :: cuts).Pairwise (· < ·) →
      Steady valueAt start cuts → ((takeStretches valueAt start cuts shares).uncovered = true ↔
        shares.uncovered = true ∨ 0 < volume {share | share ∈ Set.Ioc start (endOf start cuts) ∧
            valueAt share = none}) := by
  induction cuts with
  | nil =>
    intro start shares _ _
    simp [takeStretches, endOf]
  | cons cut rest ih =>
    intro start shares sorted steady
    have lt := (pairwise_cons.mp sorted).1 cut mem_cons_self
    have sortedRest := (pairwise_cons.mp sorted).2
    have later := ih cut (takeStretch (valueAt (middle start cut)) (cut - start) shares)
      sortedRest steady.2
    have first := steady_uncovered valueAt lt steady.1
    have whole : {share | share ∈ Set.Ioc start (endOf cut rest) ∧ valueAt share = none} =
        {share | share ∈ Set.Ioc start cut ∧ valueAt share = none} ∪
          {share | share ∈ Set.Ioc cut (endOf cut rest) ∧ valueAt share = none} := by
      rw [← Set.Ioc_union_Ioc_eq_Ioc (le_of_lt lt) (end_of_le rest cut sortedRest)]
      ext share
      simp only [Set.mem_ofPred_eq, Set.mem_union]
      tauto
    have either : 0 < volume {share | share ∈ Set.Ioc start (endOf cut rest) ∧
        valueAt share = none} ↔
        0 < volume {share | share ∈ Set.Ioc start cut ∧ valueAt share = none} ∨
          0 < volume {share | share ∈ Set.Ioc cut (endOf cut rest) ∧ valueAt share = none} := by
      rw [whole, pos_iff_ne_zero, pos_iff_ne_zero, pos_iff_ne_zero, Ne, measure_union_null_iff]
      tauto
    have taken : (takeStretch (valueAt (middle start cut)) (cut - start) shares).uncovered =
        true ↔ shares.uncovered = true ∨ valueAt (middle start cut) = none := by
      cases valueAt (middle start cut) <;> simp [takeStretch]
    rw [takeStretches, endOf, later, taken, either, first]
    tauto

end

end OpenMapX.Foundation.Stretches
