import OpenMapX.Core.TideExtrema

/-!
# Tide extrema form a zigzag

The turns of the loop, with the tentative one at the end, are the extremes that
`findTideExtrema` gives.
-/

namespace OpenMapX.Core.TideZigzag

open Foundation.Hysteresis TideExtrema List

variable {K : Type}

theorem emitted_inner (samples : List (TideSample K)) (turns : List (ℕ × Side)) :
    emitted samples turns = ((turns.filter fun turn => 0 < turn.1).reverse.map fun turn =>
      (turn.1, typeOf turn.2)).flatMap fun turn => extremeAt samples turn.1 turn.2 := by
  induction turns with
  | nil => rfl
  | cons turn rest ih =>
      rw [emitted_cons, ih, filter_cons]
      split_ifs with later
      · have inner : 0 < turn.1 := by simpa using later
        simp [innerExtreme, inner]
      · have first : ¬0 < turn.1 := by simpa using later
        simp [innerExtreme, first]

variable [CommRing K] [LinearOrder K]

def Outermost : ExtremeType → K → K → Prop
  | .H, extreme, value => value ≤ extreme
  | .L, extreme, value => extreme ≤ value

/-- Extremes at inner samples in order, alternating, apart by the threshold, and each the
outermost sample between its neighbours or the ends of the series. -/
def IsZigzag (samples : List (TideSample K)) (delta : K) (extrema : List (TideExtreme K)) : Prop :=
  ∃ turns : List (ℕ × ExtremeType),
    extrema = turns.flatMap (fun turn => extremeAt samples turn.1 turn.2) ∧
    (∀ turn ∈ turns, 0 < turn.1 ∧ turn.1 < samples.length - 1) ∧
    turns.IsChain (fun turn next => turn.1 < next.1 ∧ turn.2 ≠ next.2 ∧
      delta ≤ |valueAt samples next.1 - valueAt samples turn.1|) ∧
    ∀ earlier turn later, turns = earlier ++ turn :: later →
      ∀ j, earlier.getLast?.elim 0 Prod.fst ≤ j →
        j ≤ later.head?.elim (samples.length - 1) Prod.fst →
        Outermost turn.2 (valueAt samples turn.1) (valueAt samples j)

variable [IsStrictOrderedRing K]

theorem outermost_iff (side : Side) (extreme value : K) :
    Outermost (typeOf side) extreme value ↔ level side value ≤ level side extreme := by
  cases side with
  | high => rfl
  | low => exact (neg_le_neg_iff).symm

theorem zigzag_of_turns {samples : List (TideSample K)} {delta : K} {turns : List (ℕ × Side)}
    (zigzag : Zigzag (valueAt samples) delta samples.length turns)
    (inside : ∀ turn ∈ turns.head?, turn.1 < samples.length - 1) :
    IsZigzag samples delta (emitted samples turns) := by
  have inner := zigzag.inner
  have early := (zigzag.earlier (Nat.sub_le _ 1) inside).inner.seen
  refine ⟨_, emitted_inner samples turns, ?_, ?_, ?_⟩
  · intro turn member
    obtain ⟨origin, origin_member, rfl⟩ := mem_map.mp member
    have kept := mem_reverse.mp origin_member
    exact ⟨by simpa using (mem_filter.mp kept).2, early origin kept⟩
  · rw [isChain_map, isChain_reverse]
    refine inner.joined.imp ?_
    rintro ⟨later, side⟩ ⟨earlier, other⟩ joined
    obtain ⟨before, across, apart⟩ := joined
    simp only at before across apart
    refine ⟨before, ?_, ?_⟩
    · rw [across]
      cases side <;> simp [typeOf, Side.other]
    · cases side with
      | high =>
          simp only [level] at apart
          exact (le_sub_iff_add_le'.mpr apart).trans (le_abs_self _)
      | low =>
          simp only [level] at apart
          rw [abs_sub_comm]
          refine le_trans ?_ (le_abs_self _)
          linarith
  · intro earlier turn later split j lower upper
    obtain ⟨older, rest, halves, rfl, tail⟩ := map_eq_append_iff.mp split
    obtain ⟨origin, newer, rfl, rfl, rfl⟩ := map_eq_cons_iff.mp tail
    have reversed : turns.filter (fun turn => 0 < turn.1) =
        newer.reverse ++ origin :: older.reverse := by
      rw [← reverse_reverse (turns.filter _), halves]
      simp
    rw [reversed] at inner
    rw [outermost_iff]
    refine inner.leads_between j ?_ ?_
    · refine le_trans (le_of_eq ?_) lower
      cases older using List.reverseRecOn <;> simp [turnStart]
    · have some_sample : 0 < samples.length :=
        Nat.zero_lt_of_lt (inner.seen origin (by simp))
      cases newer with
      | nil =>
          simp only [map_nil, head?_nil, Option.elim_none] at upper
          simp only [reverse_nil, getLast?_nil, Option.elim_none]
          omega
      | cons next newer =>
          simp only [map_cons, head?_cons, Option.elim_some] at upper
          simp only [getLast?_reverse, head?_cons, Option.elim_some]
          omega

theorem scan_turns {samples} {delta : K} (positive : 0 < delta)
    {scan : Scan K} (phase : Phase samples delta samples.length scan) :
    ∃ turns, scan.extrema ++ tentative samples delta scan = emitted samples turns ∧
      Zigzag (valueAt samples) delta samples.length turns ∧
      ∀ turn ∈ turns.head?, turn.1 < samples.length - 1 := by
  cases phase with
  | opening mode extrema pivot held =>
      refine ⟨[], ?_, trivial, by simp⟩
      simp [extrema, tentative, pivot, emitted]
  | tracking side turn rest mode zigzag extrema pivot held apart =>
      have later : turn < runningIdx scan side := by
        refine lt_of_le_of_ne held.start fun here => ?_
        rw [← here] at apart
        linarith
      have seen := held.seen
      have inner : innerExtreme samples (runningIdx scan side) (typeOf side) =
          extremeAt samples (runningIdx scan side) (typeOf side) := by
        rw [innerExtreme, if_pos (by omega)]
      by_cases turned : runningIdx scan side < samples.length - 1
      · refine ⟨(runningIdx scan side, side) :: (turn, side.other) :: rest, ?_, ?_, ?_⟩
        · rw [emitted_cons, ← extrema, inner]
          congr 1
          cases side with
          | high =>
              have far : delta ≤ valueAt samples scan.mxIdx - valueAt samples turn := by
                simp only [level, runningIdx] at apart
                linarith
              simp only [runningIdx] at turned
              simp [tentative, pivot, mode, lookFor, turned, far, runningIdx, typeOf]
          | low =>
              have far : delta ≤ valueAt samples turn - valueAt samples scan.mnIdx := by
                simp only [level, runningIdx] at apart
                linarith
              simp only [runningIdx] at turned
              simp [tentative, pivot, mode, lookFor, turned, far, runningIdx, typeOf]
        · refine ⟨held.seen, held.leads, ?_, ?_⟩
          · intro earlier first
            cases first
            exact ⟨later, rfl, apart.le⟩
          · refine zigzag.earlier held.seen ?_
            intro first here
            cases here
            exact later.trans (Nat.lt_succ_self _)
        · intro first here
          cases here
          exact turned
      · refine ⟨(turn, side.other) :: rest, ?_, zigzag, ?_⟩
        · rw [← extrema]
          cases side with
          | high =>
              simp only [runningIdx] at turned
              simp [tentative, pivot, mode, lookFor, turned]
          | low =>
              simp only [runningIdx] at turned
              simp [tentative, pivot, mode, lookFor, turned]
        · intro first here
          cases here
          simp only
          omega

theorem extrema_zigzag (samples : List (TideSample K)) (opts : TideExtremaOptions K)
    (enough : 5 ≤ samples.length) (positive : 0 < deltaOf samples opts) :
    IsZigzag samples (deltaOf samples opts) (findTideExtrema samples opts) := by
  have phase := (scanned_phase samples positive samples.length (by omega) le_rfl).1
  obtain ⟨turns, result, zigzag, inside⟩ := scan_turns positive phase
  have found : findTideExtrema samples opts = emitted samples turns := by
    rw [← result, findTideExtrema, if_neg (by omega)]
    simp only [positive, not_true_eq_false, if_false]
  rw [found]
  exact zigzag_of_turns zigzag inside

def gauge : List (TideSample ℤ) :=
  [⟨"00", 0⟩, ⟨"03", 5⟩, ⟨"06", 1⟩, ⟨"09", 0⟩, ⟨"12", 6⟩, ⟨"15", 5⟩]

theorem gauge_zigzag : IsZigzag gauge 2 (findTideExtrema gauge ⟨2, none⟩) :=
  extrema_zigzag gauge ⟨2, none⟩ (by decide) (by decide)

end OpenMapX.Core.TideZigzag
