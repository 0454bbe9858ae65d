import OpenMapX.Foundation.Hysteresis

/-!
# Tide extrema

`findTideExtrema`: highs and lows of a gauge series by hysteresis. A reversal
counts once the series has moved by the threshold away from the running
extreme. Numbers are exact, and the infinities that the running extremes start
from are absent values.
-/

namespace OpenMapX.Core.TideExtrema

open Foundation.Hysteresis Nat

structure TideSample (K : Type) where
  time : String
  value : K

inductive ExtremeType where
  | H
  | L
  deriving DecidableEq

structure TideExtreme (K : Type) where
  time : String
  value : K
  type : ExtremeType

structure TideExtremaOptions (K : Type) where
  minDelta : K
  relativeDelta : Option K

variable {K : Type}

structure Scan (K : Type) where
  extrema : List (TideExtreme K)
  mn : Option K
  mx : Option K
  mnIdx : ℕ
  mxIdx : ℕ
  lookForMax : Option Bool
  pivot : Option K

def start : Scan K :=
  { extrema := [], mn := none, mx := none, mnIdx := 0, mxIdx := 0, lookForMax := none
    pivot := none }

def extremeAt (samples : List (TideSample K)) (idx : ℕ) (type : ExtremeType) :
    List (TideExtreme K) :=
  (samples[idx]?.map fun s => { time := s.time, value := s.value, type := type }).toList

/-- The extreme unless it is the first sample, where the window opened past a turn. -/
def innerExtreme (samples : List (TideSample K)) (idx : ℕ) (type : ExtremeType) :
    List (TideExtreme K) :=
  if 0 < idx then extremeAt samples idx type else []

def typeOf : Side → ExtremeType
  | .high => .H
  | .low => .L

def emitted (samples : List (TideSample K)) (turns : List (ℕ × Side)) : List (TideExtreme K) :=
  turns.reverse.flatMap fun turn => innerExtreme samples turn.1 (typeOf turn.2)

theorem emitted_cons (samples : List (TideSample K)) (turn : ℕ × Side)
    (rest : List (ℕ × Side)) : emitted samples (turn :: rest) =
      emitted samples rest ++ innerExtreme samples turn.1 (typeOf turn.2) := by
  simp [emitted]

section

variable [LinearOrder K]

def lowest (samples : List (TideSample K)) : Option K :=
  samples.foldl (fun lo s => if ∀ low ∈ lo, s.value < low then some s.value else lo) none

def highest (samples : List (TideSample K)) : Option K :=
  samples.foldl (fun hi s => if ∀ high ∈ hi, high < s.value then some s.value else hi) none

def widen (i : ℕ) (v : K) (scan : Scan K) : Scan K :=
  let up := if ∀ mx ∈ scan.mx, mx < v then { scan with mx := some v, mxIdx := i } else scan
  if ∀ mn ∈ up.mn, v < mn then { up with mn := some v, mnIdx := i } else up

theorem widen_frame (i : ℕ) (v : K) (scan : Scan K) :
    (widen i v scan).extrema = scan.extrema ∧ (widen i v scan).pivot = scan.pivot ∧
      (widen i v scan).lookForMax = scan.lookForMax := by
  unfold widen
  simp only
  split_ifs <;> exact ⟨rfl, rfl, rfl⟩

end

variable [CommRing K]

def valueAt (samples : List (TideSample K)) (idx : ℕ) : K := (samples[idx]?.map (·.value)).getD 0

variable {samples : List (TideSample K)} {i : ℕ}

theorem getElem_value (within : i < samples.length) :
    samples[i]?.map (·.value) = some (valueAt samples i) := by
  simp [valueAt, List.getElem?_eq_getElem within]

variable [LinearOrder K]

def deltaOf (samples : List (TideSample K)) (opts : TideExtremaOptions K) : K :=
  let range := (highest samples).getD 0 - (lowest samples).getD 0
  max opts.minDelta (range * opts.relativeDelta.getD 0)

def step (samples : List (TideSample K)) (delta : K) (i : ℕ) (v : K) (before : Scan K) : Scan K :=
  let scan := widen i v before
  if scan.lookForMax ≠ some false ∧ ∃ mx ∈ scan.mx, v < mx - delta then
    { scan with
      extrema := scan.extrema ++ innerExtreme samples scan.mxIdx .H
      pivot := samples[scan.mxIdx]?.map (·.value)
      mn := some v
      mnIdx := i
      lookForMax := some false }
  else if scan.lookForMax ≠ some true ∧ ∃ mn ∈ scan.mn, mn + delta < v then
    { scan with
      extrema := scan.extrema ++ innerExtreme samples scan.mnIdx .L
      pivot := samples[scan.mnIdx]?.map (·.value)
      mx := some v
      mxIdx := i
      lookForMax := some true }
  else scan

def scanned (samples : List (TideSample K)) (delta : K) : ℕ → Scan K
  | 0 => start
  | i + 1 =>
    match samples[i]? with
    | none => scanned samples delta i
    | some s => step samples delta i s.value (scanned samples delta i)

def tentative (samples : List (TideSample K)) (delta : K) (scan : Scan K) : List (TideExtreme K) :=
  let lastIdx := samples.length - 1
  match scan.pivot with
  | none => []
  | some pivot =>
    if scan.lookForMax = some true ∧ scan.mxIdx < lastIdx ∧
        delta ≤ valueAt samples scan.mxIdx - pivot then
      extremeAt samples scan.mxIdx .H
    else if scan.lookForMax = some false ∧ scan.mnIdx < lastIdx ∧
        delta ≤ pivot - valueAt samples scan.mnIdx then
      extremeAt samples scan.mnIdx .L
    else []

def findTideExtrema (samples : List (TideSample K)) (opts : TideExtremaOptions K) :
    List (TideExtreme K) :=
  if samples.length < 5 then []
  else
    let delta := deltaOf samples opts
    if ¬0 < delta then []
    else
      let scan := scanned samples delta samples.length
      scan.extrema ++ tentative samples delta scan

def runningIdx (scan : Scan K) : Side → ℕ
  | .high => scan.mxIdx
  | .low => scan.mnIdx

def running (scan : Scan K) : Side → Option K
  | .high => scan.mx
  | .low => scan.mn

def lookFor : Side → Option Bool
  | .high => some true
  | .low => some false

inductive Moved (samples : List (TideSample K)) (delta : K) (i : ℕ) (before after : Scan K) :
    Prop where
  | turned (side : Side) (allowed : before.lookForMax ≠ lookFor side.other)
      (far : level side (valueAt samples i) + delta <
        level side (valueAt samples (nextCandidate (valueAt samples) side i
          (runningIdx before side))))
      (extrema : after.extrema = before.extrema ++ innerExtreme samples
        (nextCandidate (valueAt samples) side i (runningIdx before side)) (typeOf side))
      (pivot : after.pivot = some (valueAt samples
        (nextCandidate (valueAt samples) side i (runningIdx before side))))
      (opened : runningIdx after side.other = i)
      (mode : after.lookForMax = lookFor side.other)
  | stayed
      (near : ∀ side, before.lookForMax ≠ lookFor side.other →
        ¬level side (valueAt samples i) + delta <
          level side (valueAt samples (nextCandidate (valueAt samples) side i
            (runningIdx before side))))
      (extrema : after.extrema = before.extrema)
      (pivot : after.pivot = before.pivot)
      (kept : ∀ side, runningIdx after side =
        nextCandidate (valueAt samples) side i (runningIdx before side))
      (mode : after.lookForMax = before.lookForMax)

def Tracked (samples : List (TideSample K)) (k : ℕ) (scan : Scan K) : Prop :=
  ∀ side, running scan side = some (valueAt samples (runningIdx scan side)) ∧
    runningIdx scan side < k

inductive Phase (samples : List (TideSample K)) (delta : K) (k : ℕ) (scan : Scan K) : Prop where
  | opening (mode : scan.lookForMax = none) (extrema : scan.extrema = [])
      (pivot : scan.pivot = none)
      (held : ∀ side, Candidate (valueAt samples) delta side 0 k (runningIdx scan side))
  | tracking (side : Side) (turn : ℕ) (rest : List (ℕ × Side))
      (mode : scan.lookForMax = lookFor side)
      (zigzag : Zigzag (valueAt samples) delta k ((turn, side.other) :: rest))
      (extrema : scan.extrema = emitted samples ((turn, side.other) :: rest))
      (pivot : scan.pivot = some (valueAt samples turn))
      (held : Candidate (valueAt samples) delta side turn k (runningIdx scan side))
      (apart : level side (valueAt samples turn) + delta <
        level side (valueAt samples (runningIdx scan side)))

variable [IsStrictOrderedRing K]

theorem widen_tracked {scan : Scan K} (tracked : Tracked samples i scan) (side : Side) :
    runningIdx (widen i (valueAt samples i) scan) side =
        nextCandidate (valueAt samples) side i (runningIdx scan side) ∧
      running (widen i (valueAt samples i) scan) side = some (valueAt samples
        (nextCandidate (valueAt samples) side i (runningIdx scan side))) := by
  have high : scan.mx = some (valueAt samples scan.mxIdx) := (tracked .high).1
  have low : scan.mn = some (valueAt samples scan.mnIdx) := (tracked .low).1
  unfold widen
  simp only [high, Option.mem_some_iff, forall_eq']
  by_cases up : valueAt samples scan.mxIdx < valueAt samples i
  · by_cases down : valueAt samples i < valueAt samples scan.mnIdx
    · cases side <;> simp [runningIdx, running, nextCandidate, level, up, down, low]
    · cases side <;> simp [runningIdx, running, nextCandidate, level, up, down, low]
  · by_cases down : valueAt samples i < valueAt samples scan.mnIdx
    · cases side <;> simp [runningIdx, running, nextCandidate, level, up, down, low, high]
    · cases side <;> simp [runningIdx, running, nextCandidate, level, up, down, low, high]

variable {delta : K}

theorem step_moved {before : Scan K}
    (within : i < samples.length) (tracked : Tracked samples i before) :
    Moved samples delta i before (step samples delta i (valueAt samples i) before) ∧
      Tracked samples (i + 1) (step samples delta i (valueAt samples i) before) := by
  have frame := widen_frame i (valueAt samples i) before
  have high := widen_tracked tracked .high
  have low := widen_tracked tracked .low
  have high_seen := nextCandidate_lt (valueAt samples) .high (tracked .high).2
  have low_seen := nextCandidate_lt (valueAt samples) .low (tracked .low).2
  unfold step
  generalize widen i (valueAt samples i) before = scan at frame high low ⊢
  simp only [runningIdx, running] at high low high_seen low_seen
  simp only [high.2, low.2, Option.mem_some_iff, exists_eq_left']
  split_ifs with falls rises
  · have far : level .high (valueAt samples i) + delta < level .high (valueAt samples
        (nextCandidate (valueAt samples) .high i before.mxIdx)) := lt_sub_iff_add_lt.mp falls.2
    refine ⟨.turned .high ?_ far ?_ ?_ rfl rfl, ?_⟩
    · rw [← frame.2.2]
      exact falls.1
    · simp only [frame.1, high.1, runningIdx, typeOf]
    · simp only [high.1, runningIdx]
      exact getElem_value (by omega)
    · rintro (_ | _)
      · exact ⟨by simp [running, runningIdx, high], by simp only [runningIdx]; omega⟩
      · exact ⟨rfl, lt_succ_self i⟩
  · have far : level .low (valueAt samples i) + delta < level .low (valueAt samples
        (nextCandidate (valueAt samples) .low i before.mnIdx)) := by
      have := rises.2
      simp only [level]
      linarith
    refine ⟨.turned .low ?_ far ?_ ?_ rfl rfl, ?_⟩
    · rw [← frame.2.2]
      exact rises.1
    · simp only [frame.1, low.1, runningIdx, typeOf]
    · simp only [low.1, runningIdx]
      exact getElem_value (by omega)
    · rintro (_ | _)
      · exact ⟨rfl, lt_succ_self i⟩
      · exact ⟨by simp [running, runningIdx, low], by simp only [runningIdx]; omega⟩
  · refine ⟨.stayed ?_ frame.1 frame.2.1 ?_ frame.2.2, ?_⟩
    · rintro (_ | _) allowed far
      · exact falls ⟨by rw [frame.2.2]; exact allowed, lt_sub_iff_add_lt.mpr far⟩
      · refine rises ⟨by rw [frame.2.2]; exact allowed, ?_⟩
        simp only [level, runningIdx] at far
        linarith
    · rintro (_ | _)
      · exact high.1
      · exact low.1
    · rintro (_ | _)
      · exact ⟨by simp [running, runningIdx, high], by simp only [runningIdx]; omega⟩
      · exact ⟨by simp [running, runningIdx, low], by simp only [runningIdx]; omega⟩

theorem lookFor_other {side other : Side} (allowed : lookFor side ≠ lookFor other.other) :
    other = side := by
  cases side <;> cases other <;> first | rfl | exact absurd rfl allowed

theorem lookFor_ne_none (side : Side) : lookFor side ≠ none := by
  cases side <;> simp [lookFor]

theorem lookFor_ne_other (side : Side) : lookFor side ≠ lookFor side.other := by
  cases side <;> simp [lookFor, Side.other]

theorem phase_step {k : ℕ} {before after : Scan K}
    (positive : 0 < delta) (phase : Phase samples delta k before)
    (moved : Moved samples delta k before after) : Phase samples delta (k + 1) after := by
  cases phase with
  | opening mode extrema pivot held =>
    cases moved with
    | turned side allowed far extrema' pivot' opened mode' =>
      have same := far_keeps positive far
      rw [same] at far extrema' pivot'
      obtain ⟨leads, candidate, apart⟩ := (held side).turn positive far
      refine .tracking side.other (runningIdx before side) [] mode' ?_ ?_ pivot' ?_ ?_
      · rw [other_other]
        exact ⟨(held side).seen.trans (lt_succ_self k), leads, by simp, trivial⟩
      · rw [extrema', extrema, emitted_cons, other_other]
        rfl
      · rw [opened]
        exact candidate
      · rw [opened]
        exact apart
    | stayed near extrema' pivot' kept mode' =>
      refine .opening (mode'.trans mode) (extrema'.trans extrema) (pivot'.trans pivot) ?_
      intro side
      rw [kept side]
      exact (held side).next positive
        (near side (by rw [mode]; exact (lookFor_ne_none _).symm))
  | tracking side turn rest mode zigzag extrema pivot held apart =>
    cases moved with
    | turned other allowed far extrema' pivot' opened mode' =>
      rw [mode] at allowed
      have there := lookFor_other allowed
      subst there
      have same := far_keeps positive far
      rw [same] at far extrema' pivot'
      obtain ⟨leads, candidate, beyond⟩ := held.turn positive far
      have later : turn < runningIdx before other := by
        refine lt_of_le_of_ne held.start fun here => ?_
        rw [← here] at apart
        linarith
      refine .tracking other.other (runningIdx before other) ((turn, other.other) :: rest)
        mode' ?_ ?_ pivot' ?_ ?_
      · rw [other_other]
        refine ⟨held.seen.trans (lt_succ_self k), leads, ?_, ?_⟩
        · intro earlier first
          cases first
          exact ⟨later, rfl, apart.le⟩
        · refine zigzag.earlier held.seen ?_
          intro first here
          cases here
          exact later.trans (lt_succ_self _)
      · rw [extrema', extrema, emitted_cons _ (_, other.other.other), other_other]
      · rw [opened]
        exact candidate
      · rw [opened]
        exact beyond
    | stayed near extrema' pivot' kept mode' =>
      have stays := near side (by rw [mode]; exact lookFor_ne_other side)
      have further := le_nextCandidate (valueAt samples) side k (runningIdx before side)
      refine .tracking side turn rest (mode'.trans mode) ?_ (extrema'.trans extrema)
        (pivot'.trans pivot) ?_ ?_
      · refine zigzag.extend ?_
        intro last here
        cases here
        rw [level_other, level_other]
        linarith
      · rw [kept side]
        exact held.next positive stays
      · rw [kept side]
        linarith

theorem scanned_phase (samples) (positive : 0 < delta) : ∀ k, 0 < k → k ≤ samples.length →
      Phase samples delta k (scanned samples delta k) ∧ Tracked samples k (scanned samples delta k)
  | 0, here, _ => absurd here (lt_irrefl 0)
  | 1, _, within => by
    have here := List.getElem?_eq_getElem (by omega : 0 < samples.length)
    have first : scanned samples delta 1 =
        step samples delta 0 (valueAt samples 0) start := by
      simp [scanned, here, valueAt]
    have settled : scanned samples delta 1 =
        { start with mx := some (valueAt samples 0), mn := some (valueAt samples 0) } := by
      have steady : ¬valueAt samples 0 < valueAt samples 0 - delta := by linarith
      rw [first]
      simp [step, widen, start, steady, positive.le]
    rw [settled]
    constructor
    · refine .opening rfl rfl rfl ?_
      intro side
      have zero : ∀ j : ℕ, j < 1 → j = 0 := fun j below => by omega
      cases side <;>
        exact ⟨le_rfl, Nat.zero_lt_one, fun j _ below => by rw [zero j below]; exact le_rfl,
          fun j _ below => by rw [zero j below]; exact le_add_of_nonneg_right positive.le⟩
    · intro side
      cases side <;> exact ⟨rfl, Nat.zero_lt_one⟩
  | k + 2, _, within => by
    obtain ⟨phase, tracked⟩ := scanned_phase samples positive (k + 1) k.succ_pos (by omega)
    have here := List.getElem?_eq_getElem (by omega : k + 1 < samples.length)
    have next : scanned samples delta (k + 2) =
        step samples delta (k + 1) (valueAt samples (k + 1)) (scanned samples delta (k + 1)) := by
      simp [scanned, here, valueAt]
    have within' : k + 1 < samples.length := by omega
    obtain ⟨moved, after⟩ : Moved samples delta (k + 1) _ _ ∧ _ := step_moved within' tracked
    rw [next]
    exact ⟨phase_step positive phase moved, after⟩

end OpenMapX.Core.TideExtrema
