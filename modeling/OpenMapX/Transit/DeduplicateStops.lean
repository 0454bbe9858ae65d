import OpenMapX.Foundation.MinimalRoots

/-!
# Deduplication of stops

`deduplicateStops` unites stops that are near each other and similarly named, and keeps
the best stop of every class. Only stops in neighbouring cells of the unit sphere are
compared. Coordinates are exact reals.
-/

namespace OpenMapX.Transit.DeduplicateStops

open Foundation.MinimalRoots Real Classical List

noncomputable section

structure TransitStop where
  provider : String
  name : String
  lat : Option ℝ
  lng : Option ℝ

abbrev Name := List UInt16

def bigrams (value : Name) : List (UInt16 × UInt16) := value.zip value.tail

def intersection (left right : Name) : ℕ :=
  ((bigrams left).dedup.map fun bigram =>
    min ((bigrams left).count bigram) ((bigrams right).count bigram)).sum

def diceSimilarity (left right : Name) : ℝ :=
  if left = right then 1
  else if left.length < 2 ∨ right.length < 2 then 0
  else (2 * intersection left right : ℕ) / (left.length - 1 + (right.length - 1))

def MAX_DISTANCE_M : ℝ := (300 : ℕ)

def MIN_DICE : ℝ := 1 / (2 : ℕ)

def EARTH_RADIUS_M : ℝ := (6371000 : ℕ)

def radians (degrees : ℝ) : ℝ := degrees * π / (180 : ℕ)

def arc (fromLat fromLng toLat toLng : ℝ) : ℝ :=
  sin (radians (toLat - fromLat) / (2 : ℕ)) ^ 2 +
    cos (radians fromLat) * cos (radians toLat) * sin (radians (toLng - fromLng) / (2 : ℕ)) ^ 2

/-- Nothing is `NaN`. -/
def haversineMeters (a b : TransitStop) : Option ℝ :=
  match a.lat, a.lng, b.lat, b.lng with
  | some fromLat, some fromLng, some toLat, some toLng =>
    some ((2 : ℕ) * EARTH_RADIUS_M * arcsin (sqrt (arc fromLat fromLng toLat toLng)))
  | _, _, _, _ => none

/-- A distance that is `NaN` is not above the limit; `names` is `normalizeName`. -/
def Joined (names : String → Name) (a b : TransitStop) : Prop :=
  (∀ dist, haversineMeters a b = some dist → dist ≤ MAX_DISTANCE_M) ∧
    MIN_DICE ≤ diceSimilarity (names a.name) (names b.name)

def cellWidth : ℝ := MAX_DISTANCE_M / EARTH_RADIUS_M + 1 / (10 ^ 12 : ℕ)

abbrev Cell := ℤ × ℤ × ℤ

def cellOf (stop : TransitStop) : Option Cell :=
  match stop.lat, stop.lng with
  | some lat, some lng =>
    if |lat| > (90 : ℕ) ∨ |lng| > (180 : ℕ) then none
    else
      some (⌊cos (radians lat) * cos (radians lng) / cellWidth⌋,
        ⌊cos (radians lat) * sin (radians lng) / cellWidth⌋, ⌊sin (radians lat) / cellWidth⌋)
  | _, _ => none

def steps : List ℤ := [-1, 0, 1]

def neighbours (cell : Cell) : List Cell :=
  steps.flatMap fun dx => steps.flatMap fun dy => steps.map fun dz =>
    (cell.1 + dx, cell.2.1 + dy, cell.2.2 + dz)

variable (names : String → Name) (sorted : List TransitStop)

def cellAt (i : ℕ) : Option Cell := sorted[i]?.bind cellOf

/-- What the index holds when a stop is reached: the cells and the stops without one. -/
def cells (i : ℕ) (key : Cell) : List ℕ :=
  (List.range i).filter fun j => cellAt sorted j = some key

def unindexed (i : ℕ) : List ℕ := (List.range i).filter fun j => cellAt sorted j = none

def compared (i : ℕ) : List ℕ :=
  match cellAt sorted i with
  | none => List.range i
  | some cell => (neighbours cell).flatMap (cells sorted i) ++ unindexed sorted i

def JoinedAt (i j : ℕ) : Prop := ∃ a b, sorted[i]? = some a ∧ sorted[j]? = some b ∧ Joined names a b

def clustered : Forest :=
  (List.range sorted.length).foldl (fun forest i =>
    (compared sorted i).foldl (fun forest j =>
      if JoinedAt names sorted i j then forest.unite i j else forest) forest) .singletons

/-- The first stop of every root. The search for the roots compresses ways, but moves no root. -/
def keepIndices : List ℕ :=
  (List.range sorted.length).filter fun i =>
    ∀ j < i, (clustered names sorted).root j ≠ (clustered names sorted).root i

def sortStops (getPriority : String → ℝ) (stops : List TransitStop) : List TransitStop :=
  stops.insertionSort fun a b => getPriority a.provider ≤ getPriority b.provider

def deduplicateStops (getPriority : String → ℝ) (stops : List TransitStop) : List TransitStop :=
  if stops.length ≤ 1 then stops
  else
    let sorted := sortStops getPriority stops
    (sorted.zipIdx.filter fun entry => entry.2 ∈ keepIndices names sorted).map (·.1)

theorem arc_eq (a b c d : ℝ) : 4 * arc a b c d =
    (cos (radians a) * cos (radians b) - cos (radians c) * cos (radians d)) ^ 2 +
    (cos (radians a) * sin (radians b) - cos (radians c) * sin (radians d)) ^ 2 +
    (sin (radians a) - sin (radians c)) ^ 2 := by
  have half : ∀ x y, sin (radians (y - x) / (2 : ℕ)) ^ 2 =
      1 / 2 - (cos (radians y) * cos (radians x) + sin (radians y) * sin (radians x)) / 2 := by
    intro x y
    rw [sin_sq_eq_half_sub, ← cos_sub]
    congr 2
    simp only [radians]
    push_cast
    ring_nf
  rw [arc, half, half]
  have first := sin_sq_add_cos_sq (radians a)
  have second := sin_sq_add_cos_sq (radians b)
  have third := sin_sq_add_cos_sq (radians c)
  have fourth := sin_sq_add_cos_sq (radians d)
  linear_combination -first - third - cos (radians a) ^ 2 * second -
    cos (radians c) ^ 2 * fourth

theorem arc_bounds (a b c d : ℝ) : 0 ≤ arc a b c d ∧ arc a b c d ≤ 1 := by
  have chord := arc_eq a b c d
  refine ⟨by nlinarith [chord], ?_⟩
  have first := sin_sq_add_cos_sq (radians a)
  have second := sin_sq_add_cos_sq (radians b)
  have third := sin_sq_add_cos_sq (radians c)
  have fourth := sin_sq_add_cos_sq (radians d)
  have other : 4 - 4 * arc a b c d =
      (cos (radians a) * cos (radians b) + cos (radians c) * cos (radians d)) ^ 2 +
      (cos (radians a) * sin (radians b) + cos (radians c) * sin (radians d)) ^ 2 +
      (sin (radians a) + sin (radians c)) ^ 2 := by
    rw [chord]
    linear_combination -2 * first - 2 * third - 2 * cos (radians a) ^ 2 * second -
      2 * cos (radians c) ^ 2 * fourth
  nlinarith [other]

theorem arc_symm (a b c d : ℝ) : arc a b c d = arc c d a b := by
  have first := arc_eq a b c d
  have second := arc_eq c d a b
  linarith

theorem arc_small {a b c d : ℝ}
    (near : (2 : ℕ) * EARTH_RADIUS_M * arcsin (sqrt (arc a b c d)) ≤ MAX_DISTANCE_M) :
    4 * arc a b c d ≤ (MAX_DISTANCE_M / EARTH_RADIUS_M) ^ 2 := by
  obtain ⟨low, high⟩ := arc_bounds a b c d
  have root : sqrt (arc a b c d) ≤ 1 := by
    exact Real.sqrt_le_one.mpr high
  have angle : sqrt (arc a b c d) ≤ arcsin (sqrt (arc a b c d)) := by
    conv_lhs => rw [← sin_arcsin (by linarith [sqrt_nonneg (arc a b c d)]) root]
    exact sin_le (arcsin_nonneg.mpr (sqrt_nonneg _))
  have radius : 0 < EARTH_RADIUS_M := by norm_num [EARTH_RADIUS_M]
  have small : 2 * sqrt (arc a b c d) ≤ MAX_DISTANCE_M / EARTH_RADIUS_M := by
    rw [le_div_iff₀ radius]
    push_cast at near
    nlinarith
  have square := pow_le_pow_left₀ (by positivity) small 2
  rwa [mul_pow, sq_sqrt low, show (2 : ℝ) ^ 2 = 4 by norm_num] at square

theorem floor_step {x y : ℝ} (near : (x - y) ^ 2 ≤ (MAX_DISTANCE_M / EARTH_RADIUS_M) ^ 2) :
    ⌊y / cellWidth⌋ - ⌊x / cellWidth⌋ ∈ steps := by
  have ratio : 0 ≤ MAX_DISTANCE_M / EARTH_RADIUS_M := by
    norm_num [MAX_DISTANCE_M, EARTH_RADIUS_M]
  have wide : MAX_DISTANCE_M / EARTH_RADIUS_M < cellWidth := by norm_num [cellWidth]
  have positive := ratio.trans_lt wide
  obtain ⟨below, above⟩ := abs_le.mp (abs_le_of_sq_le_sq near ratio)
  have one : y / cellWidth < x / cellWidth + 1 := by
    rw [div_add_one positive.ne', div_lt_div_iff_of_pos_right positive]
    linarith
  have two : x / cellWidth < y / cellWidth + 1 := by
    rw [div_add_one positive.ne', div_lt_div_iff_of_pos_right positive]
    linarith
  have up : ⌊y / cellWidth⌋ < ⌊x / cellWidth⌋ + 2 := by
    rw [Int.floor_lt]
    push_cast
    linarith [Int.lt_floor_add_one (x / cellWidth)]
  have down : ⌊x / cellWidth⌋ < ⌊y / cellWidth⌋ + 2 := by
    rw [Int.floor_lt]
    push_cast
    linarith [Int.lt_floor_add_one (y / cellWidth)]
  have range : ⌊y / cellWidth⌋ - ⌊x / cellWidth⌋ = -1 ∨ ⌊y / cellWidth⌋ - ⌊x / cellWidth⌋ = 0 ∨
      ⌊y / cellWidth⌋ - ⌊x / cellWidth⌋ = 1 := by omega
  simpa [steps] using range

theorem joined_neighbours {names : String → Name} {a b} {first second : Cell}
    (joined : Joined names a b) (at_a : cellOf a = some first) (at_b : cellOf b = some second) :
    second ∈ neighbours first := by
  unfold cellOf at at_a at_b
  split at at_a
  · rename_i alat alng alat_eq alng_eq
    split at at_b
    · rename_i blat blng blat_eq blng_eq
      split_ifs at at_a at_b
      obtain rfl := Option.some.inj at_a
      obtain rfl := Option.some.inj at_b
      have near := joined.1
        ((2 : ℕ) * EARTH_RADIUS_M * arcsin (sqrt (arc alat alng blat blng)))
        (by simp only [haversineMeters, alat_eq, alng_eq, blat_eq, blng_eq])
      have chord := arc_small near
      rw [arc_eq] at chord
      refine mem_flatMap.mpr ⟨_, floor_step (by nlinarith [chord] :
        (cos (radians alat) * cos (radians alng) - cos (radians blat) * cos (radians blng)) ^ 2 ≤
          (MAX_DISTANCE_M / EARTH_RADIUS_M) ^ 2), mem_flatMap.mpr ⟨_, floor_step
        (by nlinarith [chord] :
        (cos (radians alat) * sin (radians alng) - cos (radians blat) * sin (radians blng)) ^ 2 ≤
          (MAX_DISTANCE_M / EARTH_RADIUS_M) ^ 2), mem_map.mpr ⟨_, floor_step
        (by nlinarith [chord] : (sin (radians alat) - sin (radians blat)) ^ 2 ≤
          (MAX_DISTANCE_M / EARTH_RADIUS_M) ^ 2), ?_⟩⟩⟩
      simp
    · cases at_b
  · cases at_a

theorem intersection_eq (left right : Name) : intersection left right =
    ∑ bigram ∈ (bigrams left).toFinset ∪ (bigrams right).toFinset,
      min ((bigrams left).count bigram) ((bigrams right).count bigram) := by
  have once : (bigrams left).dedup.toFinset = (bigrams left).toFinset := by
    ext bigram
    simp
  rw [intersection, ← List.sum_toFinset _ (nodup_dedup _), once]
  apply Finset.sum_subset Finset.subset_union_left
  intro bigram _ absent
  rw [count_eq_zero.mpr (by simpa using absent), Nat.zero_min]

theorem dice_symm (left right : Name) : diceSimilarity left right = diceSimilarity right left := by
  have same : intersection left right = intersection right left := by
    simp only [intersection_eq, Finset.union_comm, min_comm]
  unfold diceSimilarity
  simp only [same, @eq_comm _ left, @or_comm (left.length < 2), add_comm (left.length - 1 : ℝ)]

theorem joined_symm {names : String → Name} {a b} (joined : Joined names a b) :
    Joined names b a := by
  have same : haversineMeters b a = haversineMeters a b := by
    unfold haversineMeters
    cases a.lat <;> cases a.lng <;> cases b.lat <;> cases b.lng <;> simp [arc_symm]
  exact ⟨fun dist given => joined.1 dist (same ▸ given), dice_symm _ _ ▸ joined.2⟩

def Component : ℕ → ℕ → Prop := Relation.EqvGen (JoinedAt names sorted)

def united : List (ℕ × ℕ) :=
  ((List.range sorted.length).flatMap fun i => (compared sorted i).map fun j => (i, j)).filter
    fun pair => JoinedAt names sorted pair.1 pair.2

theorem clustered_eq : clustered names sorted = Forest.unions (united names sorted) := by
  unfold clustered Forest.unions united
  rw [foldl_filter, foldl_flatMap]
  simp only [foldl_map, decide_eq_true_eq]

variable {names sorted} {i j : ℕ}

theorem JoinedAt.symm (joined : JoinedAt names sorted i j) : JoinedAt names sorted j i := by
  obtain ⟨a, b, at_a, at_b, both⟩ := joined
  exact ⟨b, a, at_b, at_a, joined_symm both⟩

theorem mem_compared (before : j < i) (joined : JoinedAt names sorted i j) :
    j ∈ compared sorted i := by
  obtain ⟨a, b, at_a, at_b, both⟩ := joined
  have cell_i : cellAt sorted i = cellOf a := by simp [cellAt, at_a]
  have cell_j : cellAt sorted j = cellOf b := by simp [cellAt, at_b]
  unfold compared
  split
  · exact mem_range.mpr before
  · rename_i cell here
    rw [mem_append]
    cases there : cellAt sorted j with
    | none => exact Or.inr (mem_filter.mpr ⟨mem_range.mpr before, by simp [there]⟩)
    | some key =>
      refine Or.inl (mem_flatMap.mpr ⟨key, joined_neighbours both
        (cell_i.symm.trans here) (cell_j.symm.trans there), ?_⟩)
      exact mem_filter.mpr ⟨mem_range.mpr before, by simp [there]⟩

theorem component_iff : Component names sorted i j ↔
    Relation.EqvGen (fun a b => (a, b) ∈ united names sorted) i j := by
  constructor
  · intro connected
    induction connected with
    | rel x y joined =>
      have listed : ∀ {x y}, y < x → JoinedAt names sorted x y →
          (x, y) ∈ united names sorted := by
        intro x y before joined
        refine mem_filter.mpr ⟨mem_flatMap.mpr ⟨x, ?_,
          mem_map.mpr ⟨y, mem_compared before joined, rfl⟩⟩, by simpa using joined⟩
        obtain ⟨a, -, at_a, -, -⟩ := joined
        exact mem_range.mpr (List.getElem?_eq_some_iff.mp at_a).1
      rcases lt_trichotomy x y with before | same | after
      · exact (Relation.EqvGen.rel _ _ (listed before joined.symm)).symm
      · exact same ▸ .refl x
      · exact .rel _ _ (listed after joined)
    | refl x => exact .refl x
    | symm x y _ ih => exact ih.symm
    | trans x y z _ _ one two => exact one.trans _ _ _ two
  · exact fun connected => connected.mono fun x y member => by
      simpa using (mem_filter.mp member).2

theorem mem_keep : i ∈ keepIndices names sorted ↔
    i < sorted.length ∧ (clustered names sorted).root i = i := by
  simp only [keepIndices, mem_filter, mem_range, decide_eq_true_eq]
  refine and_congr_right fun _ => ⟨fun first => ?_, fun top j before same => ?_⟩
  · by_contra lower
    exact first _ (lt_of_le_of_ne (Forest.root_le _ i) lower)
      (Forest.root_of_top _ (Forest.parent_root _ i))
  · have := Forest.root_le (clustered names sorted) j
    omega

def firstOfEach (names : String → Name) (sorted : List TransitStop) : List TransitStop :=
  (sorted.zipIdx.filter fun entry =>
    ∀ j, Component names sorted j entry.2 → entry.2 ≤ j).map (·.1)

variable {getPriority : String → ℝ} {stops : List TransitStop}

theorem deduplicate_eq :
    deduplicateStops names getPriority stops = firstOfEach names (sortStops getPriority stops) := by
  unfold deduplicateStops
  split_ifs with few
  · have sorted : sortStops getPriority stops = stops := by
      match stops, few with
      | [], _ => rfl
      | [stop], _ => rfl
    rw [sorted]
    match stops, few with
    | [], _ => rfl
    | [stop], _ => simp [firstOfEach]
  · refine congrArg _ (filter_congr fun entry member => ?_)
    have inside := (List.getElem?_eq_some_iff.mp (List.mem_zipIdx_iff_getElem?.mp member)).1
    have least := Forest.root_eq_iff (united names (sortStops getPriority stops)) entry.2
    simp only [← component_iff, ← clustered_eq] at least
    rw [decide_eq_decide, mem_keep, least]
    exact and_iff_right inside

theorem indexed (sorted : List TransitStop) : sorted.zipIdx.Pairwise fun first second =>
    first.2 < second.2 ∧ sorted[first.2]? = some first.1 ∧ sorted[second.2]? = some second.1 := by
  refine pairwise_iff_getElem.mpr fun i j i_in j_in before => ?_
  rw [length_zipIdx] at i_in j_in
  simp [i_in, j_in, before]

theorem kept_apart : (firstOfEach names sorted).Pairwise fun a b => ¬Joined names a b := by
  rw [firstOfEach, pairwise_map, pairwise_filter]
  refine (indexed sorted).imp fun {first second} at_both _ least joined => ?_
  have connected : Component names sorted first.2 second.2 :=
    .rel _ _ ⟨_, _, at_both.2.1, at_both.2.2, joined⟩
  exact absurd ((of_decide_eq_true least) _ connected) (not_le.mpr at_both.1)

theorem apart_first (apart : sorted.Pairwise fun a b => ¬Joined names a b) :
    firstOfEach names sorted = sorted := by
  have never : ∀ {x y}, JoinedAt names sorted x y → x = y := by
    intro x y joined
    have once : ∀ {x y}, JoinedAt names sorted x y → ¬x < y := by
      rintro x y ⟨a, b, at_a, at_b, both⟩ before
      obtain ⟨x_in, rfl⟩ := List.getElem?_eq_some_iff.mp at_a
      obtain ⟨y_in, rfl⟩ := List.getElem?_eq_some_iff.mp at_b
      exact pairwise_iff_getElem.mp apart x y x_in y_in before both
    exact le_antisymm (not_lt.mp (once joined.symm)) (not_lt.mp (once joined))
  have alone : ∀ {x y}, Component names sorted x y → x = y := by
    intro x y connected
    induction connected with
    | rel x y joined => exact never joined
    | refl x => rfl
    | symm x y _ ih => exact ih.symm
    | trans x y z _ _ one two => exact one.trans two
  rw [firstOfEach, filter_eq_self.mpr, zipIdx_map_fst]
  exact fun entry _ => decide_eq_true fun j connected => (alone connected).ge

theorem one_of_each_component (names : String → Name) (getPriority : String → ℝ)
    (stops : List TransitStop) :
    let sorted := sortStops getPriority stops
    sorted.Perm stops ∧
      sorted.Pairwise (fun a b => getPriority a.provider ≤ getPriority b.provider) ∧
      (∀ priority, sorted.filter (fun stop => getPriority stop.provider = priority) =
        stops.filter fun stop => getPriority stop.provider = priority) ∧
      deduplicateStops names getPriority stops = firstOfEach names sorted ∧
      deduplicateStops names getPriority (deduplicateStops names getPriority stops) =
        deduplicateStops names getPriority stops := by
  intro sorted
  have ordered : sorted.Pairwise fun a b => getPriority a.provider ≤ getPriority b.provider :=
    pairwise_insertionSort _ stops
  have perm : sorted.Perm stops := perm_insertionSort _ stops
  refine ⟨perm, ordered, fun priority => ?_, deduplicate_eq, ?_⟩
  · -- The stops of one priority are a sorted sublist, which the sort keeps.
    have kept : (stops.filter fun stop => getPriority stop.provider = priority).Sublist sorted :=
      sublist_insertionSort (pairwise_filter.mpr (by
        refine pairwise_of_forall fun a b first second => ?_
        simp only [decide_eq_true_eq] at first second
        rw [first, second])) filter_sublist
    have inner := kept.filter fun stop => decide (getPriority stop.provider = priority)
    rw [filter_filter] at inner
    simp only [Bool.and_self] at inner
    exact (inner.eq_of_length (perm.filter _).length_eq.symm).symm
  · have same : sortStops getPriority (firstOfEach names sorted) = firstOfEach names sorted := by
      apply List.Pairwise.insertionSort_eq
      rw [firstOfEach, pairwise_map, pairwise_filter]
      refine (indexed sorted).imp fun {first second} at_both _ _ => ?_
      obtain ⟨x_in, x_eq⟩ := List.getElem?_eq_some_iff.mp at_both.2.1
      obtain ⟨y_in, y_eq⟩ := List.getElem?_eq_some_iff.mp at_both.2.2
      rw [← x_eq, ← y_eq]
      exact pairwise_iff_getElem.mp ordered _ _ x_in y_in at_both.1
    rw [@deduplicate_eq names getPriority stops, deduplicate_eq, same]
    exact apart_first kept_apart

end

end OpenMapX.Transit.DeduplicateStops
