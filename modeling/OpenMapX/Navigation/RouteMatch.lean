import OpenMapX.Foundation.SphericalCaps
import OpenMapX.Navigation.RouteSearch

/-!
# Matching to a route on the sphere

With the functions of the real numbers the angle between two directions is their angle in
space. Every cap of the hierarchy holds the caps below it and every cap of an edge its
minor arc, so that the search returns what the scan returns.
-/

namespace OpenMapX.Navigation.RouteMatch

open InnerProductGeometry Foundation.Nearest Foundation.SphericalCaps RouteIndex List RouteSearch
open Navigation.TransitTrip (JsNumber)

/-- `degrees % 360`, which has the sign of the degrees. -/
noncomputable def degreesToRadians (degrees : ℝ) : ℝ :=
  let turns : ℤ := if 0 ≤ degrees then ⌊degrees / 360⌋ else ⌈degrees / 360⌉
  (degrees - 360 * turns) * Real.pi / 180

noncomputable def realTrig : Trig ℝ where
  sqrt := Real.sqrt
  atan2 := fun y x => Complex.arg ⟨x, y⟩
  sin := Real.sin
  cos := Real.cos
  pi := Real.pi
  degreesToRadians := degreesToRadians

abbrev Space := EuclideanSpace ℝ (Fin 3)

noncomputable def inSpace (a : Vec ℝ) : Space :=
  (EuclideanSpace.equiv (Fin 3) ℝ).symm ![a.x, a.y, a.z]

theorem inner_in_space (a b : Vec ℝ) : inner ℝ (inSpace a) (inSpace b) = a.dot b := by
  unfold inSpace Vec.dot
  rw [PiLp.inner_apply, Fin.sum_univ_three]
  simp only [RCLike.inner_apply, conj_trivial]
  simp
  ring

theorem norm_in_space (a : Vec ℝ) : ‖inSpace a‖ = magnitude realTrig a := by
  unfold magnitude realTrig
  rw [@norm_eq_sqrt_real_inner Space, inner_in_space]
  rfl

theorem in_space_add (a b : Vec ℝ) : inSpace (a.add b) = inSpace a + inSpace b := by
  unfold inSpace Vec.add
  ext i
  fin_cases i <;> simp

theorem in_space_divided (a : Vec ℝ) (length : ℝ) :
    inSpace (a.divided length) = length⁻¹ • inSpace a := by
  unfold inSpace Vec.divided
  ext i
  fin_cases i <;> simp [div_eq_inv_mul]

def IsUnit (a : Vec ℝ) : Prop := ‖inSpace a‖ = 1

theorem unit_vector (p) : IsUnit (unitVector realTrig p) := by
  have square : (unitVector realTrig p).dot (unitVector realTrig p) = 1 := by
    unfold unitVector realTrig Vec.dot
    dsimp only
    have first := Real.sin_sq_add_cos_sq (degreesToRadians p.lat)
    have second := Real.sin_sq_add_cos_sq (degreesToRadians p.lng)
    linear_combination first + Real.cos (degreesToRadians p.lat) ^ 2 * second
  unfold IsUnit
  rw [@norm_eq_sqrt_real_inner Space, inner_in_space, square, Real.sqrt_one]

theorem cross_square (a b : Vec ℝ) :
    (a.cross b).dot (a.cross b) = a.dot a * b.dot b - a.dot b ^ 2 := by
  unfold Vec.cross Vec.dot
  ring

theorem angle_between {a b : Vec ℝ} (aUnit : IsUnit a) (bUnit : IsUnit b) :
    angleBetween realTrig a b = angle (inSpace a) (inSpace b) := by
  have height : magnitude realTrig (a.cross b) ^ 2 = 1 - a.dot b ^ 2 := by
    rw [← norm_in_space, ← real_inner_self_eq_norm_sq, inner_in_space, cross_square,
      ← inner_in_space a a, ← inner_in_space b b, real_inner_self_eq_norm_sq,
      real_inner_self_eq_norm_sq, aUnit, bUnit]
    norm_num
  have length : ‖(⟨a.dot b, magnitude realTrig (a.cross b)⟩ : ℂ)‖ = 1 := by
    rw [Complex.norm_def, Complex.normSq_mk]
    have square : a.dot b * a.dot b +
        magnitude realTrig (a.cross b) * magnitude realTrig (a.cross b) = 1 := by
      linear_combination height
    rw [square, Real.sqrt_one]
  show Complex.arg ⟨a.dot b, magnitude realTrig (a.cross b)⟩ = _
  rw [Complex.arg_of_im_nonneg_of_ne_zero, length]
  · unfold angle
    rw [inner_in_space, aUnit, bUnit, mul_one]
  · show 0 ≤ magnitude realTrig (a.cross b)
    rw [← norm_in_space]
    exact norm_nonneg _
  · intro zero
    rw [zero, norm_zero] at length
    exact zero_ne_one length

def regionOf (cap : Cap ℝ) : Set Space := region (inSpace cap.centre) cap.radius

theorem floor_nonneg : (0 : ℝ) ≤ CAP_FLOOR_RADIANS := by
  unfold CAP_FLOOR_RADIANS
  positivity

theorem middle_cases {a b centre : Vec ℝ} (found : middle realTrig a b = some centre) :
    IsUnit centre ∧ ∃ scale : ℝ, 0 < scale ∧ inSpace centre = scale • (inSpace a + inSpace b) := by
  unfold middle at found
  dsimp only at found
  split at found
  · rename_i long
    cases found
    have positive : 0 < magnitude realTrig (a.add b) := by
      apply lt_trans _ long
      unfold MIN_CENTRE_MAGNITUDE
      positivity
    apply And.intro
    · unfold IsUnit
      rw [in_space_divided, norm_smul, norm_in_space, norm_inv, Real.norm_of_nonneg positive.le]
      exact inv_mul_cancel₀ positive.ne'
    · refine ⟨(magnitude realTrig (a.add b))⁻¹, inv_pos.mpr positive, ?_⟩
      rw [in_space_divided, in_space_add]
  · cases found

theorem merge_caps_holds {a b merged : Cap ℝ} (aUnit : IsUnit a.centre) (bUnit : IsUnit b.centre)
    (found : mergeCaps realTrig a b = some merged) :
    IsUnit merged.centre ∧ regionOf a ⊆ regionOf merged ∧ regionOf b ⊆ regionOf merged := by
  unfold mergeCaps at found
  rw [Option.map_eq_some_iff] at found
  obtain ⟨centre, parts⟩ := found
  have unit := (middle_cases parts.1).1
  rw [← parts.2]
  have slack := floor_nonneg
  refine ⟨unit, ?_, ?_⟩
  · apply region_subset
    rw [← angle_between unit aUnit]
    have first := le_max_left (angleBetween realTrig centre a.centre + a.radius)
      (angleBetween realTrig centre b.centre + b.radius)
    dsimp only
    linarith
  · apply region_subset
    rw [← angle_between unit bUnit]
    have second := le_max_right (angleBetween realTrig centre a.centre + a.radius)
      (angleBetween realTrig centre b.centre + b.radius)
    dsimp only
    linarith

theorem region_of_full (centre : Vec ℝ) : regionOf ⟨centre, realTrig.pi⟩ = Set.univ :=
  region_all le_rfl

theorem region_of_limit (cap : Cap ℝ) : regionOf (limitCap realTrig cap) = regionOf cap :=
  region_min

theorem grow_cap_holds (caps : List (Cap ℝ)) (cap : Cap ℝ) (unit : IsUnit cap.centre)
    (units : ∀ member ∈ caps, IsUnit member.centre) : IsUnit (growCap realTrig caps cap).centre ∧
      ∀ member ∈ cap :: caps, regionOf member ⊆ regionOf (growCap realTrig caps cap) := by
  induction caps generalizing cap with
  | nil =>
    apply And.intro unit
    intro member isCap
    rw [mem_singleton.mp isCap]
    exact Set.Subset.refl _
  | cons next caps ih =>
    unfold growCap
    cases found : mergeCaps realTrig cap next with
    | none =>
      dsimp only
      apply And.intro unit
      intro member _
      rw [region_of_full]
      exact Set.subset_univ _
    | some merged =>
      have holds := merge_caps_holds unit (units next mem_cons_self) found
      have rest := ih merged holds.1 fun member later => units member (mem_cons_of_mem _ later)
      have within := rest.2 merged mem_cons_self
      apply And.intro rest.1
      intro member isCap
      rcases mem_cons.mp isCap with same | later
      · rw [same]
        exact holds.2.1.trans within
      · rcases mem_cons.mp later with same | later
        · rw [same]
          exact holds.2.2.trans within
        · exact rest.2 member (mem_cons_of_mem _ later)

theorem combine_holds {left right : Cap ℝ} (leftUnit : IsUnit left.centre)
    (rightUnit : IsUnit right.centre) : IsUnit (combine realTrig left right).centre ∧
      regionOf left ⊆ regionOf (combine realTrig left right) ∧
      regionOf right ⊆ regionOf (combine realTrig left right) := by
  unfold combine
  cases found : mergeCaps realTrig left right with
  | none =>
    dsimp only
    rw [region_of_full]
    exact ⟨leftUnit, Set.subset_univ _, Set.subset_univ _⟩
  | some merged =>
    dsimp only
    rw [region_of_limit]
    exact merge_caps_holds leftUnit rightUnit found

section

variable {a b : Vec ℝ} {cap : Cap ℝ}

section

variable (aUnit : IsUnit a) (bUnit : IsUnit b)
include aUnit bUnit

theorem same_of_no_cross (cross : (a.cross b).x = 0 ∧ (a.cross b).y = 0 ∧ (a.cross b).z = 0)
    (forward : 0 < a.dot b) : inSpace a = inSpace b := by
  have square := cross_square a b
  rw [← inner_in_space a a, ← inner_in_space b b, real_inner_self_eq_norm_sq,
    real_inner_self_eq_norm_sq, aUnit, bUnit] at square
  unfold Vec.dot at square
  rw [cross.1, cross.2.1, cross.2.2] at square
  have one : a.dot b = 1 := by
    unfold Vec.dot at forward ⊢
    nlinarith
  rw [← inner_in_space] at one
  exact (inner_eq_one_iff_of_norm_eq_one aUnit bUnit).mp one

theorem edge_cap_holds (found : edgeCap realTrig a b = some cap) :
    IsUnit cap.centre ∧ inSpace a + inSpace b ≠ 0 ∧
      ∀ direction, OnMinorArc (inSpace a) (inSpace b) direction → direction ∈ regionOf cap := by
  unfold edgeCap at found
  dsimp only at found
  split at found
  · rename_i cross
    split at found
    · rename_i forward
      cases found
      have same := same_of_no_cross aUnit bUnit cross forward
      refine ⟨bUnit, ?_, ?_⟩
      · intro zero
        rw [same, ← two_smul ℝ, smul_eq_zero] at zero
        rcases zero with two | zero
        · exact absurd two two_ne_zero
        · have length := bUnit
          unfold IsUnit at length
          rw [zero, norm_zero] at length
          exact zero_ne_one length
      · intro direction onArc
        rw [arc_point aUnit same onArc]
        show angle (inSpace b) (inSpace b) ≤ _
        have nonzero : inSpace b ≠ 0 := by
          intro zero
          have length := bUnit
          unfold IsUnit at length
          rw [zero, norm_zero] at length
          exact zero_ne_one length
        rw [angle_self nonzero, angle_between bUnit aUnit]
        exact add_nonneg (angle_nonneg _ _) floor_nonneg
    · cases found
  · split at found
    · rw [Option.map_eq_some_iff] at found
      obtain ⟨centre, parts⟩ := found
      rw [← parts.2]
      have spec := middle_cases parts.1
      refine ⟨spec.1, ?_, ?_⟩
      · intro zero
        obtain ⟨scale, scaled⟩ := spec.2
        have length := spec.1
        unfold IsUnit at length
        rw [scaled.2, zero, smul_zero, norm_zero] at length
        exact zero_ne_one length
      · intro direction onArc
        show angle (inSpace centre) direction ≤ _
        obtain ⟨scale, scaled⟩ := spec.2
        have ends : angle (inSpace centre) direction ≤ angle (inSpace centre) (inSpace a) := by
          rw [scaled.2, angle_smul_left_of_pos _ _ scaled.1, angle_smul_left_of_pos _ _ scaled.1]
          exact arc_within aUnit bUnit onArc
        rw [← angle_between spec.1 aUnit] at ends
        have farthest := le_max_left (angleBetween realTrig centre a)
          (angleBetween realTrig centre b)
        have slack := floor_nonneg
        have wide : (0 : ℝ) ≤
            CAP_DIRECTION_SLACK / max (magnitude realTrig (a.cross b)) (1 / 10 ^ 300) := by
          unfold CAP_DIRECTION_SLACK
          positivity
        dsimp only
        linarith
    · cases found

theorem usable_cap_holds (found : usableCap realTrig a b = some cap) :
    IsUnit cap.centre ∧ inSpace a + inSpace b ≠ 0 ∧
      ∀ direction, OnMinorArc (inSpace a) (inSpace b) direction → direction ∈ regionOf cap := by
  unfold usableCap at found
  rw [Option.filter_eq_some_iff] at found
  exact edge_cap_holds aUnit bUnit found.1

end

end

section

variable {capAt : Nat → Cap ℝ}

def Encloses (capAt : Nat → Cap ℝ) : CapTree ℝ → Prop
  | .leaf cap lo hi => IsUnit cap.centre ∧
      ∀ place, lo ≤ place → place < hi → regionOf (capAt place) ⊆ regionOf cap
  | .node cap _ _ left right => IsUnit cap.centre ∧
      (regionOf left.cap ⊆ regionOf cap ∧ Encloses capAt left) ∧
      regionOf right.cap ⊆ regionOf cap ∧ Encloses capAt right

theorem encloses_unit {tree} (encloses : Encloses capAt tree) : IsUnit tree.cap.centre := by
  cases tree with
  | leaf cap lo hi => exact encloses.1
  | node cap lo hi left right => exact encloses.1

theorem leaf_encloses {lo hi : Nat} (some' : lo < hi)
    (units : ∀ place, lo ≤ place → place < hi → IsUnit (capAt place).centre) :
    Encloses capAt (.leaf (leafCap realTrig capAt lo hi) lo hi) := by
  have inRange : ∀ place, place ∈ range' (lo + 1) (hi - lo - 1) ↔ lo < place ∧ place < hi := by
    intro place
    rw [mem_range'_1]
    omega
  have grown := grow_cap_holds ((range' (lo + 1) (hi - lo - 1)).map capAt) (capAt lo)
    (units lo (Nat.le_refl lo) some') (by
      intro member isCap
      rw [mem_map] at isCap
      obtain ⟨place, found⟩ := isCap
      have inside := (inRange place).mp found.1
      rw [← found.2]
      exact units place inside.1.le inside.2)
  apply And.intro grown.1
  intro place from' to'
  unfold leafCap
  rw [region_of_limit]
  apply grown.2
  rcases Nat.eq_or_lt_of_le from' with same | later
  · rw [← same]
    exact mem_cons_self
  · apply mem_cons_of_mem
    exact mem_map_of_mem ((inRange place).mpr ⟨later, to'⟩)

theorem build_encloses (lo hi : Nat) (some' : lo < hi)
    (units : ∀ place, lo ≤ place → place < hi → IsUnit (capAt place).centre) :
    Encloses capAt (build realTrig capAt lo hi) := by
  induction lo, hi using (build.induct realTrig capAt) with
  | case1 lo hi small =>
    unfold build
    rw [if_pos small]
    exact leaf_encloses some' units
  | case2 lo hi large mid ihLeft ihRight =>
    unfold build
    rw [if_neg large]
    unfold LEAF_EDGES at large
    have before : lo < mid := by omega
    have after : mid < hi := by omega
    have first := ihLeft before fun place from' to' => units place from' (to'.trans after)
    have second := ihRight after fun place from' to' => units place (before.le.trans from') to'
    have holds := combine_holds (encloses_unit first) (encloses_unit second)
    exact ⟨holds.1, ⟨holds.2.1, first⟩, holds.2.2, second⟩

theorem encloses_subtrees {tree} (encloses : Encloses capAt tree) :
    ∀ sub ∈ tree.subtrees, Encloses capAt sub ∧ regionOf sub.cap ⊆ regionOf tree.cap := by
  induction tree with
  | leaf cap lo hi =>
    intro sub member
    rw [mem_singleton.mp member]
    exact ⟨encloses, Set.Subset.refl _⟩
  | node cap lo hi left right ihLeft ihRight =>
    intro sub member
    rcases mem_cons.mp member with same | below
    · rw [same]
      exact ⟨encloses, Set.Subset.refl _⟩
    · rcases mem_append.mp below with inLeft | inRight
      · have found := ihLeft encloses.2.1.2 sub inLeft
        exact ⟨found.1, found.2.trans encloses.2.1.1⟩
      · have found := ihRight encloses.2.2.2 sub inRight
        exact ⟨found.1, found.2.trans encloses.2.2.1⟩

theorem encloses_members {tree} (encloses : Encloses capAt tree) :
    ∀ place ∈ tree.leaves.flatten, regionOf (capAt place) ⊆ regionOf tree.cap := by
  induction tree with
  | leaf cap lo hi =>
    intro place member
    have inside : place ∈ range' lo (hi - lo) := by
      rw [← @flatten_singleton Nat (range' lo (hi - lo))]
      exact member
    rw [mem_range'_1] at inside
    exact encloses.2 place inside.1 (by omega)
  | node cap lo hi left right ihLeft ihRight =>
    intro place member
    rw [node_leaves] at member
    rcases mem_append.mp member with inLeft | inRight
    · exact (ihLeft encloses.2.1.2 place inLeft).trans encloses.2.1.1
    · exact (ihRight encloses.2.2.2 place inRight).trans encloses.2.2.1

end

section

variable (geometry : List (RouteIndex.LngLat ℝ))

variable {edge : Nat}

theorem caps_get (inside : edge < geometry.length - 1) : (capsOf realTrig geometry).getD edge none =
      usableCap realTrig (unitVector realTrig (geometry.getD edge ⟨0, 0⟩))
        (unitVector realTrig (geometry.getD (edge + 1) ⟨0, 0⟩)) := by
  have long : edge < (geometry.map (unitVector realTrig)).length := by
    rw [length_map]
    omega
  have short : edge < (geometry.map (unitVector realTrig)).tail.length := by
    rw [length_tail, length_map]
    omega
  unfold capsOf
  dsimp only
  rw [getD_eq_getElem _ _ (by rw [length_zipWith]; exact Nat.lt_min.mpr ⟨long, short⟩),
    getElem_zipWith, getElem_tail, getElem_map, getElem_map,
    getD_eq_getElem _ _ (by omega), getD_eq_getElem _ _ (by omega)]

theorem indexed_cap (member : edge ∈ (buildIndex realTrig geometry).indexed) :
    usableCap realTrig (unitVector realTrig (geometry.getD edge ⟨0, 0⟩))
      (unitVector realTrig (geometry.getD (edge + 1) ⟨0, 0⟩)) =
        some (capOf (buildIndex realTrig geometry).caps edge) := by
  have spec := (indexed_mem geometry).mp member
  have found := spec.2
  rw [caps_get geometry spec.1] at found
  have same : capOf (buildIndex realTrig geometry).caps edge =
      ((capsOf realTrig geometry).getD edge none).getD noCap := rfl
  rw [same, caps_get geometry spec.1]
  generalize usableCap realTrig _ _ = cap at found ⊢
  cases cap with
  | none => cases found
  | some cap => rfl

variable {root : CapTree ℝ}

theorem leaf_indexed (found : (buildIndex realTrig geometry).root = some root) {place : Nat}
    (member : place ∈ root.leaves.flatten) : (buildIndex realTrig geometry).indexed.getD place 0 ∈
      (buildIndex realTrig geometry).indexed := by
  have edges := root_edges geometry found
  have inside : (buildIndex realTrig geometry).indexed.getD place 0 ∈
      edgesAt (buildIndex realTrig geometry) root.leaves.flatten := ⟨place, member, rfl⟩
  rw [edges] at inside
  exact inside

theorem root_encloses (found : (buildIndex realTrig geometry).root = some root) :
    Encloses (fun place => capOf (buildIndex realTrig geometry).caps
      ((buildIndex realTrig geometry).indexed.getD place 0)) root := by
  have isRoot := found
  unfold buildIndex at isRoot
  dsimp only at isRoot
  split at isRoot
  · cases isRoot
  · rename_i nonempty
    cases isRoot
    apply build_encloses
    · rw [List.isEmpty_iff] at nonempty
      exact length_pos_iff.mpr nonempty
    · intro place _ inside
      have member : (buildIndex realTrig geometry).indexed.getD place 0 ∈
          (buildIndex realTrig geometry).indexed := by
        have within : place < (buildIndex realTrig geometry).indexed.length := inside
        rw [getD_eq_getElem _ _ within]
        exact getElem_mem within
      exact (usable_cap_holds (unit_vector _) (unit_vector _)
        (indexed_cap geometry member)).1

/-- For each edge, the projection returns a point of its minor arc and its exact distance;
ends that are opposite to each other have no minor arc. -/
structure ArcOracle (project : NearestPointOnLine ℝ) : Prop where
  onArc : ∀ a b raw,
    inSpace (unitVector realTrig a) + inSpace (unitVector realTrig b) ≠ 0 →
      OnMinorArc (inSpace (unitVector realTrig a)) (inSpace (unitVector realTrig b))
        (inSpace (unitVector realTrig (project a b raw).coordinates))
  exactly : ∀ a b raw, (project a b raw).dist =
    earthRadius * angleBetween realTrig (unitVector realTrig raw)
      (unitVector realTrig (project a b raw).coordinates)

theorem lower_bound_le {query direction : Vec ℝ} {cap : Cap ℝ} (queryUnit : IsUnit query)
    (directionUnit : IsUnit direction) (centreUnit : IsUnit cap.centre)
    (within : inSpace direction ∈ regionOf cap) :
    capLowerBound realTrig query cap ≤ earthRadius * angleBetween realTrig query direction := by
  have positive : (0 : ℝ) ≤ earthRadius := by
    unfold earthRadius
    norm_num
  unfold capLowerBound
  dsimp only
  split
  · rw [mul_comm]
    apply mul_le_mul_of_nonneg_left _ positive
    rw [angle_between queryUnit centreUnit, angle_between queryUnit directionUnit]
    exact angle_bound within
  · rw [angle_between queryUnit directionUnit]
    exact mul_nonneg positive (angle_nonneg _ _)

variable {project : NearestPointOnLine ℝ} (raw : RouteIndex.LngLat ℝ)

theorem indexed_bound (oracle : ArcOracle project)
    (member : edge ∈ (buildIndex realTrig geometry).indexed) {cap : Cap ℝ}
    (unit : IsUnit cap.centre)
    (holds : regionOf (capOf (buildIndex realTrig geometry).caps edge) ⊆ regionOf cap) :
    capLowerBound realTrig (unitVector realTrig raw) cap ≤
      distOf project (buildIndex realTrig geometry) raw edge := by
  have spec := usable_cap_holds (unit_vector _) (unit_vector _) (indexed_cap geometry member)
  have result : distOf project (buildIndex realTrig geometry) raw edge =
      (project (geometry.getD edge ⟨0, 0⟩) (geometry.getD (edge + 1) ⟨0, 0⟩) raw).dist := rfl
  rw [result, oracle.exactly]
  apply lower_bound_le (unit_vector raw) (unit_vector _) unit
  apply holds
  apply spec.2.2
  exact oracle.onArc _ _ raw spec.2.1

theorem root_admissible (oracle : ArcOracle project)
    (found : (buildIndex realTrig geometry).root = some root) :
    Admissible realTrig project (buildIndex realTrig geometry) raw (unitVector realTrig raw)
      root := by
  have encloses := root_encloses geometry found
  apply Admissible.mk
  · intro place member
    have isIndexed := leaf_indexed geometry found member
    have spec := usable_cap_holds (unit_vector _) (unit_vector _) (indexed_cap geometry isIndexed)
    exact indexed_bound geometry raw oracle isIndexed spec.1 (Set.Subset.refl _)
  · intro sub isSub place member
    have within := (encloses_subtrees encloses sub isSub).1
    have inRoot : place ∈ root.leaves.flatten := leaves_of_subtree isSub member
    exact indexed_bound geometry raw oracle (leaf_indexed geometry found inRoot)
      (encloses_unit within) (encloses_members within place member)

structure SoundHierarchy (idx : MatcherIndex ℝ) (root : CapTree ℝ) : Prop where
  oneLeaf : ∀ edge ∈ idx.indexed, root.leaves.countP (fun places =>
    (places.map fun place => idx.indexed.getD place 0).contains edge) = 1
  descendants : ∀ sub ∈ root.subtrees, ∀ lower ∈ sub.subtrees,
    regionOf lower.cap ⊆ regionOf sub.cap
  members : ∀ sub ∈ root.subtrees, ∀ place ∈ sub.leaves.flatten,
    regionOf (capOf idx.caps (idx.indexed.getD place 0)) ⊆ regionOf sub.cap
  capacity : root.subtrees.length ≤ capacityFor idx.indexed.length

theorem root_sound (found : (buildIndex realTrig geometry).root = some root) :
    SoundHierarchy (buildIndex realTrig geometry) root := by
  have encloses := root_encloses geometry found
  apply SoundHierarchy.mk
  · intro edge member
    exact one_leaf geometry found member
  · intro sub isSub lower isLower
    exact (encloses_subtrees (encloses_subtrees encloses sub isSub).1 lower isLower).2
  · intro sub isSub place member
    exact encloses_members (encloses_subtrees encloses sub isSub).1 place member
  · exact root_nodes geometry found

/-- For every route of at least two points, every query and every seed the search returns
what the scan returns, which is the result of the first nearest edge, and the hierarchy is
sound. -/
theorem snap_prepared_agrees (project : NearestPointOnLine ℝ) (oracle : ArcOracle project)
    (long : 2 ≤ geometry.length) (seed : Option JsNumber) :
    snapPreparedRoute realTrig project (buildIndex realTrig geometry) raw seed =
        .ok (scanRoute project (buildIndex realTrig geometry) raw) ∧
      (∃ edge, FirstNearest (distOf project (buildIndex realTrig geometry) raw)
          {edge | edge < geometry.length - 1} edge ∧
        scanRoute project (buildIndex realTrig geometry) raw =
          some (edgeResult project (buildIndex realTrig geometry) raw edge).result) ∧
      ∀ root, (buildIndex realTrig geometry).root = some root →
        SoundHierarchy (buildIndex realTrig geometry) root := by
  refine ⟨?_, ?_, ?_⟩
  · exact snap_eq_scan geometry long (fun root found => root_admissible geometry raw oracle found)
      seed
  · exact scan_first project (buildIndex realTrig geometry) raw
      (show 0 < geometry.length - 1 by omega)
  · intro root found
    exact root_sound geometry found

end

/-- The projection of a query onto the end of an edge, which is the nearest point of each edge
of a meridian to the last vertex. -/
noncomputable def toEnd : NearestPointOnLine ℝ := fun a b raw =>
  { coordinates := b
    index := 0
    location := turfDistanceMeters realTrig a b
    dist := earthRadius * angleBetween realTrig (unitVector realTrig raw) (unitVector realTrig b) }

theorem to_end_oracle : ArcOracle toEnd := by
  apply ArcOracle.mk
  · intro a b raw _
    exact arc_ends (unit_vector b)
  · intro a b raw
    rfl

def meridian : List (RouteIndex.LngLat ℝ) := [⟨0, 0⟩, ⟨0, 1⟩]

theorem snap_to_last_vertex :
    snapPreparedRoute realTrig toEnd (buildIndex realTrig meridian) ⟨0, 1⟩ none =
      .ok (scanRoute toEnd (buildIndex realTrig meridian) ⟨0, 1⟩) :=
  (snap_prepared_agrees meridian ⟨0, 1⟩ toEnd to_end_oracle (Nat.le_refl 2) none).1

end OpenMapX.Navigation.RouteMatch
