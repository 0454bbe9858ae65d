import Mathlib
import OpenMapX.Foundation.Nearest
import OpenMapX.Navigation.RouteIndex

/-!
# The search of a route

The leaves of the hierarchy partition the indexed edges and its nodes fit into their
arrays. Where no bound exceeds the distance to what it bounds, the search finds the edge
that the scan finds.
-/

namespace OpenMapX.Navigation.RouteSearch

open Foundation.Nearest RouteIndex List
open Navigation.TransitTrip (JsNumber)

variable {K : Type} [Field K] [LinearOrder K] {trig : Trig K}

section

variable {capAt : Nat → Cap K}

theorem build_leaves (lo hi : Nat) (ordered : lo ≤ hi) :
    (build trig capAt lo hi).leaves.flatten = range' lo (hi - lo) := by
  induction lo, hi using (build.induct trig capAt) with
  | case1 lo hi small =>
    unfold build
    rw [if_pos small]
    unfold CapTree.leaves
    rw [flatten_singleton]
  | case2 lo hi large mid left right =>
    unfold build
    rw [if_neg large]
    unfold LEAF_EDGES at large
    have before : lo ≤ mid := by omega
    have after : mid ≤ hi := by omega
    show (CapTree.leaves _ ++ CapTree.leaves _).flatten = _
    rw [flatten_append, left before, right after]
    have split : hi - lo = (mid - lo) + (hi - mid) := by omega
    rw [split, ← range'_append_1]
    congr 2
    omega

theorem build_nodes (lo hi : Nat) (enough : 4 ≤ hi - lo) :
    2 * ((build trig capAt lo hi).subtrees.length + 1) ≤ hi - lo := by
  induction lo, hi using (build.induct trig capAt) with
  | case1 lo hi small =>
    unfold build
    rw [if_pos small]
    exact enough
  | case2 lo hi large mid left right =>
    unfold build
    rw [if_neg large]
    unfold LEAF_EDGES at large
    have first := left (by omega)
    have second := right (by omega)
    show 2 * (length (_ :: ((build trig capAt lo mid).subtrees ++
      (build trig capAt mid hi).subtrees)) + 1) ≤ _
    rw [length_cons, length_append]
    omega

theorem nodes_within_capacity (count : Nat) :
    (build trig capAt 0 count).subtrees.length ≤ capacityFor count := by
  have minLeaf : (LEAF_EDGES + 1) / 2 = 4 := rfl
  unfold capacityFor
  dsimp only
  rw [minLeaf]
  by_cases enough : 4 ≤ count
  · have nodes := @build_nodes K _ _ trig capAt 0 count enough
    omega
  · unfold build
    rw [if_pos (by unfold LEAF_EDGES; omega)]
    show 1 ≤ _
    omega

end

theorem count_lists {Item : Type} [DecidableEq Item] (lists : List (List Item)) (item : Item)
    (apart : lists.flatten.Nodup) :
    lists.countP (fun items => items.contains item) = lists.flatten.count item := by
  induction lists with
  | nil => rfl
  | cons items rest ih =>
    rw [flatten_cons, nodup_append] at apart
    rw [flatten_cons, count_append, countP_cons, ih apart.2.1, add_comm]
    congr 1
    by_cases member : item ∈ items
    · rw [count_eq_one_of_mem apart.1 member]
      simp only [contains_eq_mem, member, decide_true, if_true]
    · rw [count_eq_zero_of_not_mem member]
      simp only [contains_eq_mem, member, decide_false, Bool.false_eq_true, if_false]

section

variable (project : NearestPointOnLine K) (idx : MatcherIndex K) (raw : LngLat K)

def distOf (edge : Nat) : K := (edgeResult project idx raw edge).dist

def Settled (seen : Set Nat) : Option (BestEdge K) → Prop
  | none => seen = ∅
  | some best => best = edgeResult project idx raw best.edge ∧
      FirstNearest (distOf project idx raw) seen best.edge

variable {project idx raw} {seen : Set Nat} {best : Option (BestEdge K)}

theorem settled_first (edge : Nat) :
    Settled project idx raw {edge} (some (edgeResult project idx raw edge)) :=
  ⟨rfl, FirstNearest.single edge⟩

theorem settled_unique {other} (first : Settled project idx raw seen best)
    (second : Settled project idx raw seen other) : best = other := by
  cases best with
  | none =>
    cases other with
    | none => rfl
    | some other =>
      have member := second.2.1
      rw [first] at member
      cases member
  | some best =>
    cases other with
    | none =>
      have member := first.2.1
      rw [second] at member
      cases member
    | some other => rw [first.1, second.1, first.2.unique second.2]

theorem evaluate_settled (settled : Settled project idx raw seen best) (edge : Nat) :
    Settled project idx raw (insert edge seen) (evaluate project idx raw best edge) := by
  cases best with
  | none =>
    rw [settled, insert_empty_eq]
    exact settled_first edge
  | some best =>
    have same : best.dist = distOf project idx raw best.edge := congrArg BestEdge.dist settled.1
    unfold evaluate
    dsimp only
    split
    · rename_i better
      apply And.intro rfl
      apply settled.2.replaced
      rw [same] at better
      rcases better with nearer | tie
      · exact Or.inl nearer
      · exact Or.inr ⟨tie.1, Nat.le_of_lt tie.2⟩
    · rename_i worse
      apply And.intro settled.1
      apply settled.2.kept
      rw [not_or, not_lt, same] at worse
      rcases lt_or_eq_of_le worse.1 with nearer | tie
      · exact Or.inl nearer
      · apply Or.inr
        apply And.intro tie
        by_contra later
        exact worse.2 ⟨tie.symm, Nat.lt_of_not_le later⟩

theorem evaluate_all (edges : List Nat) (settled : Settled project idx raw seen best) :
    Settled project idx raw (seen ∪ {edge | edge ∈ edges})
      (edges.foldl (evaluate project idx raw) best) := by
  induction edges generalizing seen best with
  | nil =>
    have none : {edge : Nat | edge ∈ ([] : List Nat)} = ∅ := by
      ext edge
      simp
    rw [none, Set.union_empty]
    exact settled
  | cons edge edges ih =>
    have more : seen ∪ {other | other ∈ edge :: edges} =
        insert edge seen ∪ {other | other ∈ edges} := by
      ext other
      simp only [Set.mem_union, Set.mem_ofPred_eq, mem_cons, Set.mem_insert_iff]
      tauto
    rw [more]
    exact ih (evaluate_settled settled edge)

theorem scan_settled (count : Nat) : Settled project idx raw {edge | edge < count}
      ((range count).foldl (scanEdge project idx raw) none) := by
  induction count with
  | zero =>
    ext edge
    simp
  | succ count ih =>
    have more : {edge | edge < count + 1} = insert count {edge | edge < count} := by
      ext edge
      simp only [Set.mem_ofPred_eq, Set.mem_insert_iff]
      omega
    rw [range_succ, foldl_append, foldl_cons, foldl_nil, more]
    generalize (range count).foldl (scanEdge project idx raw) none = best at ih
    cases best with
    | none =>
      have empty : {edge | edge < count} = ∅ := ih
      rw [empty, insert_empty_eq]
      exact settled_first count
    | some best =>
      have same : best.dist = distOf project idx raw best.edge := congrArg BestEdge.dist ih.1
      have earlier : best.edge < count := ih.2.1
      unfold scanEdge
      dsimp only
      split
      · rename_i nearer
        apply And.intro rfl
        apply ih.2.replaced
        rw [same] at nearer
        exact Or.inl nearer
      · rename_i farther
        apply And.intro ih.1
        apply ih.2.kept
        rw [not_lt, same] at farther
        rcases lt_or_eq_of_le farther with nearer | tie
        · exact Or.inl nearer
        · exact Or.inr ⟨tie, Nat.le_of_lt earlier⟩

variable (project idx raw) in
theorem scan_first (some' : 0 < idx.edges) :
    ∃ edge, FirstNearest (distOf project idx raw) {edge | edge < idx.edges} edge ∧
      scanRoute project idx raw = some (edgeResult project idx raw edge).result := by
  have settled := @scan_settled K _ _ project idx raw idx.edges
  unfold scanRoute
  generalize (range idx.edges).foldl (scanEdge project idx raw) none = best at settled ⊢
  cases best with
  | none =>
    have empty : {edge | edge < idx.edges} = ∅ := settled
    have first : 0 ∈ {edge | edge < idx.edges} := some'
    rw [empty] at first
    cases first
  | some best =>
    refine ⟨best.edge, settled.2, ?_⟩
    rw [← settled.1]
    rfl

end

section

omit [Field K] [LinearOrder K]

def edgesAt (idx : MatcherIndex K) (places : List Nat) : Set Nat :=
  {edge | ∃ place ∈ places, idx.indexed.getD place 0 = edge}

theorem edges_at_append {idx : MatcherIndex K} (first second : List Nat) :
    edgesAt idx (first ++ second) = edgesAt idx first ∪ edgesAt idx second := by
  ext edge
  unfold edgesAt
  simp only [Set.mem_ofPred_eq, mem_append, Set.mem_union, or_and_right, exists_or]

theorem edges_at_cons {idx : MatcherIndex K} (place : Nat) (places : List Nat) (seen : Set Nat) :
    seen ∪ edgesAt idx (place :: places) =
      insert (idx.indexed.getD place 0) seen ∪ edgesAt idx places := by
  ext edge
  unfold edgesAt
  simp only [Set.mem_union, Set.mem_ofPred_eq, mem_cons, exists_eq_or_imp, Set.mem_insert_iff]
  tauto

theorem subtree_self (tree : CapTree K) : tree ∈ tree.subtrees := by
  cases tree with
  | leaf cap lo hi => exact mem_singleton_self _
  | node cap lo hi left right => exact mem_cons_self

theorem node_leaves {cap : Cap K} {lo hi : Nat} {left right} :
    (CapTree.node cap lo hi left right).leaves.flatten =
      left.leaves.flatten ++ right.leaves.flatten := by
  show (left.leaves ++ right.leaves).flatten = _
  rw [flatten_append]

theorem leaves_of_subtree {tree sub : CapTree K} (isSub : sub ∈ tree.subtrees) {place : Nat}
    (member : place ∈ sub.leaves.flatten) : place ∈ tree.leaves.flatten := by
  induction tree with
  | leaf cap lo hi =>
    rw [mem_singleton.mp isSub] at member
    exact member
  | node cap lo hi left right ihLeft ihRight =>
    rcases mem_cons.mp isSub with same | below
    · rw [same] at member
      exact member
    · rw [node_leaves]
      rcases mem_append.mp below with inLeft | inRight
      · exact mem_append_left _ (ihLeft inLeft)
      · exact mem_append_right _ (ihRight inRight)

end

section

variable {project : NearestPointOnLine K} {idx : MatcherIndex K} {raw : LngLat K}
variable {q : Vec K}

/-- Neither the caps of the members nor those of the nodes are farther than the edges. -/
structure Admissible (trig : Trig K) (project : NearestPointOnLine K) (idx : MatcherIndex K)
    (raw : LngLat K) (q : Vec K) (tree : CapTree K) : Prop where
  members : ∀ place ∈ tree.leaves.flatten,
    capLowerBound trig q (capOf idx.caps (idx.indexed.getD place 0)) ≤
      distOf project idx raw (idx.indexed.getD place 0)
  nodes : ∀ sub ∈ tree.subtrees, ∀ place ∈ sub.leaves.flatten,
    capLowerBound trig q sub.cap ≤ distOf project idx raw (idx.indexed.getD place 0)

section

variable {cap : Cap K} {lo hi : Nat} {left right : CapTree K}

section

variable (admissible : Admissible trig project idx raw q (.node cap lo hi left right))
include admissible

theorem admissible_left : Admissible trig project idx raw q left := by
  apply Admissible.mk
  · intro place member
    apply admissible.members
    rw [node_leaves]
    exact mem_append_left _ member
  · intro sub member
    exact admissible.nodes sub (mem_cons_of_mem _ (mem_append_left _ member))

theorem admissible_right : Admissible trig project idx raw q right := by
  apply Admissible.mk
  · intro place member
    apply admissible.members
    rw [node_leaves]
    exact mem_append_right _ member
  · intro sub member
    exact admissible.nodes sub (mem_cons_of_mem _ (mem_append_right _ member))

end

end

variable [IsStrictOrderedRing K] {seen : Set Nat} {best : Option (BestEdge K)}

theorem prune_slack_nonneg (bound dist : K) :
    0 ≤ PRUNE_ABS_METERS + PRUNE_REL * (|bound| + |dist|) := by
  unfold PRUNE_ABS_METERS PRUNE_REL
  positivity

theorem pruned_farther {found} {bound dist : K}
    (pruned : prunable bound (some found) = true) (bounded : bound ≤ dist) : found.dist < dist := by
  unfold prunable at pruned
  have beyond := of_decide_eq_true pruned
  have slack := prune_slack_nonneg bound found.dist
  linarith

theorem settled_beyond {bound : K} {more : Set Nat} (settled : Settled project idx raw seen best)
    (pruned : prunable bound best = true)
    (bounded : ∀ edge ∈ more, bound ≤ distOf project idx raw edge) :
    Settled project idx raw (seen ∪ more) best := by
  cases best with
  | none => cases pruned
  | some found =>
    apply And.intro settled.1
    apply settled.2.beyond
    intro edge member
    have same : found.dist = distOf project idx raw found.edge := congrArg BestEdge.dist settled.1
    rw [← same]
    exact pruned_farther pruned (bounded edge member)

theorem visit_places (places : List Nat) (bounded : ∀ place ∈ places,
      capLowerBound trig q (capOf idx.caps (idx.indexed.getD place 0)) ≤
        distOf project idx raw (idx.indexed.getD place 0))
    (settled : Settled project idx raw seen best) :
    Settled project idx raw (seen ∪ edgesAt idx places)
      (places.foldl (visitEdge trig project idx raw q) best) := by
  induction places generalizing seen best with
  | nil =>
    have none : edgesAt idx [] = ∅ := by
      ext edge
      simp [edgesAt]
    rw [none, Set.union_empty]
    exact settled
  | cons place places ih =>
    rw [edges_at_cons]
    apply ih
    · intro later member
      exact bounded later (mem_cons_of_mem place member)
    · unfold visitEdge
      dsimp only
      split
      · rename_i pruned
        rw [← Set.union_singleton]
        apply settled_beyond settled pruned
        intro edge same
        rw [Set.mem_singleton_iff.mp same]
        exact bounded place mem_cons_self
      · exact evaluate_settled settled _

theorem descend_settled {tree} (admissible : Admissible trig project idx raw q tree)
    (visited : ∀ {seen : Set Nat} {best : Option (BestEdge K)},
      Settled project idx raw seen best →
        Settled project idx raw (seen ∪ edgesAt idx tree.leaves.flatten)
          (visit trig project idx raw q tree best)) (settled : Settled project idx raw seen best) :
    Settled project idx raw (seen ∪ edgesAt idx tree.leaves.flatten)
      (if prunable (capLowerBound trig q tree.cap) best then best
        else visit trig project idx raw q tree best) := by
  split
  · rename_i pruned
    apply settled_beyond settled pruned
    intro edge member
    obtain ⟨place, found⟩ := member
    rw [← found.2]
    exact admissible.nodes tree (subtree_self tree) place found.1
  · exact visited settled

theorem visit_settled (tree : CapTree K) (admissible : Admissible trig project idx raw q tree)
    {seen : Set Nat} {best : Option (BestEdge K)} (settled : Settled project idx raw seen best) :
    Settled project idx raw (seen ∪ edgesAt idx tree.leaves.flatten)
      (visit trig project idx raw q tree best) := by
  induction tree generalizing seen best with
  | leaf cap lo hi =>
    have flat : (CapTree.leaf cap lo hi).leaves.flatten = range' lo (hi - lo) :=
      flatten_singleton
    have bounded := admissible.members
    rw [flat] at bounded ⊢
    exact visit_places _ bounded settled
  | node cap lo hi left right ihLeft ihRight =>
    have first := admissible_left admissible
    have second := admissible_right admissible
    rw [node_leaves, edges_at_append]
    unfold visit
    dsimp only
    split
    · rw [← Set.union_assoc]
      exact descend_settled second (ihRight second) (descend_settled first (ihLeft first) settled)
    · rw [Set.union_comm (edgesAt idx left.leaves.flatten), ← Set.union_assoc]
      exact descend_settled first (ihLeft first) (descend_settled second (ihRight second) settled)

end

section

variable {project : NearestPointOnLine K} {raw : LngLat K} (geometry : List (LngLat K))

variable {edge : Nat}

theorem indexed_mem : edge ∈ (buildIndex trig geometry).indexed ↔
      edge < geometry.length - 1 ∧ ((capsOf trig geometry).getD edge none).isSome = true := by
  unfold buildIndex
  rw [mem_filter, mem_range]

theorem always_mem : edge ∈ (buildIndex trig geometry).always ↔
      edge < geometry.length - 1 ∧ ((capsOf trig geometry).getD edge none).isSome = false := by
  unfold buildIndex
  rw [mem_filter, mem_range, Bool.not_eq_true']

theorem indexed_nodup : (buildIndex trig geometry).indexed.Nodup :=
  List.Nodup.filter _ nodup_range

variable {root : CapTree K}

variable (found : (buildIndex trig geometry).root = some root)
include found

theorem root_leaves : root.leaves.flatten = range (buildIndex trig geometry).indexed.length := by
  have isRoot := found
  unfold buildIndex at isRoot
  dsimp only at isRoot
  split at isRoot
  · cases isRoot
  · cases isRoot
    rw [build_leaves _ _ (Nat.zero_le _), Nat.sub_zero, ← range_eq_range']
    rfl

theorem root_nodes :
    root.subtrees.length ≤ capacityFor (buildIndex trig geometry).indexed.length := by
  have isRoot := found
  unfold buildIndex at isRoot
  dsimp only at isRoot
  split at isRoot
  · cases isRoot
  · cases isRoot
    exact nodes_within_capacity _

theorem root_edges : edgesAt (buildIndex trig geometry) root.leaves.flatten =
      {edge | edge ∈ (buildIndex trig geometry).indexed} := by
  ext edge
  unfold edgesAt
  rw [Set.mem_ofPred_eq, Set.mem_ofPred_eq, root_leaves geometry found, mem_iff_getElem]
  constructor
  · intro holds
    obtain ⟨place, found⟩ := holds
    have inside := mem_range.mp found.1
    rw [getD_eq_getElem _ _ inside] at found
    exact ⟨place, inside, found.2⟩
  · intro holds
    obtain ⟨place, inside, same⟩ := holds
    refine ⟨place, mem_range.mpr inside, ?_⟩
    rw [getD_eq_getElem _ _ inside]
    exact same

theorem one_leaf (member : edge ∈ (buildIndex trig geometry).indexed) :
    root.leaves.countP (fun places =>
      (places.map fun place => (buildIndex trig geometry).indexed.getD place 0).contains edge) =
        1 := by
  have flat := root_leaves geometry found
  have edges := root_edges geometry found
  have inside : edge ∈ edgesAt (buildIndex trig geometry) root.leaves.flatten := by
    rw [edges]
    exact member
  obtain ⟨place, at'⟩ := inside
  have apart : root.leaves.flatten.Nodup := by
    rw [flat]
    exact nodup_range
  have once := count_lists root.leaves place apart
  rw [count_eq_one_of_mem apart at'.1] at once
  rw [← once]
  apply countP_congr
  intro places isLeaf
  rw [contains_iff_mem, contains_iff_mem, mem_map]
  constructor
  · intro holds
    obtain ⟨other, found'⟩ := holds
    have otherIn : other ∈ root.leaves.flatten := mem_flatten_of_mem isLeaf found'.1
    have placeIn := at'.1
    rw [flat, mem_range] at otherIn placeIn
    have same := found'.2.trans at'.2.symm
    rw [getD_eq_getElem _ _ otherIn, getD_eq_getElem _ _ placeIn] at same
    rw [← (List.Nodup.getElem_inj_iff (indexed_nodup geometry)).mp same]
    exact found'.1
  · intro holds
    exact ⟨place, holds, at'.2⟩

omit found

theorem no_root (none' : (buildIndex trig geometry).root = none) :
    (buildIndex trig geometry).indexed = [] := by
  have isRoot := none'
  unfold buildIndex at isRoot
  dsimp only at isRoot
  split at isRoot
  · rename_i empty
    exact List.isEmpty_iff.mp empty
  · cases isRoot

omit [Field K] [LinearOrder K] in
theorem seed_edge_lt {idx : MatcherIndex K} (some' : 0 < idx.edges) {seed : JsNumber}
    (found : seedEdge idx seed = some edge) : edge < idx.edges := by
  unfold seedEdge at found
  split at found
  · cases found
  · cases found
    split
    · exact some'
    · omega
  · cases found
    omega

theorem seed_settled {idx : MatcherIndex K} (isLine : 0 < idx.edges) (seed : Option JsNumber)
    {seen : Set Nat} {best : Option (BestEdge K)} (settled : Settled project idx raw seen best) :
    ∃ seeded ⊆ {edge | edge < idx.edges},
      Settled project idx raw (seeded ∪ seen) (visitSeed project idx raw seed best) := by
  have unseeded : Settled project idx raw (∅ ∪ seen) best := by
    rw [Set.empty_union]
    exact settled
  unfold visitSeed
  cases found : seed.bind (seedEdge idx) with
  | none => exact ⟨∅, Set.empty_subset _, unseeded⟩
  | some edge =>
    dsimp only
    split
    · refine ⟨{edge}, ?_, ?_⟩
      · rw [Set.singleton_subset_iff]
        obtain ⟨value, isSeed⟩ := Option.bind_eq_some_iff.mp found
        exact seed_edge_lt isLine isSeed.2
      · rw [Set.singleton_union]
        exact evaluate_settled settled edge
    · exact ⟨∅, Set.empty_subset _, unseeded⟩

theorem visit_root_settled [IsStrictOrderedRing K]
    (admissible : ∀ root, (buildIndex trig geometry).root = some root →
      Admissible trig project (buildIndex trig geometry) raw (unitVector trig raw) root)
    {seen : Set Nat} {best} (settled : Settled project (buildIndex trig geometry) raw seen best) :
    Settled project (buildIndex trig geometry) raw
      (seen ∪ {edge | edge ∈ (buildIndex trig geometry).indexed})
      (visitRoot trig project (buildIndex trig geometry) raw best) := by
  unfold visitRoot
  cases found : (buildIndex trig geometry).root with
  | none =>
    have empty : {edge | edge ∈ (buildIndex trig geometry).indexed} = ∅ := by
      rw [no_root geometry found]
      ext edge
      simp
    rw [empty, Set.union_empty]
    exact settled
  | some root =>
    rw [← root_edges geometry found]
    have ok := admissible root found
    exact descend_settled ok (visit_settled root ok) settled

theorem snap_eq_scan [IsStrictOrderedRing K] (long : 2 ≤ geometry.length)
    (admissible : ∀ root, (buildIndex trig geometry).root = some root →
      Admissible trig project (buildIndex trig geometry) raw (unitVector trig raw) root)
    (seed : Option JsNumber) : snapPreparedRoute trig project (buildIndex trig geometry) raw seed =
      .ok (scanRoute project (buildIndex trig geometry) raw) := by
  have count : (buildIndex trig geometry).edges = geometry.length - 1 := rfl
  have isLine : 0 < (buildIndex trig geometry).edges := by omega
  have partition : {edge | edge ∈ (buildIndex trig geometry).always} ∪
      {edge | edge ∈ (buildIndex trig geometry).indexed} =
        {edge | edge < (buildIndex trig geometry).edges} := by
    ext edge
    rw [Set.mem_union, Set.mem_ofPred_eq, Set.mem_ofPred_eq, Set.mem_ofPred_eq, always_mem,
      indexed_mem, count]
    cases ((capsOf trig geometry).getD edge none).isSome with
    | true => simp
    | false => simp
  have always : Settled project (buildIndex trig geometry) raw
      {edge | edge ∈ (buildIndex trig geometry).always}
      ((buildIndex trig geometry).always.foldl (evaluate project (buildIndex trig geometry) raw)
        none) := by
    have start : Settled project (buildIndex trig geometry) raw ∅ none := rfl
    have all := evaluate_all (buildIndex trig geometry).always start
    rw [Set.empty_union] at all
    exact all
  have scanned := @scan_settled K _ _ project (buildIndex trig geometry) raw
    (buildIndex trig geometry).edges
  unfold snapPreparedRoute scanRoute
  rw [if_neg (Nat.ne_of_gt isLine)]
  dsimp only
  generalize (buildIndex trig geometry).always.foldl
    (evaluate project (buildIndex trig geometry) raw) none = first at always
  obtain ⟨seeded, seedStep⟩ := seed_settled isLine seed always
  have rooted := visit_root_settled geometry admissible seedStep.2
  have all : (seeded ∪ {edge | edge ∈ (buildIndex trig geometry).always}) ∪
      {edge | edge ∈ (buildIndex trig geometry).indexed} =
        {edge | edge < (buildIndex trig geometry).edges} := by
    rw [Set.union_assoc, partition, Set.union_eq_self_of_subset_left seedStep.1]
  rw [all] at rooted
  rw [settled_unique rooted scanned]

end

end OpenMapX.Navigation.RouteSearch
