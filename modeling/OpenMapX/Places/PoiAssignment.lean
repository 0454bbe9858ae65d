import OpenMapX.Places.CandidateComponents

/-!
# The assignment of all candidates

The components have no point in common, so that their optima make up an optimum of the
whole graph. What the search does depends on the set of candidates only, up to the choice
between candidates of one pair with one confidence.
-/

namespace OpenMapX.Places.PoiAssignment

open Foundation.TextOrder PoiConflation HungarianLoops HungarianSearch ComponentOptimality
  CandidateComponents List
open Option (bind_eq_some_iff map_eq_some_iff map_some)

theorem search_column_more (size : Nat) (cost : Nat → Nat → ℚ) (p : Nat → Nat) (fuel more : Nat)
    (least : fuel ≤ more) (j0 : Nat) (state : SearchState) (found)
    (ends : searchColumn size cost p fuel j0 state = some found) :
    searchColumn size cost p more j0 state = some found := by
  induction fuel generalizing more j0 state with
  | zero => cases ends
  | succ fuel ih =>
    cases more with
    | zero => omega
    | succ more =>
      unfold searchColumn at ends ⊢
      dsimp only at ends ⊢
      split
      · rename_i none_
        rw [none_] at ends
        cases ends
      · rename_i delta some_
        rw [some_] at ends
        dsimp only at ends
        split
        · rename_i goes
          rw [if_pos goes] at ends
          exact ih more (by omega) _ _ ends
        · rename_i stops
          rw [if_neg stops] at ends
          exact ends

theorem augment_more (way : Nat → Nat) (fuel more : Nat) (least : fuel ≤ more) (p : Nat → Nat)
    (j0 : Nat) (moved : Nat → Nat) (ends : augment way fuel p j0 = some moved) :
    augment way more p j0 = some moved := by
  induction fuel generalizing more p j0 with
  | zero => cases ends
  | succ fuel ih =>
    cases more with
    | zero => omega
    | succ more =>
      unfold augment at ends ⊢
      dsimp only at ends ⊢
      split
      · rename_i goes
        rw [if_pos goes] at ends
        exact ih more (by omega) _ _ ends
      · rename_i stops
        rw [if_neg stops] at ends
        exact ends

section

variable (size : Nat) (cost : Nat → Nat → ℚ)

theorem assign_row_more (fuel more : Nat) (least : fuel ≤ more) (assignment after : Assignment)
    (i : Nat) (ends : assignRow fuel size cost assignment i = some after) :
    assignRow more size cost assignment i = some after := by
  unfold assignRow at ends ⊢
  dsimp only at ends ⊢
  rw [bind_eq_some_iff] at ends ⊢
  obtain ⟨found, searched⟩ := ends
  apply Exists.intro found
  apply And.intro (search_column_more _ _ _ fuel more least _ _ _ searched.1)
  have moves := searched.2
  rw [map_eq_some_iff] at moves ⊢
  obtain ⟨moved, augmented⟩ := moves
  exact ⟨moved, augment_more _ fuel more least _ _ _ augmented.1, augmented.2⟩

theorem fold_rows_more (fuel more : Nat)
    (least : fuel ≤ more) (rows : List Nat) (assignment after : Assignment)
    (ends : rows.foldlM (assignRow fuel size cost) assignment = some after) :
    rows.foldlM (assignRow more size cost) assignment = some after := by
  induction rows generalizing assignment with
  | nil => exact ends
  | cons i rows ih =>
    rw [foldlM_cons] at ends ⊢
    change (assignRow fuel size cost assignment i).bind _ = some after at ends
    change (assignRow more size cost assignment i).bind _ = some after
    rw [bind_eq_some_iff] at ends ⊢
    obtain ⟨next, step⟩ := ends
    exact ⟨next, assign_row_more size cost fuel more least _ _ i step.1, ih next step.2⟩

theorem rows_assigned_once (costs : ∀ i j, i < size → j < size → 0 ≤ cost i j) :
    ∃ assignment, (∀ fuel, size + 1 ≤ fuel → assignRows fuel size cost = some assignment) ∧
      Assigned size cost size assignment := by
  obtain ⟨assignment, assigned⟩ := rows_assigned (size + 1) size cost le_rfl costs
  apply Exists.intro assignment
  apply And.intro _ assigned.2
  intro fuel enough
  exact fold_rows_more size cost (size + 1) fuel enough _ _ _ assigned.1

end

theorem component_solved {edges} (readable : ReadableIds edges) (unit : UnitConfidence edges) :
    ∃ solved, (∀ fuel, matrixSize edges + 1 ≤ fuel → solveComponent edges fuel = some solved) ∧
      BestMatching edges solved := by
  have costs : ∀ i j, i < matrixSize edges → j < matrixSize edges → 0 ≤ costAt edges i j := by
    intro i j _ _
    have bounds := weight_bounds unit i j
    unfold costAt
    linarith
  obtain ⟨assignment, assigned⟩ := rows_assigned_once (matrixSize edges) (costAt edges) costs
  apply Exists.intro (selectedEdges edges assignment.p)
  apply And.intro _ (selected_best readable unit assigned.2)
  intro fuel enough
  unfold solveComponent
  rw [assigned.1 fuel enough]
  rfl

def SameEdges (first second : List ScoredConflationPair) : Prop :=
  ∀ edge, edge ∈ first ↔ edge ∈ second

def pairOf (edge : ScoredConflationPair) : String × String × ℚ :=
  (edge.a.id, edge.b.id, edge.score.matchConfidence)

section

variable {first second : List ScoredConflationPair} (same : SameEdges first second)

include same

theorem a_ids_same : aIdsOf first = aIdsOf second := by
  apply sorted_ids_congr
  intro id
  simp only [mem_map, same _]

theorem b_ids_same : bIdsOf first = bIdsOf second := by
  apply sorted_ids_congr
  intro id
  simp only [mem_map, same _]

theorem matrix_size_same : matrixSize first = matrixSize second := by
  unfold matrixSize
  rw [a_ids_same same, b_ids_same same]

theorem nodes_same : nodesOf first = nodesOf second := by
  apply sorted_ids_congr
  intro id
  simp only [mem_flatMap, same _]

theorem adjacent_same (left right : String) :
    Adjacent first left right ↔ Adjacent second left right := by
  unfold Adjacent
  simp only [same _]

theorem linked_same (left right : String) : Linked first left right ↔ Linked second left right := by
  have equal : Adjacent first = Adjacent second := by
    funext left right
    exact propext (adjacent_same same left right)
  unfold Linked
  rw [equal]

variable (readable : ReadableIds first)
include readable

theorem edge_by_pair_same (aId bId : String) (free : SeparatorFree aId) :
    (edgeByPair first (pairKey aId bId)).map pairOf =
      (edgeByPair second (pairKey aId bId)).map pairOf := by
  have readable' : ReadableIds second := fun edge member => readable edge ((same edge).mpr member)
  -- the best entry of one list is matched by an entry of the other that is as good
  have better : ∀ {left right : List ScoredConflationPair}, SameEdges left right →
      ∀ best, edgeByPair left (pairKey aId bId) = some best →
      ∃ other, edgeByPair right (pairKey aId bId) = some other ∧
        best.score.matchConfidence ≤ other.score.matchConfidence := by
    intro left right also best found
    have known := edge_by_pair_mem found
    obtain ⟨other, given⟩ := edge_by_pair_best ((also best).mp known.1)
    rw [known.2] at given
    exact ⟨other, given⟩
  have back : SameEdges second first := fun edge => (same edge).symm
  cases here : edgeByPair first (pairKey aId bId) with
  | none =>
    cases there : edgeByPair second (pairKey aId bId) with
    | none => rfl
    | some other =>
      obtain ⟨best, found⟩ := better back other there
      rw [here] at found
      cases found.1
  | some best =>
    obtain ⟨other, there⟩ := better same best here
    obtain ⟨again, found⟩ := better back other there.1
    rw [here] at found
    have equal : best = again := Option.some.inj found.1
    have first_known := edge_by_pair_mem here
    have second_known := edge_by_pair_mem there.1
    have ids := pair_key_inj (readable best first_known.1).1 free first_known.2
    have ids' := pair_key_inj (readable' other second_known.1).1 free second_known.2
    have confidence : best.score.matchConfidence = other.score.matchConfidence := by
      apply le_antisymm there.2
      rw [equal]
      exact found.2
    rw [there.1, map_some, map_some]
    unfold pairOf
    rw [ids.1, ids.2, ids'.1, ids'.2, confidence]

theorem edge_at_same (i j : Nat) :
    (edgeAt first i j).map pairOf = (edgeAt second i j).map pairOf := by
  unfold edgeAt
  rw [a_ids_same same, b_ids_same same]
  split
  · rename_i aId bId row column
    apply edge_by_pair_same same readable
    have present := mem_of_getElem? row
    unfold aIdsOf at present
    rw [mem_sorted_ids, mem_map] at present
    obtain ⟨source, given⟩ := present
    rw [← given.2]
    exact (readable source ((same source).mpr given.1)).1
  · rfl

theorem cost_same : costAt first = costAt second := by
  funext i j
  have bonus : cardinalityBonus first = cardinalityBonus second := by
    unfold cardinalityBonus
    rw [matrix_size_same same]
  have cells := edge_at_same same readable i j
  have weight : weightAt first i j = weightAt second i j := by
    unfold weightAt
    rw [bonus]
    cases here : edgeAt first i j with
    | none =>
      rw [here] at cells
      rw [Option.map_eq_none_iff.mp cells.symm]
    | some edge =>
      rw [here] at cells
      obtain ⟨other, given⟩ := map_eq_some_iff.mp cells.symm
      rw [given.1]
      have confidence : other.score.matchConfidence = edge.score.matchConfidence :=
        congrArg (fun pair => pair.2.2) given.2
      dsimp only
      rw [confidence]
  unfold costAt
  rw [bonus, weight]

theorem selected_same (p : Nat → Nat) :
    (selectedEdges first p).map pairOf = (selectedEdges second p).map pairOf := by
  unfold selectedEdges
  rw [map_filterMap, map_filterMap, matrix_size_same same]
  apply filterMap_congr
  intro j _
  split
  · rfl
  · exact edge_at_same same readable _ _

theorem solved_same (fuel : Nat) (solved solved') (ends : solveComponent first fuel = some solved)
    (ends' : solveComponent second fuel = some solved') :
    solved.map pairOf = solved'.map pairOf := by
  unfold solveComponent at ends ends'
  rw [matrix_size_same same, cost_same same readable] at ends
  obtain ⟨assignment, given⟩ := map_eq_some_iff.mp ends
  rw [given.1, map_some] at ends'
  rw [← given.2, ← Option.some.inj ends']
  exact selected_same same readable assignment.p

omit readable

end

theorem one_to_one_append {first second} (left : OneToOne first) (right : OneToOne second)
    (apart : ∀ edge ∈ first, ∀ other ∈ second, edge.a.id ≠ other.a.id ∧ edge.b.id ≠ other.b.id) :
    OneToOne (first ++ second) := by
  constructor
  · rw [map_append, nodup_append]
    apply And.intro left.a
    apply And.intro right.a
    intro id member id' member'
    rw [mem_map] at member member'
    obtain ⟨edge, given⟩ := member
    obtain ⟨other, given'⟩ := member'
    rw [← given.2, ← given'.2]
    exact (apart edge given.1 other given'.1).1
  · rw [map_append, nodup_append]
    apply And.intro left.b
    apply And.intro right.b
    intro id member id' member'
    rw [mem_map] at member member'
    obtain ⟨edge, given⟩ := member
    obtain ⟨other, given'⟩ := member'
    rw [← given.2, ← given'.2]
    exact (apart edge given.1 other given'.1).2

theorem one_to_one_sublist {first second}
    (sublist : first.Sublist second) (apart : OneToOne second) : OneToOne first := by
  constructor
  · exact (sublist.map _).nodup apart.a
  · exact (sublist.map _).nodup apart.b

theorem total_confidence_append (first second) :
    totalConfidence (first ++ second) = totalConfidence first + totalConfidence second := by
  unfold totalConfidence
  rw [map_append, sum_append]

theorem split_matching (matching) (keep : ScoredConflationPair → Bool) :
    (matching.filter keep).length + (matching.filter fun edge => !keep edge).length =
        matching.length ∧ totalConfidence (matching.filter keep) +
        totalConfidence (matching.filter fun edge => !keep edge) = totalConfidence matching := by
  unfold totalConfidence
  induction matching with
  | nil => simp
  | cons edge matching ih =>
    cases kept : keep edge with
    | true =>
      rw [filter_cons_of_pos kept, filter_cons_of_neg (by simp [kept])]
      simp only [length_cons, map_cons, sum_cons]
      constructor
      · omega
      · linarith [ih.2]
    | false =>
      rw [filter_cons_of_neg (by simp [kept]), filter_cons_of_pos (by simp [kept])]
      simp only [length_cons, map_cons, sum_cons]
      constructor
      · omega
      · linarith [ih.2]

theorem best_append {first second both pairs pairs'} (left : BestMatching first pairs)
    (right : BestMatching second pairs')
    (apart : ∀ edge ∈ first, ∀ other ∈ second, edge.a.id ≠ other.a.id ∧ edge.b.id ≠ other.b.id)
    (union : ∀ edge, edge ∈ both ↔ edge ∈ first ∨ edge ∈ second) :
    BestMatching both (pairs ++ pairs') := by
  have parts : ∀ matching : List ScoredConflationPair, (∀ edge ∈ matching, edge ∈ both) →
      (∀ edge ∈ matching.filter fun edge => first.contains edge, edge ∈ first) ∧
      (∀ edge ∈ matching.filter fun edge => !first.contains edge, edge ∈ second) := by
    intro matching inside
    constructor
    · intro edge member
      rw [mem_filter, contains_iff_mem] at member
      exact member.2
    · intro edge member
      rw [mem_filter] at member
      rcases (union edge).mp (inside edge member.1) with here | there
      · simp [here] at member
      · exact there
  apply BestMatching.mk
  · intro edge member
    rw [mem_append] at member
    rw [union]
    rcases member with here | there
    · exact Or.inl (left.within edge here)
    · exact Or.inr (right.within edge there)
  · apply one_to_one_append left.oneToOne right.oneToOne
    intro edge member other member'
    exact apart edge (left.within edge member) other (right.within other member')
  · intro matching inside alone
    have part := parts matching inside
    have sizes := (split_matching matching fun edge => first.contains edge).1
    have one := left.largest _ part.1 (one_to_one_sublist filter_sublist alone)
    have two := right.largest _ part.2 (one_to_one_sublist filter_sublist alone)
    rw [length_append]
    omega
  · intro matching inside alone same
    have part := parts matching inside
    have sizes := split_matching matching fun edge => first.contains edge
    have aloneFirst : OneToOne (matching.filter fun edge => first.contains edge) :=
      one_to_one_sublist filter_sublist alone
    have aloneSecond : OneToOne (matching.filter fun edge => !first.contains edge) :=
      one_to_one_sublist filter_sublist alone
    have one := left.largest _ part.1 aloneFirst
    have two := right.largest _ part.2 aloneSecond
    rw [length_append] at same
    have heavy := left.heaviest _ part.1 aloneFirst (by omega)
    have heavy' := right.heaviest _ part.2 aloneSecond (by omega)
    rw [total_confidence_append, ← sizes.2]
    exact add_le_add heavy heavy'

theorem best_congr {first second pairs} (same : ∀ edge, edge ∈ first ↔ edge ∈ second)
    (best : BestMatching first pairs) : BestMatching second pairs := by
  apply BestMatching.mk
  · intro edge member
    exact (same edge).mp (best.within edge member)
  · exact best.oneToOne
  · intro matching inside
    exact best.largest matching fun edge member => (same edge).mpr (inside edge member)
  · intro matching inside
    exact best.heaviest matching fun edge member => (same edge).mpr (inside edge member)

theorem best_perm {edges pairs pairs'} (perm : pairs.Perm pairs')
    (best : BestMatching edges pairs) : BestMatching edges pairs' := by
  have total : totalConfidence pairs = totalConfidence pairs' := (perm.map _).sum_eq
  apply BestMatching.mk
  · intro edge member
    exact best.within edge (perm.mem_iff.mpr member)
  · constructor
    · exact (perm.map _).nodup_iff.mp best.oneToOne.a
    · exact (perm.map _).nodup_iff.mp best.oneToOne.b
  · intro matching inside alone
    rw [← perm.length_eq]
    exact best.largest matching inside alone
  · intro matching inside alone same
    rw [← total]
    exact best.heaviest matching inside alone (same.trans perm.length_eq.symm)

section

variable {edges : List ScoredConflationPair}

def visitedEdges (edges : List ScoredConflationPair) (visited : List String) :
    List ScoredConflationPair := edges.filter fun edge => visited.contains (aKey edge)

structure Settled (edges : List ScoredConflationPair) (progress : Progress) : Prop where
  closed : ClosedNodes edges progress.visited
  best : BestMatching (visitedEdges edges progress.visited) progress.selected

structure Found (edges : List ScoredConflationPair) (before : List String) (start : String)
    (result : Traversal) : Prop where
  visited : ∀ node, node ∈ result.visited ↔ node ∈ before ∨ Linked edges start node
  component : ∀ edge, edge ∈ result.componentEdges ↔
    edge ∈ edges ∧ ∃ node, Linked edges start node ∧ Incident edge node

variable {before : List String} {start : String}

theorem linked_fresh (closed : ClosedNodes edges before) (fresh : start ∉ before) {node : String}
    (linked : Linked edges start node) : node ∉ before := by
  induction linked with
  | refl => exact fresh
  | tail _ adjacent ih =>
    intro known
    exact ih (closed _ known _ (adjacent_symm adjacent))

theorem component_found {fuel : Nat} {result}
    (closed : ClosedNodes edges before) (fresh : start ∉ before)
    (ended : exploreComponent edges fuel [start] { visited := before, componentEdges := [] } =
      some result) : Found edges before start result := by
  have explored := component_explored fuel _ _ _ exploring_start ended
  have visited := explored_iff closed fresh explored
  constructor
  · exact visited
  · intro edge
    rw [explored.component]
    constructor
    · rintro ⟨member, node, seen, unseen, touches⟩
      rcases (visited node).mp seen with known | linked
      · exact absurd known unseen
      · exact ⟨member, node, linked, touches⟩
    · rintro ⟨member, node, linked, touches⟩
      exact ⟨member, node, (visited node).mpr (Or.inr linked),
        linked_fresh closed fresh linked, touches⟩

theorem component_found_ends (before : List String) (start : String)
    (member : start ∈ nodesOf edges) : ∃ bound result, ∀ fuel, bound ≤ fuel →
      exploreComponent edges fuel [start] { visited := before, componentEdges := [] } =
        some result := by
  apply Exists.intro _
  apply component_ends edges _ [start] { visited := before, componentEdges := [] } _ le_rfl
  intro node inside
  rw [mem_singleton] at inside
  rw [inside]
  exact member

theorem closed_after {result} (closed : ClosedNodes edges before)
    (found : Found edges before start result) : ClosedNodes edges result.visited := by
  intro node member other adjacent
  rw [found.visited] at member ⊢
  rcases member with known | linked
  · exact Or.inl (closed node known other adjacent)
  · exact Or.inr (linked.tail adjacent)

theorem incident_a (edge) : Incident edge (aKey edge) := Or.inl rfl
theorem incident_b (edge) : Incident edge (bKey edge) := Or.inr rfl

theorem solve_from_settled (readable : ReadableIds edges) (unit : UnitConfidence edges)
    (progress : Progress) (settled : Settled edges progress) (start : String)
    (member : start ∈ nodesOf edges) :
    ∃ bound next, (∀ fuel, bound ≤ fuel → solveFrom fuel edges progress start = some next) ∧
      Settled edges next ∧ (∀ node ∈ progress.visited, node ∈ next.visited) ∧
      start ∈ next.visited := by
  by_cases known : start ∈ progress.visited
  · refine ⟨0, progress, ?_, settled, fun node inside => inside, known⟩
    intro fuel _
    unfold solveFrom
    rw [if_pos (by simpa using known)]
  · obtain ⟨bound, result, ends⟩ := component_found_ends progress.visited start member
    have found := component_found settled.closed known (ends bound le_rfl)
    have inside : ∀ edge ∈ result.componentEdges, edge ∈ edges :=
      fun edge given => ((found.component edge).mp given).1
    have readableInside : ReadableIds result.componentEdges :=
      fun edge given => readable edge (inside edge given)
    obtain ⟨solved, best⟩ := component_solved readableInside (fun edge given => unit edge (inside edge given))
    refine ⟨max bound (matrixSize result.componentEdges + 1),
      { visited := result.visited, selected := progress.selected ++ solved },
      ?_, ?_, ?_, ?_⟩
    · intro fuel enough
      have first : bound ≤ fuel := (le_max_left _ _).trans enough
      have second : matrixSize result.componentEdges + 1 ≤ fuel :=
        (le_max_right _ _).trans enough
      unfold solveFrom
      rw [if_neg (by simpa using known), ends fuel first]
      dsimp only [Option.bind_some]
      rw [best.1 fuel second]
      rfl
    · constructor
      · exact closed_after settled.closed found
      · apply best_append settled.best best.2
        · intro edge here other there
          unfold visitedEdges at here
          rw [mem_filter, contains_iff_mem] at here
          have touched := (found.component other).mp there
          obtain ⟨node, linked⟩ := touched.2
          have fresh : ∀ key, Incident other key → key ∉ progress.visited := by
            intro key touches
            apply linked_fresh settled.closed known
            exact linked.1.tail ⟨other, touched.1, linked.2, touches⟩
          constructor
          · intro same
            apply fresh (aKey other) (incident_a other)
            have key : aKey other = aKey edge := by
              unfold aKey
              rw [same]
            rw [key]
            exact here.2
          · intro same
            apply fresh (bKey other) (incident_b other)
            have key : bKey other = bKey edge := by
              unfold bKey
              rw [same]
            rw [key]
            exact settled.closed _ here.2 _
              ⟨edge, here.1, incident_a edge, incident_b edge⟩
        · intro edge
          unfold visitedEdges
          rw [mem_filter, mem_filter, contains_iff_mem,
            contains_iff_mem, found.visited, found.component]
          constructor
          · rintro ⟨present, earlier | linked⟩
            · exact Or.inl ⟨present, earlier⟩
            · exact Or.inr ⟨present, aKey edge, linked, incident_a edge⟩
          · rintro (⟨present, earlier⟩ | ⟨present, node, linked, touches⟩)
            · exact ⟨present, Or.inl earlier⟩
            · exact ⟨present, Or.inr
                (linked.tail ⟨edge, present, touches, incident_a edge⟩)⟩
    · intro node earlier
      exact (found.visited node).mpr (Or.inl earlier)
    · exact (found.visited start).mpr (Or.inr Relation.ReflTransGen.refl)

theorem fold_settled (readable : ReadableIds edges) (unit : UnitConfidence edges)
    (starts : List String) (members : ∀ start ∈ starts, start ∈ nodesOf edges) (progress : Progress)
    (settled : Settled edges progress) : ∃ bound final, (∀ fuel, bound ≤ fuel →
        starts.foldlM (solveFrom fuel edges) progress = some final) ∧
      Settled edges final ∧ (∀ node ∈ progress.visited, node ∈ final.visited) ∧
      ∀ start ∈ starts, start ∈ final.visited := by
  induction starts generalizing progress with
  | nil =>
    refine ⟨0, progress, fun fuel _ => rfl, settled, fun node inside => inside, ?_⟩
    intro start member
    cases member
  | cons start starts ih =>
    cases solve_from_settled readable unit progress settled start
        (members start mem_cons_self) with
    | intro bound rest =>
      obtain ⟨next, step⟩ := rest
      cases ih (fun other member => members other (mem_cons_of_mem start member))
          next step.2.1 with
      | intro later rest =>
        obtain ⟨final, ends⟩ := rest
        refine ⟨max bound later, final, ?_, ends.2.1, ?_, ?_⟩
        · intro fuel enough
          rw [foldlM_cons, step.1 fuel ((le_max_left _ _).trans enough)]
          exact ends.1 fuel ((le_max_right _ _).trans enough)
        · intro node earlier
          exact ends.2.2.1 node (step.2.2.1 node earlier)
        · intro other member
          rcases mem_cons.mp member with head | tail
          · rw [head]
            exact ends.2.2.1 start step.2.2.2
          · exact ends.2.2.2 other tail

end

section

variable {first second : List ScoredConflationPair} (same : SameEdges first second)

structure Alike (progress progress' : Progress) : Prop where
  visited : ∀ node, node ∈ progress.visited ↔ node ∈ progress'.visited
  selected : progress.selected.map pairOf = progress'.selected.map pairOf

include same

theorem closed_same {nodes nodes'} (alike : ∀ node, node ∈ nodes ↔ node ∈ nodes')
    (closed : ClosedNodes first nodes) : ClosedNodes second nodes' := by
  intro node member other adjacent
  exact (alike other).mp (closed node ((alike node).mpr member) other
    ((adjacent_same same node other).mpr adjacent))

theorem solve_from_alike (readable : ReadableIds first) (fuel : Nat) (start : String)
    (progress progress' next next' : Progress) (alike : Alike progress progress')
    (closed : ClosedNodes first progress.visited)
    (ends : solveFrom fuel first progress start = some next)
    (ends' : solveFrom fuel second progress' start = some next') :
    Alike next next' ∧ ClosedNodes first next.visited := by
  unfold solveFrom at ends ends'
  by_cases known : start ∈ progress.visited
  · rw [if_pos (by simpa using known)] at ends
    rw [if_pos (by simpa using (alike.visited start).mp known)] at ends'
    rw [← Option.some.inj ends, ← Option.some.inj ends']
    exact ⟨alike, closed⟩
  · have fresh' : start ∉ progress'.visited := fun there => known ((alike.visited start).mpr there)
    rw [if_neg (by simpa using known), bind_eq_some_iff] at ends
    rw [if_neg (by simpa using fresh'), bind_eq_some_iff] at ends'
    obtain ⟨result, given⟩ := ends
    obtain ⟨result', given'⟩ := ends'
    have found := component_found closed known given.1
    have found' := component_found (closed_same same alike.visited closed) fresh' given'.1
    have components : SameEdges result.componentEdges result'.componentEdges := by
      intro edge
      rw [found.component, found'.component]
      simp only [same _, linked_same same]
    obtain ⟨solved, selected⟩ := map_eq_some_iff.mp given.2
    obtain ⟨solved', selected'⟩ := map_eq_some_iff.mp given'.2
    rw [← selected.2, ← selected'.2]
    constructor
    · constructor
      · intro node
        dsimp only
        rw [found.visited, found'.visited, alike.visited, linked_same same]
      · dsimp only
        rw [map_append, map_append, alike.selected]
        rw [solved_same components
          (fun edge member => readable edge ((found.component edge).mp member).1)
          fuel solved solved' selected.1 selected'.1]
    · exact closed_after closed found

theorem fold_alike (readable : ReadableIds first) (fuel : Nat) (starts : List String)
    (progress progress' final final' : Progress) (alike : Alike progress progress')
    (closed : ClosedNodes first progress.visited)
    (ends : starts.foldlM (solveFrom fuel first) progress = some final)
    (ends' : starts.foldlM (solveFrom fuel second) progress' = some final') :
    Alike final final' := by
  induction starts generalizing progress progress' with
  | nil =>
    cases ends
    cases ends'
    exact alike
  | cons start starts ih =>
    rw [foldlM_cons] at ends ends'
    change (solveFrom fuel first progress start).bind _ = some final at ends
    change (solveFrom fuel second progress' start).bind _ = some final' at ends'
    rw [bind_eq_some_iff] at ends ends'
    obtain ⟨next, step⟩ := ends
    obtain ⟨next', step'⟩ := ends'
    have both := solve_from_alike same readable fuel start _ _ next next' alike closed
      step.1 step'.1
    exact ih next next' both.1 both.2 step.2 step'.2

end

section

variable (localeCompare : String → String → Int)

theorem sorted_same {edges} : SameEdges edges (sortBy (candidateLe localeCompare) edges) := by
  intro edge
  rw [mem_sort_by]

theorem best_of_none {edges} (none_ : ∀ edge, edge ∉ edges) : BestMatching edges [] := by
  have nothing : ∀ matching : List ScoredConflationPair,
      (∀ edge ∈ matching, edge ∈ edges) → matching = [] := by
    intro matching inside
    apply eq_nil_iff_forall_not_mem.mpr
    intro edge member
    exact none_ edge (inside edge member)
  apply BestMatching.mk
  · intro edge member
    cases member
  · exact ⟨nodup_nil, nodup_nil⟩
  · intro matching inside _
    rw [nothing matching inside]
  · intro matching inside _ _
    rw [nothing matching inside]

theorem pairs_assigned (candidateEdges) (readable : ReadableIds candidateEdges)
    (unit : UnitConfidence candidateEdges) : ∃ bound result, (∀ fuel, bound ≤ fuel →
        assignConflationPairs localeCompare fuel candidateEdges = some result) ∧
      BestMatching candidateEdges result := by
  by_cases empty : candidateEdges = []
  · refine ⟨0, [], ?_, ?_⟩
    · intro fuel _
      unfold assignConflationPairs
      rw [if_pos empty]
    · apply best_of_none
      rw [empty]
      intro edge member
      cases member
  · have back : SameEdges candidateEdges (sortBy (candidateLe localeCompare) candidateEdges) :=
      sorted_same localeCompare
    have settled : Settled (sortBy (candidateLe localeCompare) candidateEdges)
        { visited := [], selected := [] } := by
      constructor
      · intro node member
        cases member
      · apply best_of_none
        intro edge member
        unfold visitedEdges at member
        rw [mem_filter] at member
        cases member.2
    cases fold_settled (fun edge member => readable edge ((back edge).mpr member))
        (fun edge member => unit edge ((back edge).mpr member)) _ (fun start member => member)
        _ settled with
    | intro bound rest =>
      obtain ⟨final, ends⟩ := rest
      refine ⟨bound, sortBy (selectedLe localeCompare) final.selected, ?_, ?_⟩
      · intro fuel enough
        unfold assignConflationPairs
        rw [if_neg empty]
        dsimp only
        rw [ends.1 fuel enough]
        rfl
      · apply best_perm (sort_by_perm _ _).symm
        apply best_congr _ ends.2.1.best
        intro edge
        unfold visitedEdges
        rw [mem_filter, contains_iff_mem, ← back edge]
        constructor
        · exact fun both => both.1
        · intro member
          apply And.intro member
          apply ends.2.2.2
          rw [mem_nodes_of]
          exact ⟨edge, (back edge).mp member, incident_a edge⟩

theorem selected_sorted_same {first second} (same : first.map pairOf = second.map pairOf) :
    (sortBy (selectedLe localeCompare) first).map pairOf =
      (sortBy (selectedLe localeCompare) second).map pairOf := by
  have sorted : ∀ edges : List ScoredConflationPair,
      (sortBy (selectedLe localeCompare) edges).map pairOf =
        sortBy (fun left right : String × String × ℚ =>
          if localeCompare left.1 right.1 ≠ 0 then localeCompare left.1 right.1 < 0
          else localeCompare left.2.1 right.2.1 ≤ 0) (edges.map pairOf) := by
    intro edges
    apply map_sort_by
    intro left right
    unfold selectedLe pairOf
    dsimp only
  rw [sorted, sorted, same]

theorem assignment_same {first second} (same : SameEdges first second)
    (readable : ReadableIds first) (fuel : Nat) (result result')
    (ends : assignConflationPairs localeCompare fuel first = some result)
    (ends' : assignConflationPairs localeCompare fuel second = some result') :
    result.map pairOf = result'.map pairOf := by
  unfold assignConflationPairs at ends ends'
  by_cases empty : first = []
  · have empty' : second = [] := by
      apply eq_nil_iff_forall_not_mem.mpr
      intro edge member
      have given := (same edge).mpr member
      rw [empty] at given
      cases given
    rw [if_pos empty] at ends
    rw [if_pos empty'] at ends'
    rw [← Option.some.inj ends, ← Option.some.inj ends']
  · have other : second ≠ [] := by
      intro empty'
      apply empty
      apply eq_nil_iff_forall_not_mem.mpr
      intro edge member
      have given := (same edge).mp member
      rw [empty'] at given
      cases given
    rw [if_neg empty] at ends
    rw [if_neg other] at ends'
    dsimp only at ends ends'
    have sorted : SameEdges (sortBy (candidateLe localeCompare) first)
        (sortBy (candidateLe localeCompare) second) := by
      intro edge
      rw [mem_sort_by, mem_sort_by]
      exact same edge
    rw [← nodes_same sorted] at ends'
    obtain ⟨final, given⟩ := map_eq_some_iff.mp ends
    obtain ⟨final', given'⟩ := map_eq_some_iff.mp ends'
    rw [← given.2, ← given'.2]
    apply selected_sorted_same
    apply Alike.selected (fold_alike sorted (fun edge member =>
      readable edge (mem_sort_by.mp member)) fuel _ _ _ final final' _ _
      given.1 given'.1)
    · exact ⟨fun node => Iff.rfl, rfl⟩
    · intro node member
      cases member

theorem map_pair_inj {edges : List ScoredConflationPair}
    (distinct : ∀ edge ∈ edges, ∀ other ∈ edges, pairOf edge = pairOf other → edge = other)
    (first second : List ScoredConflationPair) (inside : ∀ edge ∈ first, edge ∈ edges)
    (inside' : ∀ edge ∈ second, edge ∈ edges) (same : first.map pairOf = second.map pairOf) :
    first = second := by
  induction first generalizing second with
  | nil =>
    cases second with
    | nil => rfl
    | cons edge second => cases same
  | cons edge first ih =>
    cases second with
    | nil => cases same
    | cons other second =>
      rw [map_cons, map_cons, List.cons.injEq] at same
      rw [distinct edge (inside edge mem_cons_self) other (inside' other mem_cons_self)
        same.1]
      rw [ih second (fun e member => inside e (mem_cons_of_mem edge member))
        (fun e member => inside' e (mem_cons_of_mem other member)) same.2]

/-- The assignment ends with a best matching of the candidates. For any order of them it
selects the same pairs with the same confidences, and the same candidates if none differ
only in their other data. -/
theorem conflation_pairs_assigned (candidateEdges : List ScoredConflationPair)
    (readable : ReadableIds candidateEdges) (unit : UnitConfidence candidateEdges) :
    ∃ bound result, (∀ fuel, bound ≤ fuel →
        assignConflationPairs localeCompare fuel candidateEdges = some result) ∧
      BestMatching candidateEdges result ∧
      ∀ shuffled : List ScoredConflationPair, shuffled.Perm candidateEdges →
        ∃ bound' result', (∀ fuel, bound' ≤ fuel →
            assignConflationPairs localeCompare fuel shuffled = some result') ∧
          result'.map pairOf = result.map pairOf ∧
          ((∀ edge ∈ candidateEdges, ∀ other ∈ candidateEdges,
            pairOf edge = pairOf other → edge = other) → result' = result) := by
  obtain ⟨bound, result, ends⟩ := pairs_assigned localeCompare candidateEdges readable unit
  refine ⟨bound, result, ends.1, ends.2, ?_⟩
  intro shuffled perm
  have members : ∀ edge, edge ∈ shuffled ↔ edge ∈ candidateEdges := fun edge => perm.mem_iff
  cases pairs_assigned localeCompare shuffled
      (fun edge member => readable edge ((members edge).mp member))
      (fun edge member => unit edge ((members edge).mp member)) with
  | intro bound' rest' =>
    obtain ⟨result', ends'⟩ := rest'
    have pairs : result'.map pairOf = result.map pairOf :=
      assignment_same localeCompare members
        (fun edge member => readable edge ((members edge).mp member))
        (max bound bound') result' result (ends'.1 _ (le_max_right _ _))
        (ends.1 _ (le_max_left _ _))
    refine ⟨bound', result', ends'.1, pairs, ?_⟩
    intro distinct
    apply map_pair_inj distinct _ _ _ _ pairs
    · intro edge member
      exact (members edge).mp (ends'.2.within edge member)
    · exact ends.2.within

end

def byUnits (left right : String) : Int :=
  if left = right then 0 else if textLe left right then -1 else 1

def cafe (id : String) : ConflationPoint :=
  { id := id, name := "Cafe", lat := 0, lng := 0, category := none, addressKey := none
    wikidata := none, phones := none, website := none }

def cafeEdge (aId bId : String) (confidence : ℚ) (evidence : List String) : ScoredConflationPair :=
  { a := cafe aId, b := cafe bId
    score := { matchConfidence := confidence, method := .spatialName, distanceM := 0
               nameSimilarity := 1, categoryCompatible := true, evidence := evidence } }

def cafeCandidates : List ScoredConflationPair :=
  [cafeEdge "1" "a" (9 / 10) ["name-match"], cafeEdge "1" "b" 1 ["name-match"],
    cafeEdge "2" "b" (1 / 10) ["name-match"]]

theorem cafe_pairs_assigned : ∃ bound result, (∀ fuel, bound ≤ fuel →
        assignConflationPairs byUnits fuel cafeCandidates = some result) ∧
      BestMatching cafeCandidates result := by
  have readable : ReadableIds cafeCandidates := by
    unfold ReadableIds SeparatorFree
    decide +kernel
  have unit : UnitConfidence cafeCandidates := by
    unfold UnitConfidence
    decide +kernel
  obtain ⟨bound, result, assigned⟩ := conflation_pairs_assigned byUnits cafeCandidates readable unit
  exact ⟨bound, result, assigned.1, assigned.2.1⟩

/-- Of two candidates for one pair with one confidence the first of the input is returned,
and identifiers with the separator can make one edge stand in two cells, so that it is
selected twice. -/
theorem twins_by_order_and_separator : (assignConflationPairs byUnits 9
      [cafeEdge "1" "a" 1 ["close-band"], cafeEdge "1" "a" 1 ["soft-window"]] =
        some [cafeEdge "1" "a" 1 ["close-band"]] ∧ assignConflationPairs byUnits 9
      [cafeEdge "1" "a" 1 ["soft-window"], cafeEdge "1" "a" 1 ["close-band"]] =
        some [cafeEdge "1" "a" 1 ["soft-window"]] ∧
    cafeEdge "1" "a" 1 ["close-band"] ≠ cafeEdge "1" "a" 1 ["soft-window"]) ∧
    (assignConflationPairs byUnits 9
      [cafeEdge "x" "y\x00z" 1 [], cafeEdge "x\x00y" "z" 1 [], cafeEdge "x" "z" 1 []] =
        some [cafeEdge "x" "y\x00z" 1 [], cafeEdge "x" "y\x00z" 1 []] ∧
    ¬ OneToOne [cafeEdge "x" "y\x00z" 1 [], cafeEdge "x" "y\x00z" 1 []]) := by
  constructor
  · apply And.intro (by decide +kernel)
    apply And.intro (by decide +kernel)
    decide +kernel
  · apply And.intro (by decide +kernel)
    intro apart
    exact absurd apart.a (by decide +kernel)

end OpenMapX.Places.PoiAssignment
