import OpenMapX.Places.ComponentOptimality

/-!
# Candidate components

The traversal from a node ends, visits the nodes that are linked with it, and collects
the edges that touch one of them.
-/

namespace OpenMapX.Places.CandidateComponents

open PoiConflation ComponentOptimality List

def Incident (edge : ScoredConflationPair) (node : String) : Prop :=
  aKey edge = node ∨ bKey edge = node

section

variable (edges : List ScoredConflationPair)

def Adjacent (first second : String) : Prop :=
  ∃ edge ∈ edges, Incident edge first ∧ Incident edge second

def Linked (first second : String) : Prop := Relation.ReflTransGen (Adjacent edges) first second

theorem mem_edges_of_node (node : String) (edge) :
    edge ∈ edgesOfNode edges node ↔ edge ∈ edges ∧ Incident edge node := by
  unfold edgesOfNode Incident
  rw [mem_filter, decide_eq_true_eq]

theorem mem_nodes_of (node : String) :
    node ∈ nodesOf edges ↔ ∃ edge ∈ edges, Incident edge node := by
  unfold nodesOf
  rw [mem_sorted_ids, mem_flatMap]
  unfold Incident
  simp only [mem_cons, not_mem_nil, or_false, eq_comm]

end

section

variable (visited : List String) (incident : List ScoredConflationPair) (stack : List String)

theorem push_mem (node : String) : node ∈ incident.foldl (pushNeighbours visited) stack ↔
      node ∈ stack ∨ (node ∉ visited ∧ ∃ edge ∈ incident, Incident edge node) := by
  induction incident generalizing stack with
  | nil => simp
  | cons edge incident ih =>
    rw [foldl_cons, ih]
    have one : node ∈ pushNeighbours visited stack edge ↔
        node ∈ stack ∨ (node ∉ visited ∧ Incident edge node) := by
      unfold pushNeighbours Incident
      by_cases first : aKey edge ∈ visited
      · by_cases second : bKey edge ∈ visited
        · simp only [contains_iff_mem, first, second, if_true]
          constructor
          · exact Or.inl
          · rintro (before | ⟨fresh, same | same⟩)
            · exact before
            · exact absurd (same ▸ first) fresh
            · exact absurd (same ▸ second) fresh
        · simp only [contains_iff_mem, first, second, if_true, if_false, mem_cons]
          constructor
          · rintro (same | before)
            · rw [same]
              exact Or.inr ⟨second, Or.inr rfl⟩
            · exact Or.inl before
          · rintro (before | ⟨fresh, same | same⟩)
            · exact Or.inr before
            · exact absurd (same ▸ first) fresh
            · exact Or.inl same.symm
      · by_cases second : bKey edge ∈ visited
        · simp only [contains_iff_mem, first, second, if_true, if_false, mem_cons]
          constructor
          · rintro (same | before)
            · rw [same]
              exact Or.inr ⟨first, Or.inl rfl⟩
            · exact Or.inl before
          · rintro (before | ⟨fresh, same | same⟩)
            · exact Or.inr before
            · exact Or.inl same.symm
            · exact absurd (same ▸ second) fresh
        · simp only [contains_iff_mem, first, second, if_false, mem_cons]
          constructor
          · rintro (same | same | before)
            · rw [same]
              exact Or.inr ⟨second, Or.inr rfl⟩
            · rw [same]
              exact Or.inr ⟨first, Or.inl rfl⟩
            · exact Or.inl before
          · rintro (before | ⟨fresh, same | same⟩)
            · exact Or.inr (Or.inr before)
            · exact Or.inr (Or.inl same.symm)
            · exact Or.inl same.symm
    rw [one]
    constructor
    · rintro ((before | ⟨fresh, here⟩) | ⟨fresh, other, member, there⟩)
      · exact Or.inl before
      · exact Or.inr ⟨fresh, edge, mem_cons_self, here⟩
      · exact Or.inr ⟨fresh, other, mem_cons_of_mem edge member, there⟩
    · rintro (before | ⟨fresh, other, member, there⟩)
      · exact Or.inl (Or.inl before)
      · rcases mem_cons.mp member with head | tail
        · rw [head] at there
          exact Or.inl (Or.inr ⟨fresh, there⟩)
        · exact Or.inr ⟨fresh, other, tail, there⟩

theorem push_length : (incident.foldl (pushNeighbours visited) stack).length ≤
      stack.length + 2 * incident.length := by
  induction incident generalizing stack with
  | nil => simp
  | cons edge incident ih =>
    rw [foldl_cons, length_cons]
    have rest := ih (pushNeighbours visited stack edge)
    have one : (pushNeighbours visited stack edge).length ≤ stack.length + 2 := by
      unfold pushNeighbours
      dsimp only
      split
      · split <;> simp
      · split <;> simp
    omega

end

theorem collect_mem (incident component : List ScoredConflationPair) (edge : ScoredConflationPair) :
    edge ∈ incident.foldl addEdge component ↔ edge ∈ component ∨ edge ∈ incident := by
  induction incident generalizing component with
  | nil => simp
  | cons first incident ih =>
    rw [foldl_cons, ih]
    have one : edge ∈ addEdge component first ↔ edge ∈ component ∨ edge = first := by
      unfold addEdge
      split
      · rename_i known
        rw [contains_iff_mem] at known
        constructor
        · exact Or.inl
        · rintro (before | same)
          · exact before
          · rw [same]
            exact known
      · rw [mem_append, mem_singleton]
    rw [one, mem_cons, or_assoc]

section

variable (edges : List ScoredConflationPair) (before : List String) (start : String)

/-- The visited nodes other than the earlier ones are linked with the start and have
their neighbours visited or on the stack; the component holds the edges that touch them. -/
structure Exploring (stack : List String) (traversal : Traversal) : Prop where
  kept : ∀ node ∈ before, node ∈ traversal.visited
  reached : ∀ node ∈ traversal.visited, node ∈ before ∨ Linked edges start node
  waiting : ∀ node ∈ stack, Linked edges start node
  closed : ∀ node ∈ traversal.visited, node ∉ before → ∀ other, Adjacent edges node other →
    other ∈ traversal.visited ∨ other ∈ stack
  component : ∀ edge, edge ∈ traversal.componentEdges ↔
    edge ∈ edges ∧ ∃ node ∈ traversal.visited, node ∉ before ∧ Incident edge node
  started : start ∈ traversal.visited ∨ start ∈ stack

variable {edges before start}

theorem exploring_start :
    Exploring edges before start [start] { visited := before, componentEdges := [] } := by
  apply Exploring.mk
  · intro node member
    exact member
  · intro node member
    exact Or.inl member
  · intro node member
    rw [mem_singleton] at member
    rw [member]
    exact Relation.ReflTransGen.refl
  · intro node member fresh
    exact absurd member fresh
  · intro edge
    constructor
    · intro member
      cases member
    · rintro ⟨_, node, member, fresh, _⟩
      exact absurd member fresh
  · exact Or.inr mem_cons_self

section

variable {node : String} {stack : List String} {traversal : Traversal}
  (exploring : Exploring edges before start (node :: stack) traversal)
include exploring

theorem exploring_skip
    (known : node ∈ traversal.visited) : Exploring edges before start stack traversal := by
  apply Exploring.mk exploring.kept exploring.reached
  · intro other member
    exact exploring.waiting other (mem_cons_of_mem node member)
  · intro first member fresh other adjacent
    rcases exploring.closed first member fresh other adjacent with visited | waits
    · exact Or.inl visited
    · rcases mem_cons.mp waits with head | tail
      · rw [head]
        exact Or.inl known
      · exact Or.inr tail
  · exact exploring.component
  · rcases exploring.started with visited | waits
    · exact Or.inl visited
    · rcases mem_cons.mp waits with head | tail
      · rw [head]
        exact Or.inl known
      · exact Or.inr tail

theorem exploring_visit (fresh : node ∉ traversal.visited) : Exploring edges before start
      ((edgesOfNode edges node).foldl (pushNeighbours (traversal.visited ++ [node])) stack)
      { visited := traversal.visited ++ [node]
        componentEdges := (edgesOfNode edges node).foldl addEdge traversal.componentEdges } := by
  have linked := exploring.waiting node mem_cons_self
  have unknown : node ∉ before := fun member => fresh (exploring.kept node member)
  apply Exploring.mk
  · intro other member
    exact mem_append_left [node] (exploring.kept other member)
  · exact forall_mem_append.mpr ⟨exploring.reached, forall_mem_singleton.mpr (Or.inr linked)⟩
  · intro other member
    rw [push_mem] at member
    rcases member with earlier | pushed
    · exact exploring.waiting other (mem_cons_of_mem node earlier)
    · obtain ⟨edge, touches⟩ := pushed.2
      rw [mem_edges_of_node] at touches
      exact linked.tail ⟨edge, touches.1.1, touches.1.2, touches.2⟩
  · intro first member unseen other adjacent
    dsimp only at member ⊢
    rw [push_mem]
    by_cases visited : other ∈ traversal.visited ++ [node]
    · exact Or.inl visited
    · apply Or.inr
      rw [mem_append, mem_singleton] at member
      rcases member with earlier | last
      · rcases exploring.closed first earlier unseen other adjacent with known | waits
        · exact absurd (mem_append_left [node] known) visited
        · rcases mem_cons.mp waits with head | tail
          · exact absurd (by simp [head]) visited
          · exact Or.inl tail
      · rw [last] at adjacent
        obtain ⟨edge, touches⟩ := adjacent
        apply Or.inr
        apply And.intro visited
        apply Exists.intro edge
        rw [mem_edges_of_node]
        exact ⟨⟨touches.1, touches.2.1⟩, touches.2.2⟩
  · intro edge
    dsimp only
    rw [collect_mem, exploring.component, mem_edges_of_node]
    constructor
    · rintro (⟨member, other, visited, unseen, touches⟩ | ⟨member, touches⟩)
      · exact ⟨member, other, mem_append_left [node] visited, unseen, touches⟩
      · exact ⟨member, node, by simp, unknown, touches⟩
    · rintro ⟨member, other, visited, unseen, touches⟩
      rw [mem_append, mem_singleton] at visited
      rcases visited with earlier | last
      · exact Or.inl ⟨member, other, earlier, unseen, touches⟩
      · rw [last] at touches
        exact Or.inr ⟨member, touches⟩
  · dsimp only
    rw [push_mem]
    rcases exploring.started with visited | waits
    · exact Or.inl (mem_append_left [node] visited)
    · rcases mem_cons.mp waits with head | tail
      · rw [head]
        exact Or.inl (by simp)
      · exact Or.inr (Or.inl tail)

end

theorem component_explored (fuel : Nat) (stack : List String) (traversal result : Traversal)
    (exploring : Exploring edges before start stack traversal)
    (ended : exploreComponent edges fuel stack traversal = some result) :
    Exploring edges before start [] result := by
  induction fuel generalizing stack traversal with
  | zero =>
    cases stack with
    | nil =>
      unfold exploreComponent at ended
      cases ended
      exact exploring
    | cons node stack => cases ended
  | succ fuel ih =>
    cases stack with
    | nil =>
      unfold exploreComponent at ended
      cases ended
      exact exploring
    | cons node stack =>
      unfold exploreComponent at ended
      split at ended
      · rename_i known
        rw [contains_iff_mem] at known
        exact ih stack traversal (exploring_skip exploring known) ended
      · rename_i fresh
        rw [contains_iff_mem] at fresh
        exact ih _ _ (exploring_visit exploring fresh) ended

def ClosedNodes (edges : List ScoredConflationPair) (nodes : List String) : Prop :=
  ∀ node ∈ nodes, ∀ other, Adjacent edges node other → other ∈ nodes

theorem adjacent_symm {first second : String} (adjacent : Adjacent edges first second) :
    Adjacent edges second first := by
  obtain ⟨edge, touches⟩ := adjacent
  exact ⟨edge, touches.1, touches.2.2, touches.2.1⟩

theorem explored_iff {result} (closed : ClosedNodes edges before)
    (fresh : start ∉ before) (explored : Exploring edges before start [] result)
    (node : String) : node ∈ result.visited ↔ node ∈ before ∨ Linked edges start node := by
  constructor
  · exact explored.reached node
  · rintro (earlier | linked)
    · exact explored.kept node earlier
    · have both : node ∈ result.visited ∧ node ∉ before := by
        induction linked with
        | refl =>
          rcases explored.started with visited | waits
          · exact ⟨visited, fresh⟩
          · cases waits
        | tail _ adjacent ih =>
          constructor
          · rcases explored.closed _ ih.1 ih.2 _ adjacent with visited | waits
            · exact visited
            · cases waits
          · intro known
            exact ih.2 (closed _ known _ (adjacent_symm adjacent))
      exact both.1

end

section

variable (edges : List ScoredConflationPair)

def pending (nodes visited : List String) : Nat :=
  (nodes.map fun node =>
    if visited.contains node then 0 else 2 * (edgesOfNode edges node).length).sum

theorem pending_visit (nodes visited : List String) (node : String) (distinct : nodes.Nodup)
    (member : node ∈ nodes) (fresh : node ∉ visited) :
    pending edges nodes (visited ++ [node]) + 2 * (edgesOfNode edges node).length =
      pending edges nodes visited := by
  induction nodes with
  | nil => cases member
  | cons first nodes ih =>
    unfold pending at ih ⊢
    rw [map_cons, map_cons, sum_cons, sum_cons]
    have unique := nodup_cons.mp distinct
    by_cases same : node = first
    · have rest : (nodes.map fun other => if (visited ++ [node]).contains other then 0
          else 2 * (edgesOfNode edges other).length) =
          nodes.map fun other => if visited.contains other then 0
            else 2 * (edgesOfNode edges other).length := by
        apply map_congr_left
        intro other inside
        have apart : other ≠ node := by
          intro equal
          rw [equal, same] at inside
          exact unique.1 inside
        simp only [contains_iff_mem, mem_append, mem_singleton, apart, or_false]
      rw [rest, ← same, if_pos (by simp), if_neg (by simpa using fresh)]
      omega
    · have tail : node ∈ nodes := by
        rcases mem_cons.mp member with head | tail
        · exact absurd head same
        · exact tail
      have known := ih unique.2 tail
      have head : (visited ++ [node]).contains first = visited.contains first := by
        have apart : first ≠ node := fun equal => same equal.symm
        simp [apart]
      rw [head]
      omega

theorem component_ends (measure : Nat) (stack : List String) (traversal : Traversal)
    (inside : ∀ node ∈ stack, node ∈ nodesOf edges)
    (small : stack.length + pending edges (nodesOf edges) traversal.visited ≤ measure) :
    ∃ result, ∀ fuel, measure ≤ fuel → exploreComponent edges fuel stack traversal = some result := by
  induction measure generalizing stack traversal with
  | zero =>
    have empty : stack = [] := eq_nil_of_length_eq_zero (by omega)
    rw [empty]
    apply Exists.intro traversal
    intro fuel _
    cases fuel <;> rfl
  | succ measure ih =>
    cases stack with
    | nil =>
      apply Exists.intro traversal
      intro fuel _
      cases fuel <;> rfl
    | cons node stack =>
      have later : ∀ other ∈ stack, other ∈ nodesOf edges :=
        fun other member => inside other (mem_cons_of_mem node member)
      rw [length_cons] at small
      by_cases known : node ∈ traversal.visited
      · obtain ⟨result, ends⟩ := ih stack traversal later (by omega)
        apply Exists.intro result
        intro fuel enough
        cases fuel with
        | zero => omega
        | succ fuel =>
          unfold exploreComponent
          rw [if_pos (by simpa using known)]
          exact ends fuel (by omega)
      · have node_in := inside node mem_cons_self
        have shrinks := pending_visit edges (nodesOf edges) traversal.visited node
          (sorted_ids_nodup _) node_in known
        have grows := push_length (traversal.visited ++ [node]) (edgesOfNode edges node) stack
        have pushed : ∀ other ∈ (edgesOfNode edges node).foldl
            (pushNeighbours (traversal.visited ++ [node])) stack, other ∈ nodesOf edges := by
          intro other member
          rw [push_mem] at member
          rcases member with earlier | new
          · exact later other earlier
          · obtain ⟨edge, touches⟩ := new.2
            rw [mem_edges_of_node] at touches
            rw [mem_nodes_of]
            exact ⟨edge, touches.1.1, touches.2⟩
        cases ih _ { visited := traversal.visited ++ [node]
                     componentEdges :=
                      (edgesOfNode edges node).foldl addEdge traversal.componentEdges }
            pushed (by dsimp only; omega) with
        | intro result ends =>
          apply Exists.intro result
          intro fuel enough
          cases fuel with
          | zero => omega
          | succ fuel =>
            unfold exploreComponent
            rw [if_neg (by simpa using known)]
            exact ends fuel (by omega)

end

end OpenMapX.Places.CandidateComponents
