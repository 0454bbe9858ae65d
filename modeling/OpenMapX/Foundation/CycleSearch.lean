import Mathlib

/-!
# Depth-first search for a directed cycle

Nodes are white, gray while they are searched and black afterwards. The gray nodes are the path
to the current one, so an edge to a gray node closes a cycle, which is read off the parents.
From a black node no path is infinite.
-/

namespace OpenMapX.Foundation.CycleSearch

open List Relation

inductive Color where
  | white
  | gray
  | black
  deriving DecidableEq

variable {Node : Type*} [DecidableEq Node]

/-- The nodes where a back edge arrives and leaves are known once there is one. -/
structure Search (Node : Type*) where
  color : Node → Color
  parent : Node → Option Node
  found : Option (Node × Node)

def Search.start : Search Node := ⟨fun _ => .white, fun _ => none, none⟩

def Search.paint (s : Search Node) (node : Node) (color : Color) : Search Node :=
  { s with color := Function.update s.color node color }

def Search.adopt (s : Search Node) (child node : Node) : Search Node :=
  { s with parent := Function.update s.parent child (some node) }

def visitEach (visit : Node → Search Node → Bool × Search Node) (node : Node) :
    List Node → Search Node → Bool × Search Node
  | [], s => (false, s)
  | next :: rest, s =>
    match s.color next with
    | .white =>
      let visited := visit next (s.adopt next node)
      if visited.1 then visited else visitEach visit node rest visited.2
    | .gray => (true, { s with found := some (next, node) })
    | .black => visitEach visit node rest s

section

variable (adj : Node → List Node)

def visit : Nat → Node → Search Node → Bool × Search Node
  | 0, _, s => (false, s)
  | fuel + 1, node, s =>
    let visited := visitEach (visit fuel) node (adj node) (s.paint node .gray)
    if visited.1 then visited else (false, visited.2.paint node .black)

def searchAll (fuel : Nat) : List Node → Search Node → Search Node
  | [], s => s
  | root :: rest, s =>
    if s.color root = .white then
      let visited := visit adj fuel root s
      if visited.1 then visited.2 else searchAll fuel rest visited.2
    else searchAll fuel rest s

/-- The nodes from `node` up to below `top`. -/
def climb (parent : Node → Option Node) (top : Node) : Nat → Node → List Node
  | 0, _ => []
  | fuel + 1, node =>
    if node = top then []
    else node :: ((parent node).map (climb parent top fuel)).getD []

def detectCycle (nodes : List Node) : Option (List Node) :=
  let s := searchAll adj nodes.length nodes Search.start
  s.found.map fun (top, last) => top :: climb s.parent top (nodes.length + 1) last

def Edge (node next : Node) : Prop := next ∈ adj node

/-- A cycle against the direction of its edges. -/
structure IsCycle (cycle : List Node) : Prop where
  distinct : cycle.Nodup
  edges : cycle.IsChain fun next node => next ∈ adj node
  closes : ∃ first ∈ cycle.head?, ∃ last ∈ cycle.getLast?, last ∈ adj first

/-- It starts where the back edge of the search arrives, and goes on where that edge leaves. -/
structure ClosedBy (s : Search Node) (cycle : List Node) : Prop where
  circular : IsCycle adj cycle
  back : ∃ top last, s.found = some (top, last) ∧ top ∈ adj last ∧ cycle.head? = some top ∧
    cycle.tail.head?.getD top = last

/-- No path from the node is infinite. -/
abbrev Grounded (node : Node) : Prop := Acc (fun next node => Edge adj node next) node

def Settled (s : Search Node) : Prop := ∀ node, s.color node = .black → Grounded adj node

/-- The path of gray nodes, the current one first. -/
structure Stack (s : Search Node) (path : List Node) : Prop where
  distinct : path.Nodup
  edges : path.IsChain fun child node => s.parent child = some node ∧ child ∈ adj node
  gray : ∀ node, s.color node = .gray ↔ node ∈ path

structure Found (nodes : List Node) (s : Search Node) : Prop where
  cycle : ∃ top last path, s.found = some (top, last) ∧ path.head? = some last ∧ top ∈ path ∧
    top ∈ adj last ∧ path.Nodup ∧ path ⊆ nodes ∧
    path.IsChain fun child node => s.parent child = some node ∧ child ∈ adj node

end

/-- Only white nodes changed, and none of them is left gray. -/
structure Grows (s later : Search Node) : Prop where
  kept : ∀ node, s.color node ≠ .white →
    later.color node = s.color node ∧ later.parent node = s.parent node
  gray : ∀ node, later.color node = .gray → s.color node = .gray
  found : later.found = s.found

omit [DecidableEq Node] in
theorem Grows.refl (s : Search Node) : Grows s s := ⟨fun _ _ => ⟨rfl, rfl⟩, fun _ gray => gray, rfl⟩

omit [DecidableEq Node] in
theorem Grows.trans {first second third : Search Node} (before : Grows first second)
    (after : Grows second third) : Grows first third where
  kept node touched := by
    obtain ⟨color, parent⟩ := before.kept node touched
    have later := after.kept node (color ▸ touched)
    exact ⟨later.1.trans color, later.2.trans parent⟩
  gray node gray := before.gray node (after.gray node gray)
  found := after.found.trans before.found

omit [DecidableEq Node] in
theorem Grows.stack {adj : Node → List Node} {s later} {path}
    (grows : Grows s later) (stack : Stack adj s path) : Stack adj later path where
  distinct := stack.distinct
  edges := by
    apply stack.edges.imp_of_mem_imp
    intro child node inside _ edge
    have gray := (stack.gray child).mpr inside
    exact ⟨(grows.kept child (by simp [gray])).2.trans edge.1, edge.2⟩
  gray node := by
    rw [← stack.gray]
    constructor
    · exact grows.gray node
    · intro gray
      exact (grows.kept node (by simp [gray])).1.trans gray

def whites (nodes : List Node) (s : Search Node) : Finset Node :=
  nodes.toFinset.filter fun node => s.color node = .white

theorem whites_mono {nodes : List Node} {s later : Search Node} (grows : Grows s later) :
    whites nodes later ⊆ whites nodes s := by
  intro node inside
  obtain ⟨member, white⟩ := Finset.mem_filter.mp inside
  apply Finset.mem_filter.mpr ⟨member, _⟩
  by_contra touched
  exact touched ((grows.kept node touched).1 ▸ white)

theorem whites_paint {nodes s} {node : Node} (inside : node ∈ nodes) (white : s.color node = .white)
    : (whites nodes (s.paint node .gray)).card < (whites nodes s).card := by
  apply Finset.card_lt_card
  refine (Finset.ssubset_iff_of_subset ?_).mpr ⟨node, by simp [whites, inside, white], ?_⟩
  swap
  · intro member
    simpa [Search.paint] using (Finset.mem_filter.mp member).2
  intro other member
  obtain ⟨listed, still⟩ := Finset.mem_filter.mp member
  apply Finset.mem_filter.mpr ⟨listed, _⟩
  by_cases same : other = node
  · rw [same, white]
  · simpa [Search.paint, Function.update_of_ne same] using still

section

variable {adj : Node → List Node} {nodes : List Node}
  (inside : ∀ node next, next ∈ adj node → node ∈ nodes ∧ next ∈ nodes)

/-- What a search of one node or of some of its edges does, as its answer tells. -/
def Outcome (adj : Node → List Node) (nodes : List Node) (done : Search Node → Prop)
    (s : Search Node) (visited : Bool × Search Node) : Prop :=
  if visited.1 then Found adj nodes visited.2
  else Grows s visited.2 ∧ Settled adj visited.2 ∧ done visited.2

/-- A search that is called as the stack and the white nodes left allow. -/
def Sound (adj : Node → List Node) (nodes : List Node) (fuel : Nat)
    (visit : Node → Search Node → Bool × Search Node) : Prop :=
  ∀ node s path, node ∈ nodes → s.color node = .white → Stack adj s path → path ⊆ nodes →
    (∀ top ∈ path.head?, s.parent node = some top ∧ node ∈ adj top) →
    (whites nodes s).card ≤ fuel → Settled adj s →
    Outcome adj nodes (fun later => later.color node = .black) s (visit node s)

omit [DecidableEq Node] in
theorem Outcome.andThen {done finally_ : Search Node → Prop} {s first visited}
    (tried : Outcome adj nodes done s visited) (next : Search Node → Bool × Search Node)
    (after : Grows s visited.2 → Settled adj visited.2 → done visited.2 →
      Outcome adj nodes finally_ first (next visited.2)) :
    Outcome adj nodes finally_ first (if visited.1 then visited else next visited.2) := by
  unfold Outcome at tried
  split
  · rename_i closed
    rw [if_pos closed] at tried
    simpa [Outcome, closed] using tried
  · rename_i open_
    rw [if_neg open_] at tried
    exact after tried.1 tried.2.1 tried.2.2

omit [DecidableEq Node] in
theorem Outcome.after {done finally_ : Search Node → Prop} {s middle : Search Node}
    {visited : Bool × Search Node} (tried : Outcome adj nodes done middle visited)
    (grew : Grows s middle) (more : ∀ last, Grows middle last → done last → finally_ last) :
    Outcome adj nodes finally_ s visited := by
  unfold Outcome at tried ⊢
  split
  · rename_i closed
    rwa [if_pos closed] at tried
  · rename_i open_
    rw [if_neg open_] at tried
    exact ⟨grew.trans tried.1, tried.2.1, more _ tried.1 tried.2.2⟩

theorem adopt_grows {s} {next : Node} (white : s.color next = .white) (node : Node) :
    Grows s (s.adopt next node) where
  kept other touched := by
    have apart : other ≠ next := by
      rintro rfl
      exact touched white
    exact ⟨rfl, Function.update_of_ne apart _ _⟩
  gray _ gray := gray
  found := rfl

omit [DecidableEq Node] in
theorem Grows.black {s later} (grows : Grows s later) {node : Node}
    (black : s.color node = .black) : later.color node = .black :=
  (grows.kept node (by simp [black])).1.trans black

include inside in
theorem visit_each_outcome {fuel : Nat} {search : Node → Search Node → Bool × Search Node}
    (sound : Sound adj nodes fuel search) {node : Node} {path : List Node}
    (listed : node :: path ⊆ nodes) (edges : List Node) (given : edges ⊆ adj node)
    (s : Search Node) (stack : Stack adj s (node :: path)) (enough : (whites nodes s).card ≤ fuel)
    (settled : Settled adj s) :
    Outcome adj nodes (fun later => ∀ next ∈ edges, later.color next = .black) s
      (visitEach search node edges s) := by
  induction edges generalizing s with
  | nil => exact ⟨.refl s, settled, by simp⟩
  | cons next rest ih =>
    obtain ⟨edge, given⟩ := cons_subset.mp given
    unfold visitEach
    cases color : s.color next with
    | gray =>
      exact ⟨next, node, node :: path, rfl, rfl, (stack.gray next).mp color, edge,
        stack.distinct, listed, stack.edges⟩
    | black =>
      exact (ih given s stack enough settled).after (.refl s) fun last grows blacks =>
        forall_mem_cons.mpr ⟨grows.black color, blacks⟩
    | white =>
      have adopts := adopt_grows color node
      have tried := sound next (s.adopt next node) (node :: path) (inside node next edge).2 color
        (adopts.stack stack) listed
        (by
          rintro top ⟨⟩
          exact ⟨Function.update_self _ _ _, edge⟩)
        ((Finset.card_le_card (whites_mono adopts)).trans enough) settled
      apply (tried.after adopts fun _ _ black => black).andThen (visitEach search node rest)
      intro grew settled black
      exact (ih given _ (grew.stack stack)
        ((Finset.card_le_card (whites_mono grew)).trans enough) settled).after grew
          fun last grows blacks => forall_mem_cons.mpr ⟨grows.black black, blacks⟩

include inside in
theorem visit_sound (fuel : Nat) : Sound adj nodes fuel (visit adj fuel) := by
  induction fuel with
  | zero =>
    intro node s path listed white stack _ _ enough settled
    have some_white : node ∈ whites nodes s := by simp [whites, listed, white]
    rw [Finset.card_eq_zero.mp (Nat.le_zero.mp enough)] at some_white
    cases some_white
  | succ fuel ih =>
    intro node s path listed white stack within below enough settled
    have fresh : node ∉ path := by
      rw [← stack.gray, white]
      simp
    have pushed : Stack adj (s.paint node .gray) (node :: path) := by
      refine ⟨nodup_cons.mpr ⟨fresh, stack.distinct⟩, ?_, ?_⟩
      · exact isChain_cons.mpr ⟨below, stack.edges⟩
      · intro other
        by_cases same : other = node
        · simp [Search.paint, same]
        · simp [Search.paint, same, stack.gray]
    have fewer := whites_paint listed white
    have searched := visit_each_outcome inside ih (cons_subset.mpr ⟨listed, within⟩) (adj node)
      (Subset.refl _) _ pushed (by omega) (by
        intro other black
        apply settled
        by_cases same : other = node
        · simp [Search.paint, same] at black
        · simpa [Search.paint, Function.update_of_ne same] using black)
    unfold visit
    apply searched.andThen fun later => (false, later.paint node .black)
    intro grows settled_later blacks
    refine ⟨⟨?_, ?_, grows.found⟩, ?_, Function.update_self _ _ _⟩
    · intro other touched
      have apart : other ≠ node := by
        rintro rfl
        exact touched white
      have kept := grows.kept other (by simpa [Search.paint, apart] using touched)
      simpa [Search.paint, apart] using kept
    · intro other gray
      by_cases same : other = node
      · simp [Search.paint, same] at gray
      · have before := grows.gray other (by simpa [Search.paint, same] using gray)
        simpa [Search.paint, same] using before
    · intro other black
      by_cases same : other = node
      · subst same
        exact Acc.intro _ fun next edge => settled_later next (blacks next edge)
      · exact settled_later other (by simpa [Search.paint, same] using black)

include inside in
theorem search_all_outcome {fuel : Nat} (roots : List Node) (listed : roots ⊆ nodes)
    (s : Search Node) (stack : Stack adj s []) (enough : (whites nodes s).card ≤ fuel)
    (settled : Settled adj s) : Found adj nodes (searchAll adj fuel roots s) ∨
      (Grows s (searchAll adj fuel roots s) ∧ Settled adj (searchAll adj fuel roots s) ∧
        ∀ root ∈ roots, (searchAll adj fuel roots s).color root = .black) := by
  induction roots generalizing s with
  | nil => exact .inr ⟨⟨fun _ _ => ⟨rfl, rfl⟩, fun _ gray => gray, rfl⟩, settled, by simp⟩
  | cons root rest ih =>
    obtain ⟨member, listed⟩ := cons_subset.mp listed
    unfold searchAll
    split
    · rename_i white
      have tried := visit_sound inside fuel root s [] member white stack (by simp) (by simp)
        enough settled
      unfold Outcome at tried
      dsimp only
      split at tried
      · rename_i closed
        exact .inl (by rwa [if_pos closed])
      · rename_i open_
        obtain ⟨grew, settled, black⟩ := tried
        rw [if_neg open_]
        refine (ih listed _ (grew.stack stack)
          ((Finset.card_le_card (whites_mono grew)).trans enough) settled).imp_right ?_
        rintro ⟨grows, settled, blacks⟩
        exact ⟨grew.trans grows, settled, forall_mem_cons.mpr ⟨grows.black black, blacks⟩⟩
    · rename_i touched
      refine (ih listed s stack enough settled).imp_right ?_
      rintro ⟨grows, settled, blacks⟩
      refine ⟨grows, settled, forall_mem_cons.mpr ⟨grows.black ?_, blacks⟩⟩
      cases color : s.color root with
      | white => exact absurd color touched
      | gray => cases (stack.gray root).mp color
      | black => rfl

theorem climb_path {parent : Node → Option Node} {top : Node} (below above : List Node)
    (apart : top ∉ below)
    (linked : (below ++ top :: above).IsChain fun child node => parent child = some node)
    {fuel : Nat} (enough : below.length < fuel) {node : Node}
    (first : (below ++ top :: above).head? = some node) : climb parent top fuel node = below := by
  induction below generalizing fuel node with
  | nil =>
    cases first
    cases fuel with
    | zero => cases enough
    | succ fuel => simp [climb]
  | cons child rest ih =>
    cases first
    obtain ⟨other, apart⟩ := not_or.mp (mem_cons.not.mp apart)
    obtain ⟨next, higher⟩ := isChain_cons.mp linked
    cases fuel with
    | zero => cases enough
    | succ fuel =>
      have here : (rest ++ top :: above).head? = some (rest.head?.getD top) := by
        cases rest <;> rfl
      have up := ih apart higher (by simpa using enough) here
      simp only [climb, if_neg (Ne.symm other), next _ here, Option.map_some, Option.getD_some, up]

theorem found_cycle {s} (found : Found adj nodes s) : ∃ cycle, (s.found.map fun (top, last) =>
      top :: climb s.parent top (nodes.length + 1) last) = some cycle ∧ ClosedBy adj s cycle := by
  obtain ⟨top, last, path, known, first, member, edge, distinct, listed, linked⟩ := found.cycle
  obtain ⟨below, above, rfl⟩ := append_of_mem member
  have below_distinct := (nodup_append.mp distinct).1
  have apart : top ∉ below := fun inside =>
    (nodup_append.mp distinct).2.2 top inside top mem_cons_self rfl
  have short : below.length < nodes.length + 1 := by
    have most := (below_distinct.subperm fun node inside =>
      listed (mem_append_left _ inside)).length_le
    omega
  have climbed := climb_path below above apart (linked.imp fun _ _ edge => edge.1) short first
  have edges := (linked.imp fun _ _ edge => edge.2).left_of_append
  refine ⟨top :: below, by simp only [known, Option.map_some, climbed],
    ⟨nodup_cons.mpr ⟨apart, below_distinct⟩, isChain_cons.mpr ⟨?_, edges⟩, top, rfl, ?_⟩,
    top, last, known, edge, rfl, ?_⟩
  rotate_right
  · cases below with
    | nil =>
      cases first
      rfl
    | cons child rest =>
      cases first
      rfl
  · intro next head
    cases below with
    | nil => cases head
    | cons child rest =>
      cases head
      cases first
      exact edge
  · rcases eq_nil_or_concat' below with rfl | ⟨rest, child, rfl⟩
    · cases first
      exact ⟨top, rfl, edge⟩
    · refine ⟨child, by rw [← cons_append, getLast?_concat]; rfl, ?_⟩
      rw [append_assoc, singleton_append] at linked
      exact ((isChain_append.mp linked).2.1.rel).2

omit [DecidableEq Node] in
theorem IsCycle.returns {cycle} (circular : IsCycle adj cycle) :
    ∃ node, TransGen (Edge adj) node node := by
  obtain ⟨first, head, last, tail, edge⟩ := circular.closes
  refine ⟨first, TransGen.head' edge ?_⟩
  have edges := circular.edges
  clear circular edge
  induction cycle generalizing first with
  | nil => cases head
  | cons node rest ih =>
    cases head
    cases rest with
    | nil =>
      cases tail
      exact .refl
    | cons next rest =>
      obtain ⟨here, edges⟩ := isChain_cons_cons.mp edges
      exact (ih next rfl tail edges).tail here

omit [DecidableEq Node] in
theorem Grounded.returns_not {node : Node} (grounded : Grounded adj node) :
    ¬TransGen (Edge adj) node node := by
  induction grounded with
  | intro node _ ih =>
    intro returns
    obtain ⟨next, edge, back⟩ := TransGen.head'_iff.mp returns
    exact ih next edge (TransGen.tail' back edge)

include inside in
theorem detect_cycle_cases : (∃ cycle, detectCycle adj nodes = some cycle ∧
      ClosedBy adj (searchAll adj nodes.length nodes Search.start) cycle) ∨
      (detectCycle adj nodes = none ∧ ∀ node, ¬TransGen (Edge adj) node node) := by
  have searched := search_all_outcome inside nodes (Subset.refl nodes) Search.start
    ⟨nodup_nil, isChain_nil, by simp [Search.start]⟩
    ((Finset.card_filter_le _ _).trans (toFinset_card_le nodes)) (fun node black => by cases black)
  refine searched.imp found_cycle ?_
  rintro ⟨grows, settled, blacks⟩
  refine ⟨by rw [detectCycle, grows.found]; rfl, fun node returns => ?_⟩
  obtain ⟨next, edge, _⟩ := TransGen.head'_iff.mp returns
  exact (settled node (blacks node (inside node next edge).1)).returns_not returns

include inside in
theorem detect_cycle_none :
    detectCycle adj nodes = none ↔ ∀ node, ¬TransGen (Edge adj) node node := by
  rcases detect_cycle_cases inside with ⟨cycle, found, circular⟩ | ⟨none, free⟩
  · obtain ⟨node, returns⟩ := circular.circular.returns
    exact iff_of_false (by simp [found]) fun free => free node returns
  · exact iff_of_true none free

include inside in
theorem detect_cycle_some {cycle} (found : detectCycle adj nodes = some cycle) :
    ClosedBy adj (searchAll adj nodes.length nodes Search.start) cycle := by
  rcases detect_cycle_cases inside with ⟨other, same, circular⟩ | ⟨none, _⟩
  · exact Option.some.inj (found.symm.trans same) ▸ circular
  · rw [none] at found
    cases found

end

end OpenMapX.Foundation.CycleSearch
