import Mathlib

/-!
# Directed edges and their flow

The flow of a potential along edges is what it loses from their starts to their ends.
Edges without flow are balanced at every vertex, the flow of a walk is the difference of
its two ends, and where the rest of balanced edges is left with a walk's missing flow,
another edge continues the walk.
-/

namespace OpenMapX.Foundation.DirectedTrails

open List

variable {Vertex : Type*}

def flow (edges : List (Vertex × Vertex)) (potential : Vertex → ℤ) : ℤ :=
  (edges.map fun edge => potential edge.1 - potential edge.2).sum

@[simp] theorem flow_nil (potential : Vertex → ℤ) : flow [] potential = 0 := rfl

@[simp] theorem flow_cons (edge : Vertex × Vertex) (edges : List (Vertex × Vertex))
    (potential : Vertex → ℤ) :
    flow (edge :: edges) potential = potential edge.1 - potential edge.2 + flow edges potential := by
  unfold flow
  rw [map_cons, sum_cons]

theorem flow_append (first second) (potential : Vertex → ℤ) :
    flow (first ++ second) potential = flow first potential + flow second potential := by
  unfold flow
  rw [map_append, sum_append]

theorem flow_perm {first second} (same : first.Perm second)
    (potential : Vertex → ℤ) : flow first potential = flow second potential :=
  (same.map _).sum_eq

theorem flow_flat_map {Item : Type*} (items : List Item) (edges : Item → List (Vertex × Vertex))
    (potential : Vertex → ℤ) : flow (items.flatMap edges) potential =
      (items.map fun item => flow (edges item) potential).sum := by
  induction items with
  | nil => rfl
  | cons item items ih => rw [flatMap_cons, flow_append, ih, map_cons, sum_cons]

def walkEdges (walk : List Vertex) : List (Vertex × Vertex) := walk.zip walk.tail

theorem walk_edges_cons (first second : Vertex) (walk : List Vertex) :
    walkEdges (first :: second :: walk) = (first, second) :: walkEdges (second :: walk) := rfl

theorem walk_edges_push (first : Vertex) (walk : List Vertex) (next : Vertex) :
    walkEdges (first :: walk ++ [next]) =
      walkEdges (first :: walk) ++ [((first :: walk).getLast (cons_ne_nil first walk), next)] := by
  induction walk generalizing first with
  | nil => rfl
  | cons second walk ih =>
    rw [cons_append, cons_append, walk_edges_cons, walk_edges_cons, ← cons_append,
      ih second, cons_append]
    rfl

section

variable [DecidableEq Vertex]

def only (vertex : Vertex) : Vertex → ℤ := fun other => if other = vertex then 1 else 0

theorem flow_only (edges) (vertex : Vertex) : flow edges (only vertex) =
      (edges.countP fun edge => edge.1 = vertex) - (edges.countP fun edge => edge.2 = vertex) := by
  induction edges with
  | nil => rfl
  | cons edge edges ih =>
    rw [flow_cons, ih, countP_cons, countP_cons]
    unfold only
    push_cast
    simp only [decide_eq_true_eq]
    ring

theorem balanced_of_flow {edges} (still : ∀ potential, flow edges potential = 0) (vertex : Vertex) :
    (edges.countP fun edge => edge.1 = vertex) = edges.countP fun edge => edge.2 = vertex := by
  have count := flow_only edges vertex
  rw [still] at count
  omega

theorem start_of_flow {edges} {vertex : Vertex}
    (left : 0 < flow edges (only vertex)) : ∃ edge ∈ edges, edge.1 = vertex := by
  have some_start : 0 < edges.countP fun edge => edge.1 = vertex := by
    rw [flow_only] at left
    omega
  rw [countP_pos_iff] at some_start
  obtain ⟨edge, given⟩ := some_start
  exact ⟨edge, given.1, decide_eq_true_eq.mp given.2⟩

end

end OpenMapX.Foundation.DirectedTrails
