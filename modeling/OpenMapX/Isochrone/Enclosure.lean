import OpenMapX.Isochrone.RayParity

/-!
# Completeness of the contours

A ring contains a point if the ray of the point crosses its edges an odd number of times.
The edges of all chains are the segments of all cells, so that the rings around a lattice
point are counted, up to parity, by its insideness.
-/

namespace OpenMapX.Isochrone.Enclosure

open Foundation.DirectedTrails MarchingSquares ContourBalance RingStitching RayParity List

theorem crosses_symm (origin i j : Point) : crossesRay origin i j = crossesRay origin j i := by
  unfold crossesRay
  by_cases same : i.2 = j.2
  · simp [same]
  · have meets : (j.1 - i.1) * (origin.2 - i.2) / (j.2 - i.2) + i.1 =
        (i.1 - j.1) * (origin.2 - j.2) / (i.2 - j.2) + j.1 := by
      have first : j.2 - i.2 ≠ 0 := sub_ne_zero.mpr (Ne.symm same)
      have second : i.2 - j.2 ≠ 0 := sub_ne_zero.mpr same
      field_simp
      ring
    rw [meets, bne_comm]

theorem fold_crossings (origin : Point) (vertices : List Point) (contained : Bool)
    (previous : Point) : ((vertices.foldl (fun (state : Bool × Point) current =>
      (if crossesRay origin current state.2 then !state.1 else state.1, current))
      (contained, previous)).1 = true) ↔
    ((if contained then 1 else 0) + crossings origin (walkEdges (previous :: vertices))) % 2 = 1 := by
  induction vertices generalizing contained previous with
  | nil => cases contained <;> simp [walkEdges, crossings]
  | cons vertex vertices ih =>
    rw [foldl_cons, ih, walk_edges_cons]
    unfold crossings
    rw [countP_cons]
    dsimp only
    cases contained <;> cases crossesRay origin vertex previous <;> simp <;> omega

section

variable {chain : List Point} (closes : Closes chain)
include closes

theorem chain_parts :
    ∃ first rest last, chain = first :: rest ++ [first] ∧ chain.dropLast = first :: rest ∧
      last = lastPoint (first :: rest) := by
  obtain ⟨first, given⟩ := closes
  obtain ⟨rest, given⟩ := given
  apply Exists.intro first
  apply Exists.intro rest.dropLast
  apply Exists.intro (lastPoint (first :: rest.dropLast))
  have closed := given.2.2
  rw [given.2.1, last_point, getLast_cons given.1] at closed
  have whole : rest.dropLast ++ [first] = rest := by
    rw [← closed]
    exact dropLast_append_getLast given.1
  refine ⟨?_, ?_, rfl⟩
  · rw [given.2.1, cons_append, whole]
  · rw [given.2.1, dropLast_cons_of_ne_nil given.1]

theorem point_in_chain (origin : Point) :
    pointInRing origin chain = true ↔ crossings origin (walkEdges chain) % 2 = 1 := by
  obtain ⟨first, given⟩ := chain_parts closes
  obtain ⟨rest, given⟩ := given
  obtain ⟨last, given⟩ := given
  unfold pointInRing
  rw [given.2.1, fold_crossings, given.1, walk_edges_push, walk_edges_cons, ← last_point]
  unfold crossings
  rw [countP_append, countP_cons, countP_singleton]
  simp only [Bool.false_eq_true, if_false]
  omega

theorem short_chain_outside
    (short : chain.length < 4) (origin : Point) : pointInRing origin chain = false := by
  apply Bool.eq_false_of_not_eq_true
  rw [point_in_chain closes]
  obtain ⟨first, given⟩ := closes
  obtain ⟨rest, given⟩ := given
  cases rest with
  | nil => exact absurd rfl given.1
  | cons second rest =>
    cases rest with
    | nil =>
      have closed := given.2.2
      rw [given.2.1] at closed ⊢
      have same : second = first := closed
      rw [same]
      simp [walkEdges, crossings, crossesRay]
    | cons third rest =>
      cases rest with
      | nil =>
        have closed := given.2.2
        rw [given.2.1] at closed ⊢
        have same : third = first := closed
        rw [same]
        unfold crossings
        rw [walk_edges_cons, walk_edges_cons, countP_cons, countP_cons,
          crosses_symm origin first second]
        simp [walkEdges]
        split <;> simp
      | cons fourth rest =>
        rw [given.2.1] at short
        simp only [length_cons] at short
        omega

end

theorem chains_around (origin : Point) (parts) (chains : List (List Point))
    (traced : List.Forall₂ TracedBy parts chains) (closed : ∀ chain ∈ chains, Closes chain) :
    (chains.countP (pointInRing origin)) % 2 =
      crossings origin (parts.flatten.map Prod.fst) % 2 := by
  induction traced with
  | nil => rfl
  | cons here rest ih =>
    rename_i part chain parts chains
    have later := ih fun other member => closed other (mem_cons_of_mem chain member)
    have inChain := point_in_chain (closed chain mem_cons_self) origin
    unfold TracedBy at here
    rw [here] at inChain
    unfold crossings at later inChain ⊢
    rw [countP_cons, flatten_cons, map_append, countP_append]
    split
    · rename_i contained
      rw [contained] at inChain
      have odd := inChain.mp rfl
      omega
    · rename_i outside
      have even := mt inChain.mpr outside
      omega

def keptChains {Key : Type*} [DecidableEq Key] (key : Point → Key) (segments : List Segment) :
    List (List Point) :=
  (traceChains key segments).chains.filter fun chain => 4 ≤ chain.length

theorem value_in_lattice {field lattice} {column row : Nat} (inColumns : column < lattice.nx)
    (inRows : row < lattice.ny) {value} (stored : field[row * lattice.nx + column]? = some value) :
    valueAt field lattice column row = value := by
  have place : ((row : Int) * lattice.nx + column).toNat = row * lattice.nx + column := by
    have cast : (row : Int) * lattice.nx + column = ((row * lattice.nx + column : Nat) : Int) := by
      push_cast
      rfl
    rw [cast, Int.toNat_natCast]
  unfold valueAt
  rw [if_neg (by omega), place, stored]
  rfl

/-- The segments are balanced, the chains close by themselves and use every segment once,
the rings are the chains of positive length, and they enclose a point off the threshold an
odd number of times if and only if it is inside. -/
theorem contours_complete {Key : Type*} [DecidableEq Key] (key : Point → Key)
    (injective : Function.Injective key) (field : List (Option ℚ)) (lattice : IsochroneLattice)
    (threshold : ℚ) (sized : field.length = lattice.nx * lattice.ny) :
    (∀ point, ((contourSegments field lattice threshold).countP fun segment => segment.1 = point) =
      (contourSegments field lattice threshold).countP fun segment => segment.2 = point) ∧
    (∃ parts, parts.flatten.Perm (contourSegments field lattice threshold).zipIdx ∧
      List.Forall₂ TracedBy parts
        (traceChains key (contourSegments field lattice threshold)).chains) ∧
    (∀ chain ∈ (traceChains key (contourSegments field lattice threshold)).chains,
      Closes chain ∧ (chain.length < 4 → signedArea chain = 0)) ∧
    traceContourRings key field lattice threshold =
      .ok (keptChains key (contourSegments field lattice threshold)) ∧
    ∀ rings, traceContourRings key field lattice threshold = .ok rings →
      ∀ column row value, column < lattice.nx → row < lattice.ny →
        field[row * lattice.nx + column]? = some value → value ≠ some threshold →
          (Odd (rings.countP (pointInRing (latticePoint lattice column row))) ↔
            inside value threshold = true) := by
  have still : ∀ potential, flow (contourSegments field lattice threshold) potential = 0 :=
    contour_flow
  have traced := traced_chains injective still
  have rings : traceContourRings key field lattice threshold =
      .ok (keptChains key (contourSegments field lattice threshold)) := by
    unfold traceContourRings stitchRings keptChains
    rw [if_neg (not_not.mpr sized), rings_are_chains _ traced.2]
  refine ⟨contour_balanced, traced.1, ?_, rings, ?_⟩
  · intro chain member
    have closes := traced.2 chain member
    exact ⟨closes, short_chain_flat closes⟩
  · intro result returned column row value inColumns inRows stored apart
    rw [rings] at returned
    cases returned
    have known := value_in_lattice inColumns inRows stored
    obtain ⟨parts, split⟩ := traced.1
    have around := chains_around (latticePoint lattice column row) parts _ split.2 traced.2
    have kept : (keptChains key (contourSegments field lattice threshold)).countP
          (pointInRing (latticePoint lattice column row)) =
        (traceChains key (contourSegments field lattice threshold)).chains.countP
          (pointInRing (latticePoint lattice column row)) := by
      unfold keptChains
      rw [countP_filter]
      apply countP_congr
      intro chain member
      by_cases short : chain.length < 4
      · rw [short_chain_outside (traced.2 chain member) short]
        simp
      · simp
        omega
    have segments : crossings (latticePoint lattice column row) (parts.flatten.map Prod.fst) =
        crossings (latticePoint lattice column row) (contourSegments field lattice threshold) := by
      have all := split.1.map Prod.fst
      rw [zipIdx_map_fst] at all
      exact all.countP_eq _
    have off : valueAt field lattice column row ≠ some threshold := by
      rw [known]
      exact apart
    have parity := contour_crossings ⟨by omega, by omega⟩ ⟨by omega, by omega⟩ off
    unfold Int.ModEq level at parity
    rw [known] at parity
    rw [kept, Nat.odd_iff, around, segments]
    generalize inside value threshold = side at parity ⊢
    cases side with
    | true =>
      rw [if_pos rfl] at parity
      simp only [iff_true]
      omega
    | false =>
      rw [if_neg Bool.false_ne_true] at parity
      simp only [Bool.false_eq_true, iff_false]
      omega

def twoPoints : IsochroneLattice :=
  { originX := 0, originY := 0, spacing := 100, nx := 2, ny := 1, spacing_pos := by norm_num }

theorem reachable_point_enclosed :
    Odd ((keptChains id (contourSegments [some 100, none] twoPoints 600)).countP
      (pointInRing (latticePoint twoPoints 0 0))) ∧
    ¬ Odd ((keptChains id (contourSegments [some 100, none] twoPoints 600)).countP
      (pointInRing (latticePoint twoPoints 1 0))) := by
  have complete := contours_complete id Function.injective_id [some 100, none] twoPoints 600 rfl
  have rings := complete.2.2.2.1
  constructor
  · exact (complete.2.2.2.2 _ rings 0 0 (some 100) (by decide) (by decide) rfl
      (by decide +kernel)).mpr (by decide +kernel)
  · intro odd
    exact absurd ((complete.2.2.2.2 _ rings 1 0 none (by decide) (by decide) rfl
      (by decide +kernel)).mp odd) (by decide +kernel)

end OpenMapX.Isochrone.Enclosure
