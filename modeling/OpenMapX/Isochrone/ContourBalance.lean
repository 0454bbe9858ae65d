import OpenMapX.Foundation.DirectedTrails
import OpenMapX.Isochrone.MarchingSquares

/-!
# The segments of all cells are balanced

What a cell's segments lose of a potential is a sum over its four sides, each weighted by
the change of insideness along it. A side is shared with a neighbour that counts it with
the other sign, so that over rows and columns everything cancels up to the border, where
nothing is inside.
-/

namespace OpenMapX.Isochrone.ContourBalance

open Foundation.DirectedTrails MarchingSquares List

variable {field : List (Option ℚ)} {lattice : IsochroneLattice} {threshold : ℚ}

def level (field : List (Option ℚ)) (lattice : IsochroneLattice) (threshold : ℚ)
    (column row : Int) : ℤ :=
  if inside (valueAt field lattice column row) threshold then 1 else 0

theorem level_west (row : Int) : level field lattice threshold (-1) row = 0 := by
  unfold level valueAt
  rw [if_pos (Or.inl (by decide))]
  rfl

theorem level_east (row : Int) : level field lattice threshold lattice.nx row = 0 := by
  unfold level valueAt
  rw [if_pos (Or.inr (Or.inl le_rfl))]
  rfl

theorem level_south (column : Int) : level field lattice threshold column (-1) = 0 := by
  unfold level valueAt
  rw [if_pos (Or.inr (Or.inr (Or.inl (by decide))))]
  rfl

theorem level_north (column : Int) : level field lattice threshold column lattice.ny = 0 := by
  unfold level valueAt
  rw [if_pos (Or.inr (Or.inr (Or.inr le_rfl)))]
  rfl

def across (field : List (Option ℚ)) (lattice : IsochroneLattice) (threshold : ℚ)
    (potential : Point → ℤ) (column row : Int) : ℤ :=
  (level field lattice threshold (column + 1) row - level field lattice threshold column row) *
    potential (bottom field lattice threshold column row)

def along (field : List (Option ℚ)) (lattice : IsochroneLattice) (threshold : ℚ)
    (potential : Point → ℤ) (column row : Int) : ℤ :=
  (level field lattice threshold column (row + 1) - level field lattice threshold column row) *
    potential (left field lattice threshold column row)

theorem top_is_bottom (column row : Int) :
    top field lattice threshold column row = bottom field lattice threshold column (row + 1) := rfl

theorem right_is_left (column row : Int) :
    right field lattice threshold column row = left field lattice threshold (column + 1) row := rfl

variable (potential : Point → ℤ)

theorem cell_flow (column row : Int) :
    flow (cellSegments field lattice threshold column row) potential =
      across field lattice threshold potential column row -
        across field lattice threshold potential column (row + 1) +
        (along field lattice threshold potential (column + 1) row -
          along field lattice threshold potential column row) := by
  unfold cellSegments across along level
  rw [← top_is_bottom, ← right_is_left]
  dsimp only
  generalize saddleJoined threshold _ _ _ _ = joined
  cases inside (valueAt field lattice column row) threshold <;>
    cases inside (valueAt field lattice (column + 1) row) threshold <;>
      cases inside (valueAt field lattice (column + 1) (row + 1)) threshold <;>
        cases inside (valueAt field lattice column (row + 1)) threshold <;>
          cases joined <;> simp <;> ring

theorem sum_cell_indices (count : Nat) (value : Int → ℤ) :
    ((cellIndices count).map fun index => value (index + 1) - value index).sum =
      value count - value (-1) := by
  unfold cellIndices
  rw [map_map]
  induction count with
  | zero => simp
  | succ count ih =>
    rw [range_succ, map_append, sum_append, ih]
    simp

section

variable {Item : Type*} (items : List Item) (first second : Item → ℤ)

theorem sum_map_add : (items.map fun item => first item + second item).sum =
      (items.map first).sum + (items.map second).sum := by
  induction items with
  | nil => rfl
  | cons item items ih =>
    rw [map_cons, sum_cons, ih, map_cons, sum_cons, map_cons,
      sum_cons]
    ring

theorem sum_map_sub : (items.map fun item => first item - second item).sum =
      (items.map first).sum - (items.map second).sum := by
  have whole := sum_map_add items (fun item => first item - second item) second
  simp only [sub_add_cancel] at whole
  rw [whole]
  ring

end

theorem row_flow (row : Int) : flow (rowSegments field lattice threshold row) potential =
      ((cellIndices lattice.nx).map fun column =>
        across field lattice threshold potential column row).sum -
      ((cellIndices lattice.nx).map fun column =>
        across field lattice threshold potential column (row + 1)).sum := by
  unfold rowSegments
  rw [flow_flat_map]
  simp only [cell_flow]
  rw [sum_map_add, sum_cell_indices _ (fun column => along field lattice threshold potential column row)]
  have west : along field lattice threshold potential (-1) row = 0 := by
    unfold along
    rw [level_west, level_west]
    ring
  have east : along field lattice threshold potential lattice.nx row = 0 := by
    unfold along
    rw [level_east, level_east]
    ring
  rw [west, east]
  rw [sum_map_sub]
  ring

theorem contour_flow : flow (contourSegments field lattice threshold) potential = 0 := by
  unfold contourSegments
  rw [flow_flat_map]
  simp only [row_flow]
  have turned : ∀ row, ((cellIndices lattice.nx).map fun column =>
        across field lattice threshold potential column row).sum -
      ((cellIndices lattice.nx).map fun column =>
        across field lattice threshold potential column (row + 1)).sum =
      -(((cellIndices lattice.nx).map fun column =>
        across field lattice threshold potential column (row + 1)).sum) -
      -((cellIndices lattice.nx).map fun column =>
        across field lattice threshold potential column row).sum := by
    intro row
    ring
  simp only [turned]
  rw [sum_cell_indices _ (fun row => -((cellIndices lattice.nx).map fun column =>
    across field lattice threshold potential column row).sum)]
  have flat : ∀ row, (∀ column, level field lattice threshold column row = 0) →
      ((cellIndices lattice.nx).map fun column =>
        across field lattice threshold potential column row).sum = 0 := by
    intro row outside
    apply sum_eq_zero
    intro value member
    rw [mem_map] at member
    obtain ⟨column, given⟩ := member
    rw [← given.2]
    unfold across
    rw [outside, outside]
    ring
  rw [flat _ level_north, flat _ level_south]
  rfl

theorem contour_balanced (point : Point) :
    ((contourSegments field lattice threshold).countP fun segment => segment.1 = point) =
      (contourSegments field lattice threshold).countP fun segment => segment.2 = point :=
  balanced_of_flow contour_flow point

end OpenMapX.Isochrone.ContourBalance
