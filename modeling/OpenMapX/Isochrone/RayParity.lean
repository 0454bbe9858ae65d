import OpenMapX.Isochrone.ContourBalance
import OpenMapX.Isochrone.RingStitching

/-!
# Rays along a lattice row

A ray to the east from a lattice point runs along a row of the lattice. Only the cells
above the row have segments that leave it, and of these it counts the end on the row. Up
to parity this is the flow of the points on the row to the east, which the insideness
along the row cancels down to that of the point itself.
-/

namespace OpenMapX.Isochrone.RayParity

open Foundation.DirectedTrails MarchingSquares ContourBalance RingStitching List

theorem fraction_bounds (a b : Option ℚ) (threshold : ℚ) :
    0 ≤ crossingFraction a b threshold ∧ crossingFraction a b threshold ≤ 1 := by
  unfold crossingFraction
  split
  · dsimp only
    split
    · norm_num
    · exact ⟨le_min zero_le_one (le_max_left _ _), min_le_left _ _⟩
  · norm_num

theorem fraction_pos {a b} {threshold : ℚ} (crossed : inside a threshold ≠ inside b threshold)
    (apart : a ≠ some threshold) : 0 < crossingFraction a b threshold := by
  unfold crossingFraction
  split
  · rename_i a b
    dsimp only
    have apart' : a ≠ threshold := fun same => apart (congrArg some same)
    unfold inside at crossed
    dsimp only at crossed
    split
    · norm_num
    · rename_i span
      apply lt_min zero_lt_one
      apply lt_max_of_lt_right
      rcases lt_or_gt_of_ne apart' with below | above
      · have above : threshold < b := by
          by_contra low
          rw [decide_eq_true below.le, decide_eq_true (not_lt.mp low)] at crossed
          exact crossed rfl
        exact div_pos (by linarith) (by linarith)
      · have below : b ≤ threshold := by
          by_contra high
          rw [decide_eq_false (not_le.mpr above), decide_eq_false high] at crossed
          exact crossed rfl
        exact div_pos_of_neg_of_neg (by linarith) (by linarith)
  · norm_num

section

variable {field : List (Option ℚ)} {lattice : IsochroneLattice} {threshold : ℚ}

theorem point_x_succ (column : Int) :
    pointX lattice (column + 1) = pointX lattice column + lattice.spacing := by
  unfold pointX
  push_cast
  ring

theorem point_y_succ (row : Int) :
    pointY lattice (row + 1) = pointY lattice row + lattice.spacing := by
  unfold pointY
  push_cast
  ring

theorem point_x_mono {column other : Int} (order : column ≤ other) :
    pointX lattice column ≤ pointX lattice other := by
  unfold pointX
  have cast : (column : ℚ) ≤ other := Int.cast_le.mpr order
  have scaled := mul_le_mul_of_nonneg_right cast lattice.spacing_pos.le
  linarith

theorem point_x_lt {column other : Int} (order : column < other) :
    pointX lattice column < pointX lattice other := by
  unfold pointX
  have cast : (column : ℚ) < other := Int.cast_lt.mpr order
  have scaled := mul_lt_mul_of_pos_right cast lattice.spacing_pos
  linarith

theorem point_y_mono {row other : Int} (order : row ≤ other) :
    pointY lattice row ≤ pointY lattice other := by
  unfold pointY
  have cast : (row : ℚ) ≤ other := Int.cast_le.mpr order
  have scaled := mul_le_mul_of_nonneg_right cast lattice.spacing_pos.le
  linarith

theorem point_y_lt {row other : Int} (order : row < other) :
    pointY lattice row < pointY lattice other := by
  unfold pointY
  have cast : (row : ℚ) < other := Int.cast_lt.mpr order
  have scaled := mul_lt_mul_of_pos_right cast lattice.spacing_pos
  linarith

def CrossesBottom (field : List (Option ℚ)) (lattice : IsochroneLattice) (threshold : ℚ)
    (column row : Int) : Prop :=
  inside (valueAt field lattice column row) threshold ≠
    inside (valueAt field lattice (column + 1) row) threshold

def CrossesLeft (field : List (Option ℚ)) (lattice : IsochroneLattice) (threshold : ℚ)
    (column row : Int) : Prop :=
  inside (valueAt field lattice column row) threshold ≠
    inside (valueAt field lattice column (row + 1)) threshold

inductive OnSide (field : List (Option ℚ)) (lattice : IsochroneLattice) (threshold : ℚ)
    (column row : Int) : Point → Prop where
  | bottom (crossed : CrossesBottom field lattice threshold column row) :
      OnSide field lattice threshold column row (bottom field lattice threshold column row)
  | top (crossed : CrossesBottom field lattice threshold column (row + 1)) :
      OnSide field lattice threshold column row (top field lattice threshold column row)
  | left (crossed : CrossesLeft field lattice threshold column row) :
      OnSide field lattice threshold column row (left field lattice threshold column row)
  | right (crossed : CrossesLeft field lattice threshold (column + 1) row) :
      OnSide field lattice threshold column row (right field lattice threshold column row)

theorem segment_on_sides {column row : Int} {segment : Segment}
    (member : segment ∈ cellSegments field lattice threshold column row) :
    OnSide field lattice threshold column row segment.1 ∧
      OnSide field lattice threshold column row segment.2 := by
  have onBottom := @OnSide.bottom field lattice threshold column row
  have onTop := @OnSide.top field lattice threshold column row
  have onLeft := @OnSide.left field lattice threshold column row
  have onRight := @OnSide.right field lattice threshold column row
  unfold CrossesBottom at onBottom onTop
  unfold CrossesLeft at onLeft onRight
  suffices all : ∀ segment ∈ cellSegments field lattice threshold column row,
      OnSide field lattice threshold column row segment.1 ∧
        OnSide field lattice threshold column row segment.2 from all segment member
  -- the sixteen cases, with both ways through a saddle
  unfold cellSegments
  dsimp only
  generalize OnSide field lattice threshold column row = side at *
  generalize bottom field lattice threshold column row = bottom at *
  generalize top field lattice threshold column row = top at *
  generalize left field lattice threshold column row = left at *
  generalize right field lattice threshold column row = right at *
  generalize saddleJoined threshold _ _ _ _ = joined
  clear member
  generalize inside (valueAt field lattice column row) threshold = sw at *
  generalize inside (valueAt field lattice (column + 1) row) threshold = se at *
  generalize inside (valueAt field lattice (column + 1) (row + 1)) threshold = ne at *
  generalize inside (valueAt field lattice column (row + 1)) threshold = nw at *
  cases sw <;> cases se <;> cases ne <;> cases nw <;> cases joined <;>
    simp [onBottom, onTop, onLeft, onRight]

section

variable {column row : Int} {point : Point} (side : OnSide field lattice threshold column row point)
include side

theorem side_height : pointY lattice row ≤ point.2 ∧ point.2 ≤ pointY lattice (row + 1) := by
  have spacing := lattice.spacing_pos
  have upper : pointY lattice row ≤ pointY lattice (row + 1) := point_y_mono (by omega)
  have within : ∀ a b : Option ℚ, pointY lattice row ≤
        pointY lattice row + crossingFraction a b threshold * lattice.spacing ∧
      pointY lattice row + crossingFraction a b threshold * lattice.spacing ≤
        pointY lattice (row + 1) := by
    intro a b
    have bounds := fraction_bounds a b threshold
    rw [point_y_succ]
    have low := mul_nonneg bounds.1 spacing.le
    have high := mul_le_mul_of_nonneg_right bounds.2 spacing.le
    constructor
    · linarith
    · linarith
  cases side with
  | bottom crossed => exact ⟨le_rfl, upper⟩
  | top crossed => exact ⟨upper, le_rfl⟩
  | left crossed => exact within _ _
  | right crossed => exact within _ _

theorem side_breadth : pointX lattice column ≤ point.1 ∧ point.1 ≤ pointX lattice (column + 1) := by
  have spacing := lattice.spacing_pos
  have eastern : pointX lattice column ≤ pointX lattice (column + 1) := point_x_mono (by omega)
  have within : ∀ a b : Option ℚ, pointX lattice column ≤
        pointX lattice column + crossingFraction a b threshold * lattice.spacing ∧
      pointX lattice column + crossingFraction a b threshold * lattice.spacing ≤
        pointX lattice (column + 1) := by
    intro a b
    have bounds := fraction_bounds a b threshold
    rw [point_x_succ]
    have low := mul_nonneg bounds.1 spacing.le
    have high := mul_le_mul_of_nonneg_right bounds.2 spacing.le
    constructor
    · linarith
    · linarith
  cases side with
  | bottom crossed => exact within _ _
  | top crossed => exact within _ _
  | left crossed => exact ⟨le_rfl, eastern⟩
  | right crossed => exact ⟨eastern, le_rfl⟩

end

end

section

variable {field : List (Option ℚ)} {lattice : IsochroneLattice} {threshold : ℚ}
variable {column row : Int}

def latticePoint (lattice : IsochroneLattice) (column row : Int) : Point :=
  (pointX lattice column, pointY lattice row)

def eastward (origin : Point) : Point → ℤ :=
  fun point => if point.2 = origin.2 ∧ origin.1 < point.1 then 1 else 0

def crossings (origin : Point) (edges : List Segment) : Nat :=
  edges.countP fun edge => crossesRay origin edge.2 edge.1

theorem side_east {other : Int} (apart : valueAt field lattice column row ≠ some threshold)
    (order : column ≤ other) {point : Point} (side : OnSide field lattice threshold other row point)
    (low : point.2 = pointY lattice row) : pointX lattice column < point.1 := by
  have spacing := lattice.spacing_pos
  cases side with
  | bottom crossed =>
    rcases lt_or_eq_of_le order with before | same
    · have bounds := side_breadth (.bottom crossed)
      exact (point_x_lt before).trans_le bounds.1
    · rw [same] at apart
      have positive := mul_pos (fraction_pos crossed apart) spacing
      unfold MarchingSquares.bottom
      dsimp only
      rw [same]
      linarith
  | top crossed =>
    have higher : pointY lattice row < pointY lattice (row + 1) := point_y_lt (by omega)
    unfold MarchingSquares.top at low
    dsimp only at low
    linarith
  | left crossed =>
    rcases lt_or_eq_of_le order with before | same
    · exact point_x_lt before
    · rw [same] at apart
      have positive := mul_pos (fraction_pos crossed apart) spacing
      unfold MarchingSquares.left at low
      dsimp only at low
      linarith
  | right crossed => exact point_x_lt (by omega)

theorem side_west {other : Int} (order : other < column) {point : Point}
    (side : OnSide field lattice threshold other row point) : point.1 ≤ pointX lattice column := by
  have bounds := side_breadth side
  exact bounds.2.trans (point_x_mono (by omega))

theorem crosses_above {origin i j : Point} (above : origin.2 ≤ i.2) (above' : origin.2 ≤ j.2)
    (together : i.2 = origin.2 → j.2 = origin.2 → (origin.1 < i.1 ↔ origin.1 < j.1)) :
    (if crossesRay origin i j then (1 : ℤ) else 0) ≡ eastward origin j - eastward origin i
      [ZMOD 2] := by
  unfold crossesRay eastward
  by_cases lowI : i.2 = origin.2
  · by_cases lowJ : j.2 = origin.2
    · have same := together lowI lowJ
      simp only [lowI, lowJ, true_and, same, sub_self, lt_irrefl, decide_false, bne_self_eq_false,
        Bool.false_and, Bool.false_eq_true, if_false]
      exact Int.ModEq.refl 0
    · have higher : origin.2 < j.2 := lt_of_le_of_ne above' (Ne.symm lowJ)
      simp only [lowI, lowJ, higher, lt_irrefl, decide_false, decide_true, false_and, true_and,
        if_false, sub_self, mul_zero, zero_div, zero_add, Bool.true_and,
        decide_eq_true_eq, zero_sub, Bool.false_bne]
      split
      · decide
      · decide
  · have higher : origin.2 < i.2 := lt_of_le_of_ne above (Ne.symm lowI)
    by_cases lowJ : j.2 = origin.2
    · have ratio : (j.1 - i.1) * (origin.2 - i.2) / (origin.2 - i.2) + i.1 = j.1 := by
        rw [mul_div_assoc, div_self (sub_ne_zero.mpr higher.ne), mul_one]
        ring
      simp only [lowI, lowJ, higher, lt_irrefl, decide_false, decide_true, false_and, true_and,
        if_false, ratio, Bool.bne_false, Bool.true_and, decide_eq_true_eq, sub_zero]
      exact Int.ModEq.refl _
    · have higher' : origin.2 < j.2 := lt_of_le_of_ne above' (Ne.symm lowJ)
      simp only [lowI, lowJ, higher, higher', decide_true, false_and, if_false,
        bne_self_eq_false, Bool.false_and, Bool.false_eq_true, sub_self]
      exact Int.ModEq.refl 0

theorem crossings_cons (origin : Point) (edge : Segment) (edges : List Segment) :
    (crossings origin (edge :: edges) : ℤ) =
      crossings origin edges + if crossesRay origin edge.2 edge.1 then 1 else 0 := by
  unfold crossings
  rw [countP_cons]
  push_cast
  rfl

theorem crossings_above {origin : Point} (edges : List Segment)
    (above : ∀ edge ∈ edges, origin.2 ≤ edge.1.2 ∧ origin.2 ≤ edge.2.2 ∧
      (edge.2.2 = origin.2 → edge.1.2 = origin.2 → (origin.1 < edge.2.1 ↔ origin.1 < edge.1.1))) :
    (crossings origin edges : ℤ) ≡ flow edges (eastward origin) [ZMOD 2] := by
  induction edges with
  | nil => exact Int.ModEq.refl 0
  | cons edge edges ih =>
    have here := above edge mem_cons_self
    have rest := ih fun other member => above other (mem_cons_of_mem edge member)
    rw [crossings_cons, flow_cons, add_comm]
    exact (crosses_above here.2.1 here.1 here.2.2).add rest

theorem row_crossings (apart : valueAt field lattice column row ≠ some threshold) :
    (crossings (latticePoint lattice column row) (rowSegments field lattice threshold row) : ℤ) ≡
      flow (rowSegments field lattice threshold row) (eastward (latticePoint lattice column row))
        [ZMOD 2] := by
  apply crossings_above
  intro segment member
  unfold rowSegments at member
  rw [mem_flatMap] at member
  obtain ⟨other, given⟩ := member
  have sides := segment_on_sides given.2
  apply And.intro (side_height sides.1).1
  apply And.intro (side_height sides.2).1
  intro lowEnd lowStart
  by_cases order : column ≤ other
  · exact iff_of_true (side_east apart order sides.2 lowEnd)
      (side_east apart order sides.1 lowStart)
  · have west : other < column := not_le.mp order
    exact iff_of_false (not_lt.mpr (side_west west sides.2)) (not_lt.mpr (side_west west sides.1))

theorem other_row_crossings {other : Int} (apart : other ≠ row) :
    crossings (latticePoint lattice column row) (rowSegments field lattice threshold other) = 0 := by
  unfold crossings
  rw [countP_eq_zero]
  intro segment member
  unfold rowSegments at member
  rw [mem_flatMap] at member
  obtain ⟨otherColumn, given⟩ := member
  have sides := segment_on_sides given.2
  have start := side_height sides.1
  have stop := side_height sides.2
  unfold crossesRay latticePoint
  dsimp only
  rcases lt_or_gt_of_ne apart with below | above
  · have under : pointY lattice (other + 1) ≤ pointY lattice row := point_y_mono (by omega)
    rw [decide_eq_false (not_lt.mpr (stop.2.trans under)),
      decide_eq_false (not_lt.mpr (start.2.trans under))]
    simp
  · have higher : pointY lattice row < pointY lattice other := point_y_lt above
    rw [decide_eq_true (higher.trans_le stop.1), decide_eq_true (higher.trans_le start.1)]
    simp

theorem across_eastward (apart : valueAt field lattice column row ≠ some threshold) (other : Int) :
    across field lattice threshold (eastward (latticePoint lattice column row)) other row =
      if column ≤ other then
        level field lattice threshold (other + 1) row - level field lattice threshold other row
      else 0 := by
  unfold across
  by_cases crossed : CrossesBottom field lattice threshold other row
  · split
    · rename_i order
      have east := side_east apart order (.bottom crossed) rfl
      have one : eastward (latticePoint lattice column row)
          (bottom field lattice threshold other row) = 1 := if_pos ⟨rfl, east⟩
      rw [one, mul_one]
    · rename_i order
      have west := side_west (not_le.mp order) (.bottom crossed)
      have zero : eastward (latticePoint lattice column row)
          (bottom field lattice threshold other row) = 0 :=
        if_neg (fun both => not_lt.mpr west both.2)
      rw [zero, mul_zero]
  · have same : level field lattice threshold (other + 1) row =
        level field lattice threshold other row := by
      unfold level
      unfold CrossesBottom at crossed
      rw [not_not.mp crossed]
    rw [same, sub_self, zero_mul, ite_self]

theorem row_level (inLattice : 0 ≤ column ∧ column < lattice.nx)
    (apart : valueAt field lattice column row ≠ some threshold) :
    flow (rowSegments field lattice threshold row) (eastward (latticePoint lattice column row)) =
      -level field lattice threshold column row := by
  have upper : ((cellIndices lattice.nx).map fun other => across field lattice threshold
      (eastward (latticePoint lattice column row)) other (row + 1)).sum = 0 := by
    have higher : pointY lattice row < pointY lattice (row + 1) := point_y_lt (by omega)
    apply sum_eq_zero
    intro value member
    rw [mem_map] at member
    obtain ⟨other, given⟩ := member
    rw [← given.2]
    unfold across eastward
    rw [if_neg (fun both => higher.ne' both.1), mul_zero]
  have lower : ∀ other, across field lattice threshold
      (eastward (latticePoint lattice column row)) other row =
        (if column ≤ other + 1 then level field lattice threshold (other + 1) row
          else level field lattice threshold column row) -
        (if column ≤ other then level field lattice threshold other row
          else level field lattice threshold column row) := by
    intro other
    rw [across_eastward apart]
    by_cases order : column ≤ other
    · rw [if_pos order, if_pos (by omega), if_pos order]
    · rw [if_neg order, if_neg order]
      split
      · have next : other + 1 = column := by omega
        rw [next, sub_self]
      · rw [sub_self]
  rw [row_flow, upper, sub_zero]
  simp only [lower]
  rw [sum_cell_indices lattice.nx fun other => if column ≤ other then
    level field lattice threshold other row else level field lattice threshold column row]
  rw [if_pos (by omega), if_neg (by omega), level_east, zero_sub]

theorem contour_crossings (inColumns : 0 ≤ column ∧ column < lattice.nx)
    (inRows : 0 ≤ row ∧ row < lattice.ny)
    (apart : valueAt field lattice column row ≠ some threshold) :
    (crossings (latticePoint lattice column row) (contourSegments field lattice threshold) : ℤ) ≡
      level field lattice threshold column row [ZMOD 2] := by
  have rows : crossings (latticePoint lattice column row)
        (contourSegments field lattice threshold) =
      crossings (latticePoint lattice column row) (rowSegments field lattice threshold row) := by
    have count : (cellIndices lattice.ny).count row = 1 := by
      unfold cellIndices
      apply count_eq_one_of_mem
      · apply List.Nodup.map _ nodup_range
        intro first second same
        dsimp only at same
        omega
      · rw [mem_map]
        apply Exists.intro (row + 1).toNat
        rw [mem_range]
        omega
    unfold crossings contourSegments
    rw [countP_flatMap, sum_map_eq_nsmul_single row, count, one_nsmul]
    · rfl
    · intro other apart' _
      exact other_row_crossings apart'
  rw [rows]
  apply (row_crossings apart).trans
  rw [row_level inColumns apart]
  unfold Int.ModEq
  omega

end

end OpenMapX.Isochrone.RayParity
