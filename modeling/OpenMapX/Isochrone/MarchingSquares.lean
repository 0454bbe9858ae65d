import Mathlib.Data.Rat.Floor

/-!
# Contours of a travel-time field

The cells of a lattice with a border of unreachable points each emit directed segments,
which are stitched into rings. The key of a point is a parameter. Corners and columns are
integers, because the cells begin one column and one row before the lattice.
-/

namespace OpenMapX.Isochrone.MarchingSquares

abbrev Point := ℚ × ℚ
abbrev Segment := Point × Point

structure IsochroneLattice where
  originX : ℚ
  originY : ℚ
  spacing : ℚ
  nx : Nat
  ny : Nat
  spacing_pos : 0 < spacing

def inside (value : Option ℚ) (threshold : ℚ) : Bool :=
  match value with
  | none => false
  | some value => decide (value ≤ threshold)

def crossingFraction (a b : Option ℚ) (threshold : ℚ) : ℚ :=
  match a, b with
  | some a, some b =>
    let span := b - a
    if span = 0 then 1 / 2 else min 1 (max 0 ((threshold - a) / span))
  | _, _ => 1 / 2

section

variable (field : List (Option ℚ)) (lattice : IsochroneLattice) (threshold : ℚ)
variable (column row : Int)

def valueAt : Option ℚ :=
  if column < 0 ∨ lattice.nx ≤ column ∨ row < 0 ∨ lattice.ny ≤ row then none
  else (field[(row * lattice.nx + column).toNat]?).join

def pointX : ℚ := lattice.originX + column * lattice.spacing
def pointY : ℚ := lattice.originY + row * lattice.spacing

def bottom : Point :=
  (pointX lattice column +
    crossingFraction (valueAt field lattice column row) (valueAt field lattice (column + 1) row)
      threshold * lattice.spacing,
    pointY lattice row)

def right : Point :=
  (pointX lattice (column + 1),
    pointY lattice row +
      crossingFraction (valueAt field lattice (column + 1) row)
        (valueAt field lattice (column + 1) (row + 1)) threshold * lattice.spacing)

def top : Point :=
  (pointX lattice column +
    crossingFraction (valueAt field lattice column (row + 1))
      (valueAt field lattice (column + 1) (row + 1)) threshold * lattice.spacing,
    pointY lattice (row + 1))

def left : Point :=
  (pointX lattice column,
    pointY lattice row +
      crossingFraction (valueAt field lattice column row)
        (valueAt field lattice column (row + 1)) threshold * lattice.spacing)

/-- A saddle is joined if the mean of its corners is inside, and never if one of them is
unreachable. -/
def saddleJoined (sw se ne nw : Option ℚ) : Bool :=
  match sw, se, ne, nw with
  | some sw, some se, some ne, some nw => decide ((sw + se + ne + nw) / 4 ≤ threshold)
  | _, _, _, _ => false

def cellSegments : List Segment :=
  let sw := valueAt field lattice column row
  let se := valueAt field lattice (column + 1) row
  let ne := valueAt field lattice (column + 1) (row + 1)
  let nw := valueAt field lattice column (row + 1)
  let bottom := bottom field lattice threshold column row
  let right := right field lattice threshold column row
  let top := top field lattice threshold column row
  let left := left field lattice threshold column row
  let code := (if inside sw threshold then 1 else 0) + (if inside se threshold then 2 else 0) +
    (if inside ne threshold then 4 else 0) + (if inside nw threshold then 8 else 0)
  match code with
  | 1 => [(left, bottom)]
  | 14 => [(bottom, left)]
  | 2 => [(bottom, right)]
  | 13 => [(right, bottom)]
  | 3 => [(left, right)]
  | 12 => [(right, left)]
  | 4 => [(right, top)]
  | 11 => [(top, right)]
  | 6 => [(bottom, top)]
  | 9 => [(top, bottom)]
  | 7 => [(left, top)]
  | 8 => [(top, left)]
  | 5 => if saddleJoined threshold sw se ne nw then [(right, bottom), (left, top)]
    else [(left, bottom), (right, top)]
  | 10 => if saddleJoined threshold sw se ne nw then [(bottom, left), (top, right)]
    else [(bottom, right), (top, left)]
  | _ => []

def cellIndices (count : Nat) : List Int :=
  (List.range (count + 1)).map fun index : Nat => (index : Int) - 1

def rowSegments : List Segment :=
  (cellIndices lattice.nx).flatMap fun column => cellSegments field lattice threshold column row

def contourSegments : List Segment :=
  (cellIndices lattice.ny).flatMap fun row => rowSegments field lattice threshold row

end

section

variable {Key : Type*} [DecidableEq Key] (key : Point → Key) (segments : List Segment)

def startsAt (point : Point) : List (Segment × Nat) :=
  segments.zipIdx.filter fun candidate => key candidate.1.1 = key point

def firstPoint (ring : List Point) : Point := ring.headD (0, 0)
def lastPoint (ring : List Point) : Point := ring.getLastD (0, 0)

def follow : Nat → List Point → List Nat → List Point × List Nat
  | 0, ring, used => (ring, used)
  | guard + 1, ring, used =>
    let tail := lastPoint ring
    if key tail = key (firstPoint ring) ∧ 2 < ring.length then (ring, used)
    else
      match (startsAt key segments tail).find? fun candidate => candidate.2 ∉ used with
      | none => (ring, used)
      | some next => follow guard (ring ++ [next.1.2]) (used ++ [next.2])

structure Stitching where
  used : List Nat
  chains : List (List Point)

def traceChain (state : Stitching) (segment : Segment × Nat) : Stitching :=
  if segment.2 ∈ state.used then state
  else
    let walked := follow key segments (segments.length + 1) [segment.1.1, segment.1.2]
      (state.used ++ [segment.2])
    { used := walked.2, chains := state.chains ++ [walked.1] }

def traceChains : Stitching :=
  segments.zipIdx.foldl (traceChain key segments) { used := [], chains := [] }

def finishRing (spacing : ℚ) (ring : List Point) : Option (List Point) :=
  if ring.length < 4 then none
  else if key (firstPoint ring) ≠ key (lastPoint ring) then
    let dx := (firstPoint ring).1 - (lastPoint ring).1
    let dy := (firstPoint ring).2 - (lastPoint ring).2
    if (spacing * 4) ^ 2 < dx ^ 2 + dy ^ 2 then none else some (ring ++ [firstPoint ring])
  else some ring

def stitchRings (spacing : ℚ) : List (List Point) :=
  (traceChains key segments).chains.filterMap (finishRing key spacing)

end

def traceContourRings {Key : Type*} [DecidableEq Key] (key : Point → Key)
    (field : List (Option ℚ)) (lattice : IsochroneLattice) (threshold : ℚ) :
    Except String (List (List Point)) :=
  if field.length ≠ lattice.nx * lattice.ny then
    .error s!"field length {field.length} does not match lattice {lattice.nx}x{lattice.ny}"
  else .ok (stitchRings key (contourSegments field lattice threshold) lattice.spacing)

def signedArea (ring : List Point) : ℚ :=
  ((ring.zip ring.tail).map fun edge => edge.1.1 * edge.2.2 - edge.2.1 * edge.1.2).sum / 2

def crossesRay (point i j : Point) : Bool :=
  (decide (point.2 < i.2) != decide (point.2 < j.2)) &&
    decide (point.1 < (j.1 - i.1) * (point.2 - i.2) / (j.2 - i.2) + i.1)

def pointInRing (point : Point) (ring : List Point) : Bool :=
  (ring.dropLast.foldl (fun (state : Bool × Point) current =>
    (if crossesRay point current state.2 then !state.1 else state.1, current))
    (false, lastPoint ring.dropLast)).1

end OpenMapX.Isochrone.MarchingSquares
