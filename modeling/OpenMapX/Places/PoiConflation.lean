import Mathlib
import OpenMapX.Foundation.TextOrder

/-!
# Assignment of candidate pairs

The candidate edges of a conflation are split into the connected components of the
points that they join, and each component is solved by the Hungarian method on a square
matrix. Confidences are rationals. An array of the search is a function of its index,
and each of its loops that tests a condition has fuel.
-/

namespace OpenMapX.Places.PoiConflation

open Foundation.TextOrder List

structure ConflationPoint where
  id : String
  name : String
  lat : ℚ
  lng : ℚ
  category : Option String
  addressKey : Option String
  wikidata : Option String
  phones : Option (List String)
  website : Option String
  deriving DecidableEq

inductive ConflationMethod where
  | wikidata | phone | addressName | addressCategory | website | spatialName | embedding
  deriving DecidableEq

structure ConflationPairScore where
  matchConfidence : ℚ
  method : ConflationMethod
  distanceM : ℚ
  nameSimilarity : ℚ
  categoryCompatible : Bool
  evidence : List String
  deriving DecidableEq

structure ScoredConflationPair where
  a : ConflationPoint
  b : ConflationPoint
  score : ConflationPairScore
  deriving DecidableEq

/-- A loop variable that may be `Number.POSITIVE_INFINITY`, which is `none`. -/
abbrev Extended := Option ℚ

def Extended.less : Extended → Extended → Bool
  | some x, some y => x < y
  | some _, none => true
  | none, _ => false

structure SearchState where
  u : Nat → ℚ
  v : Nat → ℚ
  way : Nat → Nat
  minv : Nat → Extended
  used : Nat → Bool

structure ColumnScan where
  minv : Nat → Extended
  way : Nat → Nat
  delta : Extended
  j1 : Nat

section

variable (size : Nat) (cost : Nat → Nat → ℚ) (p : Nat → Nat)

def scanColumn (state : SearchState) (j0 : Nat) (scan : ColumnScan) (j : Nat) : ColumnScan :=
  if state.used j then scan
  else
    let i0 := p j0
    let current := cost (i0 - 1) (j - 1) - state.u i0 - state.v j
    let improves := Extended.less (some current) (scan.minv j)
    let minv := if improves then Function.update scan.minv j (some current) else scan.minv
    let way := if improves then Function.update scan.way j j0 else scan.way
    if Extended.less (minv j) scan.delta then
      { minv := minv, way := way, delta := minv j, j1 := j }
    else { minv := minv, way := way, delta := scan.delta, j1 := scan.j1 }

def scanColumns (state : SearchState) (j0 : Nat) : ColumnScan :=
  (range' 1 size).foldl (scanColumn cost p state j0)
    { minv := state.minv, way := state.way, delta := none, j1 := 0 }

def shiftColumn (delta : ℚ) (state : SearchState) (j : Nat) : SearchState :=
  if state.used j then
    { state with
      u := Function.update state.u (p j) (state.u (p j) + delta)
      v := Function.update state.v j (state.v j - delta) }
  else { state with minv := Function.update state.minv j ((state.minv j).map (· - delta)) }

def shiftPotentials (delta : ℚ) (state : SearchState) : SearchState :=
  (range (size + 1)).foldl (shiftColumn p delta) state

/-- The first `do` loop, which ends at a free column. Without a column to go on to, the
potentials would become infinite and the loop would not end. -/
def searchColumn : Nat → Nat → SearchState → Option (Nat × SearchState)
  | 0, _, _ => none
  | fuel + 1, j0, state =>
    let state := { state with used := Function.update state.used j0 true }
    let scan := scanColumns size cost p state j0
    match scan.delta with
    | none => none
    | some delta =>
      let state := shiftPotentials size p delta { state with minv := scan.minv, way := scan.way }
      if p scan.j1 ≠ 0 then searchColumn fuel scan.j1 state else some (scan.j1, state)

/-- The second `do` loop, which moves the rows along the path that was found. -/
def augment (way : Nat → Nat) : Nat → (Nat → Nat) → Nat → Option (Nat → Nat)
  | 0, _, _ => none
  | fuel + 1, p, j0 =>
    let j1 := way j0
    let p := Function.update p j0 (p j1)
    if j1 ≠ 0 then augment way fuel p j1 else some p

end

structure Assignment where
  u : Nat → ℚ
  v : Nat → ℚ
  p : Nat → Nat
  way : Nat → Nat

def assignRow (fuel size : Nat) (cost : Nat → Nat → ℚ) (assignment : Assignment) (i : Nat) :
    Option Assignment :=
  let p := Function.update assignment.p 0 i
  let start : SearchState :=
    { u := assignment.u, v := assignment.v, way := assignment.way
      minv := fun _ => none, used := fun _ => false }
  (searchColumn size cost p fuel 0 start).bind fun found =>
    (augment found.2.way fuel p found.1).map fun p =>
      { u := found.2.u, v := found.2.v, p := p, way := found.2.way }

def assignRows (fuel size : Nat) (cost : Nat → Nat → ℚ) : Option Assignment :=
  (range' 1 size).foldlM (assignRow fuel size cost)
    { u := fun _ => 0, v := fun _ => 0, p := fun _ => 0, way := fun _ => 0 }

/-- `[...new Set(ids)].sort()`. -/
def sortedIds (ids : List String) : List String := sortTexts ids.dedup

def pairKey (aId bId : String) : String := aId ++ "\x00" ++ bId

def edgeByPair (edges : List ScoredConflationPair) (key : String) : Option ScoredConflationPair :=
  edges.foldl (fun existing edge =>
    if pairKey edge.a.id edge.b.id = key then
      match existing with
      | none => some edge
      | some kept =>
        if kept.score.matchConfidence < edge.score.matchConfidence then some edge else some kept
    else existing) none

section

variable (edges : List ScoredConflationPair)

def aIdsOf : List String := sortedIds (edges.map (·.a.id))
def bIdsOf : List String := sortedIds (edges.map (·.b.id))
def matrixSize : Nat := Nat.max (aIdsOf edges).length (bIdsOf edges).length

/-- The edge of the `i`-th first point and the `j`-th second point. -/
def edgeAt (i j : Nat) : Option ScoredConflationPair :=
  match (aIdsOf edges)[i]?, (bIdsOf edges)[j]? with
  | some aId, some bId => edgeByPair edges (pairKey aId bId)
  | _, _ => none

def cardinalityBonus : ℚ := matrixSize edges + 1

def weightAt (i j : Nat) : ℚ :=
  match edgeAt edges i j with
  | some edge => cardinalityBonus edges + edge.score.matchConfidence
  | none => 0

def costAt (i j : Nat) : ℚ := cardinalityBonus edges + 1 - weightAt edges i j

def selectedEdges (p : Nat → Nat) : List ScoredConflationPair :=
  (range' 1 (matrixSize edges)).filterMap fun j =>
    if p j = 0 then none else edgeAt edges (p j - 1) (j - 1)

def solveComponent (fuel : Nat) : Option (List ScoredConflationPair) :=
  (assignRows fuel (matrixSize edges) (costAt edges)).map fun assignment =>
    selectedEdges edges assignment.p

end

def aKey (edge : ScoredConflationPair) : String := "a:" ++ edge.a.id
def bKey (edge : ScoredConflationPair) : String := "b:" ++ edge.b.id

/-- What the map `edgesByNode` holds under a node. -/
def edgesOfNode (edges : List ScoredConflationPair) (node : String) : List ScoredConflationPair :=
  edges.filter fun edge => aKey edge = node ∨ bKey edge = node

structure Traversal where
  visited : List String
  componentEdges : List ScoredConflationPair

/-- The edges of a node are added to the component, and its unvisited neighbours go on
top of the stack. -/
def pushNeighbours (visited : List String) (stack : List String)
    (edge : ScoredConflationPair) : List String :=
  let stack := if visited.contains (aKey edge) then stack else aKey edge :: stack
  if visited.contains (bKey edge) then stack else bKey edge :: stack

def addEdge (component : List ScoredConflationPair) (edge : ScoredConflationPair) :
    List ScoredConflationPair :=
  if component.contains edge then component else component ++ [edge]

def exploreComponent (edges : List ScoredConflationPair) :
    Nat → List String → Traversal → Option Traversal
  | _, [], traversal => some traversal
  | 0, _ :: _, _ => none
  | fuel + 1, node :: stack, traversal =>
    if traversal.visited.contains node then exploreComponent edges fuel stack traversal
    else
      let visited := traversal.visited ++ [node]
      let incident := edgesOfNode edges node
      exploreComponent edges fuel (incident.foldl (pushNeighbours visited) stack)
        { visited := visited
          componentEdges := incident.foldl addEdge traversal.componentEdges }

structure Progress where
  visited : List String
  selected : List ScoredConflationPair

def solveFrom (fuel : Nat) (edges : List ScoredConflationPair) (progress : Progress)
    (start : String) : Option Progress :=
  if progress.visited.contains start then some progress
  else
    (exploreComponent edges fuel [start] { visited := progress.visited, componentEdges := [] }).bind
      fun traversal =>
        (solveComponent traversal.componentEdges fuel).map fun solved =>
          { visited := traversal.visited, selected := progress.selected ++ solved }

/-- The keys of the map `edgesByNode`, sorted. -/
def nodesOf (edges : List ScoredConflationPair) : List String :=
  sortedIds (edges.flatMap fun edge => [aKey edge, bKey edge])

section

-- The comparison of the runtime's locale, which may take different strings for equal.
variable (localeCompare : String → String → Int)

def candidateLe (left right : ScoredConflationPair) : Bool :=
  let byA := localeCompare left.a.id right.a.id
  let byB := localeCompare left.b.id right.b.id
  if byA ≠ 0 then byA < 0
  else if byB ≠ 0 then byB < 0
  else right.score.matchConfidence ≤ left.score.matchConfidence

def selectedLe (left right : ScoredConflationPair) : Bool :=
  let byA := localeCompare left.a.id right.a.id
  let byB := localeCompare left.b.id right.b.id
  if byA ≠ 0 then byA < 0 else byB ≤ 0

def assignConflationPairs (fuel : Nat) (candidateEdges : List ScoredConflationPair) :
    Option (List ScoredConflationPair) :=
  if candidateEdges = [] then some []
  else
    let edges := sortBy (candidateLe localeCompare) candidateEdges
    ((nodesOf edges).foldlM (solveFrom fuel edges) { visited := [], selected := [] }).map
      fun progress => sortBy (selectedLe localeCompare) progress.selected

end

end OpenMapX.Places.PoiConflation
