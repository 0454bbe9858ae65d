import Mathlib.Algebra.Order.Field.Basic
import OpenMapX.Navigation.TransitTrip

/-!
# The index of a route

The caps of a route's edges and the hierarchy that is built over them, the search that
prunes by them and the scan that it replaces. Numbers are those of any ordered field, with
its trigonometry; the projection onto one edge is a parameter.
-/

namespace OpenMapX.Navigation.RouteIndex

open Navigation.TransitTrip (JsNumber)

structure Trig (K : Type) where
  sqrt : K → K
  atan2 : K → K → K
  sin : K → K
  cos : K → K
  pi : K
  degreesToRadians : K → K

structure LngLat (K : Type) where
  lng : K
  lat : K

@[ext] structure Vec (K : Type) where
  x : K
  y : K
  z : K

structure Cap (K : Type) where
  centre : Vec K
  radius : K

def LEAF_EDGES : Nat := 8

section

variable {K : Type} [Field K]

def CAP_FLOOR_RADIANS : K := 1 / 10 ^ 8
def CAP_DIRECTION_SLACK : K := 32 / 2 ^ 52
def MAX_CAP_RADIANS : K := 1 / 20
def MIN_CENTRE_MAGNITUDE : K := 1 / 10 ^ 9
def PRUNE_ABS_METERS : K := 1 / 10 ^ 6
def PRUNE_REL : K := 1 / 10 ^ 9
def earthRadius : K := 63710088 / 10

end

section

variable {K : Type} [Field K]

def Vec.add (a b : Vec K) : Vec K := ⟨a.x + b.x, a.y + b.y, a.z + b.z⟩

def Vec.cross (a b : Vec K) : Vec K :=
  ⟨a.y * b.z - a.z * b.y, a.z * b.x - a.x * b.z, a.x * b.y - a.y * b.x⟩

def Vec.dot (a b : Vec K) : K := a.x * b.x + a.y * b.y + a.z * b.z

def Vec.divided (a : Vec K) (length : K) : Vec K := ⟨a.x / length, a.y / length, a.z / length⟩

variable (trig : Trig K)

def magnitude (a : Vec K) : K := trig.sqrt (a.x * a.x + a.y * a.y + a.z * a.z)

def unitVector (p : LngLat K) : Vec K :=
  let lat := trig.degreesToRadians p.lat
  let lng := trig.degreesToRadians p.lng
  ⟨trig.cos lat * trig.cos lng, trig.cos lat * trig.sin lng, trig.sin lat⟩

def angleBetween (a b : Vec K) : K := trig.atan2 (magnitude trig (a.cross b)) (a.dot b)

def turfDistanceMeters (a b : LngLat K) : K :=
  let dLat := trig.degreesToRadians (b.lat - a.lat)
  let dLon := trig.degreesToRadians (b.lng - a.lng)
  let lat1 := trig.degreesToRadians a.lat
  let lat2 := trig.degreesToRadians b.lat
  let h := trig.sin (dLat / 2) ^ 2 + trig.sin (dLon / 2) ^ 2 * trig.cos lat1 * trig.cos lat2
  2 * trig.atan2 (trig.sqrt h) (trig.sqrt (1 - h)) * earthRadius

def prefixOf (geometry : List (LngLat K)) : List K :=
  (List.zipWith (turfDistanceMeters trig) geometry geometry.tail).scanl (· + ·) 0

end

section

variable {K : Type} [Field K] [LinearOrder K] (trig : Trig K)

def MAX_EDGE_RADIANS : K := trig.pi - 1 / 10 ^ 6

/-- The sum of two directions, of length one, unless they point in opposing directions. -/
def middle (a b : Vec K) : Option (Vec K) :=
  let sum := a.add b
  let mag := magnitude trig sum
  if MIN_CENTRE_MAGNITUDE < mag then some (sum.divided mag) else none

def edgeCap (a b : Vec K) : Option (Cap K) :=
  let cross := a.cross b
  let dot := a.dot b
  let crossMag := magnitude trig cross
  if cross.x = 0 ∧ cross.y = 0 ∧ cross.z = 0 then
    if 0 < dot then some { centre := b, radius := angleBetween trig b a + CAP_FLOOR_RADIANS }
    else none
  else if trig.atan2 crossMag dot < MAX_EDGE_RADIANS trig then
    (middle trig a b).map fun centre =>
      { centre := centre
        radius := max (angleBetween trig centre a) (angleBetween trig centre b) +
          CAP_FLOOR_RADIANS + CAP_DIRECTION_SLACK / max crossMag (1 / 10 ^ 300) }
  else none

def usableCap (a b : Vec K) : Option (Cap K) :=
  (edgeCap trig a b).filter fun cap => cap.radius < MAX_CAP_RADIANS

def mergeCaps (a b : Cap K) : Option (Cap K) :=
  (middle trig a.centre b.centre).map fun centre =>
    { centre := centre
      radius := max (angleBetween trig centre a.centre + a.radius)
        (angleBetween trig centre b.centre + b.radius) + CAP_FLOOR_RADIANS }

def growCap : List (Cap K) → Cap K → Cap K
  | [], cap => cap
  | next :: rest, cap =>
    match mergeCaps trig cap next with
    | none => { cap with radius := trig.pi }
    | some merged => growCap rest merged

def limitCap (cap : Cap K) : Cap K := { cap with radius := min trig.pi cap.radius }

def combine (left right : Cap K) : Cap K :=
  match mergeCaps trig left right with
  | none => { left with radius := trig.pi }
  | some merged => limitCap trig merged

end

/-- A node holds the positions from `lo` to before `hi` of the indexed edges. -/
inductive CapTree (K : Type) where
  | leaf (cap : Cap K) (lo hi : Nat)
  | node (cap : Cap K) (lo hi : Nat) (left right : CapTree K)

namespace CapTree

variable {K : Type}

def cap : CapTree K → Cap K
  | leaf cap _ _ => cap
  | node cap _ _ _ _ => cap

def subtrees : CapTree K → List (CapTree K)
  | leaf cap lo hi => [leaf cap lo hi]
  | node cap lo hi left right => node cap lo hi left right :: (left.subtrees ++ right.subtrees)

def leaves : CapTree K → List (List Nat)
  | leaf _ lo hi => [List.range' lo (hi - lo)]
  | node _ _ _ left right => left.leaves ++ right.leaves

end CapTree

section

variable {K : Type} [Field K] [LinearOrder K] (trig : Trig K) (capAt : Nat → Cap K)

def leafCap (lo hi : Nat) : Cap K :=
  limitCap trig (growCap trig ((List.range' (lo + 1) (hi - lo - 1)).map capAt) (capAt lo))

def build (lo hi : Nat) : CapTree K :=
  if hi - lo ≤ LEAF_EDGES then .leaf (leafCap trig capAt lo hi) lo hi
  else
    let mid := (lo + hi) / 2
    let left := build lo mid
    let right := build mid hi
    .node (combine trig left.cap right.cap) lo hi left right
termination_by hi - lo
decreasing_by
  all_goals
    unfold LEAF_EDGES at *
    omega

end

def capacityFor (indexed : Nat) : Nat :=
  let minLeaf := (LEAF_EDGES + 1) / 2
  2 * ((max 1 indexed + minLeaf - 1) / minLeaf) + 2

structure MatcherIndex (K : Type) where
  coords : List (LngLat K)
  edges : Nat
  distances : List K
  caps : List (Option (Cap K))
  always : List Nat
  indexed : List Nat
  root : Option (CapTree K)

section

variable {K : Type} [Field K] [LinearOrder K] (trig : Trig K)

def noCap : Cap K := ⟨⟨0, 0, 0⟩, 0⟩

def capOf (caps : List (Option (Cap K))) (edge : Nat) : Cap K := (caps.getD edge none).getD noCap

def capsOf (geometry : List (LngLat K)) : List (Option (Cap K)) :=
  let vectors := geometry.map (unitVector trig)
  List.zipWith (usableCap trig) vectors vectors.tail

def buildIndex (geometry : List (LngLat K)) : MatcherIndex K :=
  let edges := geometry.length - 1
  let caps := capsOf trig geometry
  let indexed := (List.range edges).filter fun edge : Nat => (caps.getD edge none).isSome
  { coords := geometry
    edges := edges
    distances := prefixOf trig geometry
    caps := caps
    always := (List.range edges).filter fun edge : Nat => !(caps.getD edge none).isSome
    indexed := indexed
    root :=
      if indexed.isEmpty then none
      else some (build trig (fun place => capOf caps (indexed.getD place 0)) 0 indexed.length) }

end

structure Projection (K : Type) where
  coordinates : LngLat K
  index : Nat
  location : K
  dist : K

abbrev NearestPointOnLine (K : Type) := LngLat K → LngLat K → LngLat K → Projection K

structure SnapResult (K : Type) where
  snapped : LngLat K
  alongMeters : K
  deviationMeters : K
  segmentIndex : Nat

structure BestEdge (K : Type) where
  dist : K
  edge : Nat
  snapped : LngLat K
  along : K
  index : Nat

def BestEdge.result {K : Type} (best : BestEdge K) : SnapResult K where
  snapped := best.snapped
  alongMeters := best.along
  deviationMeters := best.dist
  segmentIndex := best.index

section

variable {K : Type} [Field K] [LinearOrder K] (trig : Trig K)

def capLowerBound (q : Vec K) (cap : Cap K) : K :=
  let remaining := angleBetween trig q cap.centre - cap.radius
  if 0 < remaining then remaining * earthRadius else 0

def prunable (lowerBound : K) (best : Option (BestEdge K)) : Bool :=
  match best with
  | none => false
  | some best =>
    let slack := PRUNE_ABS_METERS + PRUNE_REL * (|lowerBound| + |best.dist|)
    decide (best.dist < lowerBound - slack)

variable (project : NearestPointOnLine K) (idx : MatcherIndex K) (raw : LngLat K)

def edgeResult (edge : Nat) : BestEdge K :=
  let local' := project (idx.coords.getD edge ⟨0, 0⟩) (idx.coords.getD (edge + 1) ⟨0, 0⟩) raw
  { dist := local'.dist
    edge := edge
    snapped := local'.coordinates
    along := idx.distances.getD edge 0 + local'.location
    index := edge + local'.index }

def evaluate (best : Option (BestEdge K)) (edge : Nat) : Option (BestEdge K) :=
  let result := edgeResult project idx raw edge
  match best with
  | none => some result
  | some best =>
    if result.dist < best.dist ∨ (result.dist = best.dist ∧ edge < best.edge) then some result
    else some best

def visitEdge (q : Vec K) (best : Option (BestEdge K)) (place : Nat) : Option (BestEdge K) :=
  let edge := idx.indexed.getD place 0
  if prunable (capLowerBound trig q (capOf idx.caps edge)) best then best
  else evaluate project idx raw best edge

def visit (q : Vec K) : CapTree K → Option (BestEdge K) → Option (BestEdge K)
  | .leaf _ lo hi, best =>
    (List.range' lo (hi - lo)).foldl (visitEdge trig project idx raw q) best
  | .node _ _ _ left right, best =>
    let boundL := capLowerBound trig q left.cap
    let boundR := capLowerBound trig q right.cap
    -- the more promising child comes first, so that its result can prune the other one
    if boundL ≤ boundR then
      let best := if prunable boundL best then best else visit q left best
      if prunable boundR best then best else visit q right best
    else
      let best := if prunable boundR best then best else visit q right best
      if prunable boundL best then best else visit q left best

/-- `Math.max(0, Math.min(edges - 1, Math.trunc(seed)))`, if it is a number. -/
def seedEdge (seed : JsNumber) : Option Nat :=
  match seed with
  | .nan => none
  | .infinite negative => some (if negative then 0 else idx.edges - 1)
  | .finite value => some (min (idx.edges - 1) (value.num.tdiv value.den).toNat)

def visitSeed (seed : Option JsNumber) (best : Option (BestEdge K)) : Option (BestEdge K) :=
  match seed.bind (seedEdge idx) with
  | none => best
  | some seed =>
    if !idx.indexed.isEmpty && decide (0 < (capOf idx.caps seed).radius) then
      evaluate project idx raw best seed
    else best

def visitRoot (best : Option (BestEdge K)) : Option (BestEdge K) :=
  match idx.root with
  | none => best
  | some root =>
    let q := unitVector trig raw
    if prunable (capLowerBound trig q root.cap) best then best
    else visit trig project idx raw q root best

inductive LineError where
  | tooFewPositions
  deriving DecidableEq

def snapPreparedRoute (seed : Option JsNumber) : Except LineError (Option (SnapResult K)) :=
  if idx.edges = 0 then .error .tooFewPositions
  else
    let best := idx.always.foldl (evaluate project idx raw) none
    let best := visitSeed project idx raw seed best
    let best := visitRoot trig project idx raw best
    .ok (best.map BestEdge.result)

def scanEdge (best : Option (BestEdge K)) (edge : Nat) : Option (BestEdge K) :=
  let result := edgeResult project idx raw edge
  match best with
  | none => some result
  | some best => if result.dist < best.dist then some result else some best

def scanRoute : Option (SnapResult K) :=
  ((List.range idx.edges).foldl (scanEdge project idx raw) none).map BestEdge.result

end

end OpenMapX.Navigation.RouteIndex
