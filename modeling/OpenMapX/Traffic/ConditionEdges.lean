import OpenMapX.RoadConditions.Effects
import OpenMapX.Traffic.WriteLive

/-!
# Overrides of bound conditions

Each condition that may route and whose spans are all resolved asks for its edges: a closure
closes them, a speed limit caps them. Asks for one edge are merged into one override, which
keeps everyone who asked.
-/

namespace OpenMapX.Traffic.ConditionEdges

open Foundation.KeyedList RoadConditions.Effects TarIndex WriteLive

structure BoundSpan where
  wayId : ℚ
  /-- The direction is `f`. -/
  forward : Bool
  startFraction : ℚ
  endFraction : ℚ
  geometry : Option (List (ℚ × ℚ))

inductive Origin where
  | feed
  | crowd
  | federation
  | derived
  deriving DecidableEq

/-- One bound effect of one road situation. What only the routing decision reads is its
evidence. -/
structure BoundCondition (Timing Evidence : Type) where
  id : String
  cacheGeneration : Option String
  effect : RoadConditionEffect Timing
  routingEvidence : Evidence
  origin : Origin
  routingEligible : Bool
  bindingStatus : String
  segments : List BoundSpan

structure Decision where
  eligible : Bool
  reasons : List String

structure ConditionSkips where
  binding : Nat
  crowdNotEligible : Nat
  noEffect : Nat
  ineligible : Nat
  incompleteSpans : Nat

structure ConditionsToEdgesResult where
  overrides : List EdgeOverride
  appliedObservationIds : List String
  missingWayIds : List ℚ
  edgeExactSpans : Nat
  wholeWaySpans : Nat
  skipped : ConditionSkips
  ineligibleReasons : List (String × Nat)

def emptyConditionsToEdges : ConditionsToEdgesResult := ⟨[], [], [], 0, 0, ⟨0, 0, 0, 0, 0⟩, []⟩

/-- `Set.add`. -/
def addOnce {Item : Type} [DecidableEq Item] (items : List Item) (item : Item) : List Item :=
  if item ∈ items then items else items ++ [item]

def isRoutingRelevantBinding (status : String) : Bool := status = "exact" || status = "likely"

section

variable {Timing Evidence : Type}
  (decision : BoundCondition Timing Evidence → Decision)
  (spanKey : String → BoundSpan → String)
  (waysToEdges : ℚ → Option (List WayEdge))
  (resolvedEdges : String → Option (List WayEdge))

def originRoutes (condition : BoundCondition Timing Evidence) : Bool :=
  condition.origin = .feed || condition.origin = .derived || condition.routingEligible

def capOf (condition : BoundCondition Timing Evidence) : Option ℚ :=
  if closesRoadForCars condition.effect then none
  else (speedCapKph condition.effect).filter fun cap => 0 < cap

inductive SpanResolution where
  | missingWay
  | noEdges
  | found (edges : List WayEdge) (edgeExact : Bool)

def spanName (condition : BoundCondition Timing Evidence) : String :=
  match condition.cacheGeneration with
  | none => condition.id
  | some generation =>
    if generation = "" then condition.id else generation ++ ":" ++ condition.id

def spanEdges (span : BoundSpan) (wayEdges : List WayEdge) (traced : Option (List WayEdge)) :
    List WayEdge :=
  let fullWay := decide (span.startFraction = 0) && decide (span.endFraction = 1)
  (traced.getD (if fullWay then wayEdges else [])).filter fun edge => edge.forward = span.forward

def resolveSpan (condition : BoundCondition Timing Evidence) (span : BoundSpan) : SpanResolution :=
  match waysToEdges span.wayId with
  | none => .missingWay
  | some wayEdges =>
    let traced := (resolvedEdges (spanKey (spanName condition) span)).filter fun edges =>
      !edges.isEmpty
    let edges := spanEdges span wayEdges traced
    if edges.isEmpty then .noEdges else .found edges traced.isSome

def completeSpans (condition : BoundCondition Timing Evidence) : List (List WayEdge × Bool) :=
  condition.segments.filterMap fun span =>
    match resolveSpan spanKey waysToEdges resolvedEdges condition span with
    | .found edges edgeExact => some (edges, edgeExact)
    | _ => none

def missingWays (condition : BoundCondition Timing Evidence) : List ℚ :=
  condition.segments.filterMap fun span =>
    match resolveSpan spanKey waysToEdges resolvedEdges condition span with
    | .missingWay => some span.wayId
    | _ => none

/-- What a condition asks of an edge: to be closed, or else not to be faster than a cap. -/
structure Ask where
  id : String
  closes : Bool
  capKph : Option ℚ
  edge : EdgeIdentity

def lowersCap (cap : ℚ) (previous : EdgeOverride) : Bool :=
  !previous.closed && previous.capKph.any fun other => cap < other

def mergeAsk (overrides : List EdgeOverride) (ask : Ask) : List EdgeOverride :=
  let previous := findKey EdgeOverride.edge overrides ask.edge
  let contributorIds := some ((previous.map contributorsOf).getD [] ++ [ask.id]).eraseDups
  if ask.closes then
    setKey EdgeOverride.edge overrides ⟨ask.edge, true, none, ask.id, contributorIds⟩
  else
    match ask.capKph, previous with
    | some cap, none =>
      setKey EdgeOverride.edge overrides ⟨ask.edge, false, some cap, ask.id, contributorIds⟩
    | some cap, some other =>
      if lowersCap cap other then
        setKey EdgeOverride.edge overrides ⟨ask.edge, false, some cap, ask.id, contributorIds⟩
      else setKey EdgeOverride.edge overrides { other with contributorIds := contributorIds }
    | none, some other =>
      setKey EdgeOverride.edge overrides { other with contributorIds := contributorIds }
    | none, none => overrides

def asksOf (condition : BoundCondition Timing Evidence) (edges : List WayEdge) : List Ask :=
  edges.map fun edge =>
    ⟨condition.id, closesRoadForCars condition.effect, capOf condition, edge.edge⟩

def applySpan (condition : BoundCondition Timing Evidence) (result : ConditionsToEdgesResult)
    (span : List WayEdge × Bool) : ConditionsToEdgesResult :=
  { result with
    edgeExactSpans := result.edgeExactSpans + if span.2 then 1 else 0
    wholeWaySpans := result.wholeWaySpans + if span.2 then 0 else 1
    overrides := (asksOf condition span.1).foldl mergeAsk result.overrides
    appliedObservationIds :=
      if closesRoadForCars condition.effect && !span.1.isEmpty then
        addOnce result.appliedObservationIds condition.id
      else result.appliedObservationIds }

def countReason (reasons : List (String × Nat)) (reason : String) : List (String × Nat) :=
  setKey Prod.fst reasons (reason, ((findKey Prod.fst reasons reason).map Prod.snd).getD 0 + 1)

def mayRoute (condition : BoundCondition Timing Evidence) : Bool :=
  isRoutingRelevantBinding condition.bindingStatus && originRoutes condition &&
    (closesRoadForCars condition.effect || (capOf condition).isSome)

def skipOf (condition : BoundCondition Timing Evidence) (skipped : ConditionSkips) :
    ConditionSkips :=
  if !isRoutingRelevantBinding condition.bindingStatus then
    { skipped with binding := skipped.binding + 1 }
  else if !originRoutes condition then
    { skipped with crowdNotEligible := skipped.crowdNotEligible + 1 }
  else { skipped with noEffect := skipped.noEffect + 1 }

def applyCondition (result : ConditionsToEdgesResult)
    (condition : BoundCondition Timing Evidence) : ConditionsToEdgesResult :=
  if !mayRoute condition then { result with skipped := skipOf condition result.skipped }
  else if !(decision condition).eligible then
    let reasons := (decision condition).reasons
    { result with
      skipped := { result.skipped with ineligible := result.skipped.ineligible + 1 }
      ineligibleReasons :=
        (if reasons.isEmpty then ["no_deadline"] else reasons).foldl countReason
          result.ineligibleReasons }
  else
    let complete := completeSpans spanKey waysToEdges resolvedEdges condition
    let seen : ConditionsToEdgesResult :=
      { result with
        missingWayIds := (missingWays spanKey waysToEdges resolvedEdges condition).foldl addOnce
          result.missingWayIds }
    if complete.length ≠ condition.segments.length ∨ complete.isEmpty then
      { seen with
        skipped := { seen.skipped with incompleteSpans := seen.skipped.incompleteSpans + 1 } }
    else complete.foldl (applySpan condition) seen

def conditionsToEdges (conditions : List (BoundCondition Timing Evidence)) :
    ConditionsToEdgesResult :=
  conditions.foldl (applyCondition decision spanKey waysToEdges resolvedEdges)
    emptyConditionsToEdges

end

end OpenMapX.Traffic.ConditionEdges
