import Mathlib.Tactic.Linarith
import OpenMapX.Routing.RouteConcat

/-!
# Where a joined route has its limits and receipts

The segments of a joined route are the segments of its routes, one route after another, with
a connecting segment where two routes do not meet. Limits and receipts of contributors are
read at the index of the segment in the joined geometry.
-/

namespace OpenMapX.Routing.ConcatAlignment

open RouteConcat List
open Option (bind_some getD_none getD_some)

section

variable {Receipt : Type}

def Covers (index : ℤ) (span : GeometryContributorSpan Receipt) : Bool :=
  decide (span.startIndex ≤ index) && decide (index < span.endIndex)

def receiptsAt (spans : List (GeometryContributorSpan Receipt)) (index : ℤ) : List Receipt :=
  ((spans.find? (Covers index)).bind GeometryContributorSpan.contributors).getD []

def Tiles : ℤ → ℤ → List (GeometryContributorSpan Receipt) → Prop
  | start, stop, [] => start = stop
  | start, stop, span :: later =>
    span.startIndex = start ∧ start < span.endIndex ∧ Tiles span.endIndex stop later

variable {spans : List (GeometryContributorSpan Receipt)}

theorem tiles_le {start stop : ℤ} (tiles : Tiles start stop spans) : start ≤ stop := by
  induction spans generalizing start with
  | nil => exact tiles.le
  | cons span later ih =>
    have rest := ih tiles.2.2
    linarith [tiles.2.1]

theorem tiles_append {start middle stop : ℤ} {first second : List (GeometryContributorSpan Receipt)}
    (left : Tiles start middle first) (right : Tiles middle stop second) :
    Tiles start stop (first ++ second) := by
  induction first generalizing start with
  | nil =>
    have same : start = middle := left
    rw [same]
    exact right
  | cons span later ih => exact ⟨left.1, left.2.1, ih left.2.2⟩

theorem tiles_shift {start stop : ℤ} (offset : ℤ) (tiles : Tiles start stop spans) :
    Tiles (start + offset) (stop + offset) (spans.map (shiftSpan offset)) := by
  induction spans generalizing start with
  | nil =>
    have same : start = stop := tiles
    rw [same]
    rfl
  | cons span later ih =>
    refine ⟨?_, ?_, ih tiles.2.2⟩
    · simp only [shiftSpan, tiles.1]
    · simp only [shiftSpan]
      linarith [tiles.2.1]

theorem tiles_one {start stop : ℤ} (forward : start < stop) (contributors : Option (List Receipt)) :
    Tiles start stop [⟨start, stop, contributors⟩] :=
  ⟨rfl, forward, rfl⟩

variable {start stop index : ℤ}

theorem tiles_find (tiles : Tiles start stop spans) (after : start ≤ index) (before : index < stop)
    : ∃ span, spans.find? (Covers index) = some span := by
  induction spans generalizing start with
  | nil =>
    have same : start = stop := tiles
    omega
  | cons span later ih =>
    rw [find?_cons]
    by_cases inside : index < span.endIndex
    · have covered : Covers index span = true := by
        simp only [Covers, Bool.and_eq_true, decide_eq_true_eq, tiles.1]
        exact ⟨after, inside⟩
      rw [covered]
      exact ⟨span, rfl⟩
    · have missed : Covers index span = false := by
        simp [Covers, inside]
      rw [missed]
      exact ih tiles.2.2 (not_lt.mp inside)

theorem tiles_find_none (tiles : Tiles start stop spans) (beyond : stop ≤ index) :
    spans.find? (Covers index) = none := by
  induction spans generalizing start with
  | nil => rfl
  | cons span later ih =>
    have ends := tiles_le tiles.2.2
    have missed : Covers index span = false := by
      simp only [Covers, Bool.and_eq_false_iff, decide_eq_false_iff_not, not_lt]
      exact Or.inr (by linarith)
    rw [find?_cons, missed]
    exact ih tiles.2.2

section

variable {first : List (GeometryContributorSpan Receipt)}
  (second : List (GeometryContributorSpan Receipt)) (tiles : Tiles start stop first)
include tiles

theorem receipts_left (after : start ≤ index) (before : index < stop) :
    receiptsAt (first ++ second) index = receiptsAt first index := by
  obtain ⟨span, found⟩ := tiles_find tiles after before
  unfold receiptsAt
  rw [find?_append, found]
  rfl

theorem receipts_right (beyond : stop ≤ index) :
    receiptsAt (first ++ second) index = receiptsAt second index := by
  unfold receiptsAt
  rw [find?_append, tiles_find_none tiles beyond]
  rfl

end

theorem receipts_shift (offset index : ℤ) (spans : List (GeometryContributorSpan Receipt)) :
    receiptsAt (spans.map (shiftSpan offset)) (offset + index) = receiptsAt spans index := by
  have same : (Covers (offset + index) ∘ shiftSpan offset : GeometryContributorSpan Receipt → Bool)
      = Covers index := by
    funext span
    unfold Covers shiftSpan
    rw [Function.comp_apply]
    congr 1
    · exact decide_eq_decide.mpr ⟨fun _ => by linarith, fun _ => by linarith⟩
    · exact decide_eq_decide.mpr ⟨fun _ => by linarith, fun _ => by linarith⟩
  unfold receiptsAt
  rw [find?_map, same]
  cases spans.find? (Covers index) with
  | none => rfl
  | some span => rfl

end

section

variable {Receipt Content : Type} (reader : ReceiptReader Receipt)

/-- The receipts that a route states for one of its segments: those of its geometry where it
has no spans, those of the span there where its spans are in order, and none otherwise. -/
def statedReceipts (route : Route Receipt Content) (index : ℤ) : List Receipt :=
  match route.geometryContributors with
  | none => contributorsForField reader route "geometry"
  | some given =>
    if (parseGeometryContributors reader given route.geometry.length).isSome then
      ((given.find? (Covers index)).map fun span =>
        snapshotContributors reader
          ((parseContributors reader span.contributors).getD [])).getD []
    else []

variable {pointCount : Nat} {previousEnd : ℤ}

theorem parse_spans_cons {raw later spans}
    (parsed : parseSpans reader pointCount previousEnd (raw :: later) = some spans) :
    previousEnd ≤ raw.startIndex ∧ raw.startIndex < raw.endIndex ∧ raw.endIndex < pointCount ∧
      ∃ rest, parseSpans reader pointCount raw.endIndex later = some rest ∧
        spans = ⟨raw.startIndex, raw.endIndex, some (snapshotContributors reader
          ((parseContributors reader raw.contributors).getD []))⟩ :: rest := by
  unfold parseSpans at parsed
  split at parsed
  · cases parsed
  · rename_i ordered
    simp only [not_or, not_lt, not_le] at ordered
    refine ⟨ordered.1, ordered.2.1, ordered.2.2, ?_⟩
    cases read : parseContributors reader raw.contributors with
    | none =>
      rw [read] at parsed
      cases parsed
    | some contributors =>
      rw [read] at parsed
      obtain ⟨rest, parsedRest, same⟩ := Option.map_eq_some_iff.mp parsed
      exact ⟨rest, parsedRest, same.symm⟩

variable {raws spans : List (GeometryContributorSpan Receipt)}

theorem parse_spans_from (parsed : parseSpans reader pointCount previousEnd raws = some spans) :
    ∀ span ∈ raws, previousEnd ≤ span.startIndex := by
  induction raws generalizing previousEnd spans with
  | nil => simp
  | cons raw later ih =>
    obtain ⟨start, forward, -, rest, parsedRest, -⟩ := parse_spans_cons reader parsed
    intro span member
    rcases mem_cons.mp member with first | other
    · rw [first]
      exact start
    · have further := ih parsedRest span other
      linarith

theorem gap_receipts {start stop index : ℤ} (behind : stop ≤ index)
    (spans : List (GeometryContributorSpan Receipt)) :
    receiptsAt ((if start < stop then [unknownSpan start stop] else []) ++ spans) index =
      receiptsAt spans index := by
  split
  · rename_i gap
    exact receipts_right spans (tiles_one gap _) behind
  · rfl

theorem fill_gaps_tiles (before : previousEnd ≤ (pointCount : ℤ) - 1)
    (parsed : parseSpans reader pointCount previousEnd raws = some spans) :
    Tiles previousEnd ((pointCount : ℤ) - 1)
      (fillGaps ((pointCount : ℤ) - 1) previousEnd spans) := by
  induction raws generalizing previousEnd spans with
  | nil =>
    cases parsed
    unfold fillGaps
    split
    · rename_i short
      exact tiles_one short _
    · rename_i whole
      exact le_antisymm before (not_lt.mp whole)
  | cons raw later ih =>
    obtain ⟨start, forward, inside, rest, parsedRest, same⟩ := parse_spans_cons reader parsed
    have tail := ih (by omega) parsedRest
    rw [same]
    unfold fillGaps
    dsimp only
    split
    · rename_i gap
      exact tiles_append (tiles_one gap _) ⟨rfl, forward, tail⟩
    · rename_i closed
      refine ⟨le_antisymm (not_lt.mp closed) start, ?_, tail⟩
      change previousEnd < raw.endIndex
      linarith

theorem fill_gaps_receipts (parsed : parseSpans reader pointCount previousEnd raws = some spans)
    {index : ℤ} (after : previousEnd ≤ index) :
    receiptsAt (fillGaps ((pointCount : ℤ) - 1) previousEnd spans) index =
      ((raws.find? (Covers index)).map fun span => snapshotContributors reader
          ((parseContributors reader span.contributors).getD [])).getD [] := by
  induction raws generalizing previousEnd spans with
  | nil =>
    cases parsed
    unfold fillGaps receiptsAt
    split
    · rw [find?_cons]
      cases Covers index (unknownSpan previousEnd ((pointCount : ℤ) - 1)) with
      | true => rfl
      | false => rfl
    · rfl
  | cons raw later ih =>
    obtain ⟨start, forward, inside, rest, parsedRest, same⟩ := parse_spans_cons reader parsed
    rw [same]
    unfold fillGaps
    dsimp only
    by_cases early : index < raw.startIndex
    · -- the segment lies in the gap before the span, which no other span reaches
      have gap : previousEnd < raw.startIndex := lt_of_le_of_lt after early
      have uncovered : (raw :: later).find? (Covers index) = none := by
        apply find?_eq_none.mpr
        intro span member
        have begins : raw.startIndex ≤ span.startIndex := by
          rcases mem_cons.mp member with first | other
          · rw [first]
          · have further := parse_spans_from reader parsedRest span other
            linarith
        simp only [Covers, Bool.and_eq_true, decide_eq_true_eq, not_and]
        intro reached
        linarith
      rw [if_pos gap, uncovered]
      have filled := receipts_left (⟨raw.startIndex, raw.endIndex, some (snapshotContributors
        reader ((parseContributors reader raw.contributors).getD []))⟩ ::
          fillGaps ((pointCount : ℤ) - 1) raw.endIndex rest)
        (tiles_one gap (some ([] : List Receipt))) after early
      refine filled.trans ?_
      unfold receiptsAt
      rw [find?_cons]
      cases Covers index (⟨previousEnd, raw.startIndex, some []⟩ :
        GeometryContributorSpan Receipt) with
      | true => rfl
      | false => rfl
    · have reached := not_lt.mp early
      rw [gap_receipts reached]
      by_cases within : index < raw.endIndex
      · have covered : ∀ contributors : Option (List Receipt),
            Covers index ⟨raw.startIndex, raw.endIndex, contributors⟩ = true := by
          intro contributors
          simp [Covers, reached, within]
        unfold receiptsAt
        rw [find?_cons, covered, find?_cons, covered raw.contributors]
        rfl
      · have missed : ∀ contributors : Option (List Receipt),
            Covers index ⟨raw.startIndex, raw.endIndex, contributors⟩ = false := by
          intro contributors
          simp [Covers, within]
        have further := ih parsedRest (not_lt.mp within)
        rw [find?_cons, missed raw.contributors, ← further]
        unfold receiptsAt
        rw [find?_cons, missed]

variable {route : Route Receipt Content}

theorem capture_short (short : route.geometry.length ≤ 1) :
    captureGeometryContributors reader route = [] := by
  unfold captureGeometryContributors
  exact if_pos (by omega)

theorem capture_long (long : 1 < route.geometry.length) : captureGeometryContributors reader route =
      match route.geometryContributors with
      | none => [⟨0, (route.geometry.length : ℤ) - 1,
          some (contributorsForField reader route "geometry")⟩]
      | some given => fillGaps ((route.geometry.length : ℤ) - 1) 0
          ((parseGeometryContributors reader given route.geometry.length).getD []) := by
  unfold captureGeometryContributors
  exact if_neg (by omega)

theorem capture_tiles (route : Route Receipt Content) (points : route.geometry ≠ []) :
    Tiles 0 ((route.geometry.length : ℤ) - 1) (captureGeometryContributors reader route) := by
  have count : 0 < route.geometry.length := length_pos_of_ne_nil points
  by_cases long : 1 < route.geometry.length
  · rw [capture_long reader long]
    cases route.geometryContributors with
    | none => exact tiles_one (by omega) _
    | some given =>
      dsimp only
      cases parsed : parseGeometryContributors reader given route.geometry.length with
      | none =>
        rw [getD_none]
        unfold fillGaps
        rw [if_pos (by omega)]
        exact tiles_one (by omega) _
      | some spans => exact fill_gaps_tiles reader (by omega) parsed
  · rw [capture_short reader (not_lt.mp long)]
    have single : (0 : ℤ) = (route.geometry.length : ℤ) - 1 := by omega
    exact single

theorem captured_receipts (route : Route Receipt Content) {index : ℤ} (first : 0 ≤ index)
    (last : index < (route.geometry.length : ℤ) - 1) :
    receiptsAt (captureGeometryContributors reader route) index =
      statedReceipts reader route index := by
  rw [capture_long reader (by omega)]
  unfold statedReceipts
  cases route.geometryContributors with
  | none =>
    obtain ⟨span, found⟩ := tiles_find (tiles_one (lt_of_le_of_lt first last)
      (some (contributorsForField reader route "geometry"))) first last
    unfold receiptsAt
    rw [found, mem_singleton.mp (mem_of_find?_eq_some found)]
    rfl
  | some given =>
    dsimp only
    cases parsed : parseGeometryContributors reader given route.geometry.length with
    | none =>
      rw [getD_none, Option.isSome_none, if_neg Bool.false_ne_true]
      unfold fillGaps receiptsAt
      rw [if_pos (by omega), find?_cons]
      cases Covers index (unknownSpan 0 ((route.geometry.length : ℤ) - 1)) with
      | true => rfl
      | false => rfl
    | some spans =>
      rw [getD_some, Option.isSome_some, if_pos rfl]
      exact fill_gaps_receipts reader parsed first

/-- A segment between two points, with the limit that is stated for it and its receipts. The
limit is absent where the route has no limits, and `some none` where it is unknown. -/
structure Segment (Receipt : Type) where
  start : LngLat
  stop : LngLat
  limit : Option (Option ℚ)
  contributors : List Receipt

def segmentAt (geometry : List LngLat) (limits : Option (List (Option ℚ)))
    (receipts : ℤ → List Receipt) (index : Nat) : Segment Receipt where
  start := geometry.getD index (0, 0)
  stop := geometry.getD (index + 1) (0, 0)
  limit := limits.bind fun known => known[index]?
  contributors := receipts index

def segmentsOf (geometry : List LngLat) (limits : Option (List (Option ℚ)))
    (receipts : ℤ → List Receipt) : List (Segment Receipt) :=
  (range (geometry.length - 1)).map (segmentAt geometry limits receipts)

/-- The segments of one route of a trip, whose limits count if all routes have them. -/
def routeSegments (limited : Bool) (route : Route Receipt Content) : List (Segment Receipt) :=
  segmentsOf route.geometry (if limited then route.segmentSpeedLimits else none)
    (statedReceipts reader route)

/-- The connecting segment from the end of a geometry to a route, where there is one. -/
def connectingSegments (limited : Bool) (geometry : List LngLat)
    (route : Route Receipt Content) : List (Segment Receipt) :=
  match endpoints geometry route with
  | none => []
  | some ends =>
    if samePoint ends.1 ends.2 then []
    else [{ start := ends.1, stop := ends.2, limit := if limited then some none else none
            contributors := [] }]

def addedShape (geometry : List LngLat) (route : Route Receipt Content) : List LngLat :=
  if sharesEndpoint geometry route then route.geometry.tail else route.geometry

def tripSegments (limited : Bool) :
    List LngLat → List (Route Receipt Content) → List (Segment Receipt)
  | _, [] => []
  | geometry, route :: later =>
    connectingSegments limited geometry route ++ routeSegments reader limited route ++
      tripSegments limited (geometry ++ addedShape geometry route) later

/-- A segment stands for another one: it ends at its end, has its limit and its receipts, and
starts at its start or at the same point. -/
structure StandsFor (segment original : Segment Receipt) : Prop where
  stop : segment.stop = original.stop
  limit : segment.limit = original.limit
  contributors : segment.contributors = original.contributors
  start : segment.start = original.start ∨ samePoint segment.start original.start = true

theorem stands_for_self (segment : Segment Receipt) : StandsFor segment segment :=
  ⟨rfl, rfl, rfl, Or.inl rfl⟩

def joinedSegments (limited : Bool) (joined : Joined Receipt Content) : List (Segment Receipt) :=
  segmentsOf joined.geometry (if limited then some joined.speedLimits else none)
    (receiptsAt joined.geometryContributors)

/-- What the loop keeps: a limit for each segment, if all routes have them, and spans that
tile the geometry. -/
structure Aligned (limited : Bool) (joined : Joined Receipt Content) : Prop where
  limits : limited = true → joined.speedLimits.length = joined.geometry.length - 1
  tiles : Tiles 0 (((joined.geometry.length - 1 : Nat) : ℤ)) joined.geometryContributors

structure RouteFormed (limited : Bool) (route : Route Receipt Content) : Prop where
  points : route.geometry ≠ []
  limits : limited = true → ∃ limits, route.segmentSpeedLimits = some limits ∧
    limits.length = route.geometry.length - 1

/-- How a route follows a geometry: as its first points, from its last point on, or behind a
connecting segment. -/
inductive Follows (geometry : List LngLat) (route : Route Receipt Content) : Prop where
  | first (empty : geometry = [])
  | shared (last first : LngLat) (ends : geometry.getLast? = some last)
      (begins : route.geometry.head? = some first) (same : samePoint last first = true)
  | apart (last first : LngLat) (ends : geometry.getLast? = some last)
      (begins : route.geometry.head? = some first) (differs : samePoint last first = false)

theorem follows (geometry : List LngLat)
    (points : route.geometry ≠ []) : Follows geometry route := by
  cases ends : geometry.getLast? with
  | none => exact .first (getLast?_eq_none_iff.mp ends)
  | some last =>
    obtain ⟨first, begins⟩ : ∃ first, route.geometry.head? = some first := by
      cases shape : route.geometry with
      | nil => exact absurd shape points
      | cons first later => exact ⟨first, rfl⟩
    cases same : samePoint last first with
    | true => exact .shared last first ends begins same
    | false => exact .apart last first ends begins same

variable {geometry : List LngLat}

theorem get_append_left (later : List LngLat) {index : Nat} (inside : index < geometry.length) :
    (geometry ++ later).getD index (0, 0) = geometry.getD index (0, 0) := by
  rw [getD_eq_getElem?_getD, getD_eq_getElem?_getD,
    getElem?_append_left inside]

theorem get_append_right (geometry later : List LngLat) (index : Nat) :
    (geometry ++ later).getD (geometry.length + index) (0, 0) = later.getD index (0, 0) := by
  rw [getD_eq_getElem?_getD, getD_eq_getElem?_getD,
    getElem?_append_right (Nat.le_add_right _ _), Nat.add_sub_cancel_left]

theorem last_get {last : LngLat} (ends : geometry.getLast? = some last) :
    0 < geometry.length ∧ geometry.getD (geometry.length - 1) (0, 0) = last := by
  have some_point : geometry ≠ [] := by
    intro empty
    rw [empty] at ends
    cases ends
  refine ⟨length_pos_of_ne_nil some_point, ?_⟩
  rw [getD_eq_getElem?_getD, ← getLast?_eq_getElem?, ends]
  rfl

theorem head_get {first : LngLat}
    (begins : geometry.head? = some first) : geometry.getD 0 (0, 0) = first := by
  rw [getD_eq_getElem?_getD, ← head?_eq_getElem?, begins]
  rfl

theorem tail_get (geometry : List LngLat) (index : Nat) :
    geometry.tail.getD index (0, 0) = geometry.getD (index + 1) (0, 0) := by
  rw [getD_eq_getElem?_getD, getD_eq_getElem?_getD, getElem?_tail]

/-- Where a route is placed behind a geometry: the spans and limits before it end at its
offset, and its points follow from there. -/
structure PlacedAt (limited : Bool) (joined : Joined Receipt Content)
    (route : Route Receipt Content) (offset : Nat) : Prop where
  front : (range offset).map
      (segmentAt (joinRoute reader joined route).geometry
        (if limited then some (joinRoute reader joined route).speedLimits else none)
        (receiptsAt (joinRoute reader joined route).geometryContributors)) =
    joinedSegments limited joined ++ connectingSegments limited joined.geometry route
  spans : ∃ front, Tiles 0 (offset : ℤ) front ∧
    (joinRoute reader joined route).geometryContributors =
      front ++ (captureGeometryContributors reader route).map (shiftSpan offset)
  limits : ∃ front : List (Option ℚ), (limited = true → front.length = offset) ∧
    (joinRoute reader joined route).speedLimits = front ++ route.segmentSpeedLimits.getD []
  count : (joinRoute reader joined route).geometry.length = offset + route.geometry.length
  starts : ∀ index, index < route.geometry.length →
    (joinRoute reader joined route).geometry.getD (offset + index) (0, 0) =
        route.geometry.getD index (0, 0) ∨
      samePoint ((joinRoute reader joined route).geometry.getD (offset + index) (0, 0))
        (route.geometry.getD index (0, 0)) = true
  stops : ∀ index, index + 1 < route.geometry.length →
    (joinRoute reader joined route).geometry.getD (offset + index + 1) (0, 0) =
      route.geometry.getD (index + 1) (0, 0)

variable {reader}

variable {joined : Joined Receipt Content} {limited : Bool}

variable (aligned : Aligned limited joined)
include aligned

theorem kept_segments (route) : (range (joined.geometry.length - 1)).map
      (segmentAt (joinRoute reader joined route).geometry
        (if limited then some (joinRoute reader joined route).speedLimits else none)
        (receiptsAt (joinRoute reader joined route).geometryContributors)) =
    joinedSegments limited joined := by
  unfold joinedSegments segmentsOf
  apply map_congr_left
  intro index member
  have inside : index < joined.geometry.length - 1 := mem_range.mp member
  unfold segmentAt
  congr 1
  · exact get_append_left _ (by omega)
  · exact get_append_left _ (by omega)
  · cases limited with
    | false => rfl
    | true =>
      have known := aligned.limits rfl
      simp only [if_pos, bind_some, joinRoute]
      rw [append_assoc, getElem?_append_left (by omega)]
  · simp only [joinRoute]
    rw [append_assoc]
    exact receipts_left _ aligned.tiles (by omega) (by omega)

theorem placed_first (route)
    (empty : joined.geometry = []) : PlacedAt reader limited joined route 0 := by
  have apart : sharesEndpoint [] route = false := rfl
  have bare : connects [] route = false := rfl
  have noSpans : joined.geometryContributors = [] := by
    have tiles := aligned.tiles
    rw [empty] at tiles
    cases spans : joined.geometryContributors with
    | nil => rfl
    | cons span later =>
      rw [spans] at tiles
      have ends := tiles_le tiles.2.2
      have begins := tiles.2.1
      simp only [length_nil] at ends
      omega
  constructor
  · simp [joinedSegments, segmentsOf, connectingSegments, endpoints, empty]
  · refine ⟨[], rfl, ?_⟩
    simp [joinRoute, apart, bare, noSpans, empty]
  · refine ⟨joined.speedLimits, ?_, ?_⟩
    · intro known
      rw [aligned.limits known, empty]
      rfl
    · simp [joinRoute, bare, empty]
  · simp [joinRoute, apart, empty]
  · intro index _
    apply Or.inl
    simp [joinRoute, apart, empty]
  · intro index _
    simp [joinRoute, apart, empty]

section

variable (route : Route Receipt Content) {last first : LngLat}
  (ends : joined.geometry.getLast? = some last) (begins : route.geometry.head? = some first)
include ends begins

theorem placed_shared (same : samePoint last first = true) :
    PlacedAt reader limited joined route (joined.geometry.length - 1) := by
  have shared : sharesEndpoint joined.geometry route = true := by
    simp [sharesEndpoint, endpoints, ends, begins, same]
  have bare : connects joined.geometry route = false := by
    simp [connects, endpoints, ends, begins, same]
  have shape : (joinRoute reader joined route).geometry =
      joined.geometry ++ route.geometry.tail := by
    simp [joinRoute, shared]
  obtain ⟨some_point, last_point⟩ := last_get ends
  have first_point := head_get begins
  have some_first : 0 < route.geometry.length := by
    cases points : route.geometry with
    | nil =>
      rw [points] at begins
      cases begins
    | cons _ _ => simp
  have later : ∀ index, (joinRoute reader joined route).geometry.getD
      (joined.geometry.length - 1 + index + 1) (0, 0) = route.geometry.getD (index + 1) (0, 0) := by
    intro index
    rw [shape, show joined.geometry.length - 1 + index + 1 = joined.geometry.length + index by
      omega, get_append_right, tail_get]
  constructor
  · rw [kept_segments aligned route]
    simp [connectingSegments, endpoints, ends, begins, same]
  · refine ⟨joined.geometryContributors, aligned.tiles, ?_⟩
    simp only [joinRoute, shared, bare, if_true, Bool.false_eq_true, if_false, append_nil]
    rw [Nat.cast_sub some_point, Nat.cast_one]
  · refine ⟨joined.speedLimits, aligned.limits, ?_⟩
    simp [joinRoute, bare]
  · rw [shape, length_append, length_tail]
    omega
  · intro index inside
    cases index with
    | zero =>
      apply Or.inr
      rw [shape, Nat.add_zero, get_append_left _ (by omega), last_point, first_point]
      exact same
    | succ index =>
      apply Or.inl
      rw [← Nat.add_assoc]
      exact later index
  · intro index _
    exact later index

theorem placed_apart (differs : samePoint last first = false) :
    PlacedAt reader limited joined route joined.geometry.length := by
  have apart : sharesEndpoint joined.geometry route = false := by
    simp [sharesEndpoint, endpoints, ends, begins, differs]
  have connecting : connects joined.geometry route = true := by
    simp [connects, endpoints, ends, begins, differs]
  obtain ⟨some_point, last_point⟩ := last_get ends
  have first_point := head_get begins
  have shape : (joinRoute reader joined route).geometry =
      joined.geometry ++ route.geometry := by
    simp [joinRoute, apart]
  have spans : (joinRoute reader joined route).geometryContributors =
      joined.geometryContributors ++
        ([unknownSpan ((joined.geometry.length - 1 : Nat) : ℤ) joined.geometry.length] ++
        (captureGeometryContributors reader route).map (shiftSpan joined.geometry.length)) := by
    simp only [joinRoute, apart, connecting, if_true, Bool.false_eq_true, if_false, sub_zero,
      append_assoc]
    rw [Nat.cast_sub some_point, Nat.cast_one]
  have limits : (joinRoute reader joined route).speedLimits =
      joined.speedLimits ++ ([none] ++ route.segmentSpeedLimits.getD []) := by
    simp [joinRoute, connecting]
  have gap : Tiles ((joined.geometry.length - 1 : Nat) : ℤ) (joined.geometry.length : ℤ)
      [(unknownSpan ((joined.geometry.length - 1 : Nat) : ℤ) joined.geometry.length :
        GeometryContributorSpan Receipt)] :=
    tiles_one (by omega) _
  constructor
  · have count : joined.geometry.length = joined.geometry.length - 1 + 1 := by omega
    rw [count, range_succ, map_append, kept_segments aligned route]
    congr 1
    simp only [map_cons, map_nil, connectingSegments, endpoints, ends, begins, differs,
      Bool.false_eq_true, if_false]
    congr 1
    unfold segmentAt
    congr 1
    · rw [shape, get_append_left _ (by omega), last_point]
    · rw [shape, ← count]
      have added := get_append_right joined.geometry route.geometry 0
      rw [Nat.add_zero] at added
      rw [added, first_point]
    · cases limited with
      | false => rfl
      | true =>
        have known := aligned.limits rfl
        rw [if_pos rfl, if_pos rfl, limits, bind_some, ← known,
          getElem?_append_right (le_refl _), Nat.sub_self]
        rfl
    · rw [spans, receipts_right _ aligned.tiles (le_refl _), receipts_left _ gap (le_refl _)
        (by omega)]
      obtain ⟨span, found⟩ := tiles_find gap (le_refl _) (by omega)
      unfold receiptsAt
      rw [found, mem_singleton.mp (mem_of_find?_eq_some found)]
      rfl
  · refine ⟨joined.geometryContributors ++ [unknownSpan ((joined.geometry.length - 1 : Nat) : ℤ)
      joined.geometry.length], tiles_append aligned.tiles gap, ?_⟩
    rw [spans, append_assoc]
  · refine ⟨joined.speedLimits ++ [none], ?_, ?_⟩
    · intro known
      rw [length_append, aligned.limits known, length_singleton]
      omega
    · rw [limits, append_assoc]
  · rw [shape, length_append]
  · intro index _
    apply Or.inl
    rw [shape, get_append_right]
  · intro index _
    rw [shape, Nat.add_assoc, get_append_right]

end

omit aligned

variable (reader) in
theorem route_placed (aligned : Aligned limited joined) (points : route.geometry ≠ []) :
    ∃ offset, PlacedAt reader limited joined route offset := by
  cases follows joined.geometry points with
  | first empty => exact ⟨_, placed_first aligned route empty⟩
  | shared last first ends begins same => exact ⟨_, placed_shared aligned route ends begins same⟩
  | apart last first ends begins differs =>
    exact ⟨_, placed_apart aligned route ends begins differs⟩

section

variable (formed : RouteFormed limited route) {offset : Nat}
  (placed : PlacedAt reader limited joined route offset)
include formed placed

theorem placed_aligned : Aligned limited (joinRoute reader joined route) := by
  have count : 0 < route.geometry.length := length_pos_of_ne_nil formed.points
  constructor
  · intro known
    obtain ⟨front, length, limits⟩ := placed.limits
    obtain ⟨own, given, each⟩ := formed.limits known
    rw [limits, given, getD_some, length_append, length known, each, placed.count]
    omega
  · obtain ⟨front, tiles, spans⟩ := placed.spans
    have own := tiles_shift (offset : ℤ) (capture_tiles reader route formed.points)
    rw [zero_add] at own
    have whole := tiles_append tiles own
    rw [spans, placed.count]
    convert whole using 1
    omega

theorem own_segments : List.Forall₂ StandsFor ((range (route.geometry.length - 1)).map fun index =>
        segmentAt (joinRoute reader joined route).geometry
          (if limited then some (joinRoute reader joined route).speedLimits else none)
          (receiptsAt (joinRoute reader joined route).geometryContributors) (offset + index))
      (routeSegments reader limited route) := by
  unfold routeSegments segmentsOf
  rw [forall₂_map_left_iff, forall₂_map_right_iff, forall₂_same]
  intro index member
  have inside : index < route.geometry.length - 1 := mem_range.mp member
  constructor
  · exact placed.stops index (by omega)
  · cases limited with
    | false => rfl
    | true =>
      obtain ⟨front, length, limits⟩ := placed.limits
      obtain ⟨own, given, each⟩ := formed.limits rfl
      simp only [segmentAt, if_true, bind_some]
      rw [limits, given, getD_some, bind_some, ← length rfl,
        getElem?_append_right (Nat.le_add_right _ _), Nat.add_sub_cancel_left]
  · obtain ⟨front, tiles, spans⟩ := placed.spans
    simp only [segmentAt]
    rw [spans, Nat.cast_add, receipts_right _ tiles (by omega), receipts_shift,
      captured_receipts reader route (by omega) (by omega)]
  · exact placed.starts index (by omega)

end

variable (reader) in
theorem join_segments (aligned : Aligned limited joined) (formed : RouteFormed limited route) :
    ∃ own, List.Forall₂ StandsFor own (routeSegments reader limited route) ∧
      joinedSegments limited (joinRoute reader joined route) = joinedSegments limited joined ++
          (connectingSegments limited joined.geometry route ++ own) := by
  obtain ⟨offset, placed⟩ := route_placed reader aligned formed.points
  have count : 0 < route.geometry.length := length_pos_of_ne_nil formed.points
  refine ⟨_, own_segments formed placed, ?_⟩
  have length : (joinRoute reader joined route).geometry.length - 1 =
      offset + (route.geometry.length - 1) := by
    rw [placed.count]
    omega
  rw [← append_assoc, ← placed.front]
  unfold joinedSegments segmentsOf
  rw [length, range_add, map_append, map_map]
  rfl

variable (reader) in
theorem trip_segments (routes : List (Route Receipt Content))
    (formed : ∀ route ∈ routes, RouteFormed limited route) (joined : Joined Receipt Content)
    (aligned : Aligned limited joined) : Aligned limited (routes.foldl (joinRoute reader) joined) ∧
    ∃ added, List.Forall₂ StandsFor added (tripSegments reader limited joined.geometry routes) ∧
      joinedSegments limited (routes.foldl (joinRoute reader) joined) =
        joinedSegments limited joined ++ added := by
  induction routes generalizing joined with
  | nil => exact ⟨aligned, [], .nil, by simp⟩
  | cons route later ih =>
    have first := formed route mem_cons_self
    obtain ⟨offset, placed⟩ := route_placed reader aligned first.points
    obtain ⟨own, stands, joins⟩ := join_segments reader aligned first
    obtain ⟨kept, added, addedStands, whole⟩ :=
      ih (fun other member => formed other (mem_cons_of_mem route member))
        (joinRoute reader joined route) (placed_aligned first placed)
    refine ⟨kept, connectingSegments limited joined.geometry route ++ own ++ added, ?_, ?_⟩
    · have connecting : List.Forall₂ StandsFor
          (connectingSegments limited joined.geometry route)
          (connectingSegments limited joined.geometry route) :=
        forall₂_same.mpr fun segment _ => stands_for_self segment
      exact rel_append (rel_append connecting stands) addedStands
    · rw [foldl_cons, whole, joins]
      simp only [append_assoc]

variable (reader) in
theorem joined_sums (routes : List (Route Receipt Content)) (joined : Joined Receipt Content) :
    let whole := routes.foldl (joinRoute reader) joined
    whole.distance = routes.foldl (fun sum route => sum + route.distance) joined.distance ∧
    whole.duration = routes.foldl (fun sum route => sum + route.duration) joined.duration ∧
    whole.legs = joined.legs ++ routes.flatMap Route.legs ∧
    whole.steps = joined.steps ++ routes.flatMap Route.steps := by
  induction routes generalizing joined with
  | nil => simp
  | cons route later ih =>
    have rest := ih (joinRoute reader joined route)
    simp only [foldl_cons, flatMap_cons]
    simp only [joinRoute, append_assoc] at rest ⊢
    exact rest

theorem nothing_aligned (limited : Bool) :
    Aligned limited (nothingJoined : Joined Receipt Content) :=
  ⟨fun _ => rfl, rfl⟩

theorem formed_of_limits {routes : List (Route Receipt Content)}
    (formed : ∀ route ∈ routes, route.geometry ≠ [] ∧
      ∀ limits, route.segmentSpeedLimits = some limits →
        limits.length = route.geometry.length - 1) : ∀ route ∈ routes,
      RouteFormed (routes.all fun route => route.segmentSpeedLimits.isSome) route := by
  intro route member
  refine ⟨(formed route member).1, ?_⟩
  intro limited
  have given := all_eq_true.mp limited route member
  obtain ⟨limits, same⟩ := Option.isSome_iff_exists.mp given
  exact ⟨limits, same, (formed route member).2 limits same⟩

variable (reader)

/-- The joined route has the segments of its routes in order, joined by connecting segments,
with their receipts and, where all routes have limits, with their limits; its sums and its
lists are those of the routes in order. -/
theorem joined_route_aligned (routes : List (Route Receipt Content)) (nonempty : routes ≠ [])
    (formed : ∀ route ∈ routes, route.geometry ≠ [] ∧
      ∀ limits, route.segmentSpeedLimits = some limits →
        limits.length = route.geometry.length - 1) :
    ∃ merged, concatenateRoutes reader routes = some merged ∧
      (∀ route, routes = [route] → merged = route) ∧
      (2 ≤ routes.length → ∃ spans, merged.geometryContributors = some spans ∧
        Tiles 0 (((merged.geometry.length - 1 : Nat) : ℤ)) spans ∧ List.Forall₂ StandsFor
          (segmentsOf merged.geometry merged.segmentSpeedLimits (receiptsAt spans))
          (tripSegments reader (routes.all fun route => route.segmentSpeedLimits.isSome) []
            routes)) ∧ ((routes.all fun route => route.segmentSpeedLimits.isSome) = true →
        ∃ limits, merged.segmentSpeedLimits = some limits ∧
          limits.length = merged.geometry.length - 1) ∧
      ((routes.all fun route => route.segmentSpeedLimits.isSome) = false →
        merged.segmentSpeedLimits = none) ∧
      merged.distance = routes.foldl (fun sum route => sum + route.distance) 0 ∧
      merged.duration = routes.foldl (fun sum route => sum + route.duration) 0 ∧
      merged.legs = routes.flatMap Route.legs ∧ merged.steps = routes.flatMap Route.steps := by
  match routes with
  | [] => exact absurd rfl nonempty
  | [route] =>
    refine ⟨route, rfl, ?_, ?_, ?_, ?_, ?_⟩
    · intro other same
      exact singleton_inj.mp same
    · intro two
      simp at two
    · intro limited
      simp only [all_cons, all_nil, Bool.and_true] at limited
      obtain ⟨limits, same⟩ := Option.isSome_iff_exists.mp limited
      exact ⟨limits, same, (formed route mem_cons_self).2 limits same⟩
    · intro unlimited
      simpa using unlimited
    · simp
  | first :: second :: rest =>
    have each := formed_of_limits formed
    obtain ⟨aligned, added, stands, whole⟩ := trip_segments reader
      (first :: second :: rest) each nothingJoined (nothing_aligned _)
    have sums := joined_sums reader (first :: second :: rest) nothingJoined
    refine ⟨_, rfl, ?_, ?_, ?_, ?_, sums.1, sums.2.1, sums.2.2.1, sums.2.2.2⟩
    · intro route same
      simp at same
    · intro _
      refine ⟨_, rfl, aligned.tiles, ?_⟩
      have same : joinedSegments ((first :: second :: rest).all fun route =>
          route.segmentSpeedLimits.isSome)
          (foldl (joinRoute reader) nothingJoined (first :: second :: rest)) = added :=
        whole
      rw [← same] at stands
      exact stands
    · intro limited
      refine ⟨_, if_pos limited, aligned.limits limited⟩
    · intro unlimited
      apply if_neg
      rw [unlimited]
      exact Bool.false_ne_true

end

def namedReceipts : ReceiptReader String where
  parseReceipt := some
  contributorKey := id

def road (geometry : List LngLat) (segmentSpeedLimits : Option (List (Option ℚ)))
    (geometryContributors : Option (List (GeometryContributorSpan String))) :
    Route String Unit where
  geometryContributors := geometryContributors
  contributors := none
  fieldContributors := none
  distance := 10
  duration := 1
  baselineDuration := none
  geometry := geometry
  legs := []
  steps := []
  mode := "driving"
  segmentSpeedLimits := segmentSpeedLimits
  summary := none
  hasTolls := none
  sourceIds := none
  elevation := none
  elevationInterval := none

def limitedRoad : Route String Unit := road [(0, 0), (1, 0)] (some [some 50]) none

def unlimitedRoad : Route String Unit := road [(1, 0), (2, 0)] none none

def disorderedRoad : Route String Unit :=
  road [(0, 0), (1, 0), (2, 0)] none (some [⟨1, 2, some ["b"]⟩, ⟨0, 1, some ["a"]⟩])

/-- A limit is lost beside a route without limits, and spans out of order lose their
receipts. -/
theorem limits_and_receipts_lost : limitedRoad.segmentSpeedLimits = some [some 50] ∧
    (concatenateRoutes namedReceipts [limitedRoad, unlimitedRoad]).map Route.segmentSpeedLimits =
      some none ∧ ((concatenateRoutes namedReceipts [disorderedRoad, unlimitedRoad]).bind
      Route.geometryContributors).map (fun spans => (receiptsAt spans 0, receiptsAt spans 1)) =
      some ([], []) := by
  refine ⟨rfl, by decide +kernel, by decide +kernel⟩

/-- Two roads that do not meet. -/
theorem two_roads_aligned :
    ∃ merged, concatenateRoutes namedReceipts [limitedRoad, road [(3, 0), (4, 0)] (some [none])
        (some [⟨0, 1, some ["a"]⟩])] = some merged ∧
      ∃ limits, merged.segmentSpeedLimits = some limits ∧
        limits.length = merged.geometry.length - 1 := by
  obtain ⟨merged, joined, -, -, limits, -⟩ := joined_route_aligned namedReceipts
    [limitedRoad, road [(3, 0), (4, 0)] (some [none]) (some [⟨0, 1, some ["a"]⟩])]
    (by simp) (by
      intro route member
      simp only [mem_cons, not_mem_nil, or_false] at member
      rcases member with first | second
      · rw [first]
        exact ⟨by decide, fun limits same => by rw [← Option.some.inj same]; rfl⟩
      · rw [second]
        exact ⟨by decide, fun limits same => by rw [← Option.some.inj same]; rfl⟩)
  exact ⟨merged, joined, limits rfl⟩

end OpenMapX.Routing.ConcatAlignment
