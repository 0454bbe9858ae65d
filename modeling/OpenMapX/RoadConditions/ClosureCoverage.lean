import OpenMapX.RoadConditions.Closures

/-!
# Closures are not masked

A closure for every car is masked when a local-access closure of its situation comes
before it on the same geometry object. What the loops collect lies, in every order of the
effects, between what the closures without such a companion give and what all give, and
both are reached.
-/

namespace OpenMapX.RoadConditions.ClosureCoverage

open Effects Closures List

section

variable (haversineDistance : LngLat → LngLat → ℚ)

def densified : List LngLat → List LngLat
  | [] => []
  | [last] => [last]
  | a :: b :: rest => densifySegment haversineDistance a b ++ densified (b :: rest)

def verticesWithin : Nat → List LngLat → List LngLat
  | _, [] => []
  | cap, [last] => if 0 < cap then [last] else []
  | cap, a :: b :: rest =>
    if 0 < cap then
      a :: verticesWithin (cap - (densifySegment haversineDistance a b).length) (b :: rest)
    else []

theorem push_segment (segment : List LngLat) :
    ∀ out : List LngLat, out.length < MAX_EXCLUSION_POINTS_PER_CLOSURE → pushSegment out segment =
        ((out ++ segment).take MAX_EXCLUSION_POINTS_PER_CLOSURE,
          decide (MAX_EXCLUSION_POINTS_PER_CLOSURE ≤ (out ++ segment).length)) := by
  induction segment with
  | nil =>
    intro out room
    simp [pushSegment, take_of_length_le (Nat.le_of_lt room), room]
  | cons pt rest ih =>
    intro out room
    have split : out ++ pt :: rest = (out ++ [pt]) ++ rest := by simp
    unfold pushSegment
    dsimp only
    split
    · rename_i full
      have exact_length : (out ++ [pt]).length = MAX_EXCLUSION_POINTS_PER_CLOSURE := by
        apply le_antisymm
        · rw [length_append, length_singleton]
          exact room
        · exact full
      rw [split, take_append_of_le_length exact_length.ge,
        take_of_length_le exact_length.le, Prod.mk.injEq]
      apply And.intro rfl
      symm
      apply decide_eq_true
      rw [length_append]
      exact full.trans (Nat.le_add_right _ _)
    · rename_i more
      rw [ih _ (Nat.lt_of_not_le more), split]

theorem densify_vertices (vertices : List LngLat) :
    ∀ out : List LngLat, out.length < MAX_EXCLUSION_POINTS_PER_CLOSURE →
      densifyVertices haversineDistance out vertices =
        (out ++ densified haversineDistance vertices).take MAX_EXCLUSION_POINTS_PER_CLOSURE := by
  induction vertices with
  | nil =>
    intro out room
    simp [densifyVertices, densified, take_of_length_le (Nat.le_of_lt room)]
  | cons a rest ih =>
    intro out room
    cases rest with
    | nil =>
      have fits : (out ++ [a]).length ≤ MAX_EXCLUSION_POINTS_PER_CLOSURE := by
        rw [length_append, length_singleton]
        exact room
      rw [densifyVertices, densified, if_pos room, take_of_length_le fits]
    | cons b rest =>
      rw [densifyVertices, densified, push_segment _ _ room, ← append_assoc]
      by_cases full : MAX_EXCLUSION_POINTS_PER_CLOSURE ≤
          (out ++ densifySegment haversineDistance a b).length
      · rw [decide_eq_true full, take_append_of_le_length full]
      · have open_room := Nat.lt_of_not_le full
        rw [decide_eq_false full, take_of_length_le (Nat.le_of_lt open_room)]
        exact ih _ open_room

theorem densify_line (coords : List Position) : densifyLine haversineDistance coords =
      (densified haversineDistance (sampleCoords coords)).take
        MAX_EXCLUSION_POINTS_PER_CLOSURE := by
  unfold densifyLine
  generalize sampleCoords coords = vertices
  split
  · rfl
  · rfl
  · rw [densify_vertices haversineDistance vertices [] (by decide), nil_append]

theorem segment_start (a b : LngLat) :
    ∃ rest, densifySegment haversineDistance a b = a :: rest := by
  unfold densifySegment
  dsimp only
  split
  · exact ⟨[], rfl⟩
  · rename_i many
    cases steps : ⌈haversineDistance a b / MAX_EXCLUSION_SPACING_M⌉.toNat with
    | zero =>
      rw [steps] at many
      exact absurd (Nat.zero_le 1) many
    | succ n =>
      rw [range_succ_eq_map, map_cons]
      simp only [Nat.cast_zero, zero_div, mul_zero, add_zero]
      exact ⟨_, rfl⟩

theorem vertices_taken (vertices : List LngLat) :
    ∀ (cap : Nat), ∀ vertex ∈ verticesWithin haversineDistance cap vertices,
      vertex ∈ (densified haversineDistance vertices).take cap := by
  induction vertices with
  | nil =>
    intro cap vertex member
    cases member
  | cons a rest ih =>
    intro cap vertex member
    cases rest with
    | nil =>
      unfold verticesWithin at member
      split at member
      · rename_i room
        rw [densified, take_of_length_le (by exact room)]
        exact member
      · cases member
    | cons b rest =>
      unfold verticesWithin at member
      split at member
      · rename_i room
        rw [densified, take_append]
        apply mem_append.mpr
        rcases mem_cons.mp member with same | later
        · apply Or.inl
          obtain ⟨between, shape⟩ := segment_start haversineDistance a b
          rw [shape, same, ← Nat.succ_pred_eq_of_pos room, take_succ_cons]
          exact mem_cons_self
        · exact Or.inr (ih _ vertex later)
      · cases member

end

section

variable (haversineDistance : LngLat → LngLat → ℚ)

def lineVertices (coordinates : List Position) : List LngLat :=
  verticesWithin haversineDistance MAX_EXCLUSION_POINTS_PER_CLOSURE (sampleCoords coordinates)

mutual

def vertices : Geometry → List LngLat
  | .point coordinates => (toLngLat coordinates).toList
  | .multiPoint coordinates => sampleCoords coordinates
  | .lineString coordinates => lineVertices haversineDistance coordinates
  | .multiLineString coordinates => coordinates.flatMap (lineVertices haversineDistance)
  | .polygon coordinates => outerRing coordinates
  | .multiPolygon coordinates => coordinates.flatMap outerRing
  | .geometryCollection geometries => verticesOfAll geometries
  | .unknown => []

def verticesOfAll : List Geometry → List LngLat
  | [] => []
  | geometry :: rest => vertices geometry ++ verticesOfAll rest

end

mutual

def thinRings : Geometry → List (List LngLat)
  | .polygon coordinates => [outerRing coordinates].filter fun ring => ring.length < 3
  | .multiPolygon coordinates => (coordinates.map outerRing).filter fun ring => ring.length < 3
  | .geometryCollection geometries => thinRingsOfAll geometries
  | _ => []

def thinRingsOfAll : List Geometry → List (List LngLat)
  | [] => []
  | geometry :: rest => thinRings geometry ++ thinRingsOfAll rest

end

/-- A position is one of the excluded points or a vertex of an excluded polygon. -/
def Excludes (points : List LngLat) (polygons : List (List LngLat)) (p : LngLat) : Prop :=
  p ∈ points ∨ ∃ polygon ∈ polygons, p ∈ polygon

theorem excludes_append {first second : Exclusions} {p : LngLat}
    (either : Excludes first.points first.polygons p ∨ Excludes second.points second.polygons p) :
    Excludes (first.append second).points (first.append second).polygons p := by
  unfold Exclusions.append
  rcases either with own | own
  · rcases own with point | corner
    · exact Or.inl (mem_append_left _ point)
    · obtain ⟨polygon, member, inside⟩ := corner
      exact Or.inr ⟨polygon, mem_append_left _ member, inside⟩
  · rcases own with point | corner
    · exact Or.inl (mem_append_right _ point)
    · obtain ⟨polygon, member, inside⟩ := corner
      exact Or.inr ⟨polygon, mem_append_right _ member, inside⟩

theorem line_vertex_excluded {coordinates} {vertex : LngLat}
    (member : vertex ∈ lineVertices haversineDistance coordinates) :
    vertex ∈ densifyLine haversineDistance coordinates := by
  rw [densify_line]
  exact vertices_taken haversineDistance _ _ vertex member

theorem ring_vertex_excluded {ring} {vertex : LngLat} (member : vertex ∈ ring) :
    (∃ polygon ∈ polygonOf ring, vertex ∈ polygon) ∨ ring.length < 3 := by
  unfold polygonOf
  by_cases wide : 3 ≤ ring.length
  · rw [if_pos wide]
    exact Or.inl ⟨ring, mem_singleton_self ring, member⟩
  · exact Or.inr (Nat.lt_of_not_le wide)

mutual

theorem vertex_excluded (geometry : Geometry) (vertex : LngLat)
    (member : vertex ∈ vertices haversineDistance geometry) :
    Excludes (geometryToExclusions haversineDistance geometry).points
        (geometryToExclusions haversineDistance geometry).polygons vertex ∨
      ∃ ring ∈ thinRings geometry, vertex ∈ ring := by
  cases geometry with
  | point coordinates =>
    rw [vertices] at member
    rw [geometryToExclusions]
    exact Or.inl (Or.inl member)
  | multiPoint coordinates =>
    rw [vertices] at member
    rw [geometryToExclusions]
    exact Or.inl (Or.inl member)
  | lineString coordinates =>
    rw [vertices] at member
    rw [geometryToExclusions]
    exact Or.inl (Or.inl (line_vertex_excluded haversineDistance member))
  | multiLineString coordinates =>
    rw [vertices] at member
    rw [geometryToExclusions]
    obtain ⟨line, line_member, inside⟩ := mem_flatMap.mp member
    apply Or.inl
    apply Or.inl
    apply mem_flatMap.mpr
    exact ⟨line, line_member, line_vertex_excluded haversineDistance inside⟩
  | polygon coordinates =>
    rw [vertices] at member
    rw [geometryToExclusions, thinRings]
    rcases ring_vertex_excluded member with corner | thin
    · exact Or.inl (Or.inr corner)
    · apply Or.inr
      exact ⟨outerRing coordinates, mem_filter.mpr
        ⟨mem_singleton_self _, decide_eq_true thin⟩, member⟩
  | multiPolygon coordinates =>
    rw [vertices] at member
    rw [geometryToExclusions, thinRings]
    obtain ⟨rings, rings_member, inside⟩ := mem_flatMap.mp member
    rcases ring_vertex_excluded inside with corner | thin
    · obtain ⟨polygon, polygon_member, cornered⟩ := corner
      apply Or.inl
      apply Or.inr
      exact ⟨polygon, mem_flatMap.mpr ⟨rings, rings_member, polygon_member⟩, cornered⟩
    · apply Or.inr
      exact ⟨outerRing rings, mem_filter.mpr
        ⟨mem_map_of_mem rings_member, decide_eq_true thin⟩, inside⟩
  | geometryCollection geometries =>
    rw [vertices] at member
    rw [geometryToExclusions, thinRings]
    exact vertex_of_all_excluded geometries vertex member
  | unknown =>
    rw [vertices] at member
    cases member

theorem vertex_of_all_excluded (geometries : List Geometry) (vertex : LngLat)
    (member : vertex ∈ verticesOfAll haversineDistance geometries) :
    Excludes (exclusionsOfAll haversineDistance geometries).points
        (exclusionsOfAll haversineDistance geometries).polygons vertex ∨
      ∃ ring ∈ thinRingsOfAll geometries, vertex ∈ ring := by
  cases geometries with
  | nil =>
    rw [verticesOfAll] at member
    cases member
  | cons geometry rest =>
    rw [verticesOfAll] at member
    rw [exclusionsOfAll, thinRingsOfAll]
    rcases mem_append.mp member with own | later
    · rcases vertex_excluded geometry vertex own with excluded | thin
      · exact Or.inl (excludes_append (Or.inl excluded))
      · obtain ⟨ring, ring_member, inside⟩ := thin
        exact Or.inr ⟨ring, mem_append_left _ ring_member, inside⟩
    · rcases vertex_of_all_excluded rest vertex later with excluded | thin
      · exact Or.inl (excludes_append (Or.inr excluded))
      · obtain ⟨ring, ring_member, inside⟩ := thin
        exact Or.inr ⟨ring, mem_append_right _ ring_member, inside⟩

end

mutual

theorem thin_ring_vertices (geometry : Geometry) (ring : List LngLat)
    (member : ring ∈ thinRings geometry) :
    ∀ vertex ∈ ring, vertex ∈ vertices haversineDistance geometry := by
  cases geometry with
  | polygon coordinates =>
    rw [thinRings] at member
    rw [vertices, ← mem_singleton.mp (mem_filter.mp member).1]
    exact fun _ inside => inside
  | multiPolygon coordinates =>
    rw [thinRings] at member
    obtain ⟨rings, rings_member, same⟩ := mem_map.mp (mem_filter.mp member).1
    intro vertex inside
    rw [vertices]
    apply mem_flatMap.mpr
    exact ⟨rings, rings_member, same ▸ inside⟩
  | geometryCollection geometries =>
    rw [thinRings] at member
    rw [vertices]
    exact thin_ring_of_all_vertices geometries ring member
  | point coordinates => simp [thinRings] at member
  | multiPoint coordinates => simp [thinRings] at member
  | lineString coordinates => simp [thinRings] at member
  | multiLineString coordinates => simp [thinRings] at member
  | unknown => simp [thinRings] at member

theorem thin_ring_of_all_vertices (geometries : List Geometry) (ring : List LngLat)
    (member : ring ∈ thinRingsOfAll geometries) :
    ∀ vertex ∈ ring, vertex ∈ verticesOfAll haversineDistance geometries := by
  cases geometries with
  | nil =>
    rw [thinRingsOfAll] at member
    cases member
  | cons geometry rest =>
    rw [thinRingsOfAll] at member
    intro vertex inside
    rw [verticesOfAll]
    rcases mem_append.mp member with own | later
    · exact mem_append_left _ (thin_ring_vertices geometry ring own vertex inside)
    · exact mem_append_right _
        (thin_ring_of_all_vertices rest ring later vertex inside)

end

end

section

variable {Timing : Type} (deps : ClosureDeps Timing) (context : RouteContext)

/-- The geometry object of an effect that closes the road by its geometry, and whether the
closure excepts local access. -/
def closureOf (event : Situation Timing) (effect : RoadConditionEffect Timing) :
    Option (Address × Bool) :=
  if (assessRoadConditionForRoute deps context false true event effect).disposition =
        .legacyGeometry ∧
      isCrowdNonRoutable event = false ∧ closesRoadForCars effect = true ∧
      deps.inForceAt event effect = true then
    (effectGeometry event effect).map fun place => (place, isLocalAccessClosure effect)
  else none

def sharedHardLines (event : Situation Timing) (effect : RoadConditionEffect Timing) :
    List (List LngLat) :=
  if (assessRoadConditionForRoute deps context false true event effect).disposition ≠
        .legacyGeometry ∧
      (closesRoadForCars effect &&
        (assessRoadConditionForRoute deps context true false event effect).disposition =
          .sharedTraffic) = true ∧
      isLocalAccessClosure effect = false then
    (effectGeometry event effect).toList.flatMap fun place =>
      geometryLines (deps.geometryAt place)
  else []

def closedPlaces (event : Situation Timing) :
    List Address → List (RoadConditionEffect Timing) → List Address
  | _, [] => []
  | excluded, effect :: rest =>
    match closureOf deps context event effect with
    | none => closedPlaces event excluded rest
    | some (place, excepts) =>
      if place ∈ excluded then closedPlaces event excluded rest
      else if excepts then closedPlaces event (place :: excluded) rest
      else place :: closedPlaces event (place :: excluded) rest

/-- What is added: the exclusions and lines of some places, and lines of shared traffic. -/
structure Adds (before after : Collected) (places : List Address)
    (lines : List (List LngLat)) : Prop where
  points : ∀ p, p ∈ after.exclusions.points ↔ p ∈ before.exclusions.points ∨
    ∃ place ∈ places,
      p ∈ (geometryToExclusions deps.haversineDistance (deps.geometryAt place)).points
  polygons : ∀ polygon, polygon ∈ after.exclusions.polygons ↔
    polygon ∈ before.exclusions.polygons ∨
      ∃ place ∈ places,
        polygon ∈ (geometryToExclusions deps.haversineDistance (deps.geometryAt place)).polygons
  hardLines : ∀ line, line ∈ after.hardLines ↔ line ∈ before.hardLines ∨ line ∈ lines ∨
    ∃ place ∈ places, line ∈ geometryLines (deps.geometryAt place)

theorem adds_nothing {before after} (exclusions : after.exclusions = before.exclusions)
    (hardLines : after.hardLines = before.hardLines) : Adds deps before after [] [] := by
  apply Adds.mk
  · simp [exclusions]
  · simp [exclusions]
  · simp [hardLines]

variable {deps} in
theorem Adds.of_same {before noted after places lines} (adds : Adds deps noted after places lines)
    (exclusions : noted.exclusions = before.exclusions)
    (hardLines : noted.hardLines = before.hardLines) : Adds deps before after places lines := by
  apply Adds.mk
  · rw [← exclusions]
    exact adds.points
  · rw [← exclusions]
    exact adds.polygons
  · rw [← hardLines]
    exact adds.hardLines

variable {deps} in
theorem Adds.trans {before middle after places more lines further}
    (first : Adds deps before middle places lines) (second : Adds deps middle after more further) :
    Adds deps before after (places ++ more) (lines ++ further) := by
  apply Adds.mk
  · intro p
    rw [second.points, first.points, or_assoc]
    simp only [mem_append, or_and_right, exists_or]
  · intro polygon
    rw [second.polygons, first.polygons, or_assoc]
    simp only [mem_append, or_and_right, exists_or]
  · intro line
    rw [second.hardLines, first.hardLines]
    simp only [mem_append, or_and_right, exists_or]
    rw [or_assoc, or_or_or_comm]

def nextExcluded (event : Situation Timing) (excluded : List Address)
    (effect : RoadConditionEffect Timing) : List Address :=
  match closureOf deps context event effect with
  | none => excluded
  | some (place, _) => if place ∈ excluded then excluded else place :: excluded

section

variable (event : Situation Timing)

theorem closed_places_cons (excluded : List Address) (effect rest) :
    closedPlaces deps context event excluded (effect :: rest) =
      closedPlaces deps context event excluded [effect] ++
        closedPlaces deps context event (nextExcluded deps context event excluded effect) rest := by
  simp only [closedPlaces, nextExcluded]
  cases closureOf deps context event effect with
  | none => rfl
  | some closure =>
    cases closure with
    | mk place excepts =>
      dsimp only
      by_cases known : place ∈ excluded
      · simp only [if_pos known, nil_append]
      · cases excepts with
        | true => simp only [if_neg known, if_true, nil_append]
        | false => simp [if_neg known]

theorem shared_traffic_adds (effect) (found : Collected)
    (other : (assessRoadConditionForRoute deps context false true event effect).disposition ≠
      .legacyGeometry) : Adds deps found (sharedTrafficLines deps context event effect found) []
      (sharedHardLines deps context event effect) := by
  unfold sharedTrafficLines sharedHardLines
  by_cases closes : (closesRoadForCars effect &&
      (assessRoadConditionForRoute deps context true false event effect).disposition =
        .sharedTraffic) = true
  · rw [if_pos closes]
    cases effectGeometry event effect with
    | none =>
      simp only [Option.toList_none, flatMap_nil, ite_self]
      exact adds_nothing deps rfl rfl
    | some place =>
      dsimp only
      cases excepts : isLocalAccessClosure effect with
      | true =>
        simp only [if_true, Bool.true_eq_false, and_false, if_false]
        exact adds_nothing deps rfl rfl
      | false =>
        rw [if_neg Bool.false_ne_true, if_pos ⟨other, closes, rfl⟩]
        apply Adds.mk <;> simp
  · rw [if_neg closes, if_neg (fun all => closes all.2.1)]
    exact adds_nothing deps rfl rfl

theorem legacy_closure_adds (effect) (found : Collected) (excluded : List Address)
    (legacy : (assessRoadConditionForRoute deps context false true event effect).disposition =
      .legacyGeometry) : Adds deps found (legacyClosure deps event effect found excluded).1
        (closedPlaces deps context event excluded [effect]) [] ∧
      (legacyClosure deps event effect found excluded).2 =
        nextExcluded deps context event excluded effect := by
  have skipped (untouched : closureOf deps context event effect = none) :
      Adds deps found found (closedPlaces deps context event excluded [effect]) [] ∧
        excluded = nextExcluded deps context event excluded effect := by
    simp only [closedPlaces, nextExcluded, untouched]
    exact And.intro (adds_nothing deps rfl rfl) trivial
  unfold legacyClosure
  cases crowd : isCrowdNonRoutable event with
  | true => exact skipped (by simp [closureOf, crowd])
  | false =>
    cases closes : closesRoadForCars effect with
    | false => exact skipped (by simp [closureOf, closes])
    | true =>
      cases inForce : deps.inForceAt event effect with
      | false => exact skipped (by simp [closureOf, inForce])
      | true =>
        have closure : closureOf deps context event effect =
            (effectGeometry event effect).map fun place =>
              (place, isLocalAccessClosure effect) := by
          unfold closureOf
          rw [if_pos ⟨legacy, crowd, closes, inForce⟩]
        cases placed : effectGeometry event effect with
        | none =>
          rw [placed] at closure
          exact skipped closure
        | some place =>
          rw [placed] at closure
          simp only [closedPlaces, nextExcluded, closure, Option.map_some]
          by_cases known : place ∈ excluded
          · simp only [contains_iff_mem.mpr known, if_pos known, Bool.not_true,
              Bool.false_eq_true, if_false, if_true]
            exact And.intro (adds_nothing deps rfl rfl) trivial
          · have unknown : excluded.contains place = false := by
              simpa using known
            simp only [unknown, if_neg known, Bool.not_true, Bool.false_eq_true,
              if_false]
            cases isLocalAccessClosure effect with
            | true => exact And.intro (adds_nothing deps rfl rfl) rfl
            | false =>
              apply And.intro
              · apply Adds.mk <;> simp [Exclusions.append]
              · rfl

theorem effect_step_adds (state effect) :
    Adds deps state.1 (effectStep deps context event state effect).1
        (closedPlaces deps context event state.2 [effect])
        (sharedHardLines deps context event effect) ∧
      (effectStep deps context event state effect).2 =
        nextExcluded deps context event state.2 effect := by
  unfold effectStep
  dsimp only
  by_cases legacy : (assessRoadConditionForRoute deps context false true event
      effect).disposition = .legacyGeometry
  · rw [if_neg (fun other => other legacy)]
    have lines : sharedHardLines deps context event effect = [] := by
      unfold sharedHardLines
      rw [if_neg (fun all => all.1 legacy)]
    rw [lines]
    have closing := legacy_closure_adds deps context event effect
      { state.1 with
        assessmentReasons := addReasons state.1.assessmentReasons
          (assessRoadConditionForRoute deps context false true event effect).reasons
        deadlines := state.1.deadlines ++
          (assessRoadConditionForRoute deps context false true event effect).validUntil.toList
        sawLegacyGeometry := true }
      state.2 legacy
    exact And.intro (closing.1.of_same rfl rfl) closing.2
  · rw [if_pos legacy]
    have none_closed : closureOf deps context event effect = none := by
      unfold closureOf
      rw [if_neg (fun all => legacy all.1)]
    simp only [closedPlaces, nextExcluded, none_closed]
    have shared := shared_traffic_adds deps context event effect
      { state.1 with
        assessmentReasons := addReasons state.1.assessmentReasons
          (assessRoadConditionForRoute deps context false true event effect).reasons
        deadlines := state.1.deadlines ++
          (assessRoadConditionForRoute deps context false true event effect).validUntil.toList }
      legacy
    exact And.intro (shared.of_same rfl rfl) trivial

theorem effects_add (effects) : ∀ state : Collected × List Address,
      Adds deps state.1 (effects.foldl (effectStep deps context event) state).1
        (closedPlaces deps context event state.2 effects)
        (effects.flatMap (sharedHardLines deps context event)) := by
  induction effects with
  | nil =>
    intro state
    exact adds_nothing deps rfl rfl
  | cons effect rest ih =>
    intro state
    have one := effect_step_adds deps context event state effect
    rw [foldl_cons, closed_places_cons, flatMap_cons, ← one.2]
    exact one.1.trans (ih _)

end

def Allowed (event : RoadConditionEvent Timing) : Prop :=
  context.disallowedSources.contains event.source = false

def eventPlaces (event : RoadConditionEvent Timing) : List Address :=
  if context.disallowedSources.contains event.source then []
  else closedPlaces deps context event.toSituation [] event.effects

def eventLines (event : RoadConditionEvent Timing) : List (List LngLat) :=
  if context.disallowedSources.contains event.source then []
  else event.effects.flatMap (sharedHardLines deps context event.toSituation)

def eventsOf : ProviderResult Timing → List (RoadConditionEvent Timing)
  | .rejected => []
  | .fulfilled events => events

theorem event_adds (found : Collected) (event) :
    Adds deps found (eventStep deps context found event) (eventPlaces deps context event)
      (eventLines deps context event) := by
  unfold eventStep eventPlaces eventLines
  by_cases barred : context.disallowedSources.contains event.source = true
  · simp only [if_pos barred]
    exact adds_nothing deps rfl rfl
  · simp only [if_neg barred]
    have seen : Adds deps found
        { found with
          sawRoutingEvidence := found.sawRoutingEvidence || event.routingEvidence.isSome }
        [] [] := adds_nothing deps rfl rfl
    exact seen.trans (effects_add deps context event.toSituation event.effects (_, []))

theorem events_add (events : List (RoadConditionEvent Timing)) : ∀ found : Collected,
      Adds deps found (events.foldl (eventStep deps context) found)
        (events.flatMap (eventPlaces deps context)) (events.flatMap (eventLines deps context)) := by
  induction events with
  | nil =>
    intro found
    exact adds_nothing deps rfl rfl
  | cons event rest ih =>
    intro found
    exact (event_adds deps context found event).trans (ih _)

theorem result_adds (found : Collected) (result : ProviderResult Timing) :
    Adds deps found (resultStep deps context found result)
      ((eventsOf result).flatMap (eventPlaces deps context))
      ((eventsOf result).flatMap (eventLines deps context)) := by
  cases result with
  | rejected => exact adds_nothing deps rfl rfl
  | fulfilled events => exact events_add deps context events found

theorem results_add (results : List (ProviderResult Timing)) : ∀ found : Collected,
      Adds deps found (results.foldl (resultStep deps context) found)
        ((results.flatMap eventsOf).flatMap (eventPlaces deps context))
        ((results.flatMap eventsOf).flatMap (eventLines deps context)) := by
  induction results with
  | nil =>
    intro found
    exact adds_nothing deps rfl rfl
  | cons result rest ih =>
    intro found
    rw [flatMap_cons, flatMap_append, flatMap_append]
    exact (result_adds deps context found result).trans (ih _)

def ClosedAt (event : RoadConditionEvent Timing) (place : Address) : Prop :=
  ∃ effect ∈ event.effects, closureOf deps context event.toSituation effect = some (place, false)

def RelaxedAt (event : RoadConditionEvent Timing) (place : Address) : Prop :=
  ∃ effect ∈ event.effects, closureOf deps context event.toSituation effect = some (place, true)

theorem closed_places_closed (event : Situation Timing) {place : Address} (effects) :
    ∀ excluded : List Address, place ∈ closedPlaces deps context event excluded effects →
      place ∉ excluded ∧
        ∃ effect ∈ effects, closureOf deps context event effect = some (place, false) := by
  induction effects with
  | nil =>
    intro excluded member
    cases member
  | cons effect rest ih =>
    have later : ∀ excluded : List Address,
        place ∈ closedPlaces deps context event excluded rest → place ∉ excluded ∧
          ∃ other ∈ effect :: rest,
            closureOf deps context event other = some (place, false) := by
      intro excluded member
      obtain ⟨fresh, other, other_member, closes⟩ := ih excluded member
      exact ⟨fresh, other, mem_cons_of_mem _ other_member, closes⟩
    intro excluded member
    unfold closedPlaces at member
    split at member
    · exact later excluded member
    · rename_i own excepts closes
      split at member
      · exact later excluded member
      · rename_i fresh
        split at member
        · have found := later _ member
          exact And.intro (fun known => found.1 (mem_cons_of_mem _ known)) found.2
        · rename_i closed
          rcases mem_cons.mp member with same | behind
          · rw [same]
            apply And.intro fresh
            exact ⟨effect, mem_cons_self, by
              rw [closes, Bool.eq_false_of_not_eq_true closed]⟩
          · have found := later _ behind
            exact And.intro (fun known => found.1 (mem_cons_of_mem _ known)) found.2

section

variable (event : Situation Timing) {place : Address}
  (rest first : List (RoadConditionEffect Timing))

theorem place_closed : ∀ excluded : List Address, place ∉ excluded →
      (∃ effect ∈ first, closureOf deps context event effect = some (place, false)) →
      (∀ effect ∈ first, closureOf deps context event effect ≠ some (place, true)) →
        place ∈ closedPlaces deps context event excluded (first ++ rest) := by
  induction first with
  | nil =>
    intro excluded fresh hard
    obtain ⟨effect, member, closes⟩ := hard
    cases member
  | cons effect later ih =>
    intro excluded fresh hard alone
    have own := alone effect mem_cons_self
    have rest_alone : ∀ other ∈ later,
        closureOf deps context event other ≠ some (place, true) :=
      fun other member => alone other (mem_cons_of_mem _ member)
    rw [cons_append, closedPlaces]
    cases closes : closureOf deps context event effect with
    | none =>
      apply ih excluded fresh _ rest_alone
      obtain ⟨other, member, other_closes⟩ := hard
      rcases mem_cons.mp member with same | behind
      · rw [same, closes] at other_closes
        cases other_closes
      · exact ⟨other, behind, other_closes⟩
    | some closure =>
      cases closure with
      | mk there excepts =>
        by_cases same : there = place
        · rw [same] at closes
          cases excepts with
          | true => exact absurd closes own
          | false =>
            dsimp only
            rw [same, if_neg fresh, if_neg Bool.false_ne_true]
            exact mem_cons_self
        · have behind : ∃ other ∈ later,
              closureOf deps context event other = some (place, false) := by
            obtain ⟨other, member, other_closes⟩ := hard
            rcases mem_cons.mp member with is_own | member
            · rw [is_own, closes, Option.some.injEq, Prod.mk.injEq] at other_closes
              exact absurd other_closes.1 same
            · exact ⟨other, member, other_closes⟩
          have still_fresh : place ∉ there :: excluded := by
            rw [mem_cons, not_or]
            exact And.intro (fun is_there => same is_there.symm) fresh
          dsimp only
          split
          · exact ih excluded fresh behind rest_alone
          · split
            · exact ih _ still_fresh behind rest_alone
            · exact mem_cons_of_mem _ (ih _ still_fresh behind rest_alone)

theorem place_masked : ∀ excluded : List Address,
      (∃ effect ∈ first, closureOf deps context event effect = some (place, true)) →
      (∀ effect ∈ first, closureOf deps context event effect ≠ some (place, false)) →
        place ∉ closedPlaces deps context event excluded (first ++ rest) := by
  induction first with
  | nil =>
    intro excluded soft
    obtain ⟨effect, member, closes⟩ := soft
    cases member
  | cons effect later ih =>
    intro excluded soft alone
    have own := alone effect mem_cons_self
    have rest_alone : ∀ other ∈ later,
        closureOf deps context event other ≠ some (place, false) :=
      fun other member => alone other (mem_cons_of_mem _ member)
    rw [cons_append, closedPlaces]
    cases closes : closureOf deps context event effect with
    | none =>
      apply ih excluded _ rest_alone
      obtain ⟨other, member, other_closes⟩ := soft
      rcases mem_cons.mp member with same | behind
      · rw [same, closes] at other_closes
        cases other_closes
      · exact ⟨other, behind, other_closes⟩
    | some closure =>
      cases closure with
      | mk there excepts =>
        by_cases same : there = place
        · rw [same] at closes
          cases excepts with
          | false => exact absurd closes own
          | true =>
            dsimp only
            rw [same]
            split
            · rename_i known
              intro member
              exact (closed_places_closed deps context event _ _ member).1 known
            · intro member
              exact (closed_places_closed deps context event _ _ member).1
                mem_cons_self
        · have behind : ∃ other ∈ later,
              closureOf deps context event other = some (place, true) := by
            obtain ⟨other, member, other_closes⟩ := soft
            rcases mem_cons.mp member with is_own | member
            · rw [is_own, closes, Option.some.injEq, Prod.mk.injEq] at other_closes
              exact absurd other_closes.1 same
            · exact ⟨other, member, other_closes⟩
          dsimp only
          split
          · exact ih excluded behind rest_alone
          · split
            · exact ih _ behind rest_alone
            · intro member
              rcases mem_cons.mp member with is_there | deeper
              · exact same is_there.symm
              · exact ih _ behind rest_alone deeper

end

end

end OpenMapX.RoadConditions.ClosureCoverage
