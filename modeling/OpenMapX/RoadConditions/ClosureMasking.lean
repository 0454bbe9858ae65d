import OpenMapX.RoadConditions.ClosureCoverage

/-!
# When no closure is masked

Every order of the effects returns all that an official closure asks for, and the same
exclusions, exactly when the closures that share their geometry object with a local-access
closure of their situation add nothing to the others.
-/

namespace OpenMapX.RoadConditions.ClosureMasking

open Effects Closures ClosureCoverage List

section

variable {Timing : Type} (deps : ClosureDeps Timing) (context : RouteContext)

/-- An effect that closes the road to cars without excepting local access, is in force, is
judged by its geometry and is not withheld. -/
structure HardClosure (event : Situation Timing) (effect : RoadConditionEffect Timing) : Prop where
  legacy : (assessRoadConditionForRoute deps context false true event effect).disposition =
    .legacyGeometry
  routable : isCrowdNonRoutable event = false
  closes : closesRoadForCars effect = true
  forEveryone : isLocalAccessClosure effect = false
  inForce : deps.inForceAt event effect = true

structure Covered (out : ClosureExclusions) (geometry : Geometry) : Prop where
  vertices : ∀ vertex ∈ vertices deps.haversineDistance geometry,
    Excludes out.points out.polygons vertex
  lines : ∀ line ∈ geometryLines geometry, line ∈ out.hardLines

structure SameExclusions (first second : ClosureExclusions) : Prop where
  points : ∀ p, p ∈ first.points ↔ p ∈ second.points
  polygons : ∀ polygon, polygon ∈ first.polygons ↔ polygon ∈ second.polygons

def ReorderedEvent (event reordered : RoadConditionEvent Timing) : Prop :=
  reordered.toSituation = event.toSituation ∧ reordered.effects.Perm event.effects

def ReorderedResult : ProviderResult Timing → ProviderResult Timing → Prop
  | .rejected, .rejected => True
  | .fulfilled events, .fulfilled reordered => List.Forall₂ ReorderedEvent events reordered
  | _, _ => False

/-- In every order of the effects, no closure is masked and the exclusions are the same. -/
def NeverMasked (results : List (ProviderResult Timing)) : Prop :=
  ∀ reordered, List.Forall₂ ReorderedResult results reordered →
    (∀ event ∈ reordered.flatMap eventsOf, Allowed context event →
      ∀ effect ∈ event.effects, HardClosure deps context event.toSituation effect →
        ∀ place, effectGeometry event.toSituation effect = some place →
          Covered deps (activeClosuresForBbox deps context reordered)
            (deps.geometryAt place)) ∧
    SameExclusions (activeClosuresForBbox deps context results)
      (activeClosuresForBbox deps context reordered)

section

variable (chosen : RoadConditionEvent Timing → Address → Prop)
  (events : List (RoadConditionEvent Timing))

def GivenPoint (p : LngLat) : Prop :=
  ∃ event ∈ events, Allowed context event ∧ ∃ place, chosen event place ∧
    p ∈ (geometryToExclusions deps.haversineDistance (deps.geometryAt place)).points

def GivenPolygon (polygon : List LngLat) : Prop :=
  ∃ event ∈ events, Allowed context event ∧ ∃ place, chosen event place ∧
    polygon ∈ (geometryToExclusions deps.haversineDistance (deps.geometryAt place)).polygons

def GivenLine (line : List LngLat) : Prop :=
  ∃ event ∈ events, Allowed context event ∧
    ((∃ effect ∈ event.effects, line ∈ sharedHardLines deps context event.toSituation effect) ∨
      ∃ place, chosen event place ∧ line ∈ geometryLines (deps.geometryAt place))

def GivenVertex (vertex : LngLat) : Prop :=
  GivenPoint deps context chosen events vertex ∨
    ∃ polygon, GivenPolygon deps context chosen events polygon ∧ vertex ∈ polygon

end

def ClearAt (event : RoadConditionEvent Timing) (place : Address) : Prop :=
  ClosedAt deps context event place ∧ ¬RelaxedAt deps context event place

/-- What the closures that share their object add is there anyway, and so are the positions
of rings that are no polygons. -/
structure StandAlone (results : List (ProviderResult Timing)) : Prop where
  shared : ∀ event ∈ results.flatMap eventsOf, Allowed context event → ∀ place,
    ClosedAt deps context event place → RelaxedAt deps context event place →
      (∀ p ∈ (geometryToExclusions deps.haversineDistance (deps.geometryAt place)).points,
        GivenPoint deps context (ClearAt deps context) (results.flatMap eventsOf) p) ∧
      (∀ polygon ∈
          (geometryToExclusions deps.haversineDistance (deps.geometryAt place)).polygons,
        GivenPolygon deps context (ClearAt deps context) (results.flatMap eventsOf) polygon) ∧
      ∀ line ∈ geometryLines (deps.geometryAt place),
        GivenLine deps context (ClearAt deps context) (results.flatMap eventsOf) line
  thin : ∀ event ∈ results.flatMap eventsOf, Allowed context event → ∀ place,
    ClosedAt deps context event place → ∀ ring ∈ thinRings (deps.geometryAt place),
      ∀ vertex ∈ ring,
        GivenVertex deps context (ClearAt deps context) (results.flatMap eventsOf) vertex

def KeptAt (event : RoadConditionEvent Timing) (place : Address) : Prop :=
  place ∈ closedPlaces deps context event.toSituation [] event.effects

variable {event : RoadConditionEvent Timing} {place : Address}

theorem mem_event_places : place ∈ eventPlaces deps context event ↔
      Allowed context event ∧ KeptAt deps context event place := by
  unfold eventPlaces Allowed KeptAt
  cases context.disallowedSources.contains event.source <;> simp

theorem mem_event_lines {line} : line ∈ eventLines deps context event ↔ Allowed context event ∧
      ∃ effect ∈ event.effects, line ∈ sharedHardLines deps context event.toSituation effect := by
  unfold eventLines Allowed
  cases context.disallowedSources.contains event.source <;> simp

theorem returned_fields (results : List (ProviderResult Timing)) :
    let out := activeClosuresForBbox deps context results
    let found := collect deps context results
    out.points = found.exclusions.points ∧ out.polygons = found.exclusions.polygons ∧
      out.hardLines = found.hardLines := by
  intro out found
  cases results with
  | nil => exact ⟨rfl, rfl, rfl⟩
  | cons result rest =>
    have unfolded : out = _ := if_neg (cons_ne_nil result rest)
    rw [unfolded]
    exact ⟨rfl, rfl, rfl⟩

theorem mem_places {results : List (ProviderResult Timing)} :
    place ∈ (results.flatMap eventsOf).flatMap (eventPlaces deps context) ↔
      ∃ event ∈ results.flatMap eventsOf, Allowed context event ∧
        KeptAt deps context event place := by
  rw [mem_flatMap]
  simp only [mem_event_places]

theorem returned (results) : (∀ p, p ∈ (activeClosuresForBbox deps context results).points ↔
      GivenPoint deps context (KeptAt deps context) (results.flatMap eventsOf) p) ∧
    (∀ polygon, polygon ∈ (activeClosuresForBbox deps context results).polygons ↔
      GivenPolygon deps context (KeptAt deps context) (results.flatMap eventsOf) polygon) ∧
    ∀ line, line ∈ (activeClosuresForBbox deps context results).hardLines ↔
      GivenLine deps context (KeptAt deps context) (results.flatMap eventsOf) line := by
  have adds := results_add deps context results .empty
  have fields := returned_fields deps context results
  apply And.intro
  · intro p
    rw [fields.1, collect, adds.points]
    constructor
    · rintro (before | ⟨place, member, inside⟩)
      · cases before
      · obtain ⟨event, event_member, allowed, kept⟩ := (mem_places deps context).mp member
        exact ⟨event, event_member, allowed, place, kept, inside⟩
    · rintro ⟨event, member, allowed, place, kept, inside⟩
      exact Or.inr ⟨place, (mem_places deps context).mpr ⟨event, member, allowed, kept⟩, inside⟩
  · apply And.intro
    · intro polygon
      rw [fields.2.1, collect, adds.polygons]
      constructor
      · rintro (before | ⟨place, member, inside⟩)
        · cases before
        · obtain ⟨event, event_member, allowed, kept⟩ := (mem_places deps context).mp member
          exact ⟨event, event_member, allowed, place, kept, inside⟩
      · rintro ⟨event, member, allowed, place, kept, inside⟩
        exact Or.inr ⟨place, (mem_places deps context).mpr ⟨event, member, allowed, kept⟩, inside⟩
    · intro line
      rw [fields.2.2, collect, adds.hardLines]
      constructor
      · rintro (before | shared | ⟨place, member, inside⟩)
        · cases before
        · obtain ⟨event, event_member, own⟩ := mem_flatMap.mp shared
          obtain ⟨allowed, lines⟩ := (mem_event_lines deps context).mp own
          exact ⟨event, event_member, allowed, Or.inl lines⟩
        · obtain ⟨event, event_member, allowed, kept⟩ := (mem_places deps context).mp member
          exact ⟨event, event_member, allowed, Or.inr ⟨place, kept, inside⟩⟩
      · rintro ⟨event, member, allowed, lines | ⟨place, kept, inside⟩⟩
        · apply Or.inr
          apply Or.inl
          apply mem_flatMap.mpr
          exact ⟨event, member, (mem_event_lines deps context).mpr (And.intro allowed lines)⟩
        · apply Or.inr
          apply Or.inr
          exact ⟨place, (mem_places deps context).mpr ⟨event, member, allowed, kept⟩, inside⟩

theorem reordered_refl (results : List (ProviderResult Timing)) :
    List.Forall₂ ReorderedResult results results := by
  rw [List.forall₂_same]
  intro result member
  cases result with
  | rejected => trivial
  | fulfilled events =>
    show List.Forall₂ ReorderedEvent events events
    rw [List.forall₂_same]
    exact fun event _ => And.intro rfl (List.Perm.refl _)

theorem reordered_events {results reordered : List (ProviderResult Timing)}
    (same : List.Forall₂ ReorderedResult results reordered) :
    List.Forall₂ ReorderedEvent (results.flatMap eventsOf) (reordered.flatMap eventsOf) := by
  induction same with
  | nil => exact List.Forall₂.nil
  | @cons result other _ _ head tail ih =>
    rw [flatMap_cons, flatMap_cons]
    refine rel_append ?_ ih
    cases result with
    | rejected =>
      cases other with
      | rejected => exact List.Forall₂.nil
      | fulfilled _ => cases head
    | fulfilled events =>
      cases other with
      | rejected => cases head
      | fulfilled _ => exact head

section

variable {event reordered : RoadConditionEvent Timing} (same : ReorderedEvent event reordered)
  (place : Address)
include same

theorem closed_reordered :
    ClosedAt deps context reordered place ↔ ClosedAt deps context event place := by
  unfold ClosedAt
  simp only [same.1, same.2.mem_iff]

theorem relaxed_reordered :
    RelaxedAt deps context reordered place ↔ RelaxedAt deps context event place := by
  unfold RelaxedAt
  simp only [same.1, same.2.mem_iff]

theorem clear_reordered :
    ClearAt deps context reordered place ↔ ClearAt deps context event place := by
  unfold ClearAt
  rw [closed_reordered deps context same, relaxed_reordered deps context same]

end

theorem clear_kept
    (clear : ClearAt deps context event place) : KeptAt deps context event place := by
  have kept := place_closed deps context event.toSituation [] event.effects []
    (not_mem_nil (a := place)) clear.1
    (fun effect member closes => clear.2 ⟨effect, member, closes⟩)
  rw [append_nil] at kept
  exact kept

theorem kept_closed (kept : KeptAt deps context event place) : ClosedAt deps context event place :=
  (closed_places_closed deps context event.toSituation event.effects [] kept).2

def Subsumes (chosen wider : RoadConditionEvent Timing → Address → Prop)
    (events others : List (RoadConditionEvent Timing)) : Prop :=
  ∀ event ∈ events, ∃ other ∈ others, other.toSituation = event.toSituation ∧
    (∀ effect ∈ event.effects, effect ∈ other.effects) ∧
      ∀ place, chosen event place → wider other place

section

variable {deps context} {chosen wider : RoadConditionEvent Timing → Address → Prop}
  {events others : List (RoadConditionEvent Timing)}

theorem subsumes_of_reordered (same : List.Forall₂ ReorderedEvent events others)
    (widens : ∀ event reordered, ReorderedEvent event reordered → ∀ place,
      chosen event place → wider reordered place) : Subsumes chosen wider events others := by
  induction same with
  | nil =>
    intro event member
    cases member
  | @cons event other _ _ head tail ih =>
    intro found member
    rcases mem_cons.mp member with is_event | later
    · rw [is_event]
      exact ⟨other, mem_cons_self, head.1,
        fun effect inside => head.2.mem_iff.mpr inside, widens event other head⟩
    · obtain ⟨counterpart, inside, rest⟩ := ih found later
      exact ⟨counterpart, mem_cons_of_mem _ inside, rest⟩

theorem subsumes_of_original (same : List.Forall₂ ReorderedEvent others events)
    (widens : ∀ event reordered, ReorderedEvent event reordered → ∀ place,
      chosen reordered place → wider event place) : Subsumes chosen wider events others := by
  induction same with
  | nil =>
    intro event member
    cases member
  | @cons event other _ _ head tail ih =>
    intro found member
    rcases mem_cons.mp member with is_other | later
    · rw [is_other]
      exact ⟨event, mem_cons_self, head.1.symm,
        fun effect inside => head.2.mem_iff.mp inside, widens event other head⟩
    · obtain ⟨counterpart, inside, rest⟩ := ih found later
      exact ⟨counterpart, mem_cons_of_mem _ inside, rest⟩

theorem allowed_same {event other : RoadConditionEvent Timing}
    (same : other.toSituation = event.toSituation) (allowed : Allowed context event) :
    Allowed context other := by
  unfold Allowed at allowed ⊢
  rw [same]
  exact allowed

section

variable (subsumes : Subsumes chosen wider events others)
include subsumes

theorem given_point_of {p : LngLat} (given_point : GivenPoint deps context chosen events p) :
    GivenPoint deps context wider others p := by
  obtain ⟨event, member, allowed, place, is_chosen, inside⟩ := given_point
  obtain ⟨other, other_member, same, _, widens⟩ := subsumes event member
  exact ⟨other, other_member, allowed_same same allowed, place, widens place is_chosen, inside⟩

theorem given_polygon_of
    {polygon : List LngLat} (given_polygon : GivenPolygon deps context chosen events polygon) :
    GivenPolygon deps context wider others polygon := by
  obtain ⟨event, member, allowed, place, is_chosen, inside⟩ := given_polygon
  obtain ⟨other, other_member, same, _, widens⟩ := subsumes event member
  exact ⟨other, other_member, allowed_same same allowed, place, widens place is_chosen, inside⟩

theorem given_line_of {line : List LngLat} (given_line : GivenLine deps context chosen events line)
    : GivenLine deps context wider others line := by
  obtain ⟨event, member, allowed, source⟩ := given_line
  obtain ⟨other, other_member, same, effects, widens⟩ := subsumes event member
  refine ⟨other, other_member, allowed_same same allowed, ?_⟩
  rcases source with shared | own
  · obtain ⟨effect, effect_member, inside⟩ := shared
    apply Or.inl
    rw [same]
    exact ⟨effect, effects effect effect_member, inside⟩
  · obtain ⟨place, is_chosen, inside⟩ := own
    exact Or.inr ⟨place, widens place is_chosen, inside⟩

end

end

structure ClearGives (events : List (RoadConditionEvent Timing)) : Prop where
  points : ∀ p, GivenPoint deps context (ClosedAt deps context) events p →
    GivenPoint deps context (ClearAt deps context) events p
  polygons : ∀ polygon, GivenPolygon deps context (ClosedAt deps context) events polygon →
    GivenPolygon deps context (ClearAt deps context) events polygon
  lines : ∀ line, GivenLine deps context (ClosedAt deps context) events line →
    GivenLine deps context (ClearAt deps context) events line

variable {results : List (ProviderResult Timing)}

theorem clear_gives (alone : StandAlone deps context results) :
    ClearGives deps context (results.flatMap eventsOf) := by
  apply ClearGives.mk
  · rintro p ⟨event, member, allowed, place, closed, inside⟩
    by_cases relaxed : RelaxedAt deps context event place
    · exact (alone.shared event member allowed place closed relaxed).1 p inside
    · exact ⟨event, member, allowed, place, And.intro closed relaxed, inside⟩
  · rintro polygon ⟨event, member, allowed, place, closed, inside⟩
    by_cases relaxed : RelaxedAt deps context event place
    · exact (alone.shared event member allowed place closed relaxed).2.1 polygon inside
    · exact ⟨event, member, allowed, place, And.intro closed relaxed, inside⟩
  · rintro line ⟨event, member, allowed, source⟩
    rcases source with shared | own
    · exact ⟨event, member, allowed, Or.inl shared⟩
    · obtain ⟨place, closed, inside⟩ := own
      by_cases relaxed : RelaxedAt deps context event place
      · exact (alone.shared event member allowed place closed relaxed).2.2 line inside
      · exact ⟨event, member, allowed, Or.inr ⟨place, And.intro closed relaxed, inside⟩⟩

theorem returned_clear {results reordered : List (ProviderResult Timing)}
    (gives : ClearGives deps context (results.flatMap eventsOf))
    (same : List.Forall₂ ReorderedResult results reordered) :
    (∀ p, p ∈ (activeClosuresForBbox deps context reordered).points ↔
      GivenPoint deps context (ClearAt deps context) (results.flatMap eventsOf) p) ∧
    (∀ polygon, polygon ∈ (activeClosuresForBbox deps context reordered).polygons ↔
      GivenPolygon deps context (ClearAt deps context) (results.flatMap eventsOf) polygon) ∧
    ∀ line, line ∈ (activeClosuresForBbox deps context reordered).hardLines ↔
      GivenLine deps context (ClearAt deps context) (results.flatMap eventsOf) line := by
  have events := reordered_events same
  have widest : Subsumes (KeptAt deps context) (ClosedAt deps context)
      (reordered.flatMap eventsOf) (results.flatMap eventsOf) :=
    subsumes_of_original events fun event other same place kept =>
      (closed_reordered deps context same place).mp (kept_closed deps context kept)
  have least : Subsumes (ClearAt deps context) (KeptAt deps context)
      (results.flatMap eventsOf) (reordered.flatMap eventsOf) :=
    subsumes_of_reordered events fun event other same place clear =>
      clear_kept deps context ((clear_reordered deps context same place).mpr clear)
  have found := returned deps context reordered
  apply And.intro
  · intro p
    rw [found.1]
    exact ⟨fun kept => gives.points p (given_point_of widest kept), given_point_of least⟩
  · apply And.intro
    · intro polygon
      rw [found.2.1]
      exact ⟨fun kept => gives.polygons polygon (given_polygon_of widest kept),
        given_polygon_of least⟩
    · intro line
      rw [found.2.2]
      exact ⟨fun kept => gives.lines line (given_line_of widest kept), given_line_of least⟩

variable {effect : RoadConditionEffect Timing} {event : Situation Timing} {place : Address}

theorem hard_closure_of (hard : HardClosure deps context event effect)
    (placed : effectGeometry event effect = some place) :
    closureOf deps context event effect = some (place, false) := by
  unfold closureOf
  rw [if_pos ⟨hard.legacy, hard.routable, hard.closes, hard.inForce⟩, placed, Option.map_some,
    hard.forEveryone]

theorem hard_of_closure (closes : closureOf deps context event effect = some (place, false)) :
    HardClosure deps context event effect ∧ effectGeometry event effect = some place := by
  unfold closureOf at closes
  split at closes
  · rename_i all
    obtain ⟨there, placed, pair⟩ := Option.map_eq_some_iff.mp closes
    rw [Prod.mk.injEq] at pair
    rw [← pair.1]
    exact And.intro ⟨all.1, all.2.1, all.2.2.1, pair.2, all.2.2.2⟩ placed
  · cases closes

theorem never_masked_of_alone
    (alone : StandAlone deps context results) : NeverMasked deps context results := by
  intro reordered same
  have gives := clear_gives deps context alone
  have found := returned_clear deps context gives same
  have original := returned_clear deps context gives (reordered_refl results)
  have back : Subsumes (ClosedAt deps context) (ClosedAt deps context)
      (reordered.flatMap eventsOf) (results.flatMap eventsOf) :=
    subsumes_of_original (reordered_events same) fun event other same place closed =>
      (closed_reordered deps context same place).mp closed
  apply And.intro
  · intro event member allowed effect effect_member hard place placed
    have closes := hard_closure_of deps context hard placed
    apply Covered.mk
    · intro vertex asked
      rcases vertex_excluded deps.haversineDistance _ vertex asked with excluded | thin
      · rcases excluded with point | corner
        · apply Or.inl
          apply (found.1 vertex).mpr
          exact gives.points vertex (given_point_of back
            ⟨event, member, allowed, place, ⟨effect, effect_member, closes⟩, point⟩)
        · obtain ⟨polygon, polygon_member, inside⟩ := corner
          apply Or.inr
          refine ⟨polygon, (found.2.1 polygon).mpr ?_, inside⟩
          exact gives.polygons polygon (given_polygon_of back
            ⟨event, member, allowed, place, ⟨effect, effect_member, closes⟩, polygon_member⟩)
      · obtain ⟨ring, ring_member, inside⟩ := thin
        obtain ⟨other, other_member, situation, effects, widens⟩ := back event member
        cases alone.thin other other_member (allowed_same situation allowed) place
            (widens place ⟨effect, effect_member, closes⟩) ring ring_member vertex inside with
        | inl point => exact Or.inl ((found.1 vertex).mpr point)
        | inr corner =>
          obtain ⟨polygon, given_polygon, cornered⟩ := corner
          exact Or.inr ⟨polygon, (found.2.1 polygon).mpr given_polygon, cornered⟩
    · intro line asked
      apply (found.2.2 line).mpr
      exact gives.lines line (given_line_of back
        ⟨event, member, allowed, Or.inr ⟨place, ⟨effect, effect_member, closes⟩, asked⟩⟩)
  · apply SameExclusions.mk
    · intro p
      rw [original.1, found.1]
    · intro polygon
      rw [original.2.1, found.2.1]

def putFirst (test : Situation Timing → RoadConditionEffect Timing → Bool)
    (event : RoadConditionEvent Timing) : RoadConditionEvent Timing :=
  { event with
    effects := event.effects.filter (test event.toSituation) ++
      event.effects.filter fun effect => !test event.toSituation effect }

def putFirstIn (test : Situation Timing → RoadConditionEffect Timing → Bool) :
    ProviderResult Timing → ProviderResult Timing
  | .rejected => .rejected
  | .fulfilled events => .fulfilled (events.map (putFirst test))

variable (test : Situation Timing → RoadConditionEffect Timing → Bool)

theorem put_first_reorders (event) : ReorderedEvent event (putFirst test event) :=
  And.intro rfl (filter_append_perm (test event.toSituation) event.effects)

theorem put_first_reordered (results) :
    List.Forall₂ ReorderedResult results (results.map (putFirstIn test)) := by
  rw [List.forall₂_map_right_iff, List.forall₂_same]
  intro result member
  cases result with
  | rejected => trivial
  | fulfilled events =>
    show List.Forall₂ ReorderedEvent events (events.map (putFirst test))
    rw [List.forall₂_map_right_iff, List.forall₂_same]
    exact fun event _ => put_first_reorders test event

theorem put_first_events (results : List (ProviderResult Timing)) :
    (results.map (putFirstIn test)).flatMap eventsOf =
      (results.flatMap eventsOf).map (putFirst test) := by
  rw [flatMap_map, map_flatMap]
  congr 1
  funext result
  cases result with
  | rejected => rfl
  | fulfilled events => rfl

def isRelaxing (event : Situation Timing) (effect : RoadConditionEffect Timing) : Bool :=
  match closureOf deps context event effect with
  | some (_, true) => true
  | _ => false

theorem relaxing_of (closes : closureOf deps context event effect = some (place, true)) :
    isRelaxing deps context event effect = true := by
  unfold isRelaxing
  rw [closes]

theorem not_relaxing_of (closes : closureOf deps context event effect = some (place, false)) :
    isRelaxing deps context event effect = false := by
  unfold isRelaxing
  rw [closes]

theorem kept_relaxed_first {event}
    (kept : KeptAt deps context (putFirst (isRelaxing deps context) event) place) :
    ClearAt deps context event place := by
  have closed := (closed_reordered deps context
    (put_first_reorders (isRelaxing deps context) event) place).mp (kept_closed deps context kept)
  apply And.intro closed
  rintro ⟨effect, member, closes⟩
  refine place_masked deps context event.toSituation _ _ [] ?_ ?_ kept
  · exact ⟨effect, mem_filter.mpr ⟨member, relaxing_of deps context closes⟩, closes⟩
  · intro other other_member hard
    have relaxing := (mem_filter.mp other_member).2
    rw [not_relaxing_of deps context hard] at relaxing
    cases relaxing

theorem kept_relaxed_last {event} (closed : ClosedAt deps context event place) : KeptAt deps context
      (putFirst (fun situation effect => !isRelaxing deps context situation effect) event)
      place := by
  obtain ⟨effect, member, closes⟩ := closed
  apply place_closed deps context event.toSituation _ _ [] not_mem_nil
  · refine ⟨effect, mem_filter.mpr ⟨member, ?_⟩, closes⟩
    show (!isRelaxing deps context event.toSituation effect) = true
    rw [not_relaxing_of deps context closes]
    rfl
  · intro other other_member soft
    have relaxing : (!isRelaxing deps context event.toSituation other) = true :=
      (mem_filter.mp other_member).2
    rw [relaxing_of deps context soft] at relaxing
    cases relaxing

theorem alone_of_never_masked
    (never : NeverMasked deps context results) : StandAlone deps context results := by
  have relaxed_first := never _ (put_first_reordered (isRelaxing deps context) results)
  have relaxed_last := never _ (put_first_reordered
    (fun situation effect => !isRelaxing deps context situation effect) results)
  have found_first := returned deps context (results.map (putFirstIn (isRelaxing deps context)))
  have found_last := returned deps context (results.map
    (putFirstIn fun situation effect => !isRelaxing deps context situation effect))
  rw [put_first_events] at found_first found_last relaxed_first
  have least : Subsumes (KeptAt deps context) (ClearAt deps context)
      ((results.flatMap eventsOf).map (putFirst (isRelaxing deps context)))
      (results.flatMap eventsOf) := by
    intro reordered member
    obtain ⟨event, event_member, same⟩ := mem_map.mp member
    rw [← same]
    exact ⟨event, event_member, rfl,
      fun effect inside => (put_first_reorders _ event).2.mem_iff.mp inside,
      fun place kept => kept_relaxed_first deps context kept⟩
  have widest : Subsumes (ClosedAt deps context) (KeptAt deps context)
      (results.flatMap eventsOf)
      ((results.flatMap eventsOf).map
        (putFirst fun situation effect => !isRelaxing deps context situation effect)) := by
    intro event member
    exact ⟨_, mem_map_of_mem member, rfl,
      fun effect inside => (put_first_reorders _ event).2.mem_iff.mpr inside,
      fun place closed => kept_relaxed_last deps context closed⟩
  -- what any closure gives is returned with them last, hence with them first
  have point_clear : ∀ p, GivenPoint deps context (ClosedAt deps context)
      (results.flatMap eventsOf) p →
        GivenPoint deps context (ClearAt deps context) (results.flatMap eventsOf) p := by
    intro p closed
    have last := (found_last.1 p).mpr (given_point_of widest closed)
    rw [← relaxed_last.2.points, relaxed_first.2.points] at last
    exact given_point_of least ((found_first.1 p).mp last)
  have polygon_clear : ∀ polygon, GivenPolygon deps context (ClosedAt deps context)
      (results.flatMap eventsOf) polygon →
        GivenPolygon deps context (ClearAt deps context) (results.flatMap eventsOf) polygon := by
    intro polygon closed
    have last := (found_last.2.1 polygon).mpr (given_polygon_of widest closed)
    rw [← relaxed_last.2.polygons, relaxed_first.2.polygons] at last
    exact given_polygon_of least ((found_first.2.1 polygon).mp last)
  have covered : ∀ event ∈ results.flatMap eventsOf, Allowed context event → ∀ place,
      ClosedAt deps context event place →
        Covered deps (activeClosuresForBbox deps context
          (results.map (putFirstIn (isRelaxing deps context)))) (deps.geometryAt place) := by
    intro event member allowed place closed
    obtain ⟨effect, effect_member, closes⟩ := closed
    obtain ⟨hard, placed⟩ := hard_of_closure deps context closes
    exact relaxed_first.1 _ (mem_map_of_mem member) allowed effect
      ((put_first_reorders _ event).2.mem_iff.mpr effect_member) hard place placed
  apply StandAlone.mk
  · intro event member allowed place closed relaxed
    apply And.intro
    · intro p inside
      exact point_clear p ⟨event, member, allowed, place, closed, inside⟩
    · apply And.intro
      · intro polygon inside
        exact polygon_clear polygon ⟨event, member, allowed, place, closed, inside⟩
      · intro line asked
        exact given_line_of least ((found_first.2.2 line).mp
          ((covered event member allowed place closed).lines line asked))
  · intro event member allowed place closed ring ring_member vertex inside
    have asked := thin_ring_vertices deps.haversineDistance _ ring ring_member vertex inside
    rcases (covered event member allowed place closed).vertices vertex asked with point | corner
    · exact Or.inl (given_point_of least ((found_first.1 vertex).mp point))
    · obtain ⟨polygon, polygon_member, cornered⟩ := corner
      exact Or.inr ⟨polygon, given_polygon_of least ((found_first.2.1 polygon).mp
        polygon_member), cornered⟩

/-- No closure is masked in any order of the effects, and the exclusions do not depend on
that order, if and only if the closures that share their object with a local-access closure
add nothing to the others. -/
theorem official_closure_never_masked_iff (results : List (ProviderResult Timing)) :
    NeverMasked deps context results ↔ StandAlone deps context results :=
  ⟨alone_of_never_masked deps context, never_masked_of_alone deps context⟩

end

def plainDeps : ClosureDeps Unit where
  haversineDistance := fun _ _ => 0
  geometryAt := fun _ => .point [some 7, some 51]
  inForceAt := fun _ _ => true
  getRoadConditionRoutingDecision := fun _ _ => ⟨false, [], none⟩

def plainContext : RouteContext := ⟨0, 0, .driving, []⟩

def roadClosure (id : String) (excepts : Option (List VehicleSelector)) :
    RoadConditionEffect Unit :=
  ⟨id, .closure .road, ⟨.all, none, excepts⟩, .complete, none, ()⟩

def closedTwice : RoadConditionEvent Unit where
  source := "feed"
  geometry := some 0
  origin := .feed
  routingEligible := false
  routingEvidence := none
  timing := ()
  effects := [roadClosure "a" (some [⟨none, some "residents", ["usage"]⟩]), roadClosure "b" none]

theorem closure_behind_local_access_masked :
    ¬∀ results : List (ProviderResult Unit), NeverMasked plainDeps plainContext results := by
  intro never
  have covered := (never [.fulfilled [closedTwice]] _ (reordered_refl _)).1 closedTwice
    mem_cons_self rfl (roadClosure "b" none) (by simp [closedTwice])
    ⟨by decide, by decide, by decide, by decide, by decide⟩ 0 (by decide)
  have line := covered.lines [(7, 51)] (by decide)
  exact absurd line (by decide)

end OpenMapX.RoadConditions.ClosureMasking
