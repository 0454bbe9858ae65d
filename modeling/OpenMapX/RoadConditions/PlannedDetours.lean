import OpenMapX.Foundation.BoundedLoop
import OpenMapX.Foundation.KeyedList
import OpenMapX.RoadConditions.EndpointExclusions

/-!
# Planning again around planned closures

A trip at a later instant excludes the closures its routes travel and is planned again, for a
few rounds. A closure counts as excluded from the round that meets it, also if none of its
samples is excluded there; what is reported is right if each round that plans excludes a
sample of every closure it counts.
-/

namespace OpenMapX.RoadConditions.PlannedDetours

open Foundation.KeyedList BoundedLoop Closures EndpointExclusions List

def ON_ROUTE_DISTANCE_M : ℚ := 12

def ON_ROUTE_HEADING_DEG : ℚ := 45

def MAX_PLANNED_CLOSURE_ROUNDS : Nat := 3

def MAX_DIRECTED_EXCLUSIONS : Nat := 40

def END_CLEARANCE_M : ℚ := 150

def CELL_DEG : ℚ := 5 / 1000

structure DirectedExclusion where
  point : LngLat
  heading : ℚ
deriving DecidableEq

structure Sample where
  lon : ℚ
  lat : ℚ
  heading : ℚ
deriving DecidableEq

def Sample.point (s : Sample) : LngLat := (s.lon, s.lat)

def Sample.exclusion (s : Sample) : DirectedExclusion := ⟨s.point, s.heading⟩

structure PlannedClosure where
  id : String
  samples : List Sample
  localAccess : Bool

/-- A sample as an object: its closure's place in the list and its own in the closure. -/
structure Passed where
  sample : Sample
  place : Nat × Nat
deriving DecidableEq

structure Hit where
  id : String
  samples : List Passed

structure PlanDeps extends ExclusionDeps where
  bearingBetween : LngLat → LngLat → ℚ

def angularDifference (a b : ℚ) : ℚ :=
  let difference := |a - b| - 360 * ⌊|a - b| / 360⌋
  if 180 < difference then 360 - difference else difference

def cellOf (v : ℚ) : ℤ := ⌊v / CELL_DEG⌋

/-- The segments that `segmentIndex` puts into a cell. -/
def segmentsIn (geometry : List LngLat) (x y : ℤ) : List (LngLat × LngLat) :=
  (geometry.zip geometry.tail).filter fun (a, b) =>
    cellOf (min a.1 b.1) ≤ x && x ≤ cellOf (max a.1 b.1) &&
      (cellOf (min a.2 b.2) ≤ y && y ≤ cellOf (max a.2 b.2))

/-- The other options stay as they are. A planner is asked with the number of its call. -/
structure PlanInput (T : Type) where
  first : T
  closures : List PlannedClosure
  waypoints : List LngLat
  directedExclusions : Option (List DirectedExclusion)
  plan : Nat → List DirectedExclusion → Option T
  routes : T → List (List LngLat)

structure Planning (T : Type) where
  round : Nat
  directed : List DirectedExclusion
  excluded : List String
  result : T
  hits : List Hit

structure Planned (T : Type) where
  before : Planning T
  asked : List DirectedExclusion
  answer : T

structure Left where
  excluded : List String
  refused : Option (List DirectedExclusion)

structure PlannedClosureOutcome (T : Type) where
  result : T
  excluded : List String
  onRoute : List String

section

variable (deps : PlanDeps)

def distanceToSegment (p a b : LngLat) : ℚ :=
  let k := deps.cos p.2
  let dx := (b.1 - a.1) * k
  let dy := b.2 - a.2
  let len2 := dx * dx + dy * dy
  let t :=
    if len2 = 0 then 0
    else max 0 (min 1 (((p.1 - a.1) * k * dx + (p.2 - a.2) * dy) / len2))
  deps.haversineDistance p (a.1 + (b.1 - a.1) * t, a.2 + (b.2 - a.2) * t)

def travels (geometry : List LngLat) (sample : Sample) : Bool :=
  [-1, 0, 1].any fun dx => [-1, 0, 1].any fun dy =>
    (segmentsIn geometry (cellOf sample.lon + dx) (cellOf sample.lat + dy)).any fun (a, b) =>
      a ≠ b && distanceToSegment deps sample.point a b ≤ ON_ROUTE_DISTANCE_M &&
        angularDifference (deps.bearingBetween a b) sample.heading ≤ ON_ROUTE_HEADING_DEG

def passedBy (geometry : List LngLat) (closure : PlannedClosure × Nat) : List Passed :=
  (closure.1.samples.zipIdx.filter fun s => travels deps geometry s.1).map fun s =>
    ⟨s.1, closure.2, s.2⟩

def meet (geometry : List LngLat) (hits : List Hit) (closure : PlannedClosure × Nat) : List Hit :=
  let passed := passedBy deps geometry closure
  if passed.length = 0 then hits
  else
    let known := ((findKey Hit.id hits closure.1.id).map (·.samples)).getD []
    setKey Hit.id hits ⟨closure.1.id, known ++ passed.filter (· ∉ known)⟩

def excludable (waypoints : List LngLat) (closure : PlannedClosure) : Bool :=
  !closure.localAccess ||
    clearOfEndpoints deps.toExclusionDeps (closure.samples.map (·.point)) waypoints

def closuresOnRoutes (closures : List PlannedClosure) (routes : List (List LngLat)) : List Hit :=
  routes.foldl (fun hits geometry => closures.zipIdx.foldl (meet deps geometry) hits) []

section

variable {T : Type} (input : PlanInput T)

def mayExclude (id : String) : Bool :=
  (findKey PlannedClosure.id input.closures.reverse id).any (excludable deps input.waypoints)

def isNew (state : Planning T) (s : Sample) : Bool :=
  !(state.directed.any fun d => d.point = s.point) &&
    !(endsOf input.waypoints).any fun finish =>
      deps.haversineDistance finish s.point < END_CLEARANCE_M

def excludableHits (state : Planning T) : List Hit :=
  state.hits.filter fun hit => mayExclude deps input hit.id

def addedIn (state : Planning T) : List DirectedExclusion :=
  (excludableHits deps input state).flatMap fun hit =>
    (hit.samples.filter fun s => isNew deps input state s.sample).map (·.sample.exclusion)

def markedIn (state : Planning T) : List String :=
  state.excluded ++
    ((excludableHits deps input state).map (·.id)).filter (· ∉ state.excluded)

def planRound (state : Planning T) : Outcome (Planning T) (Planned T) Left :=
  if state.hits.length = 0 then .leave ⟨state.excluded, none⟩
  else
    let added := addedIn deps input state
    let excluded := markedIn deps input state
    if added.length = 0 ∨ MAX_DIRECTED_EXCLUSIONS < state.directed.length + added.length then
      .leave ⟨excluded, none⟩
    else
      match input.plan state.round (state.directed ++ added) with
      | none => .leave ⟨excluded, some (state.directed ++ added)⟩
      | some next =>
        .next ⟨state, state.directed ++ added, next⟩
          { round := state.round + 1
            directed := state.directed ++ added
            excluded
            result := next
            hits := closuresOnRoutes deps input.closures (input.routes next) }

def planning : Planning T :=
  ⟨0, input.directedExclusions.getD [], [], input.first,
    closuresOnRoutes deps input.closures (input.routes input.first)⟩

def planRounds : Run (Planning T) (Planned T) Left :=
  BoundedLoop.run (planRound deps input) MAX_PLANNED_CLOSURE_ROUNDS
    (planning deps input)

def routeAroundPlannedClosures : PlannedClosureOutcome T :=
  let run := planRounds deps input
  let onRoute := run.state.hits.map (·.id)
  { result := run.state.result
    excluded := ((run.exit.map (·.excluded)).getD run.state.excluded).filter (· ∉ onRoute)
    onRoute := onRoute.filter (mayExclude deps input) }

def callsOf (run : Run (Planning T) (Planned T) Left) :
    List (List DirectedExclusion × Option T) :=
  run.entries.map (fun planned => (planned.asked, some planned.answer)) ++
    (run.exit.bind (·.refused)).toList.map fun asked => (asked, none)

def given : List DirectedExclusion × T := (input.directedExclusions.getD [], input.first)

def lastPlanned (given : List DirectedExclusion × T)
    (calls : List (List DirectedExclusion × Option T)) : List DirectedExclusion × T :=
  calls.foldl (fun last call => (call.2.map fun answer => (call.1, answer)).getD last) given

def Travelled (result : T) (closure : PlannedClosure) : Prop :=
  ∃ geometry ∈ input.routes result, ∃ s ∈ closure.samples, travels deps geometry s = true

def Sampled (directed : List DirectedExclusion) (id : String) : Prop :=
  ∃ closure ∈ input.closures, closure.id = id ∧ ∃ s ∈ closure.samples, s.exclusion ∈ directed

def Extends (directed asked : List DirectedExclusion) : Prop :=
  asked.length ≤ MAX_DIRECTED_EXCLUSIONS ∧ ∃ added, asked = directed ++ added ∧
    ∀ d ∈ added, ∀ finish ∈ endsOf input.waypoints,
      END_CLEARANCE_M ≤ deps.haversineDistance finish d.point

structure Reports (calls : List (List DirectedExclusion × Option T))
    (outcome : PlannedClosureOutcome T) : Prop where
  rounds : calls.length ≤ MAX_PLANNED_CLOSURE_ROUNDS
  asked : ∀ before call after, calls = before ++ call :: after →
    Extends deps input (lastPlanned (given input) before).1 call.1
  result : outcome.result = (lastPlanned (given input) calls).2
  onRoute : ∀ closure ∈ input.closures, Travelled deps input outcome.result closure →
    closure.id ∈ outcome.onRoute ∨ excludable deps input.waypoints closure = false
  excluded : ∀ id ∈ outcome.excluded,
    Sampled input (lastPlanned (given input) calls).1 id ∧
      ∀ closure ∈ input.closures, closure.id = id → ¬Travelled deps input outcome.result closure

/-- Every closure that a round counts has a sample that is excluded, or is from this round. -/
def Accounted (state : Planning T) : Prop :=
  ∀ hit ∈ state.hits, mayExclude deps input hit.id = true →
    ∃ closure ∈ input.closures, closure.id = hit.id ∧ ∃ s ∈ closure.samples,
      s.exclusion ∈ state.directed ∨
        ∃ other ∈ state.hits, mayExclude deps input other.id = true ∧
          ∃ p ∈ other.samples, isNew deps input state p.sample = true ∧
            p.sample.exclusion = s.exclusion

theorem passed_by_empty (geometry : List LngLat) (closure) :
    (passedBy deps geometry closure).length = 0 ↔
      ¬∃ s ∈ closure.1.samples, travels deps geometry s = true := by
  unfold passedBy
  rw [length_map, length_eq_zero_iff, filter_eq_nil_iff]
  constructor
  · rintro none_travels ⟨s, member, passes⟩
    obtain ⟨place, found⟩ := mem_iff_getElem?.mp member
    exact none_travels (s, place) (mem_zipIdx_iff_getElem?.mpr found) passes
  · intro none_travels located member passes
    exact none_travels ⟨located.1, fst_mem_of_mem_zipIdx member, passes⟩

theorem mem_meet (id : String) (geometry : List LngLat) (hits : List Hit) (closure) :
    id ∈ (meet deps geometry hits closure).map (·.id) ↔ id ∈ hits.map (·.id) ∨
      (closure.1.id = id ∧ ∃ s ∈ closure.1.samples, travels deps geometry s = true) := by
  have empty := passed_by_empty deps geometry closure
  unfold meet
  dsimp only
  split
  · rename_i nothing
    exact ⟨.inl, (·.resolve_right fun met => empty.mp nothing met.2)⟩
  · rename_i something
    have passes := not_not.mp (mt empty.mpr something)
    rw [mem_set_keys]
    exact ⟨(·.imp_right fun same => ⟨same.symm, passes⟩), (·.imp_right fun met => met.1.symm)⟩

theorem mem_fold {Item : Type} (step : List Hit → Item → List Hit) (adds : Item → Prop)
    (id : String)
    (each : ∀ hits item, id ∈ (step hits item).map (·.id) ↔ id ∈ hits.map (·.id) ∨ adds item)
    (items : List Item) (hits : List Hit) : id ∈ (items.foldl step hits).map (·.id) ↔
      id ∈ hits.map (·.id) ∨ ∃ item ∈ items, adds item := by
  induction items generalizing hits with
  | nil => simp
  | cons item items ih =>
    rw [foldl_cons, ih, each, or_assoc, exists_mem_cons_iff]

theorem mem_closures_on_routes (result : T) (id : String) :
    id ∈ (closuresOnRoutes deps input.closures (input.routes result)).map (·.id) ↔
      ∃ closure ∈ input.closures, closure.id = id ∧ Travelled deps input result closure := by
  unfold closuresOnRoutes
  rw [mem_fold _ (fun geometry => ∃ closure ∈ input.closures.zipIdx, closure.1.id = id ∧
    ∃ s ∈ closure.1.samples, travels deps geometry s = true) id fun hits geometry =>
      mem_fold (meet deps geometry) _ id (fun hits => mem_meet deps id geometry hits) _ hits]
  constructor
  · rintro (none_met | ⟨geometry, taken, closure, member, same, s, sample, passes⟩)
    · cases none_met
    · exact ⟨closure.1, fst_mem_of_mem_zipIdx member, same, geometry, taken, s, sample, passes⟩
  · rintro ⟨closure, member, same, geometry, taken, s, sample, passes⟩
    obtain ⟨place, found⟩ := mem_iff_getElem?.mp member
    exact .inr ⟨geometry, taken, (closure, place), mem_zipIdx_iff_getElem?.mpr found, same, s,
      sample, passes⟩

variable {state later last : Planning T}

theorem mem_added {d} : d ∈ addedIn deps input state ↔ ∃ hit ∈ state.hits,
      mayExclude deps input hit.id = true ∧ ∃ p ∈ hit.samples,
        isNew deps input state p.sample = true ∧ p.sample.exclusion = d := by
  simp [addedIn, excludableHits, and_assoc]

theorem added_extends
    (room : state.directed.length + (addedIn deps input state).length ≤ MAX_DIRECTED_EXCLUSIONS) :
    Extends deps input state.directed (state.directed ++ addedIn deps input state) := by
  refine ⟨by rwa [length_append], _, rfl, ?_⟩
  intro d added finish is_end
  obtain ⟨hit, met, may, p, sample, new, rfl⟩ := (mem_added deps input).mp added
  simp only [isNew, Bool.and_eq_true, Bool.not_eq_true', any_eq_false, decide_eq_true_eq,
    not_lt] at new
  exact new.2 finish is_end

theorem marked_sampled (accounted : Accounted deps input state)
    (noted : ∀ id ∈ state.excluded, Sampled input state.directed id) :
    ∀ id ∈ markedIn deps input state,
      Sampled input (state.directed ++ addedIn deps input state) id := by
  intro id marked
  rcases mem_append.mp marked with earlier | new
  · obtain ⟨closure, member, same, s, sample, excluded⟩ := noted id earlier
    exact ⟨closure, member, same, s, sample, mem_append_left _ excluded⟩
  · obtain ⟨hit, met, rfl⟩ := mem_map.mp (mem_filter.mp new).1
    obtain ⟨met, may⟩ := mem_filter.mp met
    obtain ⟨closure, member, same, s, sample, excluded⟩ := accounted hit met may
    exact ⟨closure, member, same, s, sample,
      mem_append.mpr (excluded.imp_right (mem_added deps input).mpr)⟩

structure Follows (state : Planning T) (planned : Planned T) (later : Planning T) : Prop where
  before : planned.before = state
  call : (planned.asked, planned.answer) = (later.directed, later.result)
  directed : later.directed = state.directed ++ addedIn deps input state
  grows : Extends deps input state.directed later.directed
  excluded : later.excluded = markedIn deps input state
  hits : later.hits = closuresOnRoutes deps input.closures (input.routes later.result)

theorem round_follows {planned} (reply : planRound deps input state = .next planned later) :
    Follows deps input state planned later := by
  unfold planRound at reply
  split at reply
  · cases reply
  · dsimp only at reply
    split at reply
    · cases reply
    · rename_i goes_on
      have room := not_lt.mp (not_or.mp goes_on).2
      split at reply
      · cases reply
      · cases reply
        exact ⟨rfl, rfl, rfl, added_extends deps input room, rfl, rfl⟩

theorem round_leaves {left : Left} (reply : planRound deps input state = .leave left) :
    (∀ id ∈ left.excluded, id ∈ state.excluded ∨ id ∈ state.hits.map (·.id)) ∧
      ∀ asked ∈ left.refused, Extends deps input state.directed asked := by
  have marked : ∀ id ∈ markedIn deps input state,
      id ∈ state.excluded ∨ id ∈ state.hits.map (·.id) := by
    intro id marked
    rcases mem_append.mp marked with earlier | new
    · exact .inl earlier
    · exact .inr ((filter_sublist.map _).subset (mem_filter.mp new).1)
  unfold planRound at reply
  split at reply
  · cases reply
    exact ⟨fun id earlier => .inl earlier, fun asked refused => by cases refused⟩
  · dsimp only at reply
    split at reply
    · cases reply
      exact ⟨marked, fun asked refused => by cases refused⟩
    · rename_i goes_on
      have room := not_lt.mp (not_or.mp goes_on).2
      split at reply
      · cases reply
        refine ⟨marked, fun asked refused => ?_⟩
        cases refused
        exact added_extends deps input room
      · cases reply

variable {entries : List (Planned T)}

section

variable (path : LoopPath (Follows deps input) state entries last)
include path

theorem last_planned_path : lastPlanned (state.directed, state.result)
      (entries.map fun planned => (planned.asked, some planned.answer)) =
        (last.directed, last.result) := by
  induction path with
  | here state => rfl
  | step follows path ih =>
    rw [← ih, ← follows.call]
    rfl

theorem path_extends (refused : Option (List DirectedExclusion))
    (tried : ∀ asked ∈ refused, Extends deps input last.directed asked)
    (before : List (List DirectedExclusion × Option T)) (call after)
    (split : entries.map (fun planned => (planned.asked, some planned.answer)) ++
      refused.toList.map (fun asked => (asked, none)) = before ++ call :: after) :
    Extends deps input (lastPlanned (state.directed, state.result) before).1 call.1 := by
  induction path generalizing before with
  | here state =>
    cases refused with
    | none => simp at split
    | some asked =>
      cases before with
      | nil =>
        cases split
        exact tried asked rfl
      | cons head before => simp at split
  | step follows path ih =>
    have same := follows.call
    cases before with
    | nil =>
      cases split
      rw [congrArg Prod.fst same]
      exact follows.grows
    | cons head before =>
      obtain ⟨rfl, rest⟩ := cons_eq_cons.mp split
      have later := ih tried before rest
      rwa [← same] at later

theorem path_sampled (accounted : ∀ planned ∈ entries, Accounted deps input planned.before)
    (noted : ∀ id ∈ state.excluded, Sampled input state.directed id) :
    ∀ id ∈ last.excluded, Sampled input last.directed id := by
  induction path with
  | here state => exact noted
  | step follows path ih =>
    obtain ⟨now, rest⟩ := forall_mem_cons.mp accounted
    apply ih rest
    rw [follows.excluded, follows.directed]
    exact marked_sampled deps input (follows.before ▸ now) noted

theorem path_hits
    (met : state.hits = closuresOnRoutes deps input.closures (input.routes state.result)) :
    last.hits = closuresOnRoutes deps input.closures (input.routes last.result) := by
  induction path with
  | here state => exact met
  | step follows path ih => exact ih follows.hits

theorem last_planned_all (exit : Option Left) :
    lastPlanned (state.directed, state.result) (callsOf ⟨entries, last, exit⟩) =
      (last.directed, last.result) := by
  have planned := last_planned_path deps input path
  unfold callsOf lastPlanned at *
  rw [foldl_append, planned]
  cases exit.bind (·.refused) <;> rfl

end

theorem calls_length (bound : Nat) (state : Planning T) :
    (callsOf (BoundedLoop.run (planRound deps input) bound state)).length ≤ bound := by
  let step := planRound deps input
  have full := run_length_le step bound state
  have short := run_length_lt step bound state
  unfold callsOf
  rw [length_append, length_map, length_map]
  cases left : (BoundedLoop.run step bound state).exit with
  | none => simpa [left] using full
  | some exit =>
    have fewer := short exit left
    have one : exit.refused.toList.length ≤ 1 := by cases exit.refused <;> simp
    simp only [step] at fewer left
    simp only [Option.bind_some]
    omega

/-- If each round that plans excludes a sample of every closure it counts, and closures with
one id are alike, what was planned and what is reported agree. -/
theorem planning_reported
    (alike : ∀ closure ∈ input.closures, excludable deps input.waypoints closure = true →
      mayExclude deps input closure.id = true)
    (accounted : ∀ planned ∈ (planRounds deps input).entries, Accounted deps input planned.before) :
    Reports deps input (callsOf (planRounds deps input))
      (routeAroundPlannedClosures deps input) := by
  let run := planRounds deps input
  have path : LoopPath (Follows deps input)
      (planning deps input) run.entries run.state :=
    run_path (fun _ => True)
      (fun state planned later _
        (reply : planRound deps input state = .next planned later) =>
          ⟨round_follows deps input reply, trivial⟩) _ _ trivial
  have lastly : lastPlanned (given input) (callsOf run) =
      (run.state.directed, run.state.result) :=
    last_planned_all deps input path run.exit
  have travelled (id : String) : id ∈ run.state.hits.map (·.id) ↔
      ∃ closure ∈ input.closures, closure.id = id ∧
        Travelled deps input run.state.result closure := by
    rw [path_hits deps input path rfl]
    exact mem_closures_on_routes deps input run.state.result id
  have leaves (left : Left) (exit : run.exit = some left) :=
    round_leaves deps input (run_exit _ _ _ left exit)
  refine ⟨calls_length deps input _ _, ?_, ?_, ?_, ?_⟩
  · intro before call after split
    apply path_extends deps input path _ _ before call after split
    intro asked refused
    obtain ⟨left, exit, refused⟩ := Option.bind_eq_some_iff.mp refused
    exact (leaves left exit).2 asked refused
  · rw [lastly]
    rfl
  · intro closure member used
    by_cases may : excludable deps input.waypoints closure = true
    · exact .inl (mem_filter.mpr
        ⟨(travelled closure.id).mpr ⟨closure, member, rfl, used⟩, alike closure member may⟩)
    · exact .inr (Bool.not_eq_true _ ▸ may)
  · intro id reported
    obtain ⟨marked, avoided⟩ := mem_filter.mp reported
    have gone : id ∉ run.state.hits.map (·.id) := of_decide_eq_true avoided
    constructor
    · -- an id of the round that left the loop is still met
      have counted : id ∈ run.state.excluded := by
        change id ∈ (run.exit.map (·.excluded)).getD run.state.excluded at marked
        cases exit : run.exit with
        | none => rwa [exit] at marked
        | some left =>
          rw [exit] at marked
          exact ((leaves left exit).1 id marked).resolve_right gone
      rw [lastly]
      exact path_sampled deps input path accounted
        (fun id marked => by cases marked) id counted
    · intro closure member same used
      exact gone ((travelled id).mpr ⟨closure, member, same, used⟩)

end

end

def axes : PlanDeps :=
  { LocalAccess.nearEquator with
    geometryAt := fun _ => .unknown
    hashKey := fun _ _ => ""
    bearingBetween := fun a b =>
      if a.1 < b.1 then 90 else if b.1 < a.1 then 270 else if a.2 < b.2 then 0 else 180 }

def northward : List LngLat := [(0, 0), (0, 1 / 10)]

def around : List LngLat := [(0, 0), (1 / 100, 0), (1 / 100, 1 / 10), (0, 1 / 10)]

def halfway : PlannedClosure := ⟨"halfway", [⟨0, 1 / 20, 0⟩], false⟩

def atTheStart : PlannedClosure := ⟨"start", [⟨0, 1 / 1000, 0⟩], false⟩

def northwardTrip (closures : List PlannedClosure) : PlanInput (List (List LngLat)) :=
  ⟨[northward], closures, northward, none, fun _ _ => some [around], id⟩

theorem halfway_reported :
    Reports axes (northwardTrip [halfway]) (callsOf (planRounds axes (northwardTrip [halfway])))
      (routeAroundPlannedClosures axes (northwardTrip [halfway])) :=
  planning_reported axes (northwardTrip [halfway]) (by decide +kernel)
    (by unfold Accounted; decide +kernel)

/-- The closure at the start has no sample that may be excluded. -/
theorem start_reported_excluded : ¬Reports axes (northwardTrip [halfway, atTheStart])
      (callsOf (planRounds axes (northwardTrip [halfway, atTheStart])))
      (routeAroundPlannedClosures axes (northwardTrip [halfway, atTheStart])) := by
  intro reports
  have sampled := (reports.excluded "start" (by decide +kernel)).1
  unfold Sampled at sampled
  revert sampled
  decide +kernel

end OpenMapX.RoadConditions.PlannedDetours
