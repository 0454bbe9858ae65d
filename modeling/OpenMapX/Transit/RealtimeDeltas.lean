import Mathlib

/-!
# Realtime deltas

`enrichDeparturesWithRealtime` asks the realtime providers for the trips of a
timetable: first those that answer for many trips at once, then trip by trip.
Every provider is asked at most once for a trip, so its answer is a value here.
-/

namespace OpenMapX.Transit.RealtimeDeltas

open List Function
open Option (bind_some filter_none filter_some none_or)

structure TripUpdate where
  expectedAt : Option String
  delaySeconds : Option ℚ
  canceled : Option Bool
  platform : Option String

inductive RealtimeCompleteness where
  | none | merged | changed | unknown
  deriving DecidableEq

structure Departure where
  tripId : String
  expectedAt : Option String
  delaySeconds : Option ℚ
  canceled : Option Bool
  platform : Option String
  realtimeCompleteness : Option RealtimeCompleteness
  deriving DecidableEq

structure BBox where
  west : ℚ
  south : ℚ
  east : ℚ
  north : ℚ

structure RealtimeProvider where
  coverage : Option BBox
  priority : ℚ
  tripUpdates : Bool
  /-- A call that fails answers nothing, one without a delta answers `some none`. -/
  getTripUpdate : Option (String → Option (Option TripUpdate))
  getTripUpdates : Option (Option (String → Option TripUpdate))

def bboxesOverlap (a b : BBox) : Bool :=
  decide (a.east > b.west ∧ b.east > a.west ∧ a.north > b.south ∧ b.north > a.south)

def providerMatches (bbox : Option BBox) (provider : RealtimeProvider) : Bool :=
  if !provider.tripUpdates then false
  else if provider.getTripUpdate.isNone && provider.getTripUpdates.isNone then false
  else
    match provider.coverage, bbox with
    | none, _ => true
    | some _, none => false
    | some coverage, some bbox => bboxesOverlap bbox coverage

def collectRealtimeProviders (integrations : List (List RealtimeProvider)) :
    List RealtimeProvider :=
  integrations.flatten.insertionSort fun a b => a.priority ≤ b.priority

def filled (text : Option String) : Bool := text.any (· ≠ "")

def isAlreadyRealtime (dep : Departure) : Bool :=
  if dep.realtimeCompleteness = some .merged then true
  else if dep.realtimeCompleteness = some .changed then true
  else filled dep.expectedAt || dep.delaySeconds.isSome || decide (dep.canceled = some true)

def applyDelta (dep : Departure) (delta : TripUpdate) : Departure × Bool :=
  let expected := filled delta.expectedAt && decide (delta.expectedAt ≠ dep.expectedAt)
  let delayed := delta.delaySeconds.isSome && decide (delta.delaySeconds ≠ dep.delaySeconds)
  let canceled := decide (delta.canceled = some true) && decide (dep.canceled ≠ some true)
  let moved := filled delta.platform && decide (delta.platform ≠ dep.platform)
  let changed := expected || delayed || canceled || moved
  ({ dep with
      expectedAt := if expected then delta.expectedAt else dep.expectedAt
      delaySeconds := if delayed then delta.delaySeconds else dep.delaySeconds
      canceled := if canceled then some true else dep.canceled
      platform := if moved then delta.platform else dep.platform
      realtimeCompleteness := if changed then dep.realtimeCompleteness.map fun _ => .changed
        else dep.realtimeCompleteness }, changed)

/-- The clones, each with whether it is a target, and the trips that no delta has changed. -/
structure Enrichment where
  data : List (Departure × Bool)
  remaining : List String
  anyApplied : Bool

def isTarget (dep : Departure) : Bool := decide (dep.tripId ≠ "") && !isAlreadyRealtime dep

def applyToTrip (tripId : String) (delta : TripUpdate) (data : List (Departure × Bool)) :
    List (Departure × Bool) × Bool :=
  (data.map fun slot => if slot.2 && decide (slot.1.tripId = tripId) then
      ((applyDelta slot.1 delta).1, slot.2) else slot,
    data.any fun slot => slot.2 && decide (slot.1.tripId = tripId) && (applyDelta slot.1 delta).2)

def bulkTrip (answer : String → Option TripUpdate) (state : Enrichment) (id : String) :
    Enrichment :=
  match answer id with
  | none => state
  | some delta =>
    let applied := applyToTrip id delta state.data
    if applied.2 then
      { data := applied.1, remaining := state.remaining.filter (· ≠ id), anyApplied := true }
    else { state with data := applied.1 }

def bulkProvider (state : Enrichment) (provider : RealtimeProvider) : Enrichment :=
  match provider.getTripUpdates with
  | none => state
  | some outcome =>
    if state.remaining = [] then state
    else
      match outcome with
      | none => state
      | some answer => state.remaining.foldl (bulkTrip answer) state

def askProviders (tripId : String) : List RealtimeProvider → Enrichment → Enrichment
  | [], state => state
  | provider :: rest, state =>
    match provider.getTripUpdate.bind fun call => call tripId with
    | none | some none => askProviders tripId rest state
    | some (some delta) =>
      let applied := applyToTrip tripId delta state.data
      if applied.2 then { state with data := applied.1, anyApplied := true }
      else askProviders tripId rest { state with data := applied.1 }

def markInspected (dep : Departure) : Departure :=
  if dep.realtimeCompleteness = some .none then
    { dep with realtimeCompleteness := some .unknown }
  else dep

def addKey (keys : List String) (key : String) : List String :=
  if key ∈ keys then keys else keys ++ [key]

def tripIds (base : List Departure) : List String :=
  ((base.filter isTarget).map (·.tripId)).foldl addKey []

/-- The two rounds; the queue of the second is emptied by workers, in some order of its trips. -/
def askCandidates (worked : List String → List String) (candidates : List RealtimeProvider)
    (base : List Departure) : List Departure :=
  let started : Enrichment :=
    { data := base.map fun dep => (dep, isTarget dep), remaining := tripIds base,
      anyApplied := false }
  let bulk := candidates.foldl bulkProvider started
  let asked := (worked bulk.remaining).foldl (fun state tripId =>
    askProviders tripId candidates state) bulk
  let marked := asked.data.map fun slot =>
    (if slot.2 then markInspected slot.1 else slot.1, slot.2)
  let inspected := marked.any fun slot =>
    slot.2 && decide (slot.1.realtimeCompleteness = some .unknown)
  if !asked.anyApplied && !inspected then base else marked.map (·.1)

def enrichDeparturesWithRealtime (worked : List String → List String) (bbox : Option BBox)
    (integrations : List (List RealtimeProvider)) (base : List Departure) : List Departure :=
  if base = [] then base
  else
    let candidates := (collectRealtimeProviders integrations).filter (providerMatches bbox)
    if candidates = [] then base
    else if base.all fun dep => !isTarget dep then base
    else askCandidates worked candidates base

theorem applyDelta_unchanged {dep delta} (unchanged : (applyDelta dep delta).2 = false) :
    (applyDelta dep delta).1 = dep := by
  unfold applyDelta at unchanged ⊢
  simp only [Bool.or_eq_false_iff] at unchanged
  obtain ⟨⟨⟨expected, delayed⟩, canceled⟩, moved⟩ := unchanged
  simp only [expected, delayed, canceled, moved, Bool.or_false, Bool.false_eq_true, if_false]

theorem keys_added (ids : List String) : ∀ keys : List String,
    (∀ id, id ∈ ids.foldl addKey keys ↔ id ∈ keys ∨ id ∈ ids) ∧
      (keys.Nodup → (ids.foldl addKey keys).Nodup) := by
  induction ids with
  | nil => exact fun keys => ⟨by simp, fun distinct => distinct⟩
  | cons first rest ih =>
    intro keys
    have one : ∀ id, id ∈ addKey keys first ↔ id ∈ keys ∨ id = first := by
      intro id
      unfold addKey
      split_ifs with known
      · exact ⟨Or.inl, fun either => either.elim (fun old => old) (fun same => same ▸ known)⟩
      · simp
    have distinct : keys.Nodup → (addKey keys first).Nodup := by
      intro distinct
      unfold addKey
      split_ifs with known
      · exact distinct
      · rw [nodup_append]
        exact ⟨distinct, by simp, by rintro a old b same rfl; simp_all⟩
    refine ⟨fun id => ?_, fun before => (ih _).2 (distinct before)⟩
    rw [foldl_cons, (ih _).1, one, mem_cons, or_assoc]

section

variable (base : List Departure)

def useful (tripId : String) (delta : TripUpdate) : Bool :=
  base.any fun dep => isTarget dep && decide (dep.tripId = tripId) && (applyDelta dep delta).2

def settled (choice : String → Option TripUpdate) (dep : Departure) : Departure :=
  match choice dep.tripId with
  | some delta => (applyDelta dep delta).1
  | none => dep

def slots (choice : String → Option TripUpdate) : List (Departure × Bool) :=
  base.map fun dep => (if isTarget dep then settled choice dep else dep, isTarget dep)

variable {base} {choice : String → Option TripUpdate} {tripId : String}

theorem useful_trip {delta} (helps : useful base tripId delta = true) : tripId ∈ tripIds base := by
  simp only [useful, any_eq_true, Bool.and_eq_true, decide_eq_true_eq] at helps
  obtain ⟨dep, member, ⟨isOne, rfl⟩, -⟩ := helps
  rw [tripIds, (keys_added _ []).1]
  exact Or.inr (mem_map_of_mem (mem_filter.mpr ⟨member, isOne⟩))

theorem settled_tripId (dep : Departure) : (settled choice dep).tripId = dep.tripId := by
  unfold settled
  split <;> rfl

theorem apply_to_trip (open_ : choice tripId = none) (delta : TripUpdate) :
    applyToTrip tripId delta (slots base choice) = (slots base (Function.update choice tripId
        (if useful base tripId delta then some delta else none)), useful base tripId delta) := by
  have untouched : ∀ dep : Departure, dep.tripId = tripId → settled choice dep = dep := by
    rintro dep rfl
    simp only [settled, open_]
  refine Prod.ext ?_ ?_
  · simp only [applyToTrip, slots, map_map]
    refine map_congr_left fun dep member => ?_
    simp only [comp_apply]
    cases one : isTarget dep with
    | false => simp
    | true =>
      simp only [if_true, Bool.true_and, settled_tripId]
      by_cases own : dep.tripId = tripId
      · rw [if_pos (by simpa using own), untouched dep own, settled, own, update_self]
        cases helps : useful base tripId delta with
        | true => rfl
        | false =>
          have same : (applyDelta dep delta).2 = false := by
            simp only [useful, any_eq_false, Bool.and_eq_true, decide_eq_true_eq,
              not_and] at helps
            simpa using helps dep member ⟨one, own⟩
          simp only [Bool.false_eq_true, if_false, applyDelta_unchanged same]
      · rw [if_neg (by simpa using own), settled, settled, update_of_ne own]
  · simp only [applyToTrip, slots, useful, any_map]
    refine congrArg _ (funext fun dep => ?_)
    cases one : isTarget dep with
    | false => simp [one]
    | true =>
      by_cases own : dep.tripId = tripId
      · simp [one, own, untouched dep own]
      · simp [one, own, settled_tripId]

structure Shown (base : List Departure) (choice : String → Option TripUpdate)
    (state : Enrichment) : Prop where
  data : state.data = slots base choice
  applied : state.anyApplied = false → ∀ id, choice id = none

structure Holds (base : List Departure) (choice : String → Option TripUpdate)
    (state : Enrichment) : Prop extends Shown base choice state where
  remaining : ∀ id, id ∈ state.remaining ↔ id ∈ tripIds base ∧ choice id = none
  distinct : state.remaining.Nodup

theorem over_trips {step : Enrichment → String → Enrichment} (found : String → Option TripUpdate)
    {property : (String → Option TripUpdate) → Enrichment → Prop}
    (one : ∀ choice state id, property choice state → choice id = none →
      property (Function.update choice id (found id)) (step state id)) (ids : List String) :
    ∀ choice state, property choice state → ids.Nodup → (∀ id ∈ ids, choice id = none) →
      property (fun id => if id ∈ ids then found id else choice id) (ids.foldl step state) := by
  induction ids with
  | nil => exact fun choice state holds _ _ => by simpa using holds
  | cons first rest ih =>
    intro choice state holds distinct unchosen
    rw [nodup_cons] at distinct
    have later := ih _ _ (one choice state first holds (unchosen first (by simp))) distinct.2
      fun id member => by
        have other : id ≠ first := fun same => distinct.1 (same ▸ member)
        rw [update_of_ne other]
        exact unchosen id (by simp [member])
    have same : (fun id => if id ∈ first :: rest then found id else choice id) =
        fun id => if id ∈ rest then found id
          else Function.update choice first (found first) id := by
      funext id
      by_cases here : id = first
      · subst here
        simp [distinct.1]
      · simp [here]
    rw [same]
    exact later

theorem update_none {choice : String → Option TripUpdate} {id : String}
    (unchosen : choice id = none) : Function.update choice id none = choice := by
  rw [← unchosen, update_eq_self]

theorem bulk_trip (answer : String → Option TripUpdate) (choice : String → Option TripUpdate)
    (state : Enrichment) (id : String) (holds : Holds base choice state)
    (unchosen : choice id = none) :
    Holds base (Function.update choice id ((answer id).filter (useful base id)))
      (bulkTrip answer state id) := by
  unfold bulkTrip
  cases answer id with
  | none =>
    simpa only [filter_none, update_none unchosen] using holds
  | some delta =>
    simp only [holds.data, apply_to_trip unchosen, filter_some]
    cases helps : useful base id delta with
    | true =>
      simp only [if_true]
      refine ⟨⟨rfl, fun impossible => by cases impossible⟩, fun other => ?_,
        holds.distinct.filter _⟩
      rw [mem_filter, holds.remaining]
      by_cases same : other = id
      · simp [same]
      · simp [same, update_of_ne]
    | false =>
      simp only [Bool.false_eq_true, if_false, update_none unchosen]
      exact ⟨⟨rfl, holds.applied⟩, holds.remaining, holds.distinct⟩

def bulkDelta (id : String) (provider : RealtimeProvider) : Option TripUpdate :=
  provider.getTripUpdates.bind fun outcome => outcome.bind fun answer => answer id

def ownDelta (id : String) (provider : RealtimeProvider) : Option TripUpdate :=
  (provider.getTripUpdate.bind fun call => call id).join

theorem bulk_provider (provider : RealtimeProvider) {state} (holds : Holds base choice state) :
    Holds base (fun id => (choice id).or ((bulkDelta id provider).filter (useful base id)))
      (bulkProvider state provider) := by
  -- A trip that does not remain has a choice, or no delta is useful for it.
  have settledTrip : ∀ (answer : Option TripUpdate) id, id ∉ state.remaining →
      (choice id).or (answer.filter (useful base id)) = choice id := by
    intro answer id gone
    cases chosen : choice id with
    | some delta => rfl
    | none =>
      cases given : answer.filter (useful base id) with
      | none => rfl
      | some delta =>
        have helps := (Option.filter_eq_some_iff.mp given).2
        exact absurd ((holds.remaining id).mpr ⟨useful_trip helps, chosen⟩) gone
  unfold bulkProvider bulkDelta
  cases provider.getTripUpdates with
  | none => simpa using holds
  | some outcome =>
    simp only [bind_some]
    split_ifs with empty
    · have same : (fun id => (choice id).or ((outcome.bind fun answer => answer id).filter
          (useful base id))) = choice :=
        funext fun id => settledTrip _ id (by simp [empty])
      rwa [same]
    · cases outcome with
      | none => simpa using holds
      | some answer =>
        have run := over_trips (fun id => (answer id).filter (useful base id))
          (bulk_trip answer) state.remaining choice state holds holds.distinct
          fun id member => ((holds.remaining id).mp member).2
        have same : (fun id => (choice id).or ((answer id).filter (useful base id))) =
            fun id => if id ∈ state.remaining then (answer id).filter (useful base id)
              else choice id := by
          funext id
          split_ifs with member
          · rw [((holds.remaining id).mp member).2, none_or]
          · exact settledTrip _ id member
        simpa only [bind_some, same] using run

theorem find_first (test : TripUpdate → Bool) (answer : RealtimeProvider → Option TripUpdate)
    (provider : RealtimeProvider) (rest) : ((provider :: rest).filterMap answer).find? test =
      ((answer provider).filter test).or ((rest.filterMap answer).find? test) := by
  rw [filterMap_cons]
  cases answer provider with
  | none => simp only [filter_none, none_or]
  | some delta =>
    cases helps : test delta <;>
      simp only [find?_cons, helps, filter_some, if_true, Bool.false_eq_true,
        if_false, Option.some_or, none_or]

theorem bulk_providers (candidates : List RealtimeProvider) :
    ∀ {choice : String → Option TripUpdate} {state : Enrichment}, Holds base choice state →
      Holds base (fun id => (choice id).or
          ((candidates.filterMap (bulkDelta id)).find? (useful base id)))
        (candidates.foldl bulkProvider state) := by
  induction candidates with
  | nil => exact fun holds => by simpa using holds
  | cons provider rest ih =>
    intro choice state holds
    have later := ih (bulk_provider provider holds)
    rw [foldl_cons]
    simpa only [find_first, Option.or_assoc] using later

theorem ask_providers (candidates) :
    ∀ (choice : String → Option TripUpdate) (state : Enrichment) (id : String),
      Shown base choice state → choice id = none → Shown base (Function.update choice id
          ((candidates.filterMap (ownDelta id)).find? (useful base id)))
        (askProviders id candidates state) := by
  induction candidates with
  | nil =>
    intro choice state id shown unchosen
    simpa only [askProviders, filterMap_nil, find?_nil, update_none unchosen] using shown
  | cons provider rest ih =>
    intro choice state id shown unchosen
    rw [find_first, askProviders, ownDelta]
    split
    · rename_i failed
      rw [failed]
      simpa using ih choice state id shown unchosen
    · rename_i absent
      rw [absent]
      simpa using ih choice state id shown unchosen
    · rename_i delta given
      rw [given, Option.join_some, filter_some]
      simp only [shown.data, apply_to_trip unchosen]
      cases helps : useful base id delta with
      | true => exact ⟨by simp, fun impossible => by cases impossible⟩
      | false =>
        simp only [Bool.false_eq_true, if_false, update_none unchosen, none_or]
        exact ih choice _ id ⟨rfl, shown.applied⟩ unchosen

end

def consulted (candidates : List RealtimeProvider) (id : String) : List TripUpdate :=
  candidates.filterMap (bulkDelta id) ++ candidates.filterMap (ownDelta id)

def firstUseful (candidates : List RealtimeProvider) (base : List Departure) (id : String) :
    Option TripUpdate :=
  (consulted candidates id).find? (useful base id)

def enriched (candidates : List RealtimeProvider) (base : List Departure) (dep : Departure) :
    Departure :=
  if isTarget dep then markInspected (settled (firstUseful candidates base) dep) else dep

variable {candidates : List RealtimeProvider} {base : List Departure}

theorem started_holds : Holds base (fun _ => none)
    { data := base.map fun dep => (dep, isTarget dep), remaining := tripIds base,
      anyApplied := false } := by
  refine ⟨⟨?_, fun _ _ => rfl⟩, by simp, (keys_added _ []).2 nodup_nil⟩
  simp [slots, settled]

theorem asked_shown {worked : List String → List String} (complete : ∀ ids, (worked ids).Perm ids)
    {started : Enrichment} (holds : Holds base (fun _ => none) started) :
    Shown base (firstUseful candidates base)
      ((worked (candidates.foldl bulkProvider started).remaining).foldl (fun state tripId =>
        askProviders tripId candidates state) (candidates.foldl bulkProvider started)) := by
  have bulk := bulk_providers candidates holds
  generalize candidates.foldl bulkProvider started = state at bulk
  have order := complete state.remaining
  have run := over_trips (fun id => (candidates.filterMap (ownDelta id)).find? (useful base id))
    (ask_providers candidates) (worked state.remaining) _ _ bulk.toShown
    (order.nodup_iff.mpr bulk.distinct)
    fun id member => ((bulk.remaining id).mp (order.mem_iff.mp member)).2
  convert run using 1
  funext id
  rw [firstUseful, consulted, find?_append]
  simp only [none_or, order.mem_iff]
  have remaining := bulk.remaining id
  simp only [none_or] at remaining
  split_ifs with member
  · rw [(remaining.mp member).2, none_or]
  · cases chosen : (candidates.filterMap (bulkDelta id)).find? (useful base id) with
    | some delta => rfl
    | none =>
      rw [none_or, find?_eq_none]
      intro delta _ helps
      exact member (remaining.mpr ⟨useful_trip helps, chosen⟩)

theorem marked_eq (choice : String → Option TripUpdate) : ((slots base choice).map fun slot =>
      (if slot.2 then markInspected slot.1 else slot.1, slot.2)).map (·.1) = base.map fun dep =>
        if isTarget dep then markInspected (settled choice dep) else dep := by
  simp only [slots, map_map]
  refine map_congr_left fun dep _ => ?_
  cases one : isTarget dep <;> simp [one]

theorem marked_unknown {dep} (known : (markInspected dep).realtimeCompleteness ≠ some .unknown) :
    markInspected dep = dep := by
  unfold markInspected at known ⊢
  split_ifs at known ⊢ with bare
  · exact absurd rfl known
  · rfl

theorem ask_candidates (worked : List String → List String)
    (complete : ∀ ids, (worked ids).Perm ids) :
    askCandidates worked candidates base = base.map (enriched candidates base) := by
  have shown := @asked_shown candidates base worked complete _ started_holds
  unfold askCandidates
  simp only [shown.data]
  split_ifs with quiet
  · -- Nothing applied and nothing to mark.
    rw [Bool.and_eq_true, Bool.not_eq_true', Bool.not_eq_true'] at quiet
    have unchosen := shown.applied quiet.1
    have inspected := quiet.2
    simp only [slots, map_map, any_map, any_eq_false] at inspected
    refine (map_id base).symm.trans (map_congr_left fun dep member => ?_)
    have here := inspected dep member
    cases one : isTarget dep with
    | false => simp [enriched, one]
    | true =>
      simp only [comp_apply, one, if_true, Bool.true_and, decide_eq_true_eq, settled,
        unchosen] at here
      rw [enriched, if_pos one, settled, unchosen]
      exact (marked_unknown here).symm
  · exact marked_eq _

def answering (priority : ℚ) (delta : TripUpdate) : RealtimeProvider where
  coverage := none
  priority := priority
  tripUpdates := true
  getTripUpdate := some fun _ => some (some delta)
  getTripUpdates := none

def nothingNew : TripUpdate where
  expectedAt := none
  delaySeconds := none
  canceled := some false
  platform := none

def oneMinute : TripUpdate := { nothingNew with delaySeconds := some 60 }

def scheduled : Departure where
  tripId := "trip"
  expectedAt := none
  delaySeconds := none
  canceled := none
  platform := none
  realtimeCompleteness := none

end OpenMapX.Transit.RealtimeDeltas
