import OpenMapX.Mobility.MotisAuthority

/-!
# The merged inventory keeps what MOTIS reported

The merge is followed station by station: through the supplements, through the MOTIS
stations that the deduplication takes first, and through the stations left to it.
-/

namespace OpenMapX.Mobility.MotisInventory

open Foundation.Runs SharedMobility DedupStations MotisFirst List MotisAuthority Function

variable {Receipt Area : Type} (deps : MergeDeps Receipt Area)

theorem positions_found {Item : Type} (identityOf : Item → Option String) (items : List Item)
    (identity : String) (position : Nat)
    (found : positionsByIdentity identityOf items identity = some position) :
    ∃ item, items[position]? = some item ∧ identityOf item = some identity := by
  have folded : ∀ (entries : List (Item × Nat)) (start : String → Option Nat),
      entries.foldl (fun positions entry => remember positions (identityOf entry.1) entry.2)
        start identity = some position →
      start identity = some position ∨
        ∃ entry ∈ entries, entry.2 = position ∧ identityOf entry.1 = some identity := by
    intro entries
    induction entries with
    | nil =>
      intro start same
      exact Or.inl same
    | cons entry rest ih =>
      intro start same
      rw [foldl_cons] at same
      rcases ih _ same with before | later
      · cases named : identityOf entry.1 with
        | none =>
          rw [named] at before
          exact Or.inl before
        | some name =>
          simp only [named, remember] at before
          by_cases own : identity = name
          · subst own
            rw [update_self, Option.some.injEq] at before
            exact Or.inr ⟨entry, mem_cons_self, before, named⟩
          · rw [update_of_ne own] at before
            exact Or.inl before
      · obtain ⟨other, member, both⟩ := later
        exact Or.inr ⟨other, mem_cons_of_mem entry member, both⟩
  rcases folded items.zipIdx (fun _ => none) found with none_found | entry_found
  · cases none_found
  · obtain ⟨entry, member, at_position, named⟩ := entry_found
    apply Exists.intro entry.1
    apply And.intro
    · rw [← at_position]
      exact mem_zipIdx_iff_getElem?.mp member
    · exact named

structure Located (reported found : SharedMobilityStation Receipt Area) : Prop where
  name : found.name = reported.name
  nativeId : found.nativeId = reported.nativeId
  coordinates : found.coordinates = reported.coordinates
  systemId : found.systemId = reported.systemId
  providerId : found.providerId = reported.providerId
  scope : scopeOf found = scopeOf reported

theorem located_refl (station : SharedMobilityStation Receipt Area) : Located station station :=
  ⟨rfl, rfl, rfl, rfl, rfl, rfl⟩

theorem canonical_scope {station other : SharedMobilityStation Receipt Area}
    {identity : String} (canonical : canonicalStationIdentity station = some identity)
    (systemId : other.systemId = station.systemId)
    (providerId : other.providerId = station.providerId) : scopeOf other = scopeOf station := by
  have present : (orElse station.systemId station.providerId).isSome := by
    unfold canonicalStationIdentity canonicalIdentity at canonical
    cases system : station.systemId with
    | some value => rfl
    | none =>
      cases provider : station.providerId with
      | some value => rfl
      | none => simp [system, provider] at canonical
  unfold scopeOf
  rw [systemId, providerId]
  obtain ⟨scope, known⟩ := Option.isSome_iff_exists.mp present
  simp [known]

theorem fill_located {reported found : SharedMobilityStation Receipt Area} {identity : String}
    (canonical : canonicalStationIdentity reported = some identity)
    (located : Located reported found) (added) :
    Located reported (fillStationMetadata deps found added) := by
  obtain ⟨rest, result, id, name, nativeId, coordinates, isActive, available, empty, capacity,
    types, systemId, providerId⟩ := fill_station_fields deps found added
  rw [result]
  apply Located.mk
  · exact name.trans located.name
  · exact nativeId.trans located.nativeId
  · exact coordinates.trans located.coordinates
  · exact systemId.trans located.systemId
  · exact providerId.trans located.providerId
  · exact canonical_scope canonical (systemId.trans located.systemId)
      (providerId.trans located.providerId)

variable (motis : SharedMobilityInventory Receipt Area)

def suppliedStations (supplements : List (SharedMobilityInventory Receipt Area)) :
    List (SharedMobilityStation Receipt Area) :=
  supplements.flatMap fun supplement => supplement.stations

def unmatchedStations (supplements : List (SharedMobilityInventory Receipt Area)) :
    List (SharedMobilityStation Receipt Area) :=
  (suppliedStations supplements).filter fun station => (stationMatch motis station).isNone

def filledStations (supplements : List (SharedMobilityInventory Receipt Area)) :
    List (SharedMobilityStation Receipt Area) :=
  ((suppliedStations supplements).filter fun station =>
    (stationMatch motis station).isSome).foldl (addStation deps motis) motis.stations

variable (supplements : List (SharedMobilityInventory Receipt Area))

theorem collected_stations (inventory) :
    (supplements.foldl (addSupplement deps motis) inventory).stations =
      (suppliedStations supplements).foldl (addStation deps motis) inventory.stations := by
  induction supplements generalizing inventory with
  | nil => rfl
  | cons supplement rest ih =>
    rw [foldl_cons, ih]
    simp [suppliedStations, addSupplement, foldl_append]

variable {station : SharedMobilityStation Receipt Area}

theorem match_in_bounds {position : Nat} (found : stationMatch motis station = some position) :
    ∃ reported identity, motis.stations[position]? = some reported ∧
      canonicalStationIdentity reported = some identity := by
  unfold stationMatch at found
  rw [Option.bind_eq_some_iff] at found
  obtain ⟨identity, own, position_found⟩ := found
  obtain ⟨reported, member, canonical⟩ :=
    positions_found canonicalStationIdentity motis.stations identity position position_found
  exact ⟨reported, identity, member, canonical⟩

theorem modify_append_front {Item : Type} {front} {position : Nat}
    (bound : position < front.length) (change : Item → Item) (tail : List Item) :
    (front ++ tail).modify position change = front.modify position change ++ tail := by
  apply ext_getElem?
  intro other
  rw [getElem?_modify]
  by_cases inside : other < front.length
  · rw [getElem?_append_left inside,
      getElem?_append_left (by rw [length_modify]; exact inside),
      getElem?_modify]
  · have outside : front.length ≤ other := Nat.le_of_not_lt inside
    rw [getElem?_append_right outside,
      getElem?_append_right (by rw [length_modify]; exact outside),
      length_modify]
    have away : position ≠ other := by omega
    simp [away]

theorem add_stations_split (supplied front tail : List (SharedMobilityStation Receipt Area))
    (long : motis.stations.length ≤ front.length) :
    supplied.foldl (addStation deps motis) (front ++ tail) =
      (supplied.filter fun station => (stationMatch motis station).isSome).foldl
          (addStation deps motis) front ++
        (tail ++ supplied.filter fun station => (stationMatch motis station).isNone) := by
  induction supplied generalizing front tail with
  | nil => simp
  | cons station rest ih =>
    rw [foldl_cons]
    cases found : stationMatch motis station with
    | none =>
      have appended : addStation deps motis (front ++ tail) station =
          front ++ (tail ++ [station]) := by
        simp [addStation, found]
      rw [appended, ih front (tail ++ [station]) long]
      simp [found]
    | some position =>
      obtain ⟨reported, identity, member, canonical⟩ := match_in_bounds motis found
      have bound : position < front.length := (List.getElem?_eq_some_iff.mp member).1.trans_le long
      have changed : addStation deps motis (front ++ tail) station =
          addStation deps motis front station ++ tail := by
        simp only [addStation, found]
        exact modify_append_front bound _ tail
      have same_length : (addStation deps motis front station).length = front.length := by
        simp [addStation, found]
      rw [changed, ih _ tail (long.trans_eq same_length.symm)]
      simp [found]

theorem collected_split : (supplements.foldl (addSupplement deps motis) motis).stations =
      filledStations deps motis supplements ++ unmatchedStations motis supplements := by
  rw [collected_stations]
  have split := add_stations_split deps motis (suppliedStations supplements) motis.stations []
    (Nat.le_refl _)
  rw [append_nil, nil_append] at split
  exact split

def NoCapacityFilled (supplements : List (SharedMobilityInventory Receipt Area)) : Prop :=
  ∀ station ∈ suppliedStations supplements, ∀ (position : Nat) reported,
    stationMatch motis station = some position → motis.stations[position]? = some reported →
      reported.capacity.isSome ∨ station.capacity = none

section

variable {found : List (SharedMobilityStation Receipt Area)}

theorem add_station_derived (stands : Stand Derived motis.stations found) (station) :
    Stand Derived motis.stations (addStation deps motis found station) := by
  unfold addStation
  split
  · apply stand_modify_each _ stands
    intro reported old derived
    exact fill_derived deps derived station
  · exact (stand_append _ (stand_length stands)).mpr stands

theorem add_station_located (stands : Stand Located motis.stations found) (station) :
    Stand Located motis.stations (addStation deps motis found station) := by
  unfold addStation
  split
  · rename_i position matched
    obtain ⟨reported, identity, member, canonical⟩ := match_in_bounds motis matched
    apply stand_modify
    intro other item found_item
    obtain ⟨old, found_old, located⟩ := stands other item found_item
    apply Exists.intro old
    apply And.intro found_old
    split
    · rename_i here
      rw [← here, member, Option.some.injEq] at found_item
      subst found_item
      exact fill_located deps canonical located station
    · exact located
  · exact (stand_append _ (stand_length stands)).mpr stands

end

theorem filled_stand_located :
    Stand Located motis.stations (filledStations deps motis supplements) := by
  apply @run_keeps (List (SharedMobilityStation Receipt Area)) _ (addStation deps motis)
    (Stand Located motis.stations)
  · intro found station stands
    exact add_station_located deps motis stands station
  · intro position item member
    exact ⟨item, member, located_refl item⟩

theorem filled_stand_derived :
    Stand Derived motis.stations (filledStations deps motis supplements) := by
  apply @run_keeps (List (SharedMobilityStation Receipt Area)) _ (addStation deps motis)
    (Stand Derived motis.stations)
  · intro found station stands
    exact add_station_derived deps motis stands station
  · intro position item member
    exact ⟨item, member, derived_refl item⟩

theorem filled_same_iff :
    Stand SameOperation motis.stations (filledStations deps motis supplements) ↔
      NoCapacityFilled motis supplements := by
  let allowed := fun (_ : List (SharedMobilityStation Receipt Area))
      (station : SharedMobilityStation Receipt Area) =>
    ∀ (position : Nat) reported, stationMatch motis station = some position →
      motis.stations[position]? = some reported → reported.capacity.isSome ∨ station.capacity = none
  have initially : Stand SameOperation motis.stations motis.stations := by
    intro position item member
    exact ⟨item, member, same_operation_refl item⟩
  have start_derived : Stand Derived motis.stations motis.stations := by
    intro position item member
    exact ⟨item, member, derived_refl item⟩
  have whole := @run_final_iff (List (SharedMobilityStation Receipt Area))
    (SharedMobilityStation Receipt Area) (addStation deps motis)
    (Stand Derived motis.stations) (Stand SameOperation motis.stations) allowed
    (fun found station stands => add_station_derived deps motis stands station)
    (by
      intro found station derived same
      unfold addStation
      split
      · rename_i position matched
        rw [stand_same_modify (fun reported old kept => fill_same_iff deps kept station) same]
        constructor
        · intro each other reported own
          rw [matched, Option.some.injEq] at own
          rw [← own]
          exact each reported
        · intro free reported
          exact free position reported matched
      · rename_i unmatched
        rw [stand_append _ (stand_length derived)]
        simp [allowed, same, unmatched])
    (by
      intro found station derived same
      unfold addStation at same
      split at same
      · exact stand_same_back
          (fun reported old kept after => fill_back deps kept after) derived same
      · exact (stand_append _ (stand_length derived)).mp same)
    ((suppliedStations supplements).filter fun station => (stationMatch motis station).isSome)
    motis.stations start_derived
  constructor
  · intro same station member position reported matched
    have supplied : station ∈ (suppliedStations supplements).filter
        fun station => (stationMatch motis station).isSome := by
      apply mem_filter.mpr
      apply And.intro member
      rw [matched]
      rfl
    obtain ⟨earlier, later, split⟩ := append_of_mem supplied
    apply (whole.mp same).2 earlier station _ position reported matched
    rw [split]
    exact ⟨later, by simp⟩
  · intro free
    apply whole.mpr
    apply And.intro initially
    intro earlier station within position reported matched
    apply free station _ position reported matched
    have supplied := within.subset (mem_append_right earlier mem_cons_self)
    exact (mem_filter.mp supplied).1

theorem filled_length : (filledStations deps motis supplements).length = motis.stations.length := by
  have folded : ∀ (matched : List (SharedMobilityStation Receipt Area)),
      (∀ station ∈ matched, (stationMatch motis station).isSome) → ∀ found,
      (matched.foldl (addStation deps motis) found).length = found.length := by
    intro matched
    induction matched with
    | nil => exact fun _ _ => rfl
    | cons station rest ih =>
      intro each found
      obtain ⟨position, known⟩ := Option.isSome_iff_exists.mp (each station mem_cons_self)
      rw [foldl_cons, ih fun other member => each other (mem_cons_of_mem _ member)]
      simp [addStation, known]
  apply folded
  intro station member
  exact (mem_filter.mp member).2

def Apart (first second : SharedMobilityStation Receipt Area) : Prop :=
  (∀ identity, identityOf second = some identity → identityOf first ≠ some identity) ∧
    keyOf deps first ≠ keyOf deps second ∧ fuzzyMatches deps second first = false

theorem kept_apart {first second}
    (kept : (dedupStations deps [first, second]).length = 2) : Apart deps first second := by
  have one : dedupStep deps DedupState.start first =
      { byCoordKey := Function.update (fun _ => none) (keyOf deps first) (some 0)
        byIdentity := remember (fun _ => none) (identityOf first) 0
        result := [first] } := by
    have alone : matchOf deps DedupState.start first = none := by
      unfold matchOf DedupState.start
      cases identityOf first <;> rfl
    unfold dedupStep
    rw [alone]
    rfl
  have unmatched : matchOf deps (dedupStep deps DedupState.start first) second = none := by
    cases found : matchOf deps (dedupStep deps DedupState.start first) second with
    | none => rfl
    | some position =>
      rw [one] at found
      simp only [dedupStations, foldl_cons, foldl_nil, one] at kept
      unfold dedupStep at kept
      rw [found] at kept
      simp at kept
  rw [one] at unmatched
  unfold matchOf at unmatched
  dsimp only at unmatched
  split at unmatched
  · cases unmatched
  · rename_i no_identity
    split at unmatched
    · cases unmatched
    · rename_i no_key
      apply And.intro
      · intro identity own same
        rw [own, same] at no_identity
        simp [remember] at no_identity
      · apply And.intro
        · intro same
          rw [same, update_self] at no_key
          cases no_key
        · simpa [findIdx?_cons] using unmatched

theorem located_apart {first second first' second'}
    (first_located : Located first first') (second_located : Located second second')
    (apart : Apart deps first second) : Apart deps first' second' := by
  have identity_same : ∀ {station found : SharedMobilityStation Receipt Area},
      Located station found → identityOf found = identityOf station := by
    intro station found located
    simp only [identityOf, located.nativeId, located.scope]
  have key_same : ∀ {station found : SharedMobilityStation Receipt Area},
      Located station found → keyOf deps found = keyOf deps station := by
    intro station found located
    simp only [keyOf, located.coordinates, located.scope]
  apply And.intro
  · rw [identity_same first_located, identity_same second_located]
    exact apart.1
  · apply And.intro
    · rw [key_same first_located, key_same second_located]
      exact apart.2.1
    · rw [← apart.2.2]
      simp only [fuzzyMatches, first_located.scope, second_located.scope,
        first_located.coordinates, second_located.coordinates, first_located.name,
        second_located.name]

structure KeptAll (state : DedupState Receipt Area)
    (kept : List (SharedMobilityStation Receipt Area)) : Prop where
  result : state.result = kept
  identities : ∀ identity position, state.byIdentity identity = some position →
    ∃ station ∈ kept, identityOf station = some identity
  keys : ∀ key position, state.byCoordKey key = some position →
    ∃ station ∈ kept, keyOf deps station = key

variable {state : DedupState Receipt Area}

section

variable {kept : List (SharedMobilityStation Receipt Area)} (all : KeptAll deps state kept)
  (apart : ∀ earlier ∈ kept, Apart deps earlier station)
include all apart

theorem apart_unmatched : matchOf deps state station = none := by
  unfold matchOf
  split
  · rename_i position found
    rw [Option.bind_eq_some_iff] at found
    obtain ⟨identity, own, recorded⟩ := found
    obtain ⟨earlier, member, same⟩ := all.identities identity position recorded
    exact absurd same ((apart earlier member).1 identity own)
  · split
    · rename_i position found
      obtain ⟨earlier, member, same⟩ := all.keys _ position found
      exact absurd same (apart earlier member).2.1
    · rw [all.result, findIdx?_eq_none_iff]
      intro earlier member
      exact (apart earlier member).2.2

theorem kept_all_step : KeptAll deps (dedupStep deps state station) (kept ++ [station]) := by
  have unmatched := apart_unmatched deps all apart
  unfold dedupStep
  rw [unmatched]
  dsimp only
  apply KeptAll.mk
  · rw [all.result]
  · intro identity position found
    cases own : identityOf station with
    | none =>
      simp only [own, remember] at found
      obtain ⟨earlier, member, same⟩ := all.identities identity position found
      exact ⟨earlier, mem_append_left _ member, same⟩
    | some name =>
      simp only [own, remember] at found
      by_cases same : identity = name
      · subst same
        exact ⟨station, by simp, own⟩
      · rw [update_of_ne same] at found
        obtain ⟨earlier, member, named⟩ := all.identities identity position found
        exact ⟨earlier, mem_append_left _ member, named⟩
  · intro key position found
    by_cases same : key = keyOf deps station
    · exact ⟨station, by simp, same.symm⟩
    · dsimp only at found
      rw [update_of_ne same] at found
      obtain ⟨earlier, member, keyed⟩ := all.keys key position found
      exact ⟨earlier, mem_append_left _ member, keyed⟩

end

theorem apart_kept (stations) (apart : stations.Pairwise (Apart deps)) :
    KeptAll deps (stations.foldl (dedupStep deps) DedupState.start) stations := by
  induction stations using List.reverseRecOn with
  | nil =>
    apply KeptAll.mk
    · rfl
    · intro identity position found
      cases found
    · intro key position found
      cases found
  | append_singleton earlier station ih =>
    rw [pairwise_append] at apart
    rw [foldl_append]
    apply kept_all_step deps (ih apart.1)
    intro other member
    exact apart.2.2 other member station (by simp)

def afterMotis (supplements : List (SharedMobilityInventory Receipt Area)) :
    DedupState Receipt Area :=
  (filledStations deps motis supplements).foldl (dedupStep deps) DedupState.start

theorem filled_kept (distinct : motis.stations.Pairwise fun first second =>
      (dedupStations deps [first, second]).length = 2) (supplements) :
    (afterMotis deps motis supplements).result = filledStations deps motis supplements := by
  apply (apart_kept deps _ _).result
  rw [pairwise_iff_getElem] at distinct ⊢
  intro i j inside_i inside_j before
  have located := filled_stand_located deps motis supplements
  have same_length := filled_length deps motis supplements
  have motis_i : i < motis.stations.length := same_length ▸ inside_i
  have motis_j : j < motis.stations.length := same_length ▸ inside_j
  have located_at : ∀ (position : Nat) (inside : position < motis.stations.length)
      (inside' : position < (filledStations deps motis supplements).length),
      Located motis.stations[position] (filledStations deps motis supplements)[position] := by
    intro position inside inside'
    obtain ⟨found, found_at, kept⟩ := located position _ (getElem?_eq_getElem inside)
    rw [getElem?_eq_getElem inside', Option.some.injEq] at found_at
    rw [found_at]
    exact kept
  exact located_apart deps (located_at i motis_i inside_i) (located_at j motis_j inside_j)
    (kept_apart deps (distinct i j motis_i motis_j before))

/-- No station that the deduplication merges into a MOTIS station adds to its operational
state. -/
def NothingAdded (supplements : List (SharedMobilityInventory Receipt Area)) : Prop :=
  ∀ earlier station, earlier ++ [station] <+: unmatchedStations motis supplements →
    ∀ (position : Nat) reported,
      matchOf deps (run (dedupStep deps) earlier (afterMotis deps motis supplements)) station =
        some position →
      motis.stations[position]? = some reported → AddsNothing reported station

theorem dedup_step_result (state)
    (station) :
    (dedupStep deps state station).result =
      match matchOf deps state station with
      | some kept => state.result.modify kept fun existing => mergeStation deps existing station
      | none => state.result ++ [station] := by
  unfold dedupStep
  cases matchOf deps state station with
  | none => rfl
  | some kept => rfl

theorem dedup_step_derived (stands : Stand Derived motis.stations state.result) (station) :
    Stand Derived motis.stations (dedupStep deps state station).result := by
  rw [dedup_step_result]
  split
  · apply stand_modify_each _ stands
    intro reported old derived
    exact merge_derived deps derived station
  · exact (stand_append _ (stand_length stands)).mpr stands

theorem dedup_same_iff (distinct : motis.stations.Pairwise fun first second =>
      (dedupStations deps [first, second]).length = 2) (supplements) :
    Stand SameOperation motis.stations (mergeMotisFirstInventory deps motis supplements).stations ↔
      NoCapacityFilled motis supplements ∧ NothingAdded deps motis supplements := by
  let allowed := fun (state : DedupState Receipt Area)
      (station : SharedMobilityStation Receipt Area) =>
    ∀ (position : Nat) reported, matchOf deps state station = some position →
      motis.stations[position]? = some reported → AddsNothing reported station
  have whole := @run_final_iff (DedupState Receipt Area) (SharedMobilityStation Receipt Area)
    (dedupStep deps) (fun state => Stand Derived motis.stations state.result)
    (fun state => Stand SameOperation motis.stations state.result) allowed
    (fun state station stands => dedup_step_derived deps motis stands station)
    (by
      intro state station derived same
      rw [dedup_step_result]
      split
      · rename_i position matched
        rw [stand_same_modify (fun reported old kept => merge_same_iff deps kept station) same]
        constructor
        · intro each other reported own
          rw [matched, Option.some.injEq] at own
          rw [← own]
          exact each reported
        · intro free reported
          exact free position reported matched
      · rename_i unmatched
        rw [stand_append _ (stand_length derived)]
        simp [allowed, same, unmatched])
    (by
      intro state station derived same
      rw [dedup_step_result] at same
      split at same
      · exact stand_same_back
          (fun reported old kept after => merge_back deps kept after) derived same
      · exact (stand_append _ (stand_length derived)).mp same)
    (unmatchedStations motis supplements) (afterMotis deps motis supplements)
    (by
      rw [filled_kept deps motis distinct supplements]
      exact filled_stand_derived deps motis supplements)
  rw [filled_kept deps motis distinct supplements, filled_same_iff] at whole
  have merged : (mergeMotisFirstInventory deps motis supplements).stations =
      (run (dedupStep deps) (unmatchedStations motis supplements)
        (afterMotis deps motis supplements)).result := by
    simp only [mergeMotisFirstInventory, collected_split, dedupStations, foldl_append, run,
      afterMotis]
  rw [merged]
  exact whole

theorem fill_vehicle_same {reported found} (same : SameVehicle reported found) (added) :
    SameVehicle reported (fillVehicleMetadata deps found added) := by
  unfold fillVehicleMetadata
  dsimp only
  split
  · exact ⟨same.id, same.coordinates, same.systemId, same.providerId, same.stationId⟩
  · exact ⟨same.id, same.coordinates, same.systemId, same.providerId, same.stationId⟩

theorem vehicles_stand :
    Stand SameVehicle motis.vehicles (mergeMotisFirstInventory deps motis supplements).vehicles := by
  have one : ∀ (found : List (SharedMobilityVehicle Receipt)) vehicle,
      Stand SameVehicle motis.vehicles found →
        Stand SameVehicle motis.vehicles (addVehicle deps motis found vehicle) := by
    intro found vehicle stands
    unfold addVehicle
    split
    · apply stand_modify_each _ stands
      intro reported old same
      exact fill_vehicle_same deps same vehicle
    · exact (stand_append _ (stand_length stands)).mpr stands
  apply @run_keeps (SharedMobilityInventory Receipt Area) _ (addSupplement deps motis)
    (fun inventory => Stand SameVehicle motis.vehicles inventory.vehicles)
  · intro inventory supplement stands
    exact run_keeps one supplement.vehicles inventory.vehicles stands
  · intro position item member
    exact ⟨item, member, ⟨rfl, rfl, rfl, rfl, rfl⟩⟩

/-- The merged inventory holds each station and vehicle of MOTIS as it was reported if and
only if no supplied station fills a missing capacity on the canonical identity and none
that is merged by identity, place or name adds to the operational state. -/
theorem motis_state_authoritative_iff (distinct : motis.stations.Pairwise fun first second =>
      (dedupStations deps [first, second]).length = 2)
    (supplements : List (SharedMobilityInventory Receipt Area)) :
    (Stand SameOperation motis.stations (mergeMotisFirstInventory deps motis supplements).stations ∧
      Stand SameVehicle motis.vehicles (mergeMotisFirstInventory deps motis supplements).vehicles) ↔
      NoCapacityFilled motis supplements ∧ NothingAdded deps motis supplements := by
  rw [dedup_same_iff deps motis distinct supplements]
  constructor
  · intro both
    exact both.1
  · intro free
    exact And.intro free (vehicles_stand deps motis supplements)

def reportedStation (id : String) (nativeId : Option String) (isActive : Option Bool)
    (source : String) : SharedMobilityStation Unit Unit where
  id := id
  name := "Central"
  coordinates := ⟨10, 50⟩
  availableVehicles := none
  emptySlots := none
  capacity := none
  systemId := none
  nativeId := nativeId
  providerId := some "provider"
  operator := none
  branding := none
  vehicleTypes := [.bicycle]
  vehicleTypeIds := none
  isActive := isActive
  sources := [source]
  contributors := none
  accessMethod := none
  transitInfo := none
  locationHint := none
  stationType := none
  vehicleClassNames := none
  address := none
  crossStreet := none
  operatorNotes := none
  website := none
  rentalApps := none
  stationArea := none
  vehicleTypeDetails := none
  pricingSummary := none
  pricingDetails := none
  rentalUris := none

/-- Whole degrees, one place, one name, and the retained fields that differ here. -/
def centralDeps : MergeDeps Unit Unit where
  toFixed4 := fun number => toString number.num ++ ".0000"
  numberText := fun number => toString number.num
  haversineMeters := fun _ _ => 0
  diceSimilarity := fun left right => if left = right then 1 else 0
  lowerTrimmed := fun _ => "central"
  stationState := fun station _ =>
    "\x7b\"isActive\":" ++ (if station.isActive = some true then "true" else "false") ++
      ",\"nativeId\":\"7\",\"vehicleTypes\":[\"bicycle\"]\x7d"
  vehicleState := fun _ _ => ""
  snapshotContributors := fun receipts _ => receipts

def closedStation : SharedMobilityInventory Unit Unit :=
  ⟨[reportedStation "motis-local/provider/station/7" (some "7") (some false) "motis"], []⟩

def openSupplement : SharedMobilityInventory Unit Unit :=
  ⟨[reportedStation "gbfs/provider/station-seven" none (some true) "gbfs"], []⟩

theorem closed_station_authoritative_iff : (Stand SameOperation closedStation.stations
        (mergeMotisFirstInventory centralDeps closedStation [openSupplement]).stations ∧
      Stand SameVehicle closedStation.vehicles
        (mergeMotisFirstInventory centralDeps closedStation [openSupplement]).vehicles) ↔
      NoCapacityFilled closedStation [openSupplement] ∧
        NothingAdded centralDeps closedStation [openSupplement] :=
  motis_state_authoritative_iff centralDeps closedStation (pairwise_singleton _ _)
    [openSupplement]

/-- A station that MOTIS reports as inactive is active in the result, because a supplement's
station at its place is. -/
theorem supplement_reopens_station : ¬∀ (motis : SharedMobilityInventory Unit Unit)
      (supplements : List (SharedMobilityInventory Unit Unit)),
      (motis.stations.Pairwise fun first second =>
        (dedupStations centralDeps [first, second]).length = 2) → Stand SameOperation motis.stations
        (mergeMotisFirstInventory centralDeps motis supplements).stations := by
  intro always
  have stands := always closedStation [openSupplement] (pairwise_singleton _ _)
  obtain ⟨found, found_at, same⟩ := stands 0 _ rfl
  have reopened : (mergeMotisFirstInventory centralDeps closedStation
      [openSupplement]).stations.map (·.isActive) = [some true] := by
    decide +kernel
  have status : ((mergeMotisFirstInventory centralDeps closedStation
      [openSupplement]).stations.map (·.isActive))[0]? = some (some false) := by
    rw [getElem?_map, found_at, Option.map_some, same.isActive]
    rfl
  rw [reopened] at status
  simp at status

end OpenMapX.Mobility.MotisInventory
