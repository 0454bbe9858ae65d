import OpenMapX.Foundation.Runs
import OpenMapX.Mobility.MotisFirst

/-!
# The authority of MOTIS operational state

What MOTIS reported of a station's operation can only be lost by filling a missing
capacity on the canonical identity, or in the deduplication by a merged station that adds
to it. A loss is never made good by a later merge.
-/

namespace OpenMapX.Mobility.MotisAuthority

open Foundation.Runs SharedMobility DedupStations MotisFirst List

variable {Receipt Area : Type} (deps : MergeDeps Receipt Area)

structure SameOperation (reported found : SharedMobilityStation Receipt Area) : Prop where
  id : found.id = reported.id
  coordinates : found.coordinates = reported.coordinates
  isActive : found.isActive = reported.isActive
  availableVehicles : found.availableVehicles = reported.availableVehicles
  emptySlots : found.emptySlots = reported.emptySlots
  capacity : found.capacity = reported.capacity
  vehicleTypes : found.vehicleTypes = reported.vehicleTypes
  systemId : found.systemId = reported.systemId
  providerId : found.providerId = reported.providerId

structure SameVehicle (reported found : SharedMobilityVehicle Receipt) : Prop where
  id : found.id = reported.id
  coordinates : found.coordinates = reported.coordinates
  systemId : found.systemId = reported.systemId
  providerId : found.providerId = reported.providerId
  stationId : found.stationId = reported.stationId

/-- A merge of `added` into a station adds nothing to its operational state. -/
structure AddsNothing (reported added : SharedMobilityStation Receipt Area) : Prop where
  isActive : added.isActive = none ∨ reported.isActive = some true ∨
    added.isActive = reported.isActive
  availableVehicles : reported.availableVehicles.isSome ∨ added.availableVehicles = none
  emptySlots : reported.emptySlots.isSome ∨ added.emptySlots = none
  capacity : reported.capacity.isSome ∨ added.capacity = none
  vehicleTypes : ∀ type ∈ added.vehicleTypes, type ∈ reported.vehicleTypes
  systemId : truthy reported.systemId = true ∨ truthy added.systemId = false

structure Derived (reported found : SharedMobilityStation Receipt Area) : Prop where
  id : found.id = reported.id
  coordinates : found.coordinates = reported.coordinates
  providerId : found.providerId = reported.providerId
  systemId : truthy reported.systemId = true → found.systemId = reported.systemId
  availableVehicles : reported.availableVehicles.isSome →
    found.availableVehicles = reported.availableVehicles
  emptySlots : reported.emptySlots.isSome → found.emptySlots = reported.emptySlots
  capacity : reported.capacity.isSome → found.capacity = reported.capacity
  active : reported.isActive = some true → found.isActive = some true
  known : reported.isActive.isSome → found.isActive.isSome
  vehicleTypes : reported.vehicleTypes <+: found.vehicleTypes

theorem derived_refl (station : SharedMobilityStation Receipt Area) : Derived station station := by
  apply Derived.mk
  · rfl
  · rfl
  · rfl
  · exact fun _ => rfl
  · exact fun _ => rfl
  · exact fun _ => rfl
  · exact fun _ => rfl
  · exact fun active => active
  · exact fun known => known
  · exact prefix_rfl

theorem same_operation_refl (station : SharedMobilityStation Receipt Area) :
    SameOperation station station := ⟨rfl, rfl, rfl, rfl, rfl, rfl, rfl, rfl, rfl⟩

theorem fill_object_same_iff {Item : Type} (reported added : Option Item) :
    fillObject reported added = reported ↔ reported.isSome ∨ added = none := by
  cases reported with
  | none => simp [fillObject]
  | some value => simp [fillObject]

section

variable {Item : Type} {reported found added : Option Item}
  (derived : reported.isSome → found = reported)
include derived

theorem fill_object_back (same : fillObject found added = reported) : found = reported := by
  cases reported with
  | none =>
    cases found with
    | none => rfl
    | some value => cases same
  | some value => exact derived rfl

theorem fill_object_derived : reported.isSome → fillObject found added = reported := by
  intro present
  rw [derived present]
  cases reported with
  | none => cases present
  | some value => rfl

end

theorem or_else_eq_fill {Item : Type} (first second : Option Item) :
    orElse first second = fillObject first second := by
  cases first with
  | none => rfl
  | some value => rfl

theorem fill_text_same_iff (reported added : Option String) :
    fillText reported added = reported ↔ truthy reported = true ∨ truthy added = false := by
  unfold fillText
  cases existing : truthy reported with
  | true => simp
  | false =>
    cases incoming : truthy added with
    | true =>
      simp only [Bool.not_false, Bool.and_self, if_true, Bool.false_eq_true, or_self,
        iff_false, Bool.true_eq_false]
      intro same
      rw [same, existing] at incoming
      cases incoming
    | false => simp

section

variable {reported found added : Option String}
  (derived : truthy reported = true → found = reported)
include derived

theorem fill_text_back (same : fillText found added = reported) : found = reported := by
  cases present : truthy reported with
  | true => exact derived present
  | false =>
    unfold fillText at same
    split at same
    · rename_i replaced
      rw [same, present] at replaced
      simp at replaced
    · exact same

theorem fill_text_derived : truthy reported = true → fillText found added = reported := by
  intro present
  rw [derived present]
  exact (fill_text_same_iff reported added).mpr (Or.inl present)

end

theorem merged_active_same_iff (reported added : Option Bool) :
    mergedActive reported added = reported ↔
      added = none ∨ reported = some true ∨ added = reported := by
  unfold mergedActive
  cases added with
  | none => simp
  | some value =>
    by_cases active : reported = some true
    · simp [active]
    · have taken : (reported != some true) = true := by simp [active]
      simp [taken, active]

theorem merged_active_back {reported found added : Option Bool}
    (active : reported = some true → found = some true) (known : reported.isSome → found.isSome)
    (same : mergedActive found added = reported) : found = reported := by
  revert active known same
  cases reported with
  | none =>
    cases found with
    | none => simp
    | some value =>
      cases added with
      | none => simp [mergedActive]
      | some other => cases value <;> simp [mergedActive]
  | some status =>
    cases found with
    | none => simp
    | some value =>
      cases added with
      | none => simp [mergedActive]
      | some other => cases status <;> cases value <;> simp [mergedActive]

theorem add_unseen_nil_iff {Item Key : Type} [DecidableEq Key] (keyFn : Item → Key)
    (seen : List Key) (items : List Item) :
    addUnseen keyFn seen items = [] ↔ ∀ item ∈ items, keyFn item ∈ seen := by
  induction items generalizing seen with
  | nil => simp [addUnseen]
  | cons item rest ih =>
    unfold addUnseen
    split
    · rename_i known
      rw [ih]
      simp [known]
    · rename_i unknown
      simp [unknown]

theorem merged_types {Item : Type} [DecidableEq Item] (existing incoming : List Item) :
    (mergeUnique (fun item => item) (some existing) (some incoming)).getD existing =
      existing ++ addUnseen (fun item => item) existing incoming := by
  unfold mergeUnique
  split
  · rename_i empty
    simp only [Option.getD_some, Bool.and_eq_true, List.isEmpty_iff] at empty
    simp [empty.1, empty.2, addUnseen]
  · simp

theorem merge_station_fields (existing incoming) :
    ∃ sources contributors, mergeStation deps existing incoming =
      { mergedFields deps existing incoming with
        sources := sources
        contributors := contributors } := by
  unfold mergeStation
  dsimp only
  split
  · exact ⟨_, _, rfl⟩
  · split
    · exact ⟨_, _, rfl⟩
    · exact ⟨_, _, rfl⟩

section

variable {reported found : SharedMobilityStation Receipt Area}

theorem merge_same_iff (same : SameOperation reported found) (added) :
    SameOperation reported (mergeStation deps found added) ↔ AddsNothing reported added := by
  obtain ⟨sources, contributors, result⟩ := merge_station_fields deps found added
  rw [result]
  constructor
  · intro after
    apply AddsNothing.mk
    · apply (merged_active_same_iff _ _).mp
      rw [← same.isActive]
      exact after.isActive.trans same.isActive.symm
    · apply (fill_object_same_iff _ _).mp
      rw [← same.availableVehicles]
      exact after.availableVehicles.trans same.availableVehicles.symm
    · apply (fill_object_same_iff _ _).mp
      rw [← same.emptySlots]
      exact after.emptySlots.trans same.emptySlots.symm
    · apply (fill_object_same_iff _ _).mp
      rw [← same.capacity]
      exact after.capacity.trans same.capacity.symm
    · have types := after.vehicleTypes
      simp only [mergedFields, merged_types, same.vehicleTypes, append_right_eq_self] at types
      exact (add_unseen_nil_iff _ _ _).mp types
    · apply (fill_text_same_iff _ _).mp
      rw [← same.systemId]
      exact after.systemId.trans same.systemId.symm
  · intro nothing
    apply SameOperation.mk
    · exact same.id
    · exact same.coordinates
    · simp only [mergedFields, same.isActive]
      exact (merged_active_same_iff _ _).mpr nothing.isActive
    · simp only [mergedFields, same.availableVehicles]
      exact (fill_object_same_iff _ _).mpr nothing.availableVehicles
    · simp only [mergedFields, same.emptySlots]
      exact (fill_object_same_iff _ _).mpr nothing.emptySlots
    · simp only [mergedFields, same.capacity]
      exact (fill_object_same_iff _ _).mpr nothing.capacity
    · simp only [mergedFields, merged_types, same.vehicleTypes, append_right_eq_self]
      exact (add_unseen_nil_iff _ _ _).mpr nothing.vehicleTypes
    · simp only [mergedFields, same.systemId]
      exact (fill_text_same_iff _ _).mpr nothing.systemId
    · exact same.providerId

theorem merge_derived (derived : Derived reported found) (added) :
    Derived reported (mergeStation deps found added) := by
  obtain ⟨sources, contributors, result⟩ := merge_station_fields deps found added
  rw [result]
  apply Derived.mk
  · exact derived.id
  · exact derived.coordinates
  · exact derived.providerId
  · exact fill_text_derived derived.systemId
  · exact fill_object_derived derived.availableVehicles
  · exact fill_object_derived derived.emptySlots
  · exact fill_object_derived derived.capacity
  · intro active
    simp [mergedFields, mergedActive, derived.active active]
  · intro known
    have before := derived.known known
    simp only [mergedFields, mergedActive]
    split
    · rename_i taken
      rw [Bool.and_eq_true] at taken
      exact taken.1
    · exact before
  · simp only [mergedFields, merged_types]
    exact derived.vehicleTypes.trans (prefix_append _ _)

end

theorem merge_back {reported found added : SharedMobilityStation Receipt Area}
    (derived : Derived reported found)
    (same : SameOperation reported (mergeStation deps found added)) :
    SameOperation reported found := by
  obtain ⟨sources, contributors, result⟩ := merge_station_fields deps found added
  rw [result] at same
  apply SameOperation.mk
  · exact derived.id
  · exact derived.coordinates
  · exact merged_active_back derived.active derived.known same.isActive
  · exact fill_object_back derived.availableVehicles same.availableVehicles
  · exact fill_object_back derived.emptySlots same.emptySlots
  · exact fill_object_back derived.capacity same.capacity
  · have types := same.vehicleTypes
    simp only [mergedFields, merged_types] at types
    have longer : found.vehicleTypes <+: reported.vehicleTypes := by
      rw [← types]
      exact prefix_append _ _
    exact (derived.vehicleTypes.eq_of_length_le longer.length_le).symm
  · exact fill_text_back derived.systemId same.systemId
  · exact derived.providerId

theorem fill_station_fields (found enrichment) : ∃ rest : SharedMobilityStation Receipt Area,
      fillStationMetadata deps found enrichment = rest ∧ rest.id = found.id ∧
      rest.name = found.name ∧ rest.nativeId = found.nativeId ∧
      rest.coordinates = found.coordinates ∧ rest.isActive = found.isActive ∧
      rest.availableVehicles = found.availableVehicles ∧ rest.emptySlots = found.emptySlots ∧
      rest.capacity = fillObject found.capacity enrichment.capacity ∧
      rest.vehicleTypes = found.vehicleTypes ∧ rest.systemId = found.systemId ∧
      rest.providerId = found.providerId := by
  apply Exists.intro _
  apply And.intro rfl
  unfold fillStationMetadata
  dsimp only
  split
  · simp [or_else_eq_fill]
  · simp [or_else_eq_fill]

section

variable {reported found : SharedMobilityStation Receipt Area}

theorem fill_same_iff (same : SameOperation reported found) (added) :
    SameOperation reported (fillStationMetadata deps found added) ↔
      (reported.capacity.isSome ∨ added.capacity = none) := by
  obtain ⟨rest, result, id, name, nativeId, coordinates, isActive, available, empty, capacity,
    types, systemId, providerId⟩ := fill_station_fields deps found added
  rw [result, ← fill_object_same_iff, ← same.capacity, ← capacity]
  constructor
  · intro after
    exact after.capacity.trans same.capacity.symm
  · intro kept
    apply SameOperation.mk
    · exact id.trans same.id
    · exact coordinates.trans same.coordinates
    · exact isActive.trans same.isActive
    · exact available.trans same.availableVehicles
    · exact empty.trans same.emptySlots
    · exact kept.trans same.capacity
    · exact types.trans same.vehicleTypes
    · exact systemId.trans same.systemId
    · exact providerId.trans same.providerId

theorem fill_derived (derived : Derived reported found) (added) :
    Derived reported (fillStationMetadata deps found added) := by
  obtain ⟨rest, result, id, name, nativeId, coordinates, isActive, available, empty, capacity,
    types, systemId, providerId⟩ := fill_station_fields deps found added
  rw [result]
  apply Derived.mk
  · exact id.trans derived.id
  · exact coordinates.trans derived.coordinates
  · exact providerId.trans derived.providerId
  · exact fun present => systemId.trans (derived.systemId present)
  · exact fun present => available.trans (derived.availableVehicles present)
  · exact fun present => empty.trans (derived.emptySlots present)
  · exact fun present => capacity.trans (fill_object_derived derived.capacity present)
  · exact fun active => isActive.trans (derived.active active)
  · intro known
    rw [isActive]
    exact derived.known known
  · rw [types]
    exact derived.vehicleTypes

end

theorem fill_back {reported found added : SharedMobilityStation Receipt Area}
    (derived : Derived reported found)
    (same : SameOperation reported (fillStationMetadata deps found added)) :
    SameOperation reported found := by
  obtain ⟨rest, result, id, name, nativeId, coordinates, isActive, available, empty, capacity,
    types, systemId, providerId⟩ := fill_station_fields deps found added
  rw [result] at same
  apply SameOperation.mk
  · exact derived.id
  · exact derived.coordinates
  · exact isActive.symm.trans same.isActive
  · exact available.symm.trans same.availableVehicles
  · exact empty.symm.trans same.emptySlots
  · exact fill_object_back derived.capacity (capacity.symm.trans same.capacity)
  · exact types.symm.trans same.vehicleTypes
  · exact systemId.symm.trans same.systemId
  · exact derived.providerId

/-- Each reported record stands at its position in the list, as `keeps` says. -/
def Stand {Item : Type} (keeps : Item → Item → Prop) (reported found : List Item) : Prop :=
  ∀ (position : Nat) item, reported[position]? = some item →
    ∃ other, found[position]? = some other ∧ keeps item other

section

variable {Item : Type} {keeps : Item → Item → Prop} {reported found : List Item}

theorem stand_append (more : List Item) (enough : reported.length ≤ found.length) :
    Stand keeps reported (found ++ more) ↔ Stand keeps reported found := by
  have same : ∀ (position : Nat) item, reported[position]? = some item →
      (found ++ more)[position]? = found[position]? := by
    intro position item member
    have bound := (List.getElem?_eq_some_iff.mp member).1
    exact getElem?_append_left (bound.trans_le enough)
  constructor
  · intro stands position item member
    rw [← same position item member]
    exact stands position item member
  · intro stands position item member
    rw [same position item member]
    exact stands position item member

theorem stand_modify (position : Nat) (change : Item → Item)
    (before : ∀ (other : Nat) item, reported[other]? = some item →
      ∃ old, found[other]? = some old ∧ keeps item (if position = other then change old else old)) :
    Stand keeps reported (found.modify position change) := by
  intro other item member
  obtain ⟨old, found_old, kept⟩ := before other item member
  apply Exists.intro (if position = other then change old else old)
  rw [getElem?_modify, found_old]
  exact And.intro rfl kept

theorem stand_modify_each {position : Nat} {change : Item → Item}
    (each : ∀ item old, keeps item old → keeps item (change old))
    (stands : Stand keeps reported found) :
    Stand keeps reported (found.modify position change) := by
  apply stand_modify
  intro other item member
  obtain ⟨old, found_old, kept⟩ := stands other item member
  apply Exists.intro old
  apply And.intro found_old
  split
  · exact each item old kept
  · exact kept

theorem stand_modified {position : Nat} {change : Item → Item}
    (after : Stand keeps reported (found.modify position change)) {other : Nat} {item old : Item}
    (member : reported[other]? = some item) (found_old : found[other]? = some old) :
    keeps item (if position = other then change old else old) := by
  obtain ⟨changed, found_changed, kept⟩ := after other item member
  rw [getElem?_modify, found_old] at found_changed
  have same : (if position = other then change old else old) = changed :=
    Option.some.inj found_changed
  rw [same]
  exact kept

theorem stand_length (stands : Stand keeps reported found) : reported.length ≤ found.length := by
  apply Nat.le_of_not_lt
  intro short
  obtain ⟨other, found_other, _⟩ := stands found.length reported[found.length]
    (getElem?_eq_getElem short)
  simp at found_other

end

section

variable {reported found : List (SharedMobilityStation Receipt Area)} {position : Nat}
  {change : SharedMobilityStation Receipt Area → SharedMobilityStation Receipt Area}

theorem stand_same_modify {nothing : SharedMobilityStation Receipt Area → Prop}
    (each : ∀ station old, SameOperation station old →
      (SameOperation station (change old) ↔ nothing station))
    (stands : Stand SameOperation reported found) :
    Stand SameOperation reported (found.modify position change) ↔
      ∀ station, reported[position]? = some station → nothing station := by
  constructor
  · intro after station member
    obtain ⟨old, found_old, same⟩ := stands position station member
    have changed := stand_modified after member found_old
    rw [if_pos rfl] at changed
    exact (each station old same).mp changed
  · intro quiet
    apply stand_modify
    intro other station member
    obtain ⟨old, found_old, same⟩ := stands other station member
    apply Exists.intro old
    apply And.intro found_old
    split
    · rename_i here
      rw [← here] at member
      exact (each station old same).mpr (quiet station member)
    · exact same

theorem stand_same_back
    (back : ∀ station old, Derived station old → SameOperation station (change old) →
      SameOperation station old) (stands : Stand Derived reported found)
    (after : Stand SameOperation reported (found.modify position change)) :
    Stand SameOperation reported found := by
  intro other station member
  obtain ⟨old, found_old, derived⟩ := stands other station member
  apply Exists.intro old
  apply And.intro found_old
  have changed := stand_modified after member found_old
  split at changed
  · exact back station old derived changed
  · exact changed

end

end OpenMapX.Mobility.MotisAuthority
