import Mathlib.Tactic.NormNum
import OpenMapX.Foundation.TextOrder
import OpenMapX.Mobility.SharedMobility

/-!
# Deduplication of stations

Stations are merged by native identity, by rounded coordinates or by distance and name,
each within one provider scope. The first station that was seen is kept, and what it lacks
is filled in from the later ones.
-/

namespace OpenMapX.Mobility.DedupStations

open Foundation.TextOrder SharedMobility

/-- What the merge takes from elsewhere: number texts, distances, name similarity, the text
that tells whether retained fields changed, and the union of receipts. -/
structure MergeDeps (Receipt Area : Type) where
  toFixed4 : ℚ → String
  numberText : ℚ → String
  haversineMeters : LngLat → LngLat → ℚ
  diceSimilarity : String → String → ℚ
  lowerTrimmed : String → String
  stationState : SharedMobilityStation Receipt Area → List String → String
  vehicleState : SharedMobilityVehicle Receipt → List String → String
  snapshotContributors : List Receipt → List Receipt → List Receipt

variable {Receipt Area : Type} (deps : MergeDeps Receipt Area)

def STOP_RADIUS_M : ℚ := 50

def NAME_SIMILARITY_MIN : ℚ := 6 / 10

def coordKey (coordinates : LngLat) : String :=
  deps.toFixed4 coordinates.lng ++ "," ++ deps.toFixed4 coordinates.lat

/-- Adds the items of `incoming` whose key was not seen yet. -/
def addUnseen {Item Key : Type} [DecidableEq Key] (keyFn : Item → Key) :
    List Key → List Item → List Item
  | _, [] => []
  | seen, item :: rest =>
    if keyFn item ∈ seen then addUnseen keyFn seen rest
    else item :: addUnseen keyFn (keyFn item :: seen) rest

def mergeUnique {Item Key : Type} [DecidableEq Key] (keyFn : Item → Key)
    (current incoming : Option (List Item)) : Option (List Item) :=
  if (current.getD []).isEmpty && (incoming.getD []).isEmpty then none
  else
    let merged := current.getD []
    some (merged ++ addUnseen keyFn (merged.map keyFn) (incoming.getD []))

def vehicleTypeDetailKey (v : VehicleTypeDetail) : String :=
  v.id.getD ("|".intercalate [v.formFactor.getD "", v.make.getD "", v.model.getD "",
    v.propulsion.getD "", v.name])

def rateText (rate : Option ℚ) : String := (rate.map deps.numberText).getD ""

def pricingDetailKey (p : PricingDetail) : String :=
  "|".intercalate [p.name, p.currency, rateText deps p.flatRate, rateText deps p.perKmRate,
    rateText deps p.perHourRate]

def MERGED_STATION_FIELDS : List String :=
  ["vehicleTypes", "vehicleTypeIds", "systemId", "nativeId", "operator", "branding",
    "availableVehicles", "emptySlots", "capacity", "isActive", "accessMethod", "transitInfo",
    "locationHint", "stationType", "vehicleClassNames", "address", "operatorNotes", "website",
    "rentalApps", "stationArea", "vehicleTypeDetails", "pricingSummary", "pricingDetails",
    "rentalUris"]

def mergedBranding (existing incoming : Option SharedMobilityBranding) :
    Option SharedMobilityBranding :=
  match existing, incoming with
  | none, other => other
  | some kept, none => some kept
  | some kept, some other =>
    some
      { name := orElse kept.name other.name
        legalName := orElse kept.legalName other.legalName
        logoUrl := orElse kept.logoUrl other.logoUrl
        logoUrlDark := orElse kept.logoUrlDark other.logoUrlDark
        color := orElse kept.color other.color }

def mergedLink (existing incoming : Option SharedMobilityRentalAppLink) :
    Option SharedMobilityRentalAppLink :=
  some
    { storeUri := orElse (existing.bind (·.storeUri)) (incoming.bind (·.storeUri))
      discoveryUri := orElse (existing.bind (·.discoveryUri)) (incoming.bind (·.discoveryUri)) }

def mergedRentalApps (existing incoming : Option SharedMobilityRentalApps) :
    Option SharedMobilityRentalApps :=
  match existing, incoming with
  | none, other => other
  | some kept, none => some kept
  | some kept, some other =>
    some
      { ios := mergedLink kept.ios other.ios
        android := mergedLink kept.android other.android }

def mergedAddress (existing incoming : Option StationAddress) : Option StationAddress :=
  let merged : StationAddress :=
    { street := orElse (existing.bind (·.street)) (incoming.bind (·.street))
      city := orElse (existing.bind (·.city)) (incoming.bind (·.city))
      postcode := orElse (existing.bind (·.postcode)) (incoming.bind (·.postcode))
      country := orElse (existing.bind (·.country)) (incoming.bind (·.country)) }
  if truthy merged.street || truthy merged.city || truthy merged.postcode ||
      truthy merged.country then some merged
  else existing

def mergedRentalUris (existing incoming : Option RentalUris) : Option RentalUris :=
  let merged : RentalUris :=
    { web := orElse (existing.bind (·.web)) (incoming.bind (·.web))
      android := orElse (existing.bind (·.android)) (incoming.bind (·.android))
      ios := orElse (existing.bind (·.ios)) (incoming.bind (·.ios)) }
  if truthy merged.web || truthy merged.android || truthy merged.ios then some merged
  else existing

def mergedActive (existing incoming : Option Bool) : Option Bool :=
  if incoming.isSome && existing != some true then incoming else existing

/-- The fields of a merged station, before its sources and receipts are settled. -/
def mergedFields (existing incoming : SharedMobilityStation Receipt Area) :
    SharedMobilityStation Receipt Area :=
  { existing with
    vehicleTypes :=
      (mergeUnique (fun item => item) (some existing.vehicleTypes)
        (some incoming.vehicleTypes)).getD existing.vehicleTypes
    vehicleTypeIds :=
      orElse (mergeUnique (fun item => item) existing.vehicleTypeIds incoming.vehicleTypeIds)
        existing.vehicleTypeIds
    systemId := fillText existing.systemId incoming.systemId
    nativeId := fillText existing.nativeId incoming.nativeId
    operator := fillText existing.operator incoming.operator
    branding := mergedBranding existing.branding incoming.branding
    availableVehicles := fillObject existing.availableVehicles incoming.availableVehicles
    emptySlots := fillObject existing.emptySlots incoming.emptySlots
    capacity := fillObject existing.capacity incoming.capacity
    isActive := mergedActive existing.isActive incoming.isActive
    accessMethod := fillText existing.accessMethod incoming.accessMethod
    transitInfo := fillObject existing.transitInfo incoming.transitInfo
    locationHint := fillText existing.locationHint incoming.locationHint
    stationType := fillObject existing.stationType incoming.stationType
    vehicleClassNames :=
      orElse
        (mergeUnique (fun item => item) existing.vehicleClassNames incoming.vehicleClassNames)
        existing.vehicleClassNames
    address := mergedAddress existing.address incoming.address
    operatorNotes := fillText existing.operatorNotes incoming.operatorNotes
    website := fillText existing.website incoming.website
    rentalApps := mergedRentalApps existing.rentalApps incoming.rentalApps
    stationArea := fillObject existing.stationArea incoming.stationArea
    vehicleTypeDetails :=
      orElse
        (mergeUnique vehicleTypeDetailKey existing.vehicleTypeDetails
          incoming.vehicleTypeDetails)
        existing.vehicleTypeDetails
    pricingSummary := fillText existing.pricingSummary incoming.pricingSummary
    pricingDetails :=
      orElse
        (mergeUnique (pricingDetailKey deps) existing.pricingDetails incoming.pricingDetails)
        existing.pricingDetails
    rentalUris := mergedRentalUris existing.rentalUris incoming.rentalUris }

/-- `retainContributions` on the sources and receipts of a record. -/
def retainedSources (sources supplement : List String) : List String :=
  addUnseen (fun item => item) [] (sources ++ supplement)

def retainedContributors (contributors supplement : Option (List Receipt)) :
    Option (List Receipt) :=
  contributors.map fun receipts => deps.snapshotContributors receipts (supplement.getD [])

def mergeStation (existing incoming : SharedMobilityStation Receipt Area) :
    SharedMobilityStation Receipt Area :=
  let before := deps.stationState existing MERGED_STATION_FIELDS
  let merged := mergedFields deps existing incoming
  if deps.stationState merged MERGED_STATION_FIELDS != before then
    { merged with
      sources := retainedSources merged.sources incoming.sources
      contributors := retainedContributors deps merged.contributors incoming.contributors }
  else if merged.contributors.isNone && incoming.contributors.isNone then
    { merged with
      sources :=
        (mergeUnique (fun item => item) (some merged.sources) (some incoming.sources)).getD
          merged.sources }
  else merged

def scopeOf (s : SharedMobilityStation Receipt Area) : String :=
  (orElse s.systemId s.providerId).getD ("+".intercalate (sortTexts s.sources))

def identityOf (s : SharedMobilityStation Receipt Area) : Option String :=
  match s.nativeId with
  | none => none
  | some nativeId => if nativeId = "" then none else some (scopeOf s ++ "\x00" ++ nativeId)

def keyOf (s : SharedMobilityStation Receipt Area) : String :=
  scopeOf s ++ "\x00" ++ coordKey deps s.coordinates

def fuzzyMatches (s existing : SharedMobilityStation Receipt Area) : Bool :=
  if scopeOf existing ≠ scopeOf s then false
  else if deps.haversineMeters s.coordinates existing.coordinates > STOP_RADIUS_M then false
  else
    decide (deps.diceSimilarity (deps.lowerTrimmed s.name) (deps.lowerTrimmed existing.name) >
      NAME_SIMILARITY_MIN)

structure DedupState (Receipt Area : Type) where
  byCoordKey : String → Option Nat
  byIdentity : String → Option Nat
  result : List (SharedMobilityStation Receipt Area)

def DedupState.start : DedupState Receipt Area := ⟨fun _ => none, fun _ => none, []⟩

def matchOf (state : DedupState Receipt Area) (s : SharedMobilityStation Receipt Area) :
    Option Nat :=
  match (identityOf s).bind state.byIdentity with
  | some kept => some kept
  | none =>
    match state.byCoordKey (keyOf deps s) with
    | some kept => some kept
    | none => state.result.findIdx? (fuzzyMatches deps s)

def remember (byIdentity : String → Option Nat) (identity : Option String) (position : Nat) :
    String → Option Nat :=
  match identity with
  | none => byIdentity
  | some name => Function.update byIdentity name (some position)

def dedupStep (state : DedupState Receipt Area) (s : SharedMobilityStation Receipt Area) :
    DedupState Receipt Area :=
  match matchOf deps state s with
  | some kept =>
    -- a station found by its identity is recorded under it already
    { state with
      byIdentity := remember state.byIdentity (identityOf s) kept
      result := state.result.modify kept fun existing => mergeStation deps existing s }
  | none =>
    { byCoordKey := Function.update state.byCoordKey (keyOf deps s) (some state.result.length)
      byIdentity := remember state.byIdentity (identityOf s) state.result.length
      result := state.result ++ [s] }

def dedupStations (stations : List (SharedMobilityStation Receipt Area)) :
    List (SharedMobilityStation Receipt Area) :=
  (stations.foldl (dedupStep deps) DedupState.start).result

end OpenMapX.Mobility.DedupStations
