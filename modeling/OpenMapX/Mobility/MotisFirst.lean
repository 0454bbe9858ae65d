import OpenMapX.Mobility.DedupStations

/-!
# The MOTIS-first inventory

The stations and vehicles that MOTIS reported come first. Metadata of direct supplements
is filled into the ones of the same canonical identity; the other stations of the
supplements are left to the deduplication.
-/

namespace OpenMapX.Mobility.MotisFirst

open SharedMobility DedupStations

variable {Receipt Area : Type} (deps : MergeDeps Receipt Area)

def canonicalIdentity (providerId systemId nativeId : Option String) : Option String :=
  match orElse providerId systemId, nativeId with
  | some provider, some named =>
    if provider ≠ "" ∧ named ≠ "" then some (provider ++ "\x00" ++ named) else none
  | _, _ => none

def canonicalStationIdentity (station : SharedMobilityStation Receipt Area) : Option String :=
  canonicalIdentity station.providerId station.systemId station.nativeId

def canonicalVehicleIdentity (vehicle : SharedMobilityVehicle Receipt) : Option String :=
  canonicalIdentity vehicle.providerId vehicle.systemId vehicle.nativeId

def STATION_METADATA_FIELDS : List String :=
  ["capacity", "address", "crossStreet", "branding", "rentalApps", "rentalUris", "website",
    "vehicleTypeDetails", "vehicleClassNames", "pricingSummary", "pricingDetails"]

def VEHICLE_METADATA_FIELDS : List String :=
  ["batteryLevel", "rangeMeters", "branding", "rentalApps", "rentalUris", "vehicleImageUrl",
    "vehicleIconUrl", "vehicleIconUrlDark"]

def fillStationMetadata (authoritative enrichment : SharedMobilityStation Receipt Area) :
    SharedMobilityStation Receipt Area :=
  let before := deps.stationState authoritative STATION_METADATA_FIELDS
  let filled :=
    { authoritative with
      capacity := orElse authoritative.capacity enrichment.capacity
      address := orElse authoritative.address enrichment.address
      crossStreet := orElse authoritative.crossStreet enrichment.crossStreet
      branding := orElse authoritative.branding enrichment.branding
      rentalApps := orElse authoritative.rentalApps enrichment.rentalApps
      rentalUris := orElse authoritative.rentalUris enrichment.rentalUris
      website := orElse authoritative.website enrichment.website
      vehicleTypeDetails := orElse authoritative.vehicleTypeDetails enrichment.vehicleTypeDetails
      vehicleClassNames := orElse authoritative.vehicleClassNames enrichment.vehicleClassNames
      pricingSummary := orElse authoritative.pricingSummary enrichment.pricingSummary
      pricingDetails := orElse authoritative.pricingDetails enrichment.pricingDetails }
  if deps.stationState filled STATION_METADATA_FIELDS != before then
    { filled with
      sources := retainedSources filled.sources enrichment.sources
      contributors := retainedContributors deps filled.contributors enrichment.contributors }
  else filled

def fillVehicleMetadata (authoritative enrichment : SharedMobilityVehicle Receipt) :
    SharedMobilityVehicle Receipt :=
  let before := deps.vehicleState authoritative VEHICLE_METADATA_FIELDS
  let filled :=
    { authoritative with
      batteryLevel := orElse authoritative.batteryLevel enrichment.batteryLevel
      rangeMeters := orElse authoritative.rangeMeters enrichment.rangeMeters
      branding := orElse authoritative.branding enrichment.branding
      rentalApps := orElse authoritative.rentalApps enrichment.rentalApps
      rentalUris := orElse authoritative.rentalUris enrichment.rentalUris
      vehicleImageUrl := orElse authoritative.vehicleImageUrl enrichment.vehicleImageUrl
      vehicleIconUrl := orElse authoritative.vehicleIconUrl enrichment.vehicleIconUrl
      vehicleIconUrlDark := orElse authoritative.vehicleIconUrlDark enrichment.vehicleIconUrlDark }
  if deps.vehicleState filled VEHICLE_METADATA_FIELDS != before then
    { filled with
      sources := retainedSources filled.sources enrichment.sources
      contributors := retainedContributors deps filled.contributors enrichment.contributors }
  else filled

/-- `new Map` of the entries with an identity: the last position of an identity is kept. -/
def positionsByIdentity {Item : Type} (identityOf : Item → Option String) (items : List Item) :
    String → Option Nat :=
  items.zipIdx.foldl (fun positions entry => remember positions (identityOf entry.1) entry.2)
    fun _ => none

def stationMatch (motis : SharedMobilityInventory Receipt Area)
    (station : SharedMobilityStation Receipt Area) : Option Nat :=
  (canonicalStationIdentity station).bind
    (positionsByIdentity canonicalStationIdentity motis.stations)

def vehicleMatch (motis : SharedMobilityInventory Receipt Area)
    (vehicle : SharedMobilityVehicle Receipt) : Option Nat :=
  (canonicalVehicleIdentity vehicle).bind
    (positionsByIdentity canonicalVehicleIdentity motis.vehicles)

def addStation (motis : SharedMobilityInventory Receipt Area)
    (stations : List (SharedMobilityStation Receipt Area))
    (station : SharedMobilityStation Receipt Area) : List (SharedMobilityStation Receipt Area) :=
  match stationMatch motis station with
  | some position =>
    stations.modify position fun found => fillStationMetadata deps found station
  | none => stations ++ [station]

def addVehicle (motis : SharedMobilityInventory Receipt Area)
    (vehicles : List (SharedMobilityVehicle Receipt)) (vehicle : SharedMobilityVehicle Receipt) :
    List (SharedMobilityVehicle Receipt) :=
  match vehicleMatch motis vehicle with
  | some position =>
    vehicles.modify position fun found => fillVehicleMetadata deps found vehicle
  | none => vehicles ++ [vehicle]

def addSupplement (motis inventory supplement : SharedMobilityInventory Receipt Area) :
    SharedMobilityInventory Receipt Area :=
  { stations := supplement.stations.foldl (addStation deps motis) inventory.stations
    vehicles := supplement.vehicles.foldl (addVehicle deps motis) inventory.vehicles }

def mergeMotisFirstInventory (motis : SharedMobilityInventory Receipt Area)
    (supplements : List (SharedMobilityInventory Receipt Area)) :
    SharedMobilityInventory Receipt Area :=
  let collected := supplements.foldl (addSupplement deps motis) motis
  { stations := dedupStations deps collected.stations
    vehicles := collected.vehicles }

end OpenMapX.Mobility.MotisFirst
