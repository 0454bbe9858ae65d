import Mathlib.Data.Rat.Defs

/-!
# Shared-mobility records

Stations and vehicles of rental systems with the fields that merging reads or writes.
-/

namespace OpenMapX.Mobility.SharedMobility

structure LngLat where
  lng : ℚ
  lat : ℚ
  deriving DecidableEq

inductive VehicleFormFactor where
  | bicycle
  | cargo_bicycle
  | scooter_standing
  | scooter_seated
  | car
  | moped
  | other
  deriving DecidableEq

structure SharedMobilityBranding where
  name : Option String
  legalName : Option String
  logoUrl : Option String
  logoUrlDark : Option String
  color : Option String
  deriving DecidableEq

structure SharedMobilityRentalAppLink where
  storeUri : Option String
  discoveryUri : Option String
  deriving DecidableEq

structure SharedMobilityRentalApps where
  ios : Option SharedMobilityRentalAppLink
  android : Option SharedMobilityRentalAppLink
  deriving DecidableEq

structure RentalUris where
  web : Option String
  android : Option String
  ios : Option String
  deriving DecidableEq

structure TransitInfo where
  lines : Option String
  stops : Option String
  deriving DecidableEq

structure StationAddress where
  street : Option String
  city : Option String
  postcode : Option String
  country : Option String
  deriving DecidableEq

inductive StationType where
  | fixed
  | free
  deriving DecidableEq

structure VehicleTypeDetail where
  id : Option String
  name : String
  formFactor : Option String
  make : Option String
  model : Option String
  propulsion : Option String
  deriving DecidableEq

structure PricingDetail where
  name : String
  currency : String
  perKmRate : Option ℚ
  perHourRate : Option ℚ
  flatRate : Option ℚ
  deriving DecidableEq

structure SharedMobilityStation (Receipt Area : Type) where
  id : String
  name : String
  coordinates : LngLat
  availableVehicles : Option ℚ
  emptySlots : Option ℚ
  capacity : Option ℚ
  systemId : Option String
  nativeId : Option String
  providerId : Option String
  operator : Option String
  branding : Option SharedMobilityBranding
  vehicleTypes : List VehicleFormFactor
  vehicleTypeIds : Option (List String)
  isActive : Option Bool
  sources : List String
  contributors : Option (List Receipt)
  accessMethod : Option String
  transitInfo : Option TransitInfo
  locationHint : Option String
  stationType : Option StationType
  vehicleClassNames : Option (List String)
  address : Option StationAddress
  crossStreet : Option String
  operatorNotes : Option String
  website : Option String
  rentalApps : Option SharedMobilityRentalApps
  stationArea : Option Area
  vehicleTypeDetails : Option (List VehicleTypeDetail)
  pricingSummary : Option String
  pricingDetails : Option (List PricingDetail)
  rentalUris : Option RentalUris

structure SharedMobilityVehicle (Receipt : Type) where
  id : String
  coordinates : LngLat
  batteryLevel : Option ℚ
  rangeMeters : Option ℚ
  systemId : Option String
  nativeId : Option String
  providerId : Option String
  stationId : Option String
  branding : Option SharedMobilityBranding
  vehicleImageUrl : Option String
  vehicleIconUrl : Option String
  vehicleIconUrlDark : Option String
  rentalUris : Option RentalUris
  rentalApps : Option SharedMobilityRentalApps
  sources : List String
  contributors : Option (List Receipt)

structure SharedMobilityInventory (Receipt Area : Type) where
  stations : List (SharedMobilityStation Receipt Area)
  vehicles : List (SharedMobilityVehicle Receipt)

def truthy : Option String → Bool
  | none => false
  | some text => text != ""

/-- `??` on an optional value. -/
def orElse {Item : Type} (first second : Option Item) : Option Item :=
  match first with
  | some value => some value
  | none => second

/-- A value that is kept when it is truthy and else taken over when the other one is. -/
def fillText (existing incoming : Option String) : Option String :=
  if !truthy existing && truthy incoming then incoming else existing

def fillObject {Item : Type} (existing incoming : Option Item) : Option Item :=
  match existing with
  | none => incoming
  | some value => some value

@[simp]
theorem or_else_some {Item : Type} (value : Item) (second : Option Item) :
    orElse (some value) second = some value := rfl

@[simp]
theorem or_else_none {Item : Type} (second : Option Item) : orElse none second = second := rfl

end OpenMapX.Mobility.SharedMobility
