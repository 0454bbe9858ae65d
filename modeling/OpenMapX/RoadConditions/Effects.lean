import Mathlib.Data.Rat.Defs

/-!
# Effects of road situations

What a situation does to traffic and which vehicles it binds: whether an effect closes the
road to every car, whether it excepts local access, and the speed it caps cars to.
-/

namespace OpenMapX.RoadConditions.Effects

inductive ApplicabilityKind where
  | all
  | classes
  | unknown
  deriving DecidableEq

structure VehicleSelector where
  vehicleClass : Option String
  usage : Option String
  keys : List String

structure VehicleApplicability where
  kind : ApplicabilityKind
  includes : Option (List VehicleSelector)
  excepts : Option (List VehicleSelector)

inductive Normalization where
  | complete
  | partly
  | unsupported
  deriving DecidableEq

inductive ClosureScope where
  | road
  | carriageway
  | ramp
  | junction
  | bridge
  | tunnel
  | sidewalk
  | cycleway
  | restArea
  | facility
  deriving DecidableEq

structure Quantity where
  value : ℚ
  unit : String
  deriving DecidableEq

inductive EffectKind where
  | closure (scope : ClosureScope)
  | laneRestriction (vehicleImpact : String)
  | speedLimit (limit : Quantity) (advisory : Bool)
  | delay
  | access
  | dimensionLimit
  | hazmat
  | detour
  | contraflow
  | advisory
  | unsupported
  deriving DecidableEq

/-- The place of a geometry object: two objects are one if their addresses agree. -/
abbrev Address := Nat

structure RoadConditionEffect (Timing : Type) where
  id : String
  kind : EffectKind
  applicability : VehicleApplicability
  normalization : Normalization
  location : Option Address
  timing : Timing

variable {Timing : Type}

def isRestrictionEvidence (effect : RoadConditionEffect Timing) : Bool :=
  effect.applicability.kind = .unknown || effect.normalization ≠ .complete

def isVehicleSpecific (effect : RoadConditionEffect Timing) : Bool :=
  effect.kind = .dimensionLimit || effect.kind = .hazmat || effect.kind = .unsupported ||
    effect.applicability.kind ≠ .all

def CAR_CLASSES : List String := ["car", "motor_vehicle"]

def selectsCars (selectors : Option (List VehicleSelector)) : Bool :=
  (selectors.map fun all => all.any fun s =>
    (s.vehicleClass.any fun name => CAR_CLASSES.contains name) &&
      s.keys.all fun key => key = "class" || key = "raw").getD false

def sparesCars (s : VehicleSelector) : Bool :=
  match s.vehicleClass with
  | some name => CAR_CLASSES.contains name
  | none => s.keys.any fun key => key ≠ "usage" && key ≠ "raw"

def excludesCars (selectors : Option (List VehicleSelector)) : Bool :=
  (selectors.map fun all => all.any sparesCars).getD false

def bindsEveryCar (applicability : VehicleApplicability) : Bool :=
  if applicability.kind = .unknown then false
  else if excludesCars applicability.excepts then false
  else applicability.kind = .all || selectsCars applicability.includes

def NON_CARRIAGEWAY_SCOPES : List ClosureScope := [.sidewalk, .cycleway, .restArea, .facility]

def closesRoadForCars (effect : RoadConditionEffect Timing) : Bool :=
  if isRestrictionEvidence effect || !bindsEveryCar effect.applicability then false
  else
    match effect.kind with
    | .closure scope => !NON_CARRIAGEWAY_SCOPES.contains scope
    | .laneRestriction vehicleImpact => vehicleImpact = "all_lanes_closed"
    | _ => false

def LOCAL_ACCESS_USAGES : List String := ["local_access", "residents"]

def isLocalAccessClosure (effect : RoadConditionEffect Timing) : Bool :=
  if !closesRoadForCars effect then false
  else
    (effect.applicability.excepts.map fun all => all.any fun s =>
      (s.usage.any fun name => LOCAL_ACCESS_USAGES.contains name) &&
        s.keys.all fun key => key = "usage" || key = "raw").getD false

def speedCapKph (effect : RoadConditionEffect Timing) : Option ℚ :=
  match effect.kind with
  | .speedLimit limit advisory =>
    if advisory then none
    else if isRestrictionEvidence effect || !bindsEveryCar effect.applicability then none
    else if limit.unit = "km/h" then some limit.value
    else none
  | _ => none

end OpenMapX.RoadConditions.Effects
