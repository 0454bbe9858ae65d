import OpenMapX.Charging.Consumption

/-!
# Charging sites

The charge point a vehicle uses at a site, how busy the site is, and how long a
charge takes. What only the tariffs decide stays in `Tariffs`, the part of a site
that `estimateSessionCost` reads and nothing else here does.
-/

namespace OpenMapX.Charging.Sites

open Consumption

inductive EvseStatus where
  | available | charging | occupied | reserved | blocked | out_of_order | inoperative
  | planned | removed | unknown
  deriving DecidableEq

inductive CurrentStandard where
  | ac | dc
  deriving DecidableEq

structure ChargingConnector where
  key : String
  standard : String
  current : Option CurrentStandard
  maxPowerKw : Option ℚ
  status : Option EvseStatus
  stale : Bool

structure Evse where
  quantity : ℕ
  lifecycle : Option String
  status : Option EvseStatus
  stale : Bool
  connectors : List ChargingConnector

structure ChargingSite (Tariffs : Type) where
  coordinates : LngLat
  operator : Option String
  closed : Bool
  planned : Bool
  evses : List Evse
  tariffs : Tariffs

variable {Tariffs : Type}

def DC_STANDARDS : List ConnectorStandard := [.ccs1, .ccs2, .chademo, .gbt_dc, .nacs, .tesla_ccs]

def UNUSABLE : List EvseStatus := [.out_of_order, .inoperative, .planned, .removed]

def NOT_IN_SERVICE : List String := ["planned", "temporarily_closed", "decommissioned"]

def NOT_LIVE : List EvseStatus := [.unknown, .planned, .removed]

def connectorStandardOf (standard : String) : Option ConnectorStandard :=
  match standard with
  | "IEC_62196_T2" => some .type2
  | "IEC_62196_T2_COMBO" => some .ccs2
  | "IEC_62196_T1" => some .type1
  | "IEC_62196_T1_COMBO" => some .ccs1
  | "CHADEMO" => some .chademo
  | "SAE_J3400" => some .nacs
  | "TESLA_S" => some .nacs
  | "IEC_62196_T3A" => some .type3
  | "IEC_62196_T3C" => some .type3
  | "GBT_AC" => some .gbt_ac
  | "GBT_DC" => some .gbt_dc
  | _ => none

def fresh (status : Option EvseStatus) (stale : Bool) : Option EvseStatus :=
  status.filter fun status => !NOT_LIVE.contains status && !stale

def freshEvseStatus (evse : Evse) : Option EvseStatus :=
  if evse.quantity > 1 then none
  else
    match fresh evse.status evse.stale with
    | some own => some own
    | none =>
      let byConnector := evse.connectors.filter fun connector =>
        (fresh connector.status connector.stale).isSome
      match byConnector.find? (·.status = some .available) with
      | some free => free.status
      | none => byConnector.head?.bind (·.status)

structure Availability where
  available : ℕ
  total : ℕ

def availabilityOf (site : ChargingSite Tariffs) : Option Availability :=
  let live := site.evses.filter fun evse => (freshEvseStatus evse).isSome
  let total := (live.map (·.quantity)).sum
  let free := live.filter fun evse => freshEvseStatus evse = some .available
  if total = 0 then none else some ⟨(free.map (·.quantity)).sum, total⟩

def liveStatus (status : Option EvseStatus) (stale : Bool) : Option EvseStatus :=
  if stale then none else status

def isUnusable (status : Option EvseStatus) : Bool := status.any (UNUSABLE.contains ·)

def outOfService (evse : Evse) : Bool :=
  evse.lifecycle.any (NOT_IN_SERVICE.contains ·) ||
    isUnusable (liveStatus evse.status evse.stale) || isUnusable (freshEvseStatus evse)

structure EvsePick where
  evse : Evse
  connector : ChargingConnector
  standard : ConnectorStandard
  powerKw : ℚ

def accepts (vehicle : EvVehicleSpec) (standard : ConnectorStandard) : Bool :=
  vehicle.connectors.contains standard ||
    (standard = .nacs && vehicle.connectors.contains .tesla_ccs)

def currentOf (connector : ChargingConnector) (standard : ConnectorStandard) : CurrentStandard :=
  connector.current.getD (if DC_STANDARDS.contains standard then .dc else .ac)

/-- The pick a connector offers, unless one of the `continue` branches skips it. -/
def connectorPick (vehicle : EvVehicleSpec) (evse : Evse) (connector : ChargingConnector) :
    Option EvsePick :=
  if isUnusable (liveStatus connector.status connector.stale) then none
  else
    match connectorStandardOf connector.standard with
    | none => none
    | some standard =>
      let powerKw := connector.maxPowerKw.getD 0
      if accepts vehicle standard = false ∨ powerKw ≤ 0 then none
      else some ⟨evse, connector, standard, powerKw⟩

/-- Higher power wins; at equal power a free charge point displaces one that is not. -/
def betterPick (best : Option (EvsePick × Bool)) (pick : EvsePick) (free : Bool) :
    Option (EvsePick × Bool) :=
  match best with
  | none => some (pick, free)
  | some (held, heldFree) =>
    if pick.powerKw > held.powerKw ∨ (pick.powerKw = held.powerKw ∧ free ∧ ¬ heldFree) then
      some (pick, free)
    else best

def pickFromEvse (vehicle : EvVehicleSpec) (best : Option (EvsePick × Bool)) (evse : Evse) :
    Option (EvsePick × Bool) :=
  if outOfService evse then best
  else
    (evse.connectors.filterMap (connectorPick vehicle evse)).foldl
      (fun best pick => betterPick best pick (freshEvseStatus evse = some .available)) best

def pickEvse (site : ChargingSite Tariffs) (vehicle : EvVehicleSpec) : Option EvsePick :=
  if site.closed || site.planned then none
  else (site.evses.foldl (pickFromEvse vehicle) none).map (·.1)

structure PowerCaps where
  chargerPowerKw : ℚ
  vehicleMaxKw : ℚ

def powerCaps (pick : EvsePick) (vehicle : EvVehicleSpec) : PowerCaps where
  chargerPowerKw := pick.powerKw
  vehicleMaxKw :=
    match currentOf pick.connector pick.standard with
    | .dc => vehicle.maxDcKw
    | .ac => vehicle.maxAcKw

structure ChargeInput where
  fromSocKwh : ℚ
  toSocKwh : ℚ
  batteryKwh : ℚ
  caps : PowerCaps
  taperSocPct : ℚ

/-- Effective power at a charge fraction: flat to the taper, linear decay above. -/
def powerAt (socFrac peakKw taperFrac : ℚ) : ℚ :=
  if socFrac ≤ taperFrac then peakKw
  else
    let t := (socFrac - taperFrac) / (1 - taperFrac)
    peakKw * (1 - 0.85 * t)

/-- The loop visits `fromSocKwh + k * stepKwh` while it is below `toSocKwh`. -/
def chargeSecondsFor (input : ChargeInput) : ℚ :=
  let peakKw := min input.caps.chargerPowerKw input.caps.vehicleMaxKw
  if peakKw ≤ 0 ∨ input.toSocKwh ≤ input.fromSocKwh then 0
  else
    let taperFrac := input.taperSocPct / 100
    let stepKwh := input.batteryKwh / 200
    let steps := ⌈(input.toSocKwh - input.fromSocKwh) / stepKwh⌉₊
    ((List.range steps).map fun k : ℕ =>
      let e := input.fromSocKwh + k * stepKwh
      let chunk := min stepKwh (input.toSocKwh - e)
      let midFrac := (e + chunk / 2) / input.batteryKwh
      chunk / powerAt midFrac peakKw taperFrac * 3600).sum

end OpenMapX.Charging.Sites
