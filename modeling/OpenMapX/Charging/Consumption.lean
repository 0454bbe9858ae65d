import OpenMapX.Foundation.RunningTotals
import Mathlib

/-!
# Energy along a route

Kilowatt-hours, kilometres and seconds are exact rationals. The great-circle
angle between two points is abstract; both haversines are multiples of it.
-/

namespace OpenMapX.Charging.Consumption

open RunningTotals

structure LngLat where
  lng : ℚ
  lat : ℚ
  deriving DecidableEq

/-- `2 * asin(sqrt(h))` between two points. -/
structure Geodesy where
  angle : LngLat → LngLat → ℚ
  angle_nonneg : ∀ here there, 0 ≤ angle here there

inductive ConnectorStandard where
  | ccs2 | ccs1 | chademo | type2 | type1 | tesla_ccs | nacs | gbt_ac | gbt_dc | type3
  deriving DecidableEq

structure EvVehicleSpec where
  batteryKwh : ℚ
  baseWhPerKm : ℚ
  massTonnes : ℚ
  maxDcKw : ℚ
  maxAcKw : ℚ
  vehicleTaperSocPct : ℚ
  connectors : List ConnectorStandard

structure Route where
  duration : ℚ
  geometry : List LngLat
  elevation : Option (List ℚ)
  elevationInterval : Option ℚ

def GRAVITY_WH_PER_M_PER_TONNE : ℚ := 9.81 * 1000 / 3600

def REGEN_FACTOR : ℚ := 0.6

structure ConsumptionOpts where
  ambientTempC : ℚ
  elevationAbsentDerate : ℚ

def tempDerate (tempC : ℚ) : ℚ :=
  let d := tempC - 20
  1 + if d < 0 then 0.012 * -d else 0.004 * d

theorem tempDerate_nonneg (tempC : ℚ) : 0 ≤ tempDerate tempC := by
  unfold tempDerate
  by_cases cold : tempC - 20 < 0
  · simp only [if_pos cold]
    linarith
  · simp only [if_neg cold]
    linarith

def haversineKm (geodesy : Geodesy) (here there : LngLat) : ℚ := 6371 * geodesy.angle here there

theorem haversineKm_nonneg (geodesy : Geodesy) (here there : LngLat) :
    0 ≤ haversineKm geodesy here there :=
  mul_nonneg (by norm_num) (geodesy.angle_nonneg here there)

/-- `f` of each value and the one after it. -/
def consecutive {α β : Type} (f : α → α → β) (values : List α) : List β :=
  List.zipWith f values values.tail

theorem mem_consecutive {α β : Type} (f : α → α → β) (values : List α) (value : β)
    (member : value ∈ consecutive f values) : ∃ here there, value = f here there := by
  obtain ⟨index, bound, rfl⟩ := List.mem_iff_getElem.mp member
  exact ⟨_, _, List.getElem_zipWith⟩

def elevationAxis (route : Route) : Option (List ℚ × ℚ) :=
  match route.elevation, route.elevationInterval with
  | some elevation, some interval =>
    if 2 ≤ elevation.length ∧ interval ≠ 0 then some (elevation, interval) else none
  | _, _ => none

/-- Climb costs potential energy, descent recovers `REGEN_FACTOR` of it. -/
def climbSegmentWh (vehicle : EvVehicleSpec) (temp interval before after : ℚ) : ℚ :=
  let segKm := interval / 1000
  let flatWh := segKm * vehicle.baseWhPerKm
  let dEle := after - before
  let gravWh :=
    if dEle ≥ 0 then dEle * GRAVITY_WH_PER_M_PER_TONNE * vehicle.massTonnes
    else REGEN_FACTOR * dEle * GRAVITY_WH_PER_M_PER_TONNE * vehicle.massTonnes
  max 0 (flatWh + gravWh) * temp

def flatSegmentWh (geodesy : Geodesy) (vehicle : EvVehicleSpec) (temp derate : ℚ)
    (before after : LngLat) : ℚ :=
  haversineKm geodesy before after * vehicle.baseWhPerKm * temp * derate

def segmentsWh (geodesy : Geodesy) (route : Route) (vehicle : EvVehicleSpec)
    (opts : ConsumptionOpts) : List ℚ :=
  let temp := tempDerate opts.ambientTempC
  match elevationAxis route with
  | some (elevation, interval) => consecutive (climbSegmentWh vehicle temp interval) elevation
  | none =>
    consecutive (flatSegmentWh geodesy vehicle temp opts.elevationAbsentDerate) route.geometry

/-- The `cumulativeKwh` of `routeEnergyKwh`; its `totalKwh` is the last of them. -/
def routeEnergyKwh (geodesy : Geodesy) (route : Route) (vehicle : EvVehicleSpec)
    (opts : ConsumptionOpts) : List ℚ :=
  ((segmentsWh geodesy route vehicle opts).scanl (· + ·) 0).map (· / 1000)

section

variable (geodesy : Geodesy) (route : Route) (vehicle : EvVehicleSpec) (opts : ConsumptionOpts)
  (base : 0 ≤ vehicle.baseWhPerKm) (derate : 0 ≤ opts.elevationAbsentDerate)
include base derate

theorem segmentsWh_nonneg : ∀ amount ∈ segmentsWh geodesy route vehicle opts, 0 ≤ amount := by
  intro amount member
  have temp := tempDerate_nonneg opts.ambientTempC
  unfold segmentsWh at member
  cases axis : elevationAxis route with
  | some profile =>
    rw [axis] at member
    obtain ⟨before, after, rfl⟩ := mem_consecutive _ _ _ member
    exact mul_nonneg (le_max_left 0 _) temp
  | none =>
    rw [axis] at member
    obtain ⟨before, after, rfl⟩ := mem_consecutive _ _ _ member
    have km := haversineKm_nonneg geodesy before after
    exact mul_nonneg (mul_nonneg (mul_nonneg km base) temp) derate

theorem route_energy_ascending : (routeEnergyKwh geodesy route vehicle opts).Pairwise (· ≤ ·) := by
  have totals := scanl_ascending 0 (segmentsWh geodesy route vehicle opts)
    (segmentsWh_nonneg geodesy route vehicle opts base derate)
  apply List.Pairwise.map (· / 1000) _ totals
  intro before after le
  exact div_le_div_of_nonneg_right le (by norm_num)

end

end OpenMapX.Charging.Consumption
