import OpenMapX.Charging.Sites
import OpenMapX.Foundation.BoundedLoop

/-!
# Planning charging stops

`planCharges` walks the route's energy profile greedily: drive as far as the
battery allows, divert to the best charger there, charge, repeat. One pass of its
loop is one step, which leaves the loop with warnings or logs the stop it chose.
-/

namespace OpenMapX.Charging.Plan

open RunningTotals BoundedLoop Consumption Sites

variable {Tariffs : Type}

def MAX_STOPS : ℕ := 12
def DETOUR_UPLIFT : ℚ := 1.15
def DETOUR_RESERVE_KWH_FRAC : ℚ := 0.05
def REACH_EPS_KWH : ℚ := 0.05
def MAX_WINDOW_KM : ℚ := 30
def AVAILABILITY_HORIZON_SEC : ℚ := 45 * 60
def OCCUPANCY_PENALTY_SEC : ℚ := 12 * 60
def NETWORK_PREFERENCE_BONUS_SEC : ℚ := 10 * 60
def NETWORK_AVOID_PENALTY_SEC : ℚ := 10 * 60
def VALUE_OF_TIME_PER_HOUR : ℚ := 20
def MAX_COST_PENALTY_SEC : ℚ := 6 * 60

structure MatrixCell where
  seconds : ℚ
  km : ℚ

inductive ChargerReply (Tariffs : Type) where
  | sites (candidates : List (ChargingSite Tariffs))
  /-- Rejected with `ChargerSourcesUnavailableError`. -/
  | sourcesUnavailable
  | rejected

/-- Each callback is called at most once a pass, so the number of stops planned
before the call stands for the moment of the call. -/
structure PlanCallbacks (Tariffs : Type) where
  requestCorridorChargers : ℕ → LngLat → ℚ → ChargerReply Tariffs
  requestMatrix : ℕ → List LngLat → List LngLat → Option (List (List (Option MatrixCell)))

structure PlanInput where
  route : Route
  vehicle : EvVehicleSpec
  socStartKwh : ℚ
  socArrivalMinKwh : ℚ
  socTargetKwh : ℚ
  ambientTempC : ℚ
  hasElevation : Bool
  nowMs : ℚ
  tripStartMs : ℚ
  preferredNetworkKeys : Option (List String)
  avoidedNetworkKeys : Option (List String)
  exclusiveNetworkKeys : Option (List String)
  costWeight : Option ℚ

inductive PlanWarning where
  | unreachable (afterStopIndex : ℤ)
  | noChargerData
  | chargerSourcesUnavailable
  | noAllowedNetwork (afterStopIndex : ℤ)
  deriving DecidableEq

structure TariffPrice where
  amount : ℚ
  currency : String
  unit : String
  deriving DecidableEq

structure SessionCost where
  amount : ℚ
  currency : String
  tariffId : String
  tariffType : Option String
  price : TariffPrice
  deriving DecidableEq

/-- The session a cost is asked for. The station's wall clock on arrival is a
function of the site and the arrival instant. -/
structure SessionFacts where
  powerKw : ℚ
  arrivalMs : ℚ
  addedKwh : ℚ
  chargeSeconds : ℚ

/-- What planning reads from elsewhere: the sphere, the operator key and the tariffs. -/
structure PlanServices (Tariffs : Type) where
  geodesy : Geodesy
  normalizeOperator : Option String → String
  estimateSessionCost : ChargingSite Tariffs → EvsePick → SessionFacts → Option SessionCost

structure PlannedStop (Tariffs : Type) where
  site : ChargingSite Tariffs
  evse : Evse
  connector : ConnectorStandard
  connectorKey : String
  powerKw : ℚ
  coordinates : LngLat
  arriveSocKwh : ℚ
  departSocKwh : ℚ
  chargeSeconds : ℚ
  addedKwh : ℚ
  estimatedCost : Option SessionCost

structure ChargePlan (Tariffs : Type) where
  stops : List (PlannedStop Tariffs)
  warnings : List PlanWarning
  totalChargeSeconds : ℚ
  totalEnergyKwh : ℚ

def haversineM (geodesy : Geodesy) (here there : LngLat) : ℚ := 6371000 * geodesy.angle here there

/-- Distance from the start to each sample, on the axis of `cumulativeKwh`. -/
def buildSampleDistances (geodesy : Geodesy) (route : Route) (sampleCount : ℕ) : List ℚ :=
  match route.elevation, route.elevationInterval with
  | some elevation, some interval =>
    if interval ≠ 0 ∧ elevation.length = sampleCount then
      (List.range elevation.length).map fun i : ℕ => i * interval
    else (consecutive (haversineM geodesy) route.geometry).scanl (· + ·) 0
  | _, _ => (consecutive (haversineM geodesy) route.geometry).scanl (· + ·) 0

/-- Coordinate at `targetM` metres: the segment that reaches it, interpolated. -/
def coordAtDistanceM (geodesy : Geodesy) (targetM : ℚ) : ℚ → List LngLat → LngLat
  | acc, before :: after :: rest =>
    let seg := haversineM geodesy before after
    if acc + seg ≥ targetM then
      let t := if seg = 0 then 0 else (targetM - acc) / seg
      ⟨before.lng + t * (after.lng - before.lng), before.lat + t * (after.lat - before.lat)⟩
    else coordAtDistanceM geodesy targetM (acc + seg) (after :: rest)
  | _, [last] => last
  | _, [] => ⟨0, 0⟩

/-- Last sample index reachable from `startIdx`, as an offset: the samples within
the budget before the first one that is not. -/
def reachOffset (cumulativeKwh : List ℚ) (startIdx : ℕ) (socKwh floorKwh : ℚ) : ℕ :=
  let budget := socKwh - floorKwh
  let spent := cumulativeKwh.getD startIdx 0
  reach budget ((cumulativeKwh.drop (startIdx + 1)).map (· - spent))

def operatorKeyMatches (a b : String) : Bool :=
  if a = "" ∨ b = "" then false
  else if a = b then true
  else
    let aWords := a.splitOn " "
    let bWords := b.splitOn " "
    if aWords.length ≤ bWords.length then aWords.isPrefixOf bWords else bWords.isPrefixOf aWords

def matchesAnyOperator (key : String) (keys : Option (List String)) : Bool :=
  key ≠ "" && keys.any fun keys => keys.any (operatorKeyMatches key)

def availabilityPenaltySec (site : ChargingSite Tariffs) (secondsFromNow : ℚ) : ℚ :=
  if secondsFromNow > AVAILABILITY_HORIZON_SEC then 0
  else
    match availabilityOf site with
    | none => 0
    | some a =>
      if a.total = 0 then 0
      else
        let occupancy := 1 - max 0 (min 1 ((a.available : ℚ) / a.total))
        let proximity := 1 - max 0 secondsFromNow / AVAILABILITY_HORIZON_SEC
        OCCUPANCY_PENALTY_SEC * occupancy * proximity

structure Profile where
  cumulativeKwh : List ℚ
  sampleDistM : List ℚ
  destKwh : ℚ
  totalDistM : ℚ
  windowKm : ℚ
  detourReserve : ℚ
  startsInSec : ℚ
  onwardTarget : LngLat

def profileOf (services : PlanServices Tariffs) (input : PlanInput) : Profile :=
  let vehicle := input.vehicle
  let cumulativeKwh := routeEnergyKwh services.geodesy input.route vehicle
    ⟨input.ambientTempC, if input.hasElevation then 1 else 1.1⟩
  let sampleDistM := buildSampleDistances services.geodesy input.route cumulativeKwh.length
  let totalDistM := sampleDistM.getLastD 0
  { cumulativeKwh := cumulativeKwh
    sampleDistM := sampleDistM
    destKwh := cumulativeKwh.getLastD 0
    totalDistM := if totalDistM = 0 then 1 else totalDistM
    windowKm := min MAX_WINDOW_KM (max 15 (vehicle.batteryKwh / vehicle.baseWhPerKm * 1000 * 0.15))
    detourReserve := vehicle.batteryKwh * DETOUR_RESERVE_KWH_FRAC
    startsInSec := (input.tripStartMs - input.nowMs) / 1000
    onwardTarget := input.route.geometry.getLastD ⟨0, 0⟩ }

structure LoopState where
  soc : ℚ
  startIdx : ℕ
  elapsedSec : ℚ
  stopCount : ℕ

structure Visit (Tariffs : Type) where
  divertIdx : ℕ
  socAtDivert : ℚ
  divertEnergy : ℚ
  stop : PlannedStop Tariffs

inductive LoopExit where
  | warned (warnings : List PlanWarning)
  | failed

structure Divert where
  divertIdx : ℕ
  divertPoint : LngLat
  socAtDivert : ℚ
  etaBaseSec : ℚ

structure Candidate (Tariffs : Type) where
  site : ChargingSite Tariffs
  pick : EvsePick

structure Scored (Tariffs : Type) where
  candidate : Candidate Tariffs
  toSeconds : ℚ
  detourSec : ℚ
  divertEnergy : ℚ
  reachKwh : ℚ
  approxCharge : ℚ
  cost : Option SessionCost

def remainingKwh (profile : Profile) (index : ℕ) : ℚ :=
  profile.destKwh - profile.cumulativeKwh.getD index 0

/-- `afterStopIndex: stops.length - 1`. -/
def lastStopIndex (state : LoopState) : ℤ := state.stopCount - 1

def divertOf (services : PlanServices Tariffs) (input : PlanInput) (profile : Profile)
    (state : LoopState) : Divert :=
  let divertIdx := state.startIdx + reachOffset profile.cumulativeKwh state.startIdx state.soc
    (input.socArrivalMinKwh + profile.detourReserve)
  let driveToDivertSec := input.route.duration *
    ((profile.sampleDistM.getD divertIdx 0 - profile.sampleDistM.getD state.startIdx 0) /
      profile.totalDistM)
  { divertIdx := divertIdx
    divertPoint :=
      coordAtDistanceM services.geodesy (profile.sampleDistM.getD divertIdx 0) 0
        input.route.geometry
    socAtDivert := state.soc -
      (profile.cumulativeKwh.getD divertIdx 0 - profile.cumulativeKwh.getD state.startIdx 0)
    etaBaseSec := state.elapsedSec + driveToDivertSec }

def compatibleCandidates (vehicle : EvVehicleSpec) (candidates : List (ChargingSite Tariffs)) :
    List (Candidate Tariffs) :=
  candidates.filterMap fun site => (pickEvse site vehicle).map fun pick => ⟨site, pick⟩

def allowedCandidates (services : PlanServices Tariffs) (input : PlanInput)
    (candidates : List (Candidate Tariffs)) : List (Candidate Tariffs) :=
  match input.exclusiveNetworkKeys with
  | none => candidates
  | some allowed =>
    if allowed = [] then candidates
    else candidates.filter fun candidate =>
      matchesAnyOperator (services.normalizeOperator candidate.site.operator) (some allowed)

def matrixCell (matrix : List (List (Option MatrixCell))) (row column : ℕ) : Option MatrixCell :=
  ((matrix[row]?).bind (·[column]?)).join

def sessionAt (input : PlanInput) (divert : Divert) (caps : PowerCaps)
    (toSeconds addedKwh chargeSeconds : ℚ) : SessionFacts where
  powerKw := min caps.chargerPowerKw caps.vehicleMaxKw
  arrivalMs := input.tripStartMs + (divert.etaBaseSec + toSeconds) * 1000
  addedKwh := addedKwh
  chargeSeconds := chargeSeconds

def chargeInput (input : PlanInput) (caps : PowerCaps) (fromSocKwh toSocKwh : ℚ) : ChargeInput where
  fromSocKwh := fromSocKwh
  toSocKwh := toSocKwh
  batteryKwh := input.vehicle.batteryKwh
  caps := caps
  taperSocPct := input.vehicle.vehicleTaperSocPct

def costWeightOf (input : PlanInput) : ℚ := input.costWeight.getD 1

/-- The body of the first ranking pass for candidate `i` of `count`. -/
def scoreCandidate (services : PlanServices Tariffs) (input : PlanInput) (divert : Divert)
    (matrix : List (List (Option MatrixCell))) (count i : ℕ) (candidate : Candidate Tariffs) :
    Option (Scored Tariffs) :=
  match matrixCell matrix 0 i, matrixCell matrix (i + 1) count with
  | some toCand, some fromCand =>
    let divertEnergy := toCand.km * input.vehicle.baseWhPerKm * DETOUR_UPLIFT / 1000
    let reachKwh := divert.socAtDivert - divertEnergy
    if reachKwh < 0 then none
    else
      let caps := powerCaps candidate.pick input.vehicle
      let toSoc := min input.socTargetKwh input.vehicle.batteryKwh
      let approxCharge := chargeSecondsFor (chargeInput input caps (max 0 reachKwh) toSoc)
      some {
        candidate := candidate
        toSeconds := toCand.seconds
        detourSec := toCand.seconds + fromCand.seconds
        divertEnergy := divertEnergy
        reachKwh := reachKwh
        approxCharge := approxCharge
        cost :=
          if costWeightOf input > 0 then
            services.estimateSessionCost candidate.site candidate.pick
              (sessionAt input divert caps toCand.seconds (max 0 (toSoc - max 0 reachKwh))
                approxCharge)
          else none }
  | _, _ => none

def scoredCandidates (services : PlanServices Tariffs) (input : PlanInput) (divert : Divert)
    (matrix : List (List (Option MatrixCell))) (compatible : List (Candidate Tariffs)) :
    List (Scored Tariffs) :=
  (compatible.mapIdx (scoreCandidate services input divert matrix compatible.length)).filterMap id

def minCostIn (scored : List (Scored Tariffs)) (currency : String) : Option ℚ :=
  ((scored.filterMap (·.cost)).filter (·.currency = currency)).map (·.amount) |>.min?

def networkBias (services : PlanServices Tariffs) (input : PlanInput)
    (site : ChargingSite Tariffs) : ℚ :=
  let opKey := services.normalizeOperator site.operator
  if matchesAnyOperator opKey input.preferredNetworkKeys then -NETWORK_PREFERENCE_BONUS_SEC
  else if matchesAnyOperator opKey input.avoidedNetworkKeys then NETWORK_AVOID_PENALTY_SEC
  else 0

def costPenalty (input : PlanInput) (scored : List (Scored Tariffs)) (cost : Option SessionCost) :
    ℚ :=
  match cost with
  | none => 0
  | some cost =>
    if costWeightOf input > 0 then
      match minCostIn scored cost.currency with
      | none => 0
      | some minCost =>
        let secPerUnit := 3600 / VALUE_OF_TIME_PER_HOUR * costWeightOf input
        min ((cost.amount - minCost) * secPerUnit) MAX_COST_PENALTY_SEC
    else 0

def scoreOf (services : PlanServices Tariffs) (input : PlanInput) (profile : Profile)
    (divert : Divert) (scored : List (Scored Tariffs)) (s : Scored Tariffs) : ℚ :=
  s.detourSec + s.approxCharge +
    availabilityPenaltySec s.candidate.site
      (profile.startsInSec + divert.etaBaseSec + s.toSeconds) +
    networkBias services input s.candidate.site + costPenalty input scored s.cost

def bestOf (score : Scored Tariffs → ℚ) : List (Scored Tariffs) → Option (Scored Tariffs)
  | [] => none
  | first :: rest => some (rest.foldl (fun best s => if score s < score best then s else best) first)

/-- How far the stop charges. When the rest fits on one charge this is the final
leg and may go above the taper; otherwise it charges to the taper. -/
def departKwhOf (input : PlanInput) (profile : Profile) (divertIdx : ℕ) (arriveKwh : ℚ) : ℚ :=
  let batteryKwh := input.vehicle.batteryKwh
  let taperKwh := input.vehicle.vehicleTaperSocPct / 100 * batteryKwh
  let needForRest := remainingKwh profile divertIdx + input.socArrivalMinKwh
  let userCapKwh := min input.socTargetKwh batteryKwh
  let departKwh :=
    if needForRest ≤ batteryKwh then min batteryKwh (max needForRest userCapKwh)
    else min taperKwh userCapKwh
  min batteryKwh (max (arriveKwh + profile.detourReserve) departKwh)

def plannedStop (services : PlanServices Tariffs) (input : PlanInput) (profile : Profile)
    (divert : Divert) (chosen : Scored Tariffs) : PlannedStop Tariffs :=
  let caps := powerCaps chosen.candidate.pick input.vehicle
  let arriveKwh := max 0 chosen.reachKwh
  let departKwh := departKwhOf input profile divert.divertIdx arriveKwh
  let chargeSeconds := chargeSecondsFor (chargeInput input caps arriveKwh departKwh)
  { site := chosen.candidate.site
    evse := chosen.candidate.pick.evse
    connector := chosen.candidate.pick.standard
    connectorKey := chosen.candidate.pick.connector.key
    powerKw := chosen.candidate.pick.powerKw
    coordinates := chosen.candidate.site.coordinates
    arriveSocKwh := arriveKwh
    departSocKwh := departKwh
    chargeSeconds := chargeSeconds
    addedKwh := departKwh - arriveKwh
    estimatedCost := services.estimateSessionCost chosen.candidate.site chosen.candidate.pick
      (sessionAt input divert caps chosen.toSeconds (departKwh - arriveKwh) chargeSeconds) }

def chooseStop (services : PlanServices Tariffs) (input : PlanInput)
    (callbacks : PlanCallbacks Tariffs) (profile : Profile) (state : LoopState) (divert : Divert)
    (candidates : List (ChargingSite Tariffs)) :
    Outcome LoopState (Visit Tariffs) LoopExit :=
  let connCompatible := compatibleCandidates input.vehicle candidates
  let compatible := allowedCandidates services input connCompatible
  if candidates = [] then
    .leave (.warned [.noChargerData, .unreachable (lastStopIndex state)])
  else if connCompatible = [] then .leave (.warned [.unreachable (lastStopIndex state)])
  else if compatible = [] then .leave (.warned [.noAllowedNetwork (lastStopIndex state)])
  else
    let coordinates := compatible.map (·.site.coordinates)
    match callbacks.requestMatrix state.stopCount (divert.divertPoint :: coordinates)
        (coordinates ++ [profile.onwardTarget]) with
    | none => .leave (.warned [.unreachable (lastStopIndex state)])
    | some matrix =>
      let scored := scoredCandidates services input divert matrix compatible
      match bestOf (scoreOf services input profile divert scored) scored with
      | none => .leave (.warned [.unreachable (lastStopIndex state)])
      | some chosen =>
        let stop := plannedStop services input profile divert chosen
        .next ⟨divert.divertIdx, divert.socAtDivert, chosen.divertEnergy, stop⟩
          { soc := stop.departSocKwh
            startIdx := divert.divertIdx
            elapsedSec := divert.etaBaseSec + chosen.toSeconds + stop.chargeSeconds
            stopCount := state.stopCount + 1 }

def planStep (services : PlanServices Tariffs) (input : PlanInput)
    (callbacks : PlanCallbacks Tariffs) (profile : Profile) (state : LoopState) :
    Outcome LoopState (Visit Tariffs) LoopExit :=
  if state.soc - remainingKwh profile state.startIdx ≥ input.socArrivalMinKwh - REACH_EPS_KWH then
    .leave (.warned [])
  else
    let divert := divertOf services input profile state
    if divert.divertIdx ≤ state.startIdx then
      .leave (.warned [.unreachable (lastStopIndex state)])
    else
      match callbacks.requestCorridorChargers state.stopCount divert.divertPoint
          profile.windowKm with
      | .rejected => .leave .failed
      | .sourcesUnavailable =>
        .leave (.warned [.chargerSourcesUnavailable, .unreachable (lastStopIndex state)])
      | .sites candidates =>
        chooseStop services input callbacks profile state divert candidates

def initialState (input : PlanInput) : LoopState := ⟨input.socStartKwh, 0, 0, 0⟩

def planLoop (services : PlanServices Tariffs) (input : PlanInput)
    (callbacks : PlanCallbacks Tariffs) : Run LoopState (Visit Tariffs) LoopExit :=
  run (planStep services input callbacks (profileOf services input)) MAX_STOPS (initialState input)

def capWarnings (input : PlanInput) (profile : Profile) (state : LoopState) : List PlanWarning :=
  if state.stopCount ≥ MAX_STOPS ∧
      state.soc - remainingKwh profile state.startIdx < input.socArrivalMinKwh then
    [.unreachable (lastStopIndex state)]
  else []

/-- `none` when a charger request rejected with another error than its own. -/
def planCharges (services : PlanServices Tariffs) (input : PlanInput)
    (callbacks : PlanCallbacks Tariffs) : Option (ChargePlan Tariffs) :=
  let profile := profileOf services input
  let loop := planLoop services input callbacks
  let stops := loop.entries.map (·.stop)
  let plan (warnings : List PlanWarning) : ChargePlan Tariffs :=
    { stops := stops
      warnings := warnings ++ capWarnings input profile loop.state
      totalChargeSeconds := (stops.map (·.chargeSeconds)).sum
      totalEnergyKwh := profile.destKwh }
  match loop.exit with
  | none => some (plan [])
  | some (.warned warnings) => some (plan warnings)
  | some .failed => none

end OpenMapX.Charging.Plan
