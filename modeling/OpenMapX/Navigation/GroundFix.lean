import Mathlib.Data.Rat.Floor
import OpenMapX.Navigation.TransitTrip

/-!
# Ground fixes

`processFix`: the check of a fix, its place on the route, the speed, the gate of the
steps, the evidence for being off the route, the arrival and the next voice cue. The
matching of a point to the route, the places of the maneuvers and the trigonometry are
parameters.
-/

namespace OpenMapX.Navigation.GroundFix

open TransitTrip

abbrev Point := ℚ × ℚ

def finitePoint (coords : LngLat) : Option Point :=
  match coords.lng.value?, coords.lat.value? with
  | some lng, some lat => some (lng, lat)
  | _, _ => none

def lngLatOf (point : Point) : LngLat := ⟨.finite point.1, .finite point.2⟩

structure FixInput where
  coords : LngLat
  accuracy : ℚ
  heading : Option ℚ
  speed : Option ℚ
  timestampMs : ℚ
  coasted : Bool
  deriving DecidableEq

structure RouteStep where
  distance : ℚ
  duration : ℚ

structure Route where
  geometry : List Point
  steps : List RouteStep
  distance : ℚ
  duration : ℚ

structure SnapResult where
  snapped : Point
  alongMeters : ℚ
  deviationMeters : ℚ
  segmentIndex : Nat

structure ManeuverPositions where
  starts : List ℚ
  ends : List ℚ
  total : ℚ

structure RouteGeometry where
  haversineDistance : Point → Point → ℚ
  bearingBetween : Point → Point → ℚ
  exp : ℚ → ℚ
  snapPreparedRoute : List Point → Point → SnapResult
  prepareManeuverPositions : Route → ManeuverPositions

structure RerouteOpts where
  thresholdMeters : ℚ
  scoreThreshold : ℚ
  backoffBaseMs : ℚ
  backoffMaxMs : ℚ

structure VoiceScheduleConfig where
  farMeters : ℚ
  nearMeters : ℚ
  refSpeedMps : ℚ
  nowSeconds : ℚ
  nowFloorMeters : ℚ
  ttsDelaySeconds : ℚ

structure NavTickOptions where
  accuracyCapMeters : ℚ
  weakGpsMeters : ℚ
  minMovingSpeedMps : ℚ
  reroute : RerouteOpts
  voice : VoiceScheduleConfig
  announceMultiplier : ℚ
  arrivalThresholdMeters : ℚ
  stepGateEntryMeters : ℚ
  stepGateExitMeters : ℚ

inductive GroundMode where
  | driving | walking | cycling | motorcycle
  deriving DecidableEq

def navOptionsForMode : GroundMode → NavTickOptions
  | .walking =>
    { accuracyCapMeters := 100, weakGpsMeters := 40, minMovingSpeedMps := 0.4
      reroute :=
        { thresholdMeters := 25, scoreThreshold := 6, backoffBaseMs := 3000
          backoffMaxMs := 30000 }
      voice :=
        { farMeters := 150, nearMeters := 50, refSpeedMps := 1.4, nowSeconds := 3
          nowFloorMeters := 12, ttsDelaySeconds := 1 }
      announceMultiplier := 1, arrivalThresholdMeters := 20
      stepGateEntryMeters := 20, stepGateExitMeters := 3 }
  | .cycling =>
    { accuracyCapMeters := 150, weakGpsMeters := 50, minMovingSpeedMps := 0.8
      reroute :=
        { thresholdMeters := 30, scoreThreshold := 8, backoffBaseMs := 3000
          backoffMaxMs := 60000 }
      voice :=
        { farMeters := 250, nearMeters := 100, refSpeedMps := 5.5, nowSeconds := 2.5
          nowFloorMeters := 18, ttsDelaySeconds := 1.5 }
      announceMultiplier := 1, arrivalThresholdMeters := 25
      stepGateEntryMeters := 20, stepGateExitMeters := 4 }
  | _ =>
    { accuracyCapMeters := 200, weakGpsMeters := 60, minMovingSpeedMps := 1.5
      reroute :=
        { thresholdMeters := 45, scoreThreshold := 10, backoffBaseMs := 3000
          backoffMaxMs := 120000 }
      voice :=
        { farMeters := 400, nearMeters := 200, refSpeedMps := 14, nowSeconds := 2.5
          nowFloorMeters := 30, ttsDelaySeconds := 1.5 }
      announceMultiplier := 1, arrivalThresholdMeters := 35
      stepGateEntryMeters := 20, stepGateExitMeters := 5 }

structure NavigationSpeedState where
  timestampMs : ℚ
  weight : ℚ
  meanAgeSeconds : ℚ
  meanAlongMeters : ℚ
  varianceSeconds : ℚ
  covarianceMetersSeconds : ℚ
  reportedSpeedMps : ℚ
  reportedSpeedWeight : ℚ
  speedMps : ℚ
  deriving DecidableEq

def SPEED_TAU_SECONDS : ℚ := 2
def RESET_AFTER_SECONDS : ℚ := 15
def MIN_ACCURACY_METERS : ℚ := 5
def REPORTED_SPEED_TAU_SECONDS : ℚ := 1

def startSpeedEstimate (fix : FixInput) (alongMeters weight : ℚ) (reported : Option ℚ) :
    NavigationSpeedState where
  timestampMs := fix.timestampMs
  weight := weight
  meanAgeSeconds := 0
  meanAlongMeters := alongMeters
  varianceSeconds := 0
  covarianceMetersSeconds := 0
  reportedSpeedMps := reported.getD 0
  reportedSpeedWeight := if reported.isNone then 0 else 1
  speedMps := reported.getD 0

def continueSpeedEstimate (exp : ℚ → ℚ) (previous : NavigationSpeedState) (fix : FixInput)
    (alongMeters weight dt : ℚ) (reported : Option ℚ) : NavigationSpeedState :=
  let oldWeight := previous.weight * exp (-dt / SPEED_TAU_SECONDS)
  let totalWeight := oldWeight + weight
  let alpha := weight / totalWeight
  let oldAge := previous.meanAgeSeconds - dt
  let deltaAlong := alongMeters - previous.meanAlongMeters
  let varianceSeconds := (1 - alpha) * (previous.varianceSeconds + alpha * oldAge ^ 2)
  let covarianceMetersSeconds :=
    (1 - alpha) * (previous.covarianceMetersSeconds + alpha * -oldAge * deltaAlong)
  let reportedSpeedMps := reported.getD previous.reportedSpeedMps
  let reportedSpeedWeight :=
    if reported.isNone then previous.reportedSpeedWeight * exp (-dt / REPORTED_SPEED_TAU_SECONDS)
    else 1
  let slopeWeight := totalWeight * varianceSeconds + reportedSpeedWeight
  let estimated :=
    if slopeWeight > 1 / 1000000000 then
      (totalWeight * covarianceMetersSeconds + reportedSpeedWeight * reportedSpeedMps) / slopeWeight
    else previous.speedMps
  { timestampMs := fix.timestampMs
    weight := totalWeight
    meanAgeSeconds := oldAge * (1 - alpha)
    meanAlongMeters := previous.meanAlongMeters + alpha * deltaAlong
    varianceSeconds := varianceSeconds
    covarianceMetersSeconds := covarianceMetersSeconds
    reportedSpeedMps := reportedSpeedMps
    reportedSpeedWeight := reportedSpeedWeight
    speedMps := reported.getD (max 0 estimated) }

def navigationSpeed (exp : ℚ → ℚ) (previous : Option NavigationSpeedState) (fix : FixInput)
    (alongMeters : ℚ) : ℚ × Option NavigationSpeedState :=
  let reported := fix.speed.filter fun speed => 0 ≤ speed
  let weight := 1 / max fix.accuracy MIN_ACCURACY_METERS ^ 2
  match previous with
  | none =>
    if fix.coasted then (reported.getD 0, none)
    else
      let state := startSpeedEstimate fix alongMeters weight reported
      (state.speedMps, some state)
  | some previous =>
    let dt := (fix.timestampMs - previous.timestampMs) / 1000
    if fix.coasted then (reported.getD previous.speedMps, some previous)
    else if dt ≤ 0 then (previous.speedMps, some previous)
    else
      let state :=
        if RESET_AFTER_SECONDS < dt ∨ reported = some 0 then
          startSpeedEstimate fix alongMeters weight reported
        else continueSpeedEstimate exp previous fix alongMeters weight dt reported
      (state.speedMps, some state)

structure StepGateState where
  committedStepIndex : Nat
  reachedStepEnd : Bool

def gateRounds (ends : List ℚ) (alongMeters entryMeters exitMeters : ℚ) :
    Nat → Nat → Bool → StepGateState
  | 0, committed, entered => ⟨committed, entered⟩
  | rounds + 1, committed, entered =>
    let stepEnd := ends.getD committed 0
    let entered := entered || decide (stepEnd - entryMeters ≤ alongMeters)
    if entered ∧ stepEnd + exitMeters ≤ alongMeters then
      gateRounds ends alongMeters entryMeters exitMeters rounds (committed + 1) false
    else ⟨committed, entered⟩

def advanceStepGate (ends : List ℚ) (stepCount : Nat) (alongMeters : ℚ) (prev : StepGateState)
    (entryMeters exitMeters : ℚ) : StepGateState :=
  if stepCount ≤ 1 then ⟨0, false⟩
  else
    let committed := min prev.committedStepIndex (stepCount - 1)
    gateRounds ends alongMeters entryMeters exitMeters (stepCount - 1 - committed) committed
      prev.reachedStepEnd

structure ProgressResult where
  currentStepIndex : Nat
  distanceToNextManeuver : ℚ
  distanceRemaining : ℚ
  durationRemaining : ℚ
  deriving DecidableEq

def steplessProgress (route : Route) (alongMeters : ℚ) : ProgressResult :=
  let usable := decide (0 < route.distance)
  let along := if usable then max 0 (min alongMeters route.distance) else 0
  let distanceRemaining := if usable then max 0 (route.distance - along) else 0
  { currentStepIndex := 0
    distanceToNextManeuver := distanceRemaining
    distanceRemaining := distanceRemaining
    durationRemaining :=
      if usable then route.duration * (distanceRemaining / route.distance) else 0 }

def computeProgress (route : Route) (positions : ManeuverPositions) (alongMeters : ℚ)
    (forcedStepIndex : Nat) : ProgressResult :=
  if route.steps.isEmpty then steplessProgress route alongMeters
  else
    let along := max 0 (min alongMeters positions.total)
    let lastIndex := route.steps.length - 1
    let rawIdx := ((List.range route.steps.length).find? fun index : Nat =>
      along ≤ positions.ends.getD index 0).getD lastIndex
    let idx := min forcedStepIndex lastIndex
    let rawEnd := positions.ends.getD rawIdx 0
    let rawLength := rawEnd - positions.starts.getD rawIdx 0
    let fractionLeft := if 0 < rawLength then min 1 (max 0 ((rawEnd - along) / rawLength)) else 0
    let raw := route.steps.getD rawIdx ⟨0, 0⟩
    let later := route.steps.drop (rawIdx + 1)
    { currentStepIndex := idx
      distanceToNextManeuver := max 0 (positions.ends.getD idx 0 - along)
      distanceRemaining :=
        later.foldl (fun sum step => sum + step.distance) (raw.distance * fractionLeft)
      durationRemaining :=
        later.foldl (fun sum step => sum + step.duration) (raw.duration * fractionLeft) }

def upcomingManeuverIndex (currentStepIndex stepCount : Nat) : Nat :=
  if stepCount = 0 then 0 else min (currentStepIndex + 1) (stepCount - 1)

def DEAD_BAND_METERS : ℚ := 1 / 2

def updateOffRouteScore (prevScore : ℚ) (offRoute moving wrongDirection : Bool) (deviation : ℚ)
    (lastDeviation : Option ℚ) : ℚ :=
  if !offRoute then 0
  else if !moving && lastDeviation.any fun last => |deviation - last| < DEAD_BAND_METERS then
    prevScore
  else prevScore + (if moving then 2 else 1) + (if wrongDirection then 1 else 0)

def shouldReroute (score : ℚ) (lastRerouteAtMs : Option ℚ) (backoffMs nowMs : ℚ)
    (opts : RerouteOpts) : Bool :=
  decide (opts.scoreThreshold ≤ score) &&
    !lastRerouteAtMs.any fun last => nowMs - last < backoffMs

inductive CueTier where
  | far | near | now
  deriving DecidableEq

def CueTier.text : CueTier → String
  | .far => "far"
  | .near => "near"
  | .now => "now"

structure VoiceCue where
  key : String
  tier : CueTier
  stepIndex : Nat
  distance : ℚ

def nextVoiceCue (stepIndex : Nat) (distanceToManeuver currentSpeedMps : ℚ)
    (config : VoiceScheduleConfig) (multiplier : ℚ) (spoken : List String) : Option VoiceCue :=
  let speed := max currentSpeedMps 0
  let m := if 0 < multiplier then multiplier else 1
  let speedRatio := max speed config.refSpeedMps / config.refSpeedMps
  let latency := speed * config.ttsDelaySeconds
  let farTrigger := config.farMeters * speedRatio * m + latency
  let nearTrigger := config.nearMeters * speedRatio * m + latency
  let nowTrigger := max config.nowFloorMeters (config.nowSeconds * speed) * m + latency
  let tier : Option CueTier :=
    if distanceToManeuver ≤ nowTrigger then some .now
    else if distanceToManeuver ≤ nearTrigger then some .near
    else if distanceToManeuver ≤ farTrigger then some .far
    else none
  match tier with
  | none => none
  | some tier =>
    let key := toString stepIndex ++ ":" ++ tier.text
    if spoken.contains key then none
    else some { key := key, tier := tier, stepIndex := stepIndex, distance := distanceToManeuver }

structure NavTickState where
  offRouteScore : ℚ
  lastRerouteAtMs : Option ℚ
  rerouteBackoffMs : ℚ
  spokenCues : List String
  lastAlongMeters : Option ℚ
  lastFixMs : Option ℚ
  speedEstimate : Option NavigationSpeedState
  lastRaw : Option Point
  lastDeviation : Option ℚ
  uTurnSinceMs : Option ℚ
  committedStepIndex : Option Nat
  reachedStepEnd : Option Bool
  deriving DecidableEq

structure NavProgress where
  steps : ProgressResult
  snapped : Point
  alongMeters : ℚ
  deviationMeters : ℚ
  segmentIndex : Nat
  etaEpochMs : ℚ
  bearing : ℚ
  speedMps : ℚ
  deriving DecidableEq

structure NavTickResult where
  progress : Option NavProgress
  accuracyRejected : Bool
  weakGps : Bool
  offRoute : Bool
  needsReroute : Bool
  arrived : Bool
  voiceCue : Option VoiceCue
  nextState : NavTickState

def WRONG_DIRECTION_DEG : ℚ := 90
def U_TURN_DEG : ℚ := 135
def U_TURN_SUSTAIN_MS : ℚ := 10000
def MIN_MOTION_METERS : ℚ := 3

def eta (durationRemainingSec nowMs : ℚ) : ℚ := nowMs + durationRemainingSec * 1000

/-- `Math.abs(a - b) % 360`, the smaller way round. -/
def angularDiff (a b : ℚ) : ℚ :=
  let turn := |a - b|
  let d := turn - 360 * ⌊turn / 360⌋
  if 180 < d then 360 - d else d

section

variable (geo : RouteGeometry)

def bearingAt (geometry : List Point) (segmentIndex : Nat) : ℚ :=
  if geometry.length < 2 then 0
  else
    let i := min segmentIndex (geometry.length - 2)
    geo.bearingBetween (geometry.getD i (0, 0)) (geometry.getD (i + 1) (0, 0))

def motionBearing (fix : FixInput) (point : Point) (lastRaw : Option Point) (moving : Bool) :
    Option ℚ :=
  if !moving then none
  else
    match fix.heading.filter fun heading => 0 ≤ heading with
    | some heading => some heading
    | none =>
      match lastRaw with
      | some last =>
        if MIN_MOTION_METERS ≤ geo.haversineDistance last point then
          some (geo.bearingBetween last point)
        else none
      | none => none

def rejectFix (state : NavTickState) : NavTickResult where
  progress := none
  accuracyRejected := true
  weakGps := true
  offRoute := false
  needsReroute := false
  arrived := false
  voiceCue := none
  nextState := state

def acceptFix (route : Route) (fix : FixInput) (point : Point) (state : NavTickState)
    (opts : NavTickOptions) : NavTickResult :=
  let snap := geo.snapPreparedRoute route.geometry point
  let positions := geo.prepareManeuverPositions route
  let gate := advanceStepGate positions.ends route.steps.length snap.alongMeters
    ⟨state.committedStepIndex.getD 0, state.reachedStepEnd.getD false⟩
    opts.stepGateEntryMeters opts.stepGateExitMeters
  let prog := computeProgress route positions snap.alongMeters gate.committedStepIndex
  let speed := navigationSpeed geo.exp state.speedEstimate fix snap.alongMeters
  let speedMps := speed.1
  let offRoute := decide (opts.reroute.thresholdMeters + fix.accuracy < snap.deviationMeters)
  let moving := decide (opts.minMovingSpeedMps < speedMps)
  let routeBearing := bearingAt geo route.geometry snap.segmentIndex
  let bearingOff := (motionBearing geo fix point state.lastRaw moving).map fun heading =>
    angularDiff heading routeBearing
  let wrongDirection := offRoute && bearingOff.any fun off => WRONG_DIRECTION_DEG < off
  let uTurnNow := bearingOff.any fun off => U_TURN_DEG < off
  let uTurnSinceMs := if uTurnNow then some (state.uTurnSinceMs.getD fix.timestampMs) else none
  let sustainedUTurn := uTurnSinceMs.any fun since => U_TURN_SUSTAIN_MS ≤ fix.timestampMs - since
  let score := updateOffRouteScore state.offRouteScore offRoute moving wrongDirection
    snap.deviationMeters state.lastDeviation
  let decisionScore := if sustainedUTurn then max score opts.reroute.scoreThreshold else score
  let currentBackoff :=
    if 0 < state.rerouteBackoffMs then state.rerouteBackoffMs else opts.reroute.backoffBaseMs
  let decisionBackoff := if wrongDirection then opts.reroute.backoffBaseMs else currentBackoff
  let needsReroute := shouldReroute decisionScore state.lastRerouteAtMs decisionBackoff
    fix.timestampMs opts.reroute
  -- only a real fix near the destination, with the last travel step committed, arrives
  let arrived := !fix.coasted &&
    route.geometry.getLast?.any (fun destination =>
      geo.haversineDistance point destination ≤ opts.arrivalThresholdMeters) &&
    decide (prog.distanceRemaining ≤ opts.arrivalThresholdMeters) &&
    (route.steps.isEmpty || decide (route.steps.length ≤ gate.committedStepIndex + 2))
  let upcomingIndex := upcomingManeuverIndex prog.currentStepIndex route.steps.length
  let cue :=
    if arrived ∨ offRoute ∨ route.steps.length ≤ upcomingIndex then none
    else nextVoiceCue upcomingIndex prog.distanceToNextManeuver speedMps opts.voice
      opts.announceMultiplier state.spokenCues
  let spokenCues := state.spokenCues ++ (cue.map VoiceCue.key).toList
  let nextBackoff :=
    if needsReroute then min (currentBackoff * (3 / 2)) opts.reroute.backoffMaxMs
    else if !offRoute || wrongDirection then opts.reroute.backoffBaseMs
    else currentBackoff
  { progress := some
      { steps := prog
        snapped := snap.snapped
        alongMeters := snap.alongMeters
        deviationMeters := snap.deviationMeters
        segmentIndex := snap.segmentIndex
        etaEpochMs := eta prog.durationRemaining fix.timestampMs
        bearing := routeBearing
        speedMps := speedMps }
    accuracyRejected := false
    weakGps := decide (opts.weakGpsMeters < fix.accuracy)
    offRoute := offRoute
    needsReroute := needsReroute
    arrived := arrived
    voiceCue := cue
    nextState :=
      { offRouteScore := if needsReroute then 0 else score
        lastRerouteAtMs := if needsReroute then some fix.timestampMs else state.lastRerouteAtMs
        rerouteBackoffMs := nextBackoff
        spokenCues := spokenCues
        lastAlongMeters := some snap.alongMeters
        lastFixMs := some fix.timestampMs
        speedEstimate := speed.2
        lastRaw := some point
        lastDeviation := some snap.deviationMeters
        uTurnSinceMs := if needsReroute then none else uTurnSinceMs
        committedStepIndex := some gate.committedStepIndex
        reachedStepEnd := some gate.reachedStepEnd } }

def processFix (route : Route) (fix : FixInput) (state : NavTickState) (opts : NavTickOptions) :
    NavTickResult :=
  match finitePoint fix.coords with
  | none => rejectFix state
  | some point =>
    if opts.accuracyCapMeters < fix.accuracy then rejectFix state
    else acceptFix geo route fix point state opts

end

end OpenMapX.Navigation.GroundFix
