import OpenMapX.Foundation.BoundedLedger
import OpenMapX.Mobile.Notifications
import OpenMapX.Navigation.StopCursor
import OpenMapX.Navigation.StopTargets

/-!
# One tick of a transit trip

`processTransitFix`: the check of a fix, the rider's action, and what an accepted
fix does on a ride, on a walk and at a stop, in the order of the source. A tick
threads the state and the events that have been emitted.
-/

namespace OpenMapX.Navigation.TransitFix

open Foundation.BoundedLedger Foundation.JsText Mobile.Notifications TransitTrip StopTargets
  StopCursor

inductive TransitEventBody where
  | board (legIndex : Nat)
  | alight (legIndex : Nat)
  | arrival (legIndex : Nat)
  | platformChange (legIndex : Nat) (platform : String)
  | approachingAlight (legIndex : Nat) (stopsRemaining : Nat)
  | transfer (fromLegIndex toLegIndex : Nat)
  deriving DecidableEq

structure TransitNavigationEvent where
  id : String
  body : TransitEventBody
  deriving DecidableEq

/-- The hash of a platform: `charCodeAt(0)` of each code point, by 31. -/
def platformHash (platform : String) : Nat :=
  platform.toList.foldl
    (fun hash c => (hash * 31 + (codeUnitsOf c).headD 0) % 2 ^ 32) 0

/-- `toString(36)` of a 32-bit number. -/
def toString36 (value : Nat) : String :=
  let digits := (base36 value).dropWhile (· == '0')
  if digits.isEmpty then "0" else String.ofList digits

def eventId (fingerprint : String) : TransitEventBody → String
  | .board legIndex => fingerprint ++ ":board:" ++ toString legIndex
  | .alight legIndex => fingerprint ++ ":alight:" ++ toString legIndex
  | .arrival legIndex => fingerprint ++ ":arrival:" ++ toString legIndex
  | .platformChange legIndex platform =>
    fingerprint ++ ":platform-change:" ++ toString legIndex ++ ":"
      ++ toString36 (platformHash platform)
  | .approachingAlight legIndex _ => fingerprint ++ ":approaching-alight:" ++ toString legIndex
  | .transfer fromLegIndex toLegIndex =>
    fingerprint ++ ":transfer:" ++ toString fromLegIndex ++ ":" ++ toString toLegIndex

structure TransitTickOptions where
  itineraryFingerprint : String
  accuracyCapMeters : ℚ

inductive RejectedReason where
  | lowAccuracy | outOfOrder | invalid | stale | future | coasted
  deriving DecidableEq

structure TransitOracles where
  line : LineGeometry
  stopAreaDistance : StopAreaDistance
  toUpperCase : ToUpperCase

structure TransitTickInput where
  itinerary : TripItinerary
  captures : List LegCapture
  state : TransitTickState
  fix : Option FixInput
  action : Option TransitRiderAction
  nowMs : ℤ
  options : TransitTickOptions
  prepared : Option (List (Option PreparedTransitLeg))
  stopAreas : Option TransitStopAreaIndex

structure TransitTickResult where
  state : TransitTickState
  events : List TransitNavigationEvent
  confidence : TransitConfidence
  actionRejected : Bool
  rejectedReason : Option RejectedReason
  deriving DecidableEq

structure Tick where
  state : TransitTickState
  events : List TransitNavigationEvent

/-- How many ids a tick state remembers: `slice(-512)`. -/
def MAX_EMITTED_IDS : Nat := 512

def lastIds (ids : List String) : List String := lastOf MAX_EMITTED_IDS ids

def emit (fingerprint : String) (tick : Tick) (body : TransitEventBody) : Tick :=
  let id := eventId fingerprint body
  if tick.state.emittedEventIds.contains id then tick
  else
    { state := { tick.state with
        emittedEventIds := lastIds (tick.state.emittedEventIds ++ [id]) },
      events := tick.events ++ [{ id := id, body := body }] }

def entryPhase (legs : List TransitLeg) (index : Nat) : TransitPhase :=
  if isTransitRide legs[index]? then .waitingToBoard else .walking

def resetLeg (fingerprint : String) (legs : List TransitLeg) (nowMs : ℤ) (tick : Tick)
    (index : Nat) : Tick :=
  let start := tick.state.currentLegIndex
  let moved := if index = start then tick else emit fingerprint tick (.transfer start index)
  { moved with
    state := { moved.state with
      currentLegIndex := index,
      phase := entryPhase legs index,
      currentWalkStepIndex := 0,
      reachedStepEnd := some false,
      distanceToNextStepMeters := none,
      stopCursor := some 1,
      alongMeters := some 0,
      stopTracking := none,
      legEnteredAtMs := nowMs } }

def normalisePhase (legs : List TransitLeg) (state : TransitTickState) : TransitPhase :=
  if state.phase = .walking ∧ isTransitRide legs[state.currentLegIndex]? then .waitingToBoard
  else if state.phase = .waitingToBoard ∧ !isTransitRide legs[state.currentLegIndex]? then
    .walking
  else state.phase

def readFix (fix : FixInput) : Option AcceptedFix := do
  let lng ← fix.coords.lng.value?
  let lat ← fix.coords.lat.value?
  let accuracy ← fix.accuracy.value?
  let timestampMs ← fix.timestampMs.value?
  if |lng| ≤ 180 ∧ |lat| ≤ 90 ∧ 0 ≤ accuracy then
    some { fix := fix, accuracy := accuracy, timestampMs := timestampMs }
  else none

def outOfOrder (state : TransitTickState) (timestampMs : ℚ) : Bool :=
  match state.lastAcceptedFix with
  | some last => (JsNumber.finite timestampMs).le last.timestampMs
  | none => false

def checkFix (state : TransitTickState) (nowMs : ℤ) (accuracyCapMeters : ℚ) (fix : FixInput) :
    Except RejectedReason AcceptedFix :=
  match readFix fix with
  | none => .error .invalid
  | some accepted =>
    if fix.coasted then .error .coasted
    else if accepted.timestampMs < nowMs - 30000 then .error .stale
    else if nowMs + 5000 < accepted.timestampMs then .error .future
    else if outOfOrder state accepted.timestampMs then .error .outOfOrder
    else if accuracyCapMeters < accepted.accuracy then .error .lowAccuracy
    else .ok accepted

section

variable (oracles : TransitOracles) (fingerprint : String) (legs : List TransitLeg)
variable (nowMs : ℤ) (targets : List TransitLegTargets)

def undoable (state : TransitTickState) (legIndex : Nat) : Option LastAction :=
  state.lastAction.filter fun last =>
    last.legIndex == legIndex && decide (nowMs - last.atMs ≤ 120000)

def restorePrevious (state : TransitTickState) (last : LastAction) : TransitTickState :=
  { state with
    currentLegIndex := last.previous.currentLegIndex,
    phase := last.previous.phase,
    currentWalkStepIndex := last.previous.currentWalkStepIndex,
    stopCursor := some last.previous.stopCursor,
    alongMeters := some last.previous.alongMeters,
    lastAction := none,
    stopTracking := none,
    offPlan := some false,
    legEnteredAtMs := nowMs }

/-- The leg that an action leads to: a board tap on an access walk skips only to the
ride that follows. -/
def boardIndexOf (state : TransitTickState) (action : BoardingAction) : Nat :=
  let index := state.currentLegIndex
  if action = .continue then index + 1
  else if isTransitRide legs[index]? then index else index + 1

def validAction (state : TransitTickState) (action : BoardingAction) (legIndex : Nat) : Bool :=
  let index := state.currentLegIndex
  let boardIndex := boardIndexOf legs state action
  match action with
  | .continue =>
    state.phase == .riding && legIndex == index &&
      (legs[index + 1]?.map TransitLeg.interlineWithPrevious).getD false &&
      isTransitRide legs[index + 1]?
  | .board =>
    state.phase != .riding && state.phase != .arrived && legIndex == boardIndex &&
      isTransitRide legs[boardIndex]? &&
      !(legs[boardIndex]?.map TransitLeg.cancelled).getD false
  | .alight => state.phase == .riding && legIndex == index

def positionOf (state : TransitTickState) : PreviousPosition where
  currentLegIndex := state.currentLegIndex
  phase := state.phase
  currentWalkStepIndex := state.currentWalkStepIndex
  stopCursor := state.stopCursor.getD 1
  alongMeters := state.alongMeters.getD 0

def endOf (index : Nat) : Option (List TransitStopAreaShape) :=
  targets[index]?.bind TransitLegTargets.finish

def leftOffPlan (state : TransitTickState) (accepted : Option AcceptedFix) (index : Nat) : Bool :=
  match (accepted.map AcceptedFix.fix).or state.lastAcceptedFix, endOf targets index with
  | some position, some shapes =>
    (JsNumber.finite (nowMs - 30000)).le position.timestampMs &&
      !isWithinStopArea oracles.stopAreaDistance shapes position.coords position.accuracy
  | _, _ => false

def boardRide (tick : Tick) (boardIndex : Nat) : Tick :=
  let moved := resetLeg fingerprint legs nowMs tick boardIndex
  emit fingerprint
    { moved with state := { moved.state with phase := .riding, offPlan := some false } }
    (.board boardIndex)

def alightRide (tick : Tick) (accepted : Option AcceptedFix) (index : Nat) : Tick :=
  let alighted := emit fingerprint tick (.alight index)
  let offPlan := leftOffPlan oracles nowMs targets alighted.state accepted index
  let noted := { alighted with state := { alighted.state with offPlan := some offPlan } }
  if index + 1 = legs.length then
    if offPlan then { noted with state := { noted.state with phase := .transferring } }
    else emit fingerprint { noted with state := { noted.state with phase := .arrived } }
      (.arrival index)
  else resetLeg fingerprint legs nowMs noted (index + 1)

def applyAction (tick : Tick) (accepted : Option AcceptedFix) (action : TransitRiderAction) :
    Tick × Bool :=
  match action.type with
  | .undo =>
    match undoable nowMs tick.state action.legIndex with
    | some last => ({ tick with state := restorePrevious nowMs tick.state last }, false)
    | none => (tick, true)
  | .boarding boarding =>
    if validAction legs tick.state boarding action.legIndex then
      let index := tick.state.currentLegIndex
      let noted := { tick with state := { tick.state with
        lastAction := some {
          type := boarding,
          legIndex := action.legIndex,
          atMs := nowMs,
          previous := positionOf tick.state } } }
      if boarding = .alight then
        (alightRide oracles fingerprint legs nowMs targets noted accepted index, false)
      else
        (boardRide fingerprint legs nowMs noted (boardIndexOf legs tick.state boarding), false)
    else (tick, true)

end

section

variable (oracles : TransitOracles) (fingerprint : String) (legs : List TransitLeg)
variable (captures : List LegCapture) (nowMs : ℤ) (targets : List TransitLegTargets)

def corridorOf (accepted : AcceptedFix) : ℚ := 25 + min accepted.accuracy 25

def followRide (tick : Tick) (leg : TransitLeg) (index : Nat)
    (indexed : Option PreparedTransitLeg) (accepted : AcceptedFix) : Tick :=
  match captureOf captures index leg with
  | none => tick
  | some capture =>
    let state := tick.state
    let progress := advanceTransitStopCursor oracles.line capture.stops indexed accepted
      state.lastAcceptedFix (state.stopCursor.getD 1) (state.alongMeters.getD 0)
      (state.stopTracking.getD {
        alongTimestampMs := none, candidateAlongMeters := none, candidateTimestampMs := none })
    let followed := { tick with state := { state with
      stopTracking := progress.tracking,
      stopCursor := some progress.cursor,
      alongMeters := some progress.alongMeters,
      progressConfidence := some (if progress.trusted then .gps else .uncertain) } }
    if progress.trusted &&
        isApproachingTransitAlight oracles.line capture.stops progress.cursor accepted.coords then
      emit fingerprint followed
        (.approachingAlight index (max 1 (capture.stops.length - progress.cursor)))
    else followed

def followSteps (state : TransitTickState) (leg : TransitLeg) (indexed : PreparedTransitLeg)
    (snap : RouteSnap) : TransitTickState :=
  let distances := leg.steps.map TransitStep.distanceMeters
  let along := if 0 < indexed.lengthMeters then
    snap.alongMeters / indexed.lengthMeters * distances.sum else 0
  let gate := advanceStepGate distances along
    { committedStepIndex := state.currentWalkStepIndex,
      reachedStepEnd := state.reachedStepEnd.getD false }
    WALKING_GATE_ENTRY_METERS WALKING_GATE_EXIT_METERS
  let stepIndex := min gate.committedStepIndex (state.currentWalkStepIndex + 1)
  { state with
    currentWalkStepIndex := stepIndex,
    reachedStepEnd := some gate.reachedStepEnd,
    distanceToNextStepMeters := some (max 0 ((distances.take (stepIndex + 1)).sum - along)) }

/-- The shapes at the end of a walk: its target, else a circle at its last point. -/
def walkEnd (leg : TransitLeg) (index : Nat) : List TransitStopAreaShape :=
  match endOf targets index with
  | some shapes => shapes
  | none =>
    match leg.geometry.bind List.getLast? with
    | some endpoint => [pointShape endpoint 20]
    | none => []

def atWalkEnd (leg : TransitLeg) (index : Nat) (accepted : AcceptedFix) : Bool :=
  isWithinStopArea oracles.stopAreaDistance (walkEnd targets leg index) accepted.coords
    accepted.fix.accuracy

def stepWalk (tick : Tick) (leg : TransitLeg)
    (matched : Option (PreparedTransitLeg × RouteSnap)) (accepted : AcceptedFix) : Tick :=
  match matched with
  | some (indexed, snap) =>
    if snap.deviationMeters ≤ corridorOf accepted then
      { tick with state := followSteps tick.state leg indexed snap }
    else tick
  | none => tick

def followWalk (tick : Tick) (leg : TransitLeg) (index : Nat)
    (matched : Option (PreparedTransitLeg × RouteSnap)) (accepted : AcceptedFix) : Tick :=
  let stepped := stepWalk tick leg matched accepted
  if atWalkEnd oracles targets leg index accepted then
    let noted := { stepped with state := { stepped.state with offPlan := some false } }
    if index + 1 = legs.length then
      emit fingerprint { noted with state := { noted.state with phase := .arrived } }
        (.arrival index)
    else resetLeg fingerprint legs nowMs noted (index + 1)
  else stepped

def announcePlatform (tick : Tick) (leg : TransitLeg) (index : Nat) : Tick :=
  let board := selectLegPlatform oracles.toUpperCase leg index captures .departure
  if isTransitRide (some leg) && tick.state.phase != .riding && board.changed &&
      truthy board.code then
    emit fingerprint tick (.platformChange index (board.code.getD ""))
  else tick

def followLeg (tick : Tick) (leg : TransitLeg) (index : Nat)
    (indexed : Option PreparedTransitLeg) (snap : Option RouteSnap) (accepted : AcceptedFix) :
    Tick :=
  let followed :=
    if tick.state.phase = .riding then
      followRide oracles fingerprint captures tick leg index indexed accepted
    else if isTransitRide (some leg) then tick
    else followWalk oracles fingerprint legs nowMs targets tick leg index
      (indexed.bind fun indexed => snap.map fun snap => (indexed, snap)) accepted
  announcePlatform oracles fingerprint captures followed leg index

def snapOf (prepared : List (Option PreparedTransitLeg)) (index : Nat)
    (accepted : AcceptedFix) : Option RouteSnap :=
  prepared[index]?.join.map fun indexed =>
    oracles.line.snapPreparedRoute indexed.matcher accepted.coords

def judgeFix (state : TransitTickState) (snap : Option RouteSnap) (accepted : AcceptedFix) :
    TransitTickState :=
  let astray := match snap with
    | some snap => decide (corridorOf accepted < snap.deviationMeters)
    | none => false
  { state with progressConfidence := some (if astray then .uncertain else .gps) }

def recordFix (nowMs : ℤ) (state : TransitTickState) (accepted : AcceptedFix) : TransitTickState :=
  { state with lastAcceptedFix := some accepted.fix, lastProgressAtMs := some nowMs }

def applyFix (prepared : List (Option PreparedTransitLeg)) (tick : Tick)
    (accepted : AcceptedFix) : Tick :=
  let index := tick.state.currentLegIndex
  let snap := snapOf oracles prepared index accepted
  let judged : Tick := { tick with state := judgeFix tick.state snap accepted }
  let followed : Tick := match legs[index]? with
    | some leg =>
      if tick.state.phase = .arrived then judged
      else followLeg oracles fingerprint legs captures nowMs targets judged leg index
        prepared[index]?.join snap accepted
    | none => judged
  { followed with state := recordFix nowMs followed.state accepted }

end

def fixOutdated (state : TransitTickState) (nowMs : ℤ) : Bool :=
  match state.lastAcceptedFix with
  | some last => last.timestampMs.lt (.finite (nowMs - 30000))
  | none => true

def finishTick (nowMs : ℤ) (tick : Tick) (actionRejected : Bool)
    (rejectedReason : Option RejectedReason) : TransitTickResult :=
  let state := if fixOutdated tick.state nowMs then
    { tick.state with progressConfidence := some .stale } else tick.state
  { state := state,
    events := tick.events,
    confidence := if state.progressConfidence = some .stale then .stale else .gps,
    actionRejected := actionRejected,
    rejectedReason := rejectedReason }

def checkedFix (input : TransitTickInput) : Option (Except RejectedReason AcceptedFix) :=
  input.fix.map (checkFix input.state input.nowMs input.options.accuracyCapMeters)

def acceptedFix (input : TransitTickInput) : Option AcceptedFix :=
  match checkedFix input with
  | some (.ok accepted) => some accepted
  | _ => none

def rejectedFix (input : TransitTickInput) : Option RejectedReason :=
  match checkedFix input with
  | some (.error reason) => some reason
  | _ => none

def startTick (input : TransitTickInput) : Tick where
  state := { input.state with phase := normalisePhase input.itinerary.legs input.state }
  events := []

section

variable (oracles : TransitOracles) (input : TransitTickInput) (targets : List TransitLegTargets)

def actedTick : Tick × Bool :=
  match input.action with
  | some action =>
    applyAction oracles input.options.itineraryFingerprint input.itinerary.legs input.nowMs targets
      (startTick input) (acceptedFix input) action
  | none => (startTick input, false)

def followedTick : Tick :=
  let prepared := input.prepared.getD (prepareTransitProgress oracles.line input.itinerary)
  match acceptedFix input with
  | some accepted =>
    applyFix oracles input.options.itineraryFingerprint input.itinerary.legs input.captures
      input.nowMs targets prepared (actedTick oracles input targets).1 accepted
  | none => (actedTick oracles input targets).1

def processTransitFix : Except TypeError TransitTickResult :=
  (resolveTransitLegTargets oracles.stopAreaDistance input.itinerary input.stopAreas).map
    fun targets => finishTick input.nowMs (followedTick oracles input targets)
      (actedTick oracles input targets).2 (rejectedFix input)

end

end OpenMapX.Navigation.TransitFix
