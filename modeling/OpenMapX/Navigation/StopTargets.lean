import OpenMapX.Foundation.JsText
import OpenMapX.Navigation.TransitTrip

/-!
# Stops as areas, and their platforms

Which shapes decide that a rider is at the end of a leg, and which platform a leg
leaves from. The distance of a point to shapes is a geometric test and stays a
parameter.
-/

namespace OpenMapX.Navigation.StopTargets

open Foundation.JsText TransitTrip

def MAX_ACCURACY_ALLOWANCE_METERS : ℚ := 20

def DESTINATION_RADIUS_METERS : ℚ := 20

def RAIL_MODES : List String := ["rail", "subway", "monorail", "funicular"]

/-- `stopAreaDistance`: metres to the nearest of the shapes, or no finite number. -/
abbrev StopAreaDistance := List TransitStopAreaShape → LngLat → Option ℚ

def stopAreaTolerance (accuracyMeters : JsNumber) : ℚ :=
  match accuracyMeters with
  | .finite accuracy => max 0 (min MAX_ACCURACY_ALLOWANCE_METERS accuracy)
  | _ => 0

def isWithinStopArea (stopAreaDistance : StopAreaDistance) (shapes : List TransitStopAreaShape)
    (point : LngLat) (accuracyMeters : JsNumber) : Bool :=
  !shapes.isEmpty &&
    match stopAreaDistance shapes point with
    | some distance => decide (distance ≤ stopAreaTolerance accuracyMeters)
    | none => false

def pointShape (point : LngLat) (bufferMeters : ℚ) : TransitStopAreaShape where
  type := .point
  coordinates := [point]
  bufferMeters := bufferMeters

def defaultStopAreaShape (point : LngLat) (mode : Option String) : TransitStopAreaShape :=
  pointShape point (if RAIL_MODES.contains (mode.getD "") then 50 else 25)

def transitStopAreaKey (place : StopPlace) : Option String :=
  if truthy place.stopId then
    some (place.stopId.getD "" ++ "|" ++ place.platformCode.getD "")
  else none

def areaOf (areas : TransitStopAreaIndex) (key : String) : Option TransitStopArea :=
  (areas.find? fun entry => entry.1 == key).map Prod.snd

structure TransitLegTargets where
  board : Option (List TransitStopAreaShape)
  finish : Option (List TransitStopAreaShape)

def isTransit (leg : TransitLeg) : Bool := truthy leg.tripId

def located (place : StopPlace) : Bool :=
  place.location.lat.value?.isSome && place.location.lng.value?.isSome

section

variable (stopAreaDistance : StopAreaDistance)

def stopTarget (place : StopPlace) (mode : Option String) (areas : TransitStopAreaIndex)
    (mustStartOutside : Option LngLat) : Option (List TransitStopAreaShape) :=
  let area := (transitStopAreaKey place).bind (areaOf areas)
  let fallback := if located place then [defaultStopAreaShape place.location mode] else []
  let platform := (area.map TransitStopArea.platform).getD []
  let station := (area.map TransitStopArea.station).getD []
  let tiers := (if platform.isEmpty then [] else [platform ++ fallback])
    ++ (if station.isEmpty then [] else [station ++ fallback])
    ++ (if fallback.isEmpty then [] else [fallback])
  tiers.find? fun tier =>
    match mustStartOutside with
    | some start => stopAreaDistance tier start != some 0
    | none => true

def required (place : Option StopPlace) : Except TypeError StopPlace :=
  match place with
  | some place => .ok place
  | none => .error .typeError

/-- One leg of `resolveTransitLegTargets`: its own targets, and the board area it
gives to the next leg. -/
def resolveLeg (areas : TransitStopAreaIndex) (previousMode : Option String)
    (givenBoard : Option (List TransitStopAreaShape)) (leg : TransitLeg)
    (next : Option TransitLeg) :
    Except TypeError (TransitLegTargets × Option (List TransitStopAreaShape)) :=
  if isTransit leg then do
    let board ← match givenBoard with
      | some board => .ok (some board)
      | none => do
        let start ← required leg.fromStop
        .ok (stopTarget stopAreaDistance start leg.mode areas none)
    let finish ← required leg.toStop
    let target := if truthy finish.stopId then
      stopTarget stopAreaDistance finish leg.mode areas none else none
    .ok ({ board := board, finish := target }, none)
  else
    match next with
    | some next =>
      if isTransit next then do
        let boarding ← required next.fromStop
        if truthy boarding.stopId then
          let target := stopTarget stopAreaDistance boarding next.mode areas
            (leg.geometry.bind List.head?)
          .ok ({ board := none, finish := target }, target)
        else .ok ({ board := none, finish := none }, none)
      else .ok ({ board := none, finish := none }, none)
    | none => do
      let finish ← required leg.toStop
      let target :=
        if truthy finish.stopId then stopTarget stopAreaDistance finish previousMode areas none
        else if located finish then some [pointShape finish.location DESTINATION_RADIUS_METERS]
        else none
      .ok ({ board := none, finish := target }, none)

def resolveLegs (areas : TransitStopAreaIndex) (previousMode : Option String)
    (givenBoard : Option (List TransitStopAreaShape)) :
    List TransitLeg → Except TypeError (List TransitLegTargets)
  | [] => .ok []
  | leg :: rest => do
    let (targets, boardOfNext) ← resolveLeg stopAreaDistance areas previousMode givenBoard leg
      rest.head?
    let others ← resolveLegs areas leg.mode boardOfNext rest
    .ok (targets :: others)

def resolveTransitLegTargets (itinerary : TripItinerary)
    (areas : Option TransitStopAreaIndex) : Except TypeError (List TransitLegTargets) :=
  resolveLegs stopAreaDistance (areas.getD []) none none itinerary.legs

end

structure PlatformStop where
  platform : Option String
  scheduledPlatform : Option String
  arrivalPlatform : Option TransitPlatformEvidence
  departurePlatform : Option TransitPlatformEvidence

inductive StopEvent where
  | arrival | departure
  deriving DecidableEq

structure SelectedPlatform where
  code : Option String
  scheduledCode : Option String
  changed : Bool

abbrev ToUpperCase := List Char → List Char

def platformChanged (toUpperCase : ToUpperCase) (planned current : Option String) : Bool :=
  match planned, current with
  | some planned, some current =>
    let before := toUpperCase (trim planned.toList)
    let after := toUpperCase (trim current.toList)
    if before.isEmpty || after.isEmpty || before == after then false
    else !(before ++ [' ']).isPrefixOf after && !(after ++ [' ']).isPrefixOf before
  | _, _ => false

def selectStopPlatform (toUpperCase : ToUpperCase) (stop : PlatformStop) (event : StopEvent) :
    SelectedPlatform :=
  let evidence := match event with
    | .arrival => stop.arrivalPlatform
    | .departure => stop.departurePlatform
  let code := (evidence.map TransitPlatformEvidence.code).or stop.platform
  let scheduledCode := match evidence with
    | some evidence =>
      if evidence.kind == .realtime then evidence.scheduledCode else some evidence.code
    | none => stop.scheduledPlatform
  let live := match evidence with
    | some evidence => evidence.kind == .realtime
    | none => true
  { code := code,
    scheduledCode := scheduledCode,
    changed := live && platformChanged toUpperCase scheduledCode code }

def captureOf (captures : List LegCapture) (legIndex : Nat) (leg : TransitLeg) :
    Option LegCapture :=
  captures.find? fun capture =>
    capture.legIndex == legIndex && some capture.tripId == leg.tripId && capture.captured

def platformsOf (stop : CapturedStop) : PlatformStop where
  platform := stop.platform
  scheduledPlatform := stop.scheduledPlatform
  arrivalPlatform := stop.arrivalPlatform
  departurePlatform := stop.departurePlatform

def selectLegPlatform (toUpperCase : ToUpperCase) (leg : TransitLeg) (legIndex : Nat)
    (captures : List LegCapture) (event : StopEvent) : SelectedPlatform :=
  let stops := ((captureOf captures legIndex leg).map LegCapture.stops).getD []
  let stop := match event with
    | .departure => stops.head?
    | .arrival => stops.getLast?
  let endpoint := match event with
    | .departure => leg.fromStop
    | .arrival => leg.toStop
  match stop with
  | some stop => selectStopPlatform toUpperCase (platformsOf stop) event
  | none =>
    selectStopPlatform toUpperCase
      { platform := endpoint.bind StopPlace.platformCode,
        scheduledPlatform := endpoint.bind StopPlace.scheduledPlatformCode,
        arrivalPlatform := none,
        departurePlatform := none } event

end OpenMapX.Navigation.StopTargets
