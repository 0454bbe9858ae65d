import OpenMapX.Foundation.BoundedLedger
import OpenMapX.Mobile.SessionStore
import OpenMapX.Navigation.GroundFix

/-!
# One batch of ground fixes

`processGroundBatch`: every fix of a batch runs through the engine, and one session
and the effects that still describe the present come out. The texts of cues and their
identifiers are parameters; the cache of the prepared route gives the route back.
-/

namespace OpenMapX.Mobile.GroundBatch

open Foundation.BoundedLedger SessionStore Navigation.GroundFix

inductive VoiceTiming where
  | early | normal | late
  deriving DecidableEq

structure GroundStartPackage where
  route : Route
  segmentSpeedLimits : Option (List (Option ℚ))
  capturedLiveSpeedLimits : Option (List (Option ℚ))
  mode : GroundMode
  voiceEnabled : Bool
  voiceTiming : VoiceTiming

structure GroundPayload where
  startPackage : GroundStartPackage
  tickState : NavTickState
  progress : Option NavProgress
  weakGps : Bool
  offRoute : Bool
  coasting : Bool
  currentSpeedLimit : Option ℚ
  reroute : RerouteStatus

structure GroundMobileSession where
  sessionId : String
  revision : Nat
  status : SessionStatus
  updatedAtMs : ℚ
  locale : SessionStore.Locale
  units : Units
  permissionMode : PermissionMode
  cueLedger : CueLedger
  lastAcceptedFix : Option Navigation.GroundFix.FixInput
  payload : GroundPayload

structure GroundCueEffect where
  cueId : String
  effect : SessionEffect

inductive StatusCue where
  | offRoute | arrival

structure CueTexts where
  routeFingerprint : List Point → String
  groundCueEffect : GroundMobileSession → String → VoiceCue → Option GroundCueEffect
  offRouteEpisodeId : String → String → ℚ → String
  arrivalCueId : String → String → String
  statusCueEffect : GroundMobileSession → String → StatusCue → Option SessionEffect

def announceMultiplierFor : VoiceTiming → ℚ
  | .early => 1.35
  | .normal => 1
  | .late => 0.75

def MAX_CUE_AGE_MS : ℚ := 10000

def speedLimitAt (session : GroundMobileSession) (segmentIndex : Nat) : Option ℚ :=
  let limitOf (limits : Option (List (Option ℚ))) : Option ℚ :=
    limits.bind fun limits => (limits[segmentIndex]?).join
  (limitOf session.payload.startPackage.capturedLiveSpeedLimits).or
    (limitOf session.payload.startPackage.segmentSpeedLimits)

structure CueCandidate where
  effect : SessionEffect
  atMs : ℚ

/-- What the loop keeps. The accepted fixes with their progress are there for the proofs. -/
structure BatchState where
  tickState : NavTickState
  progress : Option NavProgress
  weakGps : Bool
  offRoute : Bool
  currentSpeedLimit : Option ℚ
  lastAcceptedFix : Option Navigation.GroundFix.FixInput
  arrived : Bool
  needsReroute : Bool
  offRouteEpisodeStart : Option ℚ
  cueCandidates : List CueCandidate
  spokenCueIds : List String
  accepted : List (Navigation.GroundFix.FixInput × NavProgress)

def startBatch (session : GroundMobileSession) : BatchState where
  tickState := session.payload.tickState
  progress := session.payload.progress
  weakGps := session.payload.weakGps
  offRoute := session.payload.offRoute
  currentSpeedLimit := session.payload.currentSpeedLimit
  lastAcceptedFix := session.lastAcceptedFix
  arrived := false
  needsReroute := false
  offRouteEpisodeStart := none
  cueCandidates := []
  spokenCueIds := []
  accepted := []

section

variable (geo : RouteGeometry) (texts : CueTexts) (session : GroundMobileSession)

def optionsFor : NavTickOptions :=
  { navOptionsForMode session.payload.startPackage.mode with
    announceMultiplier := announceMultiplierFor session.payload.startPackage.voiceTiming }

def fingerprint : String := texts.routeFingerprint session.payload.startPackage.route.geometry

def collectCue (batch : BatchState) (fix : Navigation.GroundFix.FixInput) (cue : Option VoiceCue) :
    BatchState :=
  match cue.bind (texts.groundCueEffect session (fingerprint texts session)) with
  | none => batch
  | some built =>
    if session.cueLedger.spoken.contains built.cueId then batch
    else
      { batch with
        spokenCueIds := batch.spokenCueIds ++ [built.cueId]
        cueCandidates := batch.cueCandidates ++
          [{ effect := built.effect, atMs := fix.timestampMs }] }

def keepProgress (batch : BatchState) (fix : Navigation.GroundFix.FixInput)
    (progress : Option NavProgress) : BatchState :=
  match progress with
  | none => batch
  | some progress =>
    { batch with
      progress := some progress
      currentSpeedLimit := speedLimitAt session progress.segmentIndex
      lastAcceptedFix := some fix
      accepted := batch.accepted ++ [(fix, progress)] }

def batchFix (batch : BatchState) (fix : Navigation.GroundFix.FixInput) : BatchState :=
  let result := processFix geo session.payload.startPackage.route fix batch.tickState
    (optionsFor session)
  let batch := { batch with tickState := result.nextState, weakGps := result.weakGps }
  if result.accuracyRejected then batch
  else
    let batch := keepProgress session batch fix result.progress
    let batch :=
      { batch with
        offRouteEpisodeStart :=
          if result.offRoute && !batch.offRoute then some fix.timestampMs
          else batch.offRouteEpisodeStart
        offRoute := result.offRoute
        needsReroute := batch.needsReroute || result.needsReroute
        arrived := result.arrived }
    collectCue texts session batch fix result.voiceCue

def batchFixes : List Navigation.GroundFix.FixInput → BatchState → BatchState
  | [], batch => batch
  | fix :: fixes, batch =>
    let batch := batchFix geo texts session batch fix
    if batch.arrived then batch else batchFixes fixes batch

structure GroundBatchOutcome where
  session : GroundMobileSession
  effects : List SessionEffect
  enqueue : List EnqueuedEvent
  arrived : Bool
  needsReroute : Bool

def cueEffects (batch : BatchState) (nowMs : ℚ) : List SessionEffect :=
  if session.payload.startPackage.voiceEnabled then
    match batch.cueCandidates.getLast? with
    | some newest => if nowMs - newest.atMs ≤ MAX_CUE_AGE_MS then [newest.effect] else []
    | none => []
  else []

def announceOnce (id kind : String) (cue : StatusCue) : List SessionEffect × List EnqueuedEvent :=
  if session.cueLedger.events.contains id then ([], [])
  else
    (if session.payload.startPackage.voiceEnabled then (texts.statusCueEffect session id cue).toList
      else [],
      [{ eventId := id, critical := true, payload := kind }])

def appendBounded (existing additions : List String) : List String :=
  lastOf 512 (additions.foldl (fun next id => if next.contains id then next else next ++ [id])
    existing)

def isRejected (fix : Navigation.GroundFix.FixInput) (accuracyCapMeters : ℚ) : Bool :=
  accuracyCapMeters < fix.accuracy

def batchSession (batch : BatchState) (fixes : List Navigation.GroundFix.FixInput)
    (eventIds : List String) (nowMs : ℚ) : GroundMobileSession :=
  { session with
    revision := session.revision + 1
    updatedAtMs := nowMs
    status := if batch.arrived then .arrived else session.status
    cueLedger :=
      { spoken := appendBounded session.cueLedger.spoken batch.spokenCueIds
        events := appendBounded session.cueLedger.events eventIds }
    lastAcceptedFix := batch.lastAcceptedFix.or session.lastAcceptedFix
    payload :=
      { session.payload with
        tickState := batch.tickState
        progress := batch.progress
        weakGps := batch.weakGps
        offRoute := batch.offRoute
        -- a real accepted fix ends coasting, a synthetic one keeps it
        coasting :=
          if fixes.any fun fix =>
            !fix.coasted && !isRejected fix (optionsFor session).accuracyCapMeters then false
          else session.payload.coasting
        currentSpeedLimit := batch.currentSpeedLimit } }

def processGroundBatch (fixes : List Navigation.GroundFix.FixInput) (nowMs : ℚ) :
    GroundBatchOutcome :=
  let batch := batchFixes geo texts session fixes (startBatch session)
  let print := fingerprint texts session
  let offRoute :=
    match batch.offRouteEpisodeStart with
    | none => ([], [])
    | some start =>
      announceOnce texts session (texts.offRouteEpisodeId session.sessionId print start) "off-route"
        .offRoute
  let arrival :=
    if batch.arrived then
      announceOnce texts session (texts.arrivalCueId session.sessionId print) "arrived" .arrival
    else ([], [])
  let enqueue := offRoute.2 ++ arrival.2
  { session := batchSession session batch fixes (enqueue.map EnqueuedEvent.eventId) nowMs
    effects := cueEffects session batch nowMs ++ offRoute.1 ++ arrival.1 ++
      [.publishSnapshot (batch.arrived || batch.offRouteEpisodeStart.isSome)]
    enqueue := enqueue
    arrived := batch.arrived
    needsReroute := batch.needsReroute }

def Follows (session : GroundMobileSession) (batch : BatchState) : Prop :=
  match batch.accepted.getLast? with
  | none =>
    batch.lastAcceptedFix = session.lastAcceptedFix ∧ batch.progress = session.payload.progress
  | some (fix, progress) => batch.lastAcceptedFix = some fix ∧ batch.progress = some progress

variable {geo texts session}

theorem collect_cue_keeps (batch : BatchState) (fix) (cue : Option VoiceCue) :
    (collectCue texts session batch fix cue).lastAcceptedFix = batch.lastAcceptedFix ∧
      (collectCue texts session batch fix cue).progress = batch.progress ∧
      (collectCue texts session batch fix cue).accepted = batch.accepted := by
  unfold collectCue
  split
  · exact ⟨rfl, rfl, rfl⟩
  · split
    · exact ⟨rfl, rfl, rfl⟩
    · exact ⟨rfl, rfl, rfl⟩

theorem follows_of_same {before after} (follows : Follows session before)
    (fix : after.lastAcceptedFix = before.lastAcceptedFix)
    (progress : after.progress = before.progress) (accepted : after.accepted = before.accepted) :
    Follows session after := by
  unfold Follows at follows ⊢
  rw [accepted, fix, progress]
  exact follows

section

variable {batch : BatchState} (follows : Follows session batch)
  (fix : Navigation.GroundFix.FixInput)
include follows

theorem keep_progress_follows (progress) :
    Follows session (keepProgress session batch fix progress) := by
  cases progress with
  | none => exact follows
  | some progress =>
    unfold Follows keepProgress
    dsimp only
    rw [List.getLast?_append]
    exact ⟨rfl, rfl⟩

theorem batch_fix_follows : Follows session (batchFix geo texts session batch fix) := by
  unfold batchFix
  generalize processFix geo session.payload.startPackage.route fix batch.tickState
    (optionsFor session) = result
  dsimp only
  have entered : Follows session
      { batch with tickState := result.nextState, weakGps := result.weakGps } :=
    follows_of_same follows rfl rfl rfl
  split
  · exact entered
  · have kept := keep_progress_follows entered fix result.progress
    have collected := fun later : BatchState =>
      @collect_cue_keeps texts session later fix result.voiceCue
    apply follows_of_same kept
    · exact (collected _).1
    · exact (collected _).2.1
    · exact (collected _).2.2

end

theorem batch_fixes_follow (fixes) (batch : BatchState) (follows : Follows session batch) :
    Follows session (batchFixes geo texts session fixes batch) := by
  induction fixes generalizing batch with
  | nil => exact follows
  | cons fix fixes ih =>
    unfold batchFixes
    dsimp only
    have next : Follows session (batchFix geo texts session batch fix) :=
      batch_fix_follows follows fix
    split
    · exact next
    · exact ih _ next

end

end OpenMapX.Mobile.GroundBatch
