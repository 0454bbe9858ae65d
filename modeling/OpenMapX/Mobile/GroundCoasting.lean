import OpenMapX.Foundation.Runs
import OpenMapX.Mobile.GroundBatch
import OpenMapX.Navigation.Coast

/-!
# Coasting between ground fixes

The scheduler extrapolates from the last accepted fix of the session that it was synced
with, and what it dispatches is committed like a real fix. In a run where every session
that it coasts from has a real fix as its last one, no synthetic fix is later or farther
than the limits of a coast from the last real one.
-/

namespace OpenMapX.Mobile.GroundCoasting

open Foundation.Runs GroundBatch SessionStore Navigation.Coast Navigation.GroundFix List

def COAST_START_DELAY_MS : ℚ := 3000
def MAX_COAST_MS : ℚ := 120000
def MAX_COAST_METERS : ℚ := 3000
def COAST_PERSIST_MS : ℚ := 1000

inductive Visibility where
  | active | inactive | background
  deriving DecidableEq

structure CoastAnchor where
  alongMeters : ℚ
  speedMps : ℚ
  atMs : ℚ
  deriving DecidableEq

def canCoast (session : GroundMobileSession) (visibility : Visibility) : Bool :=
  if visibility ≠ .active then false
  else if session.status ≠ .active then false
  else if session.permissionMode = .foregroundOnly ∧ visibility ≠ .active then false
  else if session.payload.offRoute then false
  else if session.payload.reroute = .inFlight then false
  else
    match session.payload.progress with
    | none => false
    | some progress => if progress.speedMps ≤ 0 then false else session.lastAcceptedFix.isSome

def anchorAt (fix : Navigation.GroundFix.FixInput) (progress : NavProgress) : CoastAnchor where
  alongMeters := progress.alongMeters
  speedMps := progress.speedMps
  atMs := fix.timestampMs

def anchorFor (session : GroundMobileSession) : Option CoastAnchor :=
  match session.payload.progress, session.lastAcceptedFix with
  | some progress, some fix => some (anchorAt fix progress)
  | _, _ => none

structure Scheduler where
  handle : Bool
  anchor : Option CoastAnchor
  session : Option GroundMobileSession
  lastDispatchAtMs : Option ℚ

def stop : Scheduler where
  handle := false
  anchor := none
  session := none
  lastDispatchAtMs := none

section

variable (geo : RouteGeometry)

def routeOptions (geometry : List Point) : CoastOptions where
  startAfterMs := COAST_START_DELAY_MS
  maxCoastMs := MAX_COAST_MS
  maxCoastMeters := MAX_COAST_METERS
  routeLengthMeters := (cumulativeDistances geo geometry).getLastD 0

def coastFixAt (session : GroundMobileSession) (anchor : CoastAnchor) (atMs : ℚ) :
    Option Navigation.GroundFix.FixInput :=
  let elapsedMs := atMs - anchor.atMs
  if elapsedMs < COAST_START_DELAY_MS then none
  else if MAX_COAST_MS < elapsedMs then none
  else
    let geometry := session.payload.startPackage.route.geometry
    let coast := coastState anchor.alongMeters anchor.speedMps elapsedMs (routeOptions geo geometry)
    if !coast.coasting then none
    else if coast.speedMps ≤ 0 then none
    else
      let position := positionAt geo geometry (cumulativeDistances geo geometry) coast.alongMeters
      some
        { coords := lngLatOf position.point
          accuracy := 1
          heading := some position.bearing
          speed := some coast.speedMps
          timestampMs := atMs
          coasted := true }

def tick (scheduler : Scheduler) (now : ℚ) : Scheduler × Option Navigation.GroundFix.FixInput :=
  match scheduler.session, scheduler.anchor with
  | some session, some anchor =>
    if now - anchor.atMs < COAST_START_DELAY_MS then ({ scheduler with handle := true }, none)
    else
      match coastFixAt geo session anchor now with
      | none => (stop, none)
      | some synthetic =>
        if scheduler.lastDispatchAtMs.all fun last => COAST_PERSIST_MS ≤ now - last then
          ({ scheduler with handle := true, lastDispatchAtMs := some now }, some synthetic)
        else ({ scheduler with handle := true }, none)
  | _, _ => ({ scheduler with handle := false }, none)

def Scheduler.anchorTo (scheduler : Scheduler) (session : GroundMobileSession)
    (anchor : CoastAnchor) : Scheduler :=
  { handle := scheduler.handle
    anchor := some anchor
    session := some session
    lastDispatchAtMs :=
      if scheduler.anchor.map CoastAnchor.atMs = some anchor.atMs then scheduler.lastDispatchAtMs
      else none }

def sync (scheduler : Scheduler) (session : GroundMobileSession) (visibility : Visibility)
    (now : ℚ) : Scheduler × Option Navigation.GroundFix.FixInput :=
  if !canCoast session visibility then (stop, none)
  else
    match anchorFor session with
    | none => (stop, none)
    | some anchor =>
      let synced := scheduler.anchorTo session anchor
      if synced.handle then (synced, none) else tick geo synced now

end

/-- A synthetic fix, with the last real fix that had been accepted when it was dispatched. -/
structure Dispatched where
  fix : Navigation.GroundFix.FixInput
  real : Option CoastAnchor
  deriving DecidableEq

structure CoastWorld where
  session : GroundMobileSession
  scheduler : Scheduler
  real : Option CoastAnchor
  dispatched : List Dispatched

inductive CoastEvent where
  | commit (fixes : List Navigation.GroundFix.FixInput) (visibility : Visibility) (nowMs : ℚ)
  | sync (visibility : Visibility) (nowMs : ℚ)
  | tick (nowMs : ℚ)
  | stop

section

variable (geo : RouteGeometry) (texts : CueTexts)

def realAfter (session : GroundMobileSession) (fixes : List Navigation.GroundFix.FixInput)
    (previous : Option CoastAnchor) : Option CoastAnchor :=
  let accepted := (batchFixes geo texts session fixes (startBatch session)).accepted
  match (accepted.filter fun entry => !entry.1.coasted).getLast? with
  | some entry => some (anchorAt entry.1 entry.2)
  | none => previous

def CoastWorld.schedule (world : CoastWorld)
    (next : Scheduler × Option Navigation.GroundFix.FixInput) : CoastWorld :=
  { world with
    scheduler := next.1
    dispatched := world.dispatched ++ (next.2.map fun fix => ⟨fix, world.real⟩).toList }

def CoastWorld.sync (world : CoastWorld) (visibility : Visibility) (nowMs : ℚ) : CoastWorld :=
  world.schedule (GroundCoasting.sync geo world.scheduler world.session visibility nowMs)

def CoastWorld.commit (world : CoastWorld) (fixes : List Navigation.GroundFix.FixInput)
    (nowMs : ℚ) : CoastWorld :=
  { world with
    session := (processGroundBatch geo texts world.session fixes nowMs).session
    real := realAfter geo texts world.session fixes world.real }

def coastStep (world : CoastWorld) : CoastEvent → CoastWorld
  | .commit fixes visibility nowMs =>
    (world.commit geo texts fixes nowMs).sync geo visibility nowMs
  | .sync visibility nowMs => world.sync geo visibility nowMs
  | .tick nowMs =>
    if world.scheduler.handle then world.schedule (tick geo world.scheduler nowMs) else world
  | .stop => { world with scheduler := stop }

def realOf (session : GroundMobileSession) : Option CoastAnchor :=
  if session.lastAcceptedFix.any fun fix => !fix.coasted then anchorFor session else none

def startWorld (session : GroundMobileSession) : CoastWorld where
  session := session
  scheduler := stop
  real := realOf session
  dispatched := []

def Rooted (session : GroundMobileSession) (visibility : Visibility) : Prop :=
  canCoast session visibility = true →
    ∀ fix, session.lastAcceptedFix = some fix → fix.coasted = false

def RootedSync (world : CoastWorld) : CoastEvent → Prop
  | .commit fixes visibility nowMs =>
    Rooted (processGroundBatch geo texts world.session fixes nowMs).session visibility
  | .sync visibility _ => Rooted world.session visibility
  | _ => True

/-- The fix is at most the limits of a coast after the real fix and beyond it on the route. -/
def Within (route : Route) (fix : Navigation.GroundFix.FixInput) (real : CoastAnchor) : Prop :=
  fix.timestampMs ≤ real.atMs + MAX_COAST_MS ∧
    ∃ alongMeters ≤ max real.alongMeters 0 + MAX_COAST_METERS,
      fix.coords = lngLatOf
        (positionAt geo route.geometry (cumulativeDistances geo route.geometry) alongMeters).point

/-- What holds of the session and of what was dispatched, also between a batch and its sync. -/
structure Grounded (route : Route) (world : CoastWorld) : Prop where
  onRoute : world.session.payload.startPackage.route = route
  rooted : ∀ fix progress, world.session.lastAcceptedFix = some fix → fix.coasted = false →
    world.session.payload.progress = some progress → world.real = some (anchorAt fix progress)
  within : ∀ entry ∈ world.dispatched, ∀ real, entry.real = some real →
    Within geo route entry.fix real

structure Anchored (route : Route) (real : Option CoastAnchor) (scheduler : Scheduler) : Prop where
  onRoute : ∀ session, scheduler.session = some session → session.payload.startPackage.route = route
  anchored : ∀ anchor, scheduler.anchor = some anchor → real = some anchor

end

section

variable {geo : RouteGeometry} {texts : CueTexts} {route : Route} {world : CoastWorld}

theorem coast_fix_within {session anchor} {atMs : ℚ} {fix}
    (onRoute : session.payload.startPackage.route = route)
    (found : coastFixAt geo session anchor atMs = some fix) : Within geo route fix anchor := by
  unfold coastFixAt at found
  dsimp only at found
  rw [onRoute] at found
  split at found
  · cases found
  · split at found
    · cases found
    · rename_i late
      split at found
      · cases found
      · rename_i coasts
        split at found
        · cases found
        · cases found
          apply And.intro
          · show atMs ≤ anchor.atMs + MAX_COAST_MS
            linarith
          · refine ⟨_, ?_, rfl⟩
            apply coast_within
            · show (0 : ℚ) ≤ MAX_COAST_METERS
              unfold MAX_COAST_METERS
              norm_num
            · cases coasting : (coastState anchor.alongMeters anchor.speedMps
                (atMs - anchor.atMs) (routeOptions geo route.geometry)).coasting with
              | true => rfl
              | false =>
                rw [coasting] at coasts
                exact absurd rfl coasts

theorem tick_cases (scheduler : Scheduler) (now : ℚ) :
    (((tick geo scheduler now).1.session = scheduler.session ∧
        (tick geo scheduler now).1.anchor = scheduler.anchor) ∨ (tick geo scheduler now).1 = stop) ∧
    ∀ fix, (tick geo scheduler now).2 = some fix → ∃ session anchor,
      scheduler.session = some session ∧ scheduler.anchor = some anchor ∧
        coastFixAt geo session anchor now = some fix := by
  unfold tick
  split
  · rename_i session anchor atSession atAnchor
    split
    · apply And.intro
      · exact Or.inl ⟨rfl, rfl⟩
      · intro fix none
        cases none
    · split
      · apply And.intro
        · exact Or.inr rfl
        · intro fix none
          cases none
      · rename_i synthetic found
        split
        · apply And.intro
          · exact Or.inl ⟨rfl, rfl⟩
          · intro fix same
            cases same
            exact ⟨session, anchor, atSession, atAnchor, found⟩
        · apply And.intro
          · exact Or.inl ⟨rfl, rfl⟩
          · intro fix none
            cases none
  · apply And.intro
    · exact Or.inl ⟨rfl, rfl⟩
    · intro fix none
      cases none

theorem stop_anchored {real} : Anchored route real stop := by
  apply Anchored.mk
  · intro session none
    cases none
  · intro anchor none
    cases none

theorem tick_anchored {real scheduler} (anchored : Anchored route real scheduler) (now : ℚ) :
    Anchored route real (tick geo scheduler now).1 := by
  rcases (@tick_cases geo scheduler now).1 with kept | stopped
  · apply Anchored.mk
    · rw [kept.1]
      exact anchored.onRoute
    · rw [kept.2]
      exact anchored.anchored
  · rw [stopped]
    exact stop_anchored

variable (ok : Grounded geo route world)
include ok

theorem schedule_quiet (scheduler : Scheduler) :
    Grounded geo route (world.schedule (scheduler, none)) := by
  apply Grounded.mk
  · exact ok.onRoute
  · exact ok.rooted
  · intro entry member
    apply ok.within entry
    rcases mem_append.mp member with before | last
    · exact before
    · cases last

theorem schedule_tick {scheduler} (anchored : Anchored route world.real scheduler) (now : ℚ) :
    Grounded geo route (world.schedule (tick geo scheduler now)) := by
  apply Grounded.mk
  · exact ok.onRoute
  · exact ok.rooted
  · intro entry member real same
    rcases mem_append.mp member with before | last
    · exact ok.within entry before real same
    · rw [Option.mem_toList, Option.map_eq_some_iff] at last
      obtain ⟨fix, dispatched⟩ := last
      cases dispatched.2
      obtain ⟨session, found⟩ := (@tick_cases geo scheduler now).2 fix dispatched.1
      obtain ⟨anchor, found⟩ := found
      have isReal : some real = some anchor :=
        same.symm.trans (anchored.anchored anchor found.2.1)
      cases isReal
      exact coast_fix_within (anchored.onRoute session found.1) found.2.2

theorem anchor_is_real {visibility} (rooted : Rooted world.session visibility)
    (able : canCoast world.session visibility = true) {anchor}
    (found : anchorFor world.session = some anchor) : world.real = some anchor := by
  unfold anchorFor at found
  split at found
  · rename_i progress fix atProgress atFix
    cases found
    exact ok.rooted fix progress atFix (rooted able fix atFix) atProgress
  · cases found

theorem sync_ok {visibility} (nowMs : ℚ) (rooted : Rooted world.session visibility) :
    Grounded geo route (world.sync geo visibility nowMs) ∧
      Anchored route world.real (world.sync geo visibility nowMs).scheduler := by
  unfold CoastWorld.sync GroundCoasting.sync
  split
  · exact ⟨schedule_quiet ok stop, stop_anchored⟩
  · rename_i able
    rw [Bool.not_eq_true, Bool.not_eq_false'] at able
    split
    · exact ⟨schedule_quiet ok stop, stop_anchored⟩
    · rename_i anchor found
      have isReal := anchor_is_real ok rooted able found
      have anchored : Anchored route world.real
          (world.scheduler.anchorTo world.session anchor) := by
        apply Anchored.mk
        · intro session same
          cases same
          exact ok.onRoute
        · intro other same
          cases same
          exact isReal
      dsimp only
      split
      · exact ⟨schedule_quiet ok _, anchored⟩
      · exact ⟨schedule_tick ok anchored nowMs, tick_anchored anchored nowMs⟩

omit ok in
theorem last_real {accepted : List (Navigation.GroundFix.FixInput × NavProgress)}
    {entry : Navigation.GroundFix.FixInput × NavProgress}
    (last : accepted.getLast? = some entry) (isReal : entry.1.coasted = false) :
    (accepted.filter fun entry => !entry.1.coasted).getLast? = some entry := by
  rw [getLast?_eq_some_iff] at last
  obtain ⟨before, same⟩ := last
  rw [same, filter_append, filter_cons_of_pos (by rw [isReal]; rfl), filter_nil,
    getLast?_append]
  rfl

theorem commit_ok (fixes) (nowMs : ℚ) :
    Grounded geo route (world.commit geo texts fixes nowMs) := by
  have follows : Follows world.session
      (batchFixes geo texts world.session fixes (startBatch world.session)) :=
    batch_fixes_follow fixes _ ⟨rfl, rfl⟩
  apply Grounded.mk
  · exact ok.onRoute
  · intro fix progress atFix isReal atProgress
    show realAfter geo texts world.session fixes world.real = some (anchorAt fix progress)
    unfold realAfter
    generalize hasBatch : batchFixes geo texts world.session fixes (startBatch world.session) =
      batch at follows
    have atFix' : batch.lastAcceptedFix.or world.session.lastAcceptedFix = some fix := by
      rw [← hasBatch]
      exact atFix
    have atProgress' : batch.progress = some progress := by
      rw [← hasBatch]
      exact atProgress
    dsimp only
    unfold Follows at follows
    cases last : batch.accepted.getLast? with
    | none =>
      rw [last] at follows
      rw [getLast?_eq_none_iff.mp last]
      apply ok.rooted fix progress
      · rw [follows.1, Option.or_self] at atFix'
        exact atFix'
      · exact isReal
      · rw [← follows.2]
        exact atProgress'
    | some entry =>
      rw [last] at follows
      have fixed := follows.1
      rw [fixed, Option.some_or] at atFix'
      have progressed := follows.2
      rw [atProgress'] at progressed
      cases atFix'
      cases progressed
      rw [last_real last isReal]
  · exact ok.within

omit ok

theorem coast_step_ok (event : CoastEvent) (rooted : RootedSync geo texts world event)
    (ok : Grounded geo route world ∧ Anchored route world.real world.scheduler) :
    Grounded geo route (coastStep geo texts world event) ∧
      Anchored route (coastStep geo texts world event).real
        (coastStep geo texts world event).scheduler := by
  cases event with
  | commit fixes visibility nowMs => exact sync_ok (commit_ok ok.1 fixes nowMs) nowMs rooted
  | sync visibility nowMs => exact sync_ok ok.1 nowMs rooted
  | tick nowMs =>
    unfold coastStep
    dsimp only
    split
    · exact ⟨schedule_tick ok.1 ok.2 nowMs, tick_anchored ok.2 nowMs⟩
    · exact ok
  | stop => exact ⟨⟨ok.1.onRoute, ok.1.rooted, ok.1.within⟩, stop_anchored⟩

/-- In every run whose syncs are rooted in real fixes, what is dispatched stays within the
limits of a coast from the last real fix that was accepted before. -/
theorem coasting_is_bounded (geo : RouteGeometry) (texts : CueTexts) (session : GroundMobileSession)
    (events : List CoastEvent) (rooted : ∀ earlier event, earlier ++ [event] <+: events →
      RootedSync geo texts (run (coastStep geo texts) earlier (startWorld session)) event)
    (reached : List CoastEvent) (within : reached <+: events) :
    ∀ entry ∈ (run (coastStep geo texts) reached (startWorld session)).dispatched,
      ∀ real, entry.real = some real →
        Within geo session.payload.startPackage.route entry.fix real := by
  have start : Grounded geo session.payload.startPackage.route (startWorld session) ∧
      Anchored session.payload.startPackage.route (startWorld session).real
        (startWorld session).scheduler := by
    apply And.intro
    · apply Grounded.mk
      · rfl
      · intro fix progress atFix isReal atProgress
        show realOf session = _
        have atFix' : session.lastAcceptedFix = some fix := atFix
        have atProgress' : session.payload.progress = some progress := atProgress
        unfold realOf anchorFor
        rw [atFix', atProgress', Option.any_some, isReal]
        rfl
      · intro entry none
        cases none
    · exact stop_anchored
  have step : ∀ world event, RootedSync geo texts world event →
      Grounded geo session.payload.startPackage.route world ∧
        Anchored session.payload.startPackage.route world.real world.scheduler →
      Grounded geo session.payload.startPackage.route (coastStep geo texts world event) ∧
        Anchored session.payload.startPackage.route (coastStep geo texts world event).real
          (coastStep geo texts world event).scheduler :=
    fun world event allowed ok => coast_step_ok event allowed ok
  exact (run_guarded step events (startWorld session) start rooted reached within).1.within

end

section

def meridian : RouteGeometry where
  haversineDistance := fun from' to' => |to'.2 - from'.2| * 111195
  bearingBetween := fun _ _ => 0
  exp := fun _ => 1
  snapPreparedRoute := fun _ point =>
    { snapped := (0, point.2), alongMeters := point.2 * 111195, deviationMeters := 0
      segmentIndex := 0 }
  prepareManeuverPositions := fun _ => { starts := [], ends := [], total := 111195 }

def noTexts : CueTexts where
  routeFingerprint := fun _ => ""
  groundCueEffect := fun _ _ _ => none
  offRouteEpisodeId := fun _ _ _ => "off-route"
  arrivalCueId := fun _ _ => "arrival"
  statusCueEffect := fun _ _ _ => none

def northbound : GroundMobileSession where
  sessionId := "session"
  revision := 1
  status := .active
  updatedAtMs := 0
  locale := .en
  units := .metric
  permissionMode := .background
  cueLedger := { spoken := [], events := [] }
  lastAcceptedFix := none
  payload :=
    { startPackage :=
        { route :=
            { geometry := [(0, 0), (0, 1)], steps := [], distance := 111195, duration := 2000 }
          segmentSpeedLimits := none
          capturedLiveSpeedLimits := none
          mode := .driving
          voiceEnabled := true
          voiceTiming := .normal }
      tickState :=
        { offRouteScore := 0, lastRerouteAtMs := none, rerouteBackoffMs := 0, spokenCues := []
          lastAlongMeters := none, lastFixMs := none, speedEstimate := none, lastRaw := none
          lastDeviation := none, uTurnSinceMs := none, committedStepIndex := none
          reachedStepEnd := none }
      progress := none
      weakGps := false
      offRoute := false
      coasting := false
      currentSpeedLimit := none
      reroute := .idle }

def fixAt (coasted : Bool) (meters speedMps timestampMs : ℚ) : Navigation.GroundFix.FixInput where
  coords := lngLatOf (0, meters / 111195)
  accuracy := if coasted then 1 else 5
  heading := some 0
  speed := some speedMps
  timestampMs := timestampMs
  coasted := coasted

def oneCoast : List CoastEvent := [.commit [fixAt false 10000 60 0] .active 0, .tick 60000]

/-- A coast of one minute from a real fix at 60 m/s. -/
theorem one_coast_within :
    Within meridian northbound.payload.startPackage.route (fixAt true 12700 30 60000)
      ⟨10000, 60, 0⟩ :=
  coasting_is_bounded meridian noTexts northbound oneCoast
    (guarded_cons (by
      intro _ fix same
      have last : (processGroundBatch meridian noTexts northbound [fixAt false 10000 60 0]
        0).session.lastAcceptedFix = some (fixAt false 10000 60 0) := by decide +kernel
      have isFix := last.symm.trans same
      cases isFix
      rfl) (guarded_cons trivial guarded_nil)) oneCoast (prefix_refl _)
    ⟨fixAt true 12700 30 60000, some ⟨10000, 60, 0⟩⟩ (by decide +kernel) _ rfl

/-- The first synthetic fix is committed and the scheduler is synced with its session. -/
def twoCoasts : List CoastEvent :=
  oneCoast ++ [.commit [fixAt true 12700 30 60000] .active 60000, .tick 130000]

/-- The second coast starts at the first synthetic fix: 130 s after the only real one, it is
more than 4 km beyond it. -/
theorem second_coast_too_far :
    (run (coastStep meridian noTexts) twoCoasts (startWorld northbound)).dispatched =
        [⟨fixAt true 12700 30 60000, some ⟨10000, 60, 0⟩⟩,
          ⟨fixAt true (12700 + 2975 / 2) (25 / 2) 130000, some ⟨10000, 60, 0⟩⟩] ∧
      ¬ (fixAt true (12700 + 2975 / 2) (25 / 2) 130000).timestampMs ≤ 0 + MAX_COAST_MS ∧
      ¬ (12700 : ℚ) + 2975 / 2 ≤ 10000 + MAX_COAST_METERS := by
  decide +kernel

end

end OpenMapX.Mobile.GroundCoasting
