import OpenMapX.Mobile.SessionStore
import OpenMapX.Navigation.TransitSecrets

/-!
# The snapshot of a transit session

What the web page is told about a transit session. The itinerary, the replan
options and the progress are JSON as the server or the page shaped it; the
geometry of a leg is read by position only, and matching it belongs to a library.
-/

namespace OpenMapX.Mobile.TransitSnapshot

open Foundation.JsonValue Navigation.TransitTrip Navigation.TransitSecrets SessionStore Option

abbrev JsonRecord := List (String × Json)

structure SessionAlert where
  id : String
  legIndex : Nat
  triggerAtMs : ℤ

structure StartPackage where
  itinerary : JsonRecord
  captures : List Json
  replanOptions : Option JsonRecord
  settings : TransitSettings
  itineraryFingerprint : String

structure StoredPayload where
  startPackage : StartPackage
  tickState : TransitTickState
  progress : Option JsonRecord
  confidence : TransitConfidence
  refreshToken : Option String
  refresh : RefreshRuntime
  scheduledAlerts : List SessionAlert

structure TransitMobileSession where
  sessionId : String
  revision : Nat
  status : SessionStatus
  locale : SessionStore.Locale
  units : Units
  connectivity : Connectivity
  permissionMode : PermissionMode
  lastAcceptedFix : Option FixInput
  payload : StoredPayload

structure SnapResult where
  snapped : LngLat
  alongMeters : JsNumber
  deviationMeters : JsNumber

/-- The matching of positions to a leg's polyline. It sees coordinates through
`indexed`. -/
structure RouteMatching (Matcher : Type) where
  prepareRouteMatcher : Json → Except TypeError Matcher
  lineLength : Json → Except TypeError JsNumber
  snapPreparedRoute : Matcher → LngLat → Except TypeError SnapResult
  /-- `coords.length < 2` for coordinates that are no list. -/
  shorterThanTwo : Json → Bool

structure PreparedTransitLeg (Matcher : Type) where
  matcher : Matcher
  lengthMeters : JsNumber

def isPosition (key : String) : Bool :=
  key == "length" || (key != "" && key.toList.all Char.isDigit)

mutual

def indexed : Json → Json
  | .array items => .array (indexedItems items)
  | .object members => .object (indexedMembers members)
  | value => value

def indexedItems : List Json → List Json
  | [] => []
  | item :: rest => indexed item :: indexedItems rest

def indexedMembers : List (String × Json) → List (String × Json)
  | [] => []
  | (key, child) :: rest =>
    if isPosition key then (key, indexed child) :: indexedMembers rest else indexedMembers rest

end

section

variable {Matcher : Type} (matching : RouteMatching Matcher)

/-- `coords.length < 2`. -/
def tooShort (coords : Json) : Bool :=
  match coords with
  | .array items => items.length < 2
  | other => matching.shorterThanTwo (indexed other)

def prepareCoordinates (coords : Json) :
    Except TypeError (Option (PreparedTransitLeg Matcher)) := do
  if Json.falsy (some coords) || tooShort matching coords then return none
  let matcher ← matching.prepareRouteMatcher (indexed coords)
  let lengthMeters ← matching.lineLength (indexed coords)
  return some { matcher := matcher, lengthMeters := lengthMeters }

/-- One leg of `prepareTransitProgress`. -/
def prepareTransitLeg (leg : Json) : Except TypeError (Option (PreparedTransitLeg Matcher)) :=
  if Json.absent (some leg) then .error .typeError
  else
    match (leg.member "geometry").bind fun geometry => geometry.member "coordinates" with
    | some coords => prepareCoordinates matching coords
    | none => .ok none

def prepareTransitLegs (legs : List Json) :
    Except TypeError (List (Option (PreparedTransitLeg Matcher))) :=
  match legs with
  | [] => .ok []
  | leg :: rest => do
    let prepared ← prepareTransitLeg matching leg
    let others ← prepareTransitLegs rest
    return prepared :: others

def prepareTransitProgress (itinerary : JsonRecord) :
    Except TypeError (List (Option (PreparedTransitLeg Matcher))) :=
  match memberOf "legs" itinerary with
  | none => .ok []
  | some .null => .ok []
  | some (.array legs) => prepareTransitLegs matching legs
  | some _ => .error .typeError

structure TransitProgress where
  currentLegIndex : Nat
  position : Option LngLat
  positionTimestampMs : Option JsNumber
  snapped : LngLat
  fractionAlongLeg : JsNumber
  deviationMeters : JsNumber
  arrived : Bool
  phase : TransitPhase
  confidence : ProgressConfidence
  stopCursor : Nat
  currentWalkStepIndex : Nat
  walkRevision : Nat
  distanceToNextStepMeters : Option ℚ
  offPlan : Option Bool
  canUndo : Bool
  lastActionLegIndex : Option Nat
  lastActionAtMs : Option ℤ

def fractionOfLength (along length : JsNumber) : JsNumber :=
  match along, length with
  | .finite along, .finite length =>
    if 0 < length then .finite (along / length) else .finite 0
  | .infinite negative, .finite length =>
    if 0 < length then .infinite negative else .finite 0
  | .nan, .finite length => if 0 < length then .nan else .finite 0
  | .finite _, .infinite false => .finite 0
  | _, .infinite false => .nan
  | _, _ => .finite 0

def transitProgressFromTick (state : TransitTickState)
    (prepared : List (Option (PreparedTransitLeg Matcher))) : Except TypeError TransitProgress := do
  let coords := state.lastAcceptedFix.map FixInput.coords
  let leg := prepared[state.currentLegIndex]?.join
  let found ← match coords, leg with
    | some coords, some leg => (matching.snapPreparedRoute leg.matcher coords).map some
    | _, _ => .ok none
  return {
    currentLegIndex := state.currentLegIndex,
    position := coords,
    positionTimestampMs := state.lastAcceptedFix.map FixInput.timestampMs,
    snapped := (found.map SnapResult.snapped).getD
      (coords.getD { lng := .finite 0, lat := .finite 0 }),
    fractionAlongLeg := match found, leg with
      | some found, some leg => fractionOfLength found.alongMeters leg.lengthMeters
      | _, _ => .finite 0,
    deviationMeters := (found.map SnapResult.deviationMeters).getD (.finite 0),
    arrived := state.phase == .arrived,
    phase := state.phase,
    confidence := state.progressConfidence.getD .stale,
    stopCursor := state.stopCursor.getD 1,
    currentWalkStepIndex := state.currentWalkStepIndex,
    walkRevision := state.walkRevision.getD 0,
    distanceToNextStepMeters := state.distanceToNextStepMeters,
    offPlan := state.offPlan,
    canUndo := state.lastAction.isSome,
    lastActionLegIndex := state.lastAction.map LastAction.legIndex,
    lastActionAtMs := state.lastAction.map LastAction.atMs
  }

inductive AlightAlertAvailability where
  | scheduled | unavailable | disabled
  deriving DecidableEq

structure LiveStatus where
  refresh : RefreshStatus
  hasLiveToken : Bool
  deriving DecidableEq

inductive SnapshotProgress where
  | stored (progress : JsonRecord)
  | fromTick (progress : TransitProgress)

structure TransitFullSnapshot where
  sessionId : String
  revision : Nat
  status : SessionStatus
  itineraryFingerprint : String
  itinerary : Json
  captures : Json
  transitReplanOptions : Json
  currentLegIndex : Nat
  currentWalkStepIndex : Nat
  phase : TransitPhase
  confidence : TransitConfidence
  transitProgress : SnapshotProgress
  settings : TransitSettings
  locale : SessionStore.Locale
  units : Units
  connectivity : Connectivity
  permissionMode : PermissionMode
  liveStatus : LiveStatus
  alightAlertAvailability : AlightAlertAvailability

def liveStatus (session : TransitMobileSession) : LiveStatus where
  refresh := session.payload.refresh.status
  hasLiveToken := session.payload.refreshToken.isSome

def alightAvailability (session : TransitMobileSession) : AlightAlertAvailability :=
  if !session.payload.startPackage.settings.alightAlertsEnabled then .disabled
  else if 0 < session.payload.scheduledAlerts.length then .scheduled
  else .unavailable

/-- `startPackage.replanOptions ?? null`. -/
def replanOptionsOf (startPackage : StartPackage) : Json :=
  (startPackage.replanOptions.map Json.object).getD .null

def snapshotWith (session : TransitMobileSession) (progress : SnapshotProgress) :
    TransitFullSnapshot :=
  let startPackage := session.payload.startPackage
  let tickState := session.payload.tickState
  { sessionId := session.sessionId,
    revision := session.revision,
    status := session.status,
    itineraryFingerprint := startPackage.itineraryFingerprint,
    itinerary := stripTransitSecretsForSnapshot (.object startPackage.itinerary),
    captures := stripTransitSecretsForSnapshot (.array startPackage.captures),
    transitReplanOptions := stripTransitSecretsForSnapshot (replanOptionsOf startPackage),
    currentLegIndex := tickState.currentLegIndex,
    currentWalkStepIndex := tickState.currentWalkStepIndex,
    phase := tickState.phase,
    confidence := session.payload.confidence,
    transitProgress := progress,
    settings := startPackage.settings,
    locale := session.locale,
    units := session.units,
    connectivity := session.connectivity,
    permissionMode := session.permissionMode,
    liveStatus := liveStatus session,
    alightAlertAvailability := alightAvailability session }

def snapshotProgress (session : TransitMobileSession) : Except TypeError SnapshotProgress :=
  match session.payload.progress with
  | some progress => .ok (.stored progress)
  | none => do
    let prepared ← prepareTransitProgress matching session.payload.startPackage.itinerary
    let tickState := session.payload.tickState
    let tick := { tickState with
      lastAcceptedFix := session.lastAcceptedFix.or tickState.lastAcceptedFix }
    let progress ← transitProgressFromTick matching tick prepared
    return .fromTick progress

def transitFullSnapshot (session : TransitMobileSession) : Except TypeError TransitFullSnapshot :=
  (snapshotProgress matching session).map (snapshotWith session)

end

theorem position_not_secret {key : String} (position : isPosition key = true) :
    SECRET_KEYS.contains key = false := by
  by_contra secret
  rw [Bool.not_eq_false, List.contains_iff_mem] at secret
  have noPosition : ∀ name ∈ SECRET_KEYS, isPosition name = false := by decide +kernel
  rw [noPosition key secret] at position
  exact Bool.false_ne_true position

mutual

theorem indexed_mask (value : Json) : indexed (mask value) = indexed value := by
  cases value with
  | array items => rw [mask, indexed, indexed, indexed_mask_items items]
  | object members => rw [mask, indexed, indexed, indexed_mask_members members]
  | _ => simp [mask]

theorem indexed_mask_items (items : List Json) :
    indexedItems (maskItems items) = indexedItems items := by
  cases items with
  | nil => rfl
  | cons item rest =>
    rw [maskItems, indexedItems, indexedItems, indexed_mask item, indexed_mask_items rest]

theorem indexed_mask_members (members) :
    indexedMembers (maskMembers members) = indexedMembers members := by
  match members with
  | [] => rfl
  | (key, child) :: rest =>
    rw [maskMembers, indexedMembers, indexedMembers, indexed_mask_members rest]
    split
    · rename_i position
      rw [position_not_secret position, if_neg Bool.false_ne_true, indexed_mask child]
    · rfl

end

theorem mask_items_length (items : List Json) : (maskItems items).length = items.length := by
  induction items with
  | nil => rfl
  | cons item rest ih => rw [maskItems, List.length_cons, List.length_cons, ih]

theorem member_of_mask (name : String) (ordinary : SECRET_KEYS.contains name = false) (members) :
    memberOf name (maskMembers members) = (memberOf name members).map mask := by
  induction members with
  | nil => rfl
  | cons head rest ih =>
    rw [maskMembers, memberOf, memberOf]
    by_cases found : head.1 = name
    · rw [found, if_pos (beq_self_eq_true name), if_pos (beq_self_eq_true name), ordinary]
      rfl
    · rw [if_neg (by simpa using found), if_neg (by simpa using found), ih]

theorem member_mask (name : String) (ordinary : SECRET_KEYS.contains name = false)
    (value : Json) : (mask value).member name = (value.member name).map mask := by
  cases value with
  | object members =>
    rw [mask, Json.member, Json.member]
    exact member_of_mask name ordinary members
  | _ => simp [mask, Json.member]

theorem falsy_mask (value : Json) : Json.falsy (some (mask value)) = Json.falsy (some value) := by
  cases value <;> simp [mask, Json.falsy]

theorem absent_mask (value : Json) :
    Json.absent (some (mask value)) = Json.absent (some value) := by
  cases value <;> simp [mask, Json.absent]

section

variable {Matcher : Type} (matching : RouteMatching Matcher)

theorem too_short_mask (value : Json) :
    tooShort matching (mask value) = tooShort matching value := by
  have reached := indexed_mask value
  cases value with
  | array items => rw [mask, tooShort, tooShort, mask_items_length]
  | object members =>
    rw [mask] at reached ⊢
    exact congrArg matching.shorterThanTwo reached
  | _ => simp [mask]

theorem prepare_coordinates_mask (coords : Json) :
    prepareCoordinates matching (mask coords) = prepareCoordinates matching coords := by
  unfold prepareCoordinates
  rw [falsy_mask, too_short_mask, indexed_mask]

theorem geometry_of_mask (leg : Json) :
    ((mask leg).member "geometry").bind (fun geometry => geometry.member "coordinates") =
      ((leg.member "geometry").bind fun geometry => geometry.member "coordinates").map mask := by
  rw [member_mask "geometry" (by decide +kernel)]
  cases leg.member "geometry" with
  | none => rfl
  | some geometry => exact member_mask "coordinates" (by decide +kernel) geometry

theorem prepare_leg_mask (leg : Json) :
    prepareTransitLeg matching (mask leg) = prepareTransitLeg matching leg := by
  unfold prepareTransitLeg
  rw [absent_mask, geometry_of_mask]
  cases (leg.member "geometry").bind fun geometry => geometry.member "coordinates" with
  | none => rfl
  | some coords => simp only [map_some, prepare_coordinates_mask]

theorem prepare_legs_mask (legs : List Json) :
    prepareTransitLegs matching (maskItems legs) = prepareTransitLegs matching legs := by
  induction legs with
  | nil => rfl
  | cons leg rest ih =>
    rw [maskItems, prepareTransitLegs, prepareTransitLegs, prepare_leg_mask, ih]

theorem prepare_progress_mask (members : JsonRecord) :
    prepareTransitProgress matching (maskMembers members) =
      prepareTransitProgress matching members := by
  unfold prepareTransitProgress
  rw [member_of_mask "legs" (by decide +kernel)]
  cases memberOf "legs" members with
  | none => rfl
  | some legs =>
    cases legs with
    | array legs => exact prepare_legs_mask matching legs
    | _ => simp [mask]

end

def withoutSecrets (session : TransitMobileSession) : TransitMobileSession :=
  { session with
    payload := { session.payload with
      startPackage := { session.payload.startPackage with
        itinerary := maskMembers session.payload.startPackage.itinerary,
        captures := maskItems session.payload.startPackage.captures,
        replanOptions := session.payload.startPackage.replanOptions.map maskMembers },
      refreshToken := session.payload.refreshToken.map fun _ => "" } }

def buriedParts (session : TransitMobileSession) : List Json × List Json × List Json :=
  (deeperThan (.object session.payload.startPackage.itinerary) 0,
    deeperThan (.array session.payload.startPackage.captures) 0,
    deeperThan (replanOptionsOf session.payload.startPackage) 0)

section

variable {Matcher : Type} (matching : RouteMatching Matcher)

theorem progress_of_mask (left right) (alike : withoutSecrets left = withoutSecrets right) :
    snapshotProgress matching left = snapshotProgress matching right := by
  simp only [withoutSecrets, TransitMobileSession.mk.injEq, StoredPayload.mk.injEq,
    StartPackage.mk.injEq] at alike
  have sameProgress := prepare_progress_mask matching left.payload.startPackage.itinerary
  rw [alike.2.2.2.2.2.2.2.2.1.1, prepare_progress_mask] at sameProgress
  unfold snapshotProgress
  simp only [alike, ← sameProgress]

theorem replan_of_mask (left right : StartPackage)
    (alike : left.replanOptions.map maskMembers = right.replanOptions.map maskMembers) :
    mask (replanOptionsOf left) = mask (replanOptionsOf right) := by
  have masked : ∀ startPackage : StartPackage, mask (replanOptionsOf startPackage) =
      ((startPackage.replanOptions.map maskMembers).map Json.object).getD .null := by
    intro startPackage
    unfold replanOptionsOf
    cases startPackage.replanOptions <;> rfl
  rw [masked, masked, alike]

theorem snapshot_with_eq_iff (left right) (progress : SnapshotProgress)
    (alike : withoutSecrets left = withoutSecrets right) :
    snapshotWith left progress = snapshotWith right progress ↔
      buriedParts left = buriedParts right := by
  simp only [withoutSecrets, TransitMobileSession.mk.injEq, StoredPayload.mk.injEq,
    StartPackage.mk.injEq] at alike
  have itineraries := strip_eq_iff (.object left.payload.startPackage.itinerary)
    (.object right.payload.startPackage.itinerary) 0
    (by rw [mask, mask, alike.2.2.2.2.2.2.2.2.1.1])
  have captures := strip_eq_iff (.array left.payload.startPackage.captures)
    (.array right.payload.startPackage.captures) 0
    (by rw [mask, mask, alike.2.2.2.2.2.2.2.2.1.2.1])
  have replans := strip_eq_iff (replanOptionsOf left.payload.startPackage)
    (replanOptionsOf right.payload.startPackage) 0
    (replan_of_mask _ _ alike.2.2.2.2.2.2.2.2.1.2.2.1)
  have sameToken : left.payload.refreshToken.isSome = right.payload.refreshToken.isSome := by
    rw [← isSome_map (f := fun _ => "") (x := left.payload.refreshToken),
      alike.2.2.2.2.2.2.2.2.2.2.2.2.1, isSome_map]
  simp only [snapshotWith, TransitFullSnapshot.mk.injEq, buriedParts, Prod.mk.injEq,
    stripTransitSecretsForSnapshot, liveStatus, alightAvailability, itineraries, captures,
    replans, sameToken, alike, true_and, and_true]

/-- A snapshot fails for both sessions alike, and the snapshots of both agree where
the parts agree that are nested too deeply to be searched for secrets. -/
theorem snapshot_hides_secrets_iff (left right : TransitMobileSession)
    (alike : withoutSecrets left = withoutSecrets right) :
    (∀ error, transitFullSnapshot matching left = .error error ↔
      transitFullSnapshot matching right = .error error) ∧
    (∀ leftSnapshot rightSnapshot, transitFullSnapshot matching left = .ok leftSnapshot →
      transitFullSnapshot matching right = .ok rightSnapshot →
      (leftSnapshot = rightSnapshot ↔ buriedParts left = buriedParts right)) := by
  have sameProgress := progress_of_mask matching left right alike
  unfold transitFullSnapshot
  rw [sameProgress]
  cases snapshotProgress matching right with
  | error failure =>
    apply And.intro
    · intro error
      rfl
    · intro leftSnapshot rightSnapshot leftTaken
      cases leftTaken
  | ok progress =>
    apply And.intro
    · intro error
      simp [Except.map]
    · intro leftSnapshot rightSnapshot leftTaken rightTaken
      cases leftTaken
      cases rightTaken
      exact snapshot_with_eq_iff left right progress alike

end

/-- A walk, with the server's token `depth` objects deep in the answer's meta data. -/
def nestedTokenSession (depth : Nat) (token : String) : TransitMobileSession where
  sessionId := "session-t1"
  revision := 6
  status := .active
  locale := .en
  units := .metric
  connectivity := .online
  permissionMode := .background
  lastAcceptedFix := none
  payload := {
    startPackage := {
      itinerary := [("legs", .array [.object [("mode", .string "walking")]]),
        ("meta", nestedUnder "inner" (.object [("refreshToken", .string token)]) depth)],
      captures := [],
      replanOptions := none,
      settings := { voiceEnabled := true, keepScreenOn := true, alightAlertsEnabled := true },
      itineraryFingerprint := "fp" },
    tickState := freshTransitTickState 0 { legs := [], refreshToken := none },
    progress := none,
    confidence := .gps,
    refreshToken := some token,
    refresh := {
      status := .ready, generation := 0, requestId := none, nextAttemptAtMs := none,
      attempts := 0, firstAttemptAtMs := none, ambiguousAttempts := none },
    scheduledAlerts := [] }

def originMatching : RouteMatching Unit where
  prepareRouteMatcher := fun _ => .ok ()
  lineLength := fun _ => .ok (.finite 0)
  snapPreparedRoute := fun _ _ => .ok {
    snapped := { lng := .finite 0, lat := .finite 0 },
    alongMeters := .finite 0,
    deviationMeters := .finite 0 }
  shorterThanTwo := fun _ => true

theorem nested_token_masked (depth : Nat) (token other : String) :
    withoutSecrets (nestedTokenSession depth token) =
      withoutSecrets (nestedTokenSession depth other) := by
  have masked : ∀ text,
      mask (nestedUnder "inner" (.object [("refreshToken", .string text)]) depth) =
        nestedUnder "inner" (.object [("refreshToken", .null)]) depth := by
    intro text
    have secret : SECRET_KEYS.contains "refreshToken" = true := by decide +kernel
    rw [mask_nested "inner" _ _ (by decide +kernel), mask, maskMembers, maskMembers, secret]
    rfl
  simp only [withoutSecrets, nestedTokenSession, maskMembers, masked, map_some]

theorem nested_token_parts (depth : Nat) (token : String) (within : depth ≤ MAX_STRIP_DEPTH) :
    buriedParts (nestedTokenSession depth token) =
      (deeperThan (.object [("refreshToken", .string token)]) (1 + depth), [], []) := by
  have innermost := deeper_nested "inner" (.object [("refreshToken", .string token)]) depth 1
    (by decide +kernel) (by omega)
  have legsCopied : copiesKey "legs" = true := by decide +kernel
  have metaCopied : copiesKey "meta" = true := by decide +kernel
  have modeCopied : copiesKey "mode" = true := by decide +kernel
  simp [buriedParts, nestedTokenSession, replanOptionsOf, deeperThan, deeperItems, deeperMembers,
    MAX_STRIP_DEPTH, legsCopied, metaCopied, modeCopied] at innermost ⊢
  exact innermost

theorem token_at_limit_hidden :
    (transitFullSnapshot originMatching (nestedTokenSession 31 "abc")).isOk = true ∧
      transitFullSnapshot originMatching (nestedTokenSession 31 "abc") =
        transitFullSnapshot originMatching (nestedTokenSession 31 "xyz") := by
  have alike := nested_token_masked 31 "abc" "xyz"
  have hidden := snapshot_hides_secrets_iff originMatching _ _ alike
  have notCopied : copiesKey "refreshToken" = false := by decide +kernel
  have shallow : ∀ token, buriedParts (nestedTokenSession 31 token) = ([], [], []) := by
    intro token
    rw [nested_token_parts 31 token (by decide)]
    simp [deeperThan, deeperMembers, MAX_STRIP_DEPTH, notCopied]
  cases left : transitFullSnapshot originMatching (nestedTokenSession 31 "abc") with
  | error failure =>
    have taken : (transitFullSnapshot originMatching (nestedTokenSession 31 "abc")).isOk = true := by
      decide +kernel
    simp [left, Except.isOk, Except.toBool] at taken
  | ok leftSnapshot =>
    cases right : transitFullSnapshot originMatching (nestedTokenSession 31 "xyz") with
    | error failure =>
      have failed := (hidden.1 failure).mpr right
      rw [left] at failed
      cases failed
    | ok rightSnapshot =>
      have same := (hidden.2 leftSnapshot rightSnapshot left right).mpr
        (by rw [shallow, shallow])
      exact And.intro rfl (by rw [same])

theorem buried_token_reaches_page :
    withoutSecrets (nestedTokenSession 32 "abc") = withoutSecrets (nestedTokenSession 32 "xyz") ∧
      (transitFullSnapshot originMatching (nestedTokenSession 32 "abc")).isOk = true ∧
      transitFullSnapshot originMatching (nestedTokenSession 32 "abc") ≠
        transitFullSnapshot originMatching (nestedTokenSession 32 "xyz") := by
  have alike := nested_token_masked 32 "abc" "xyz"
  have sameProgress := progress_of_mask originMatching _ _ alike
  have taken : (snapshotProgress originMatching (nestedTokenSession 32 "xyz")).isOk = true := by
    decide +kernel
  unfold transitFullSnapshot
  rw [sameProgress]
  cases progressTaken : snapshotProgress originMatching (nestedTokenSession 32 "xyz") with
  | error failure => simp [progressTaken, Except.isOk, Except.toBool] at taken
  | ok progress =>
    apply And.intro alike
    apply And.intro rfl
    intro same
    have sameParts := (snapshot_with_eq_iff _ _ progress alike).mp (Except.ok.inj same)
    rw [nested_token_parts 32 "abc" (by decide), nested_token_parts 32 "xyz" (by decide)] at sameParts
    simp [deeperThan, MAX_STRIP_DEPTH] at sameParts

end OpenMapX.Mobile.TransitSnapshot
