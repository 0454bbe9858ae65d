import OpenMapX.Places.PoiConflation

/-!
# Conflation of two lists of points

Every pair of points in neighbouring buckets is scored, and the accepted pairs are the
candidates of the assignment. Distances, name similarities and cosines are parameters,
and the window by which the proximity is divided may be zero, in which case the quotient
of zero by zero is no number.
-/

namespace OpenMapX.Places.Conflate

open PoiConflation

structure ConflationThresholds where
  alwaysMergeM : ℚ
  softWindowM : ℚ
  nameDiceFloor : ℚ

structure Measures where
  haversineMeters : ℚ → ℚ → ℚ → ℚ → ℚ
  nameSimilarity : String → String → ℚ
  cosDegrees : ℚ → ℚ

def CLOSE_BAND_NAME_FLOOR : ℚ := 1 / 2
def ADDRESS_MATCH_NAME_FLOOR : ℚ := 1 / 2

def GENERIC_WEBSITE_HOSTS : List String :=
  ["facebook.com", "m.facebook.com", "instagram.com", "twitter.com", "x.com", "youtube.com",
    "tiktok.com", "linktr.ee", "linktree.com", "google.com", "business.google.com",
    "maps.google.com", "goo.gl", "wa.me", "t.me", "yelp.com", "tripadvisor.com",
    "lieferando.de", "wolt.com", "ubereats.com"]

def SINGULAR_PER_ADDRESS : List String :=
  ["supermarkets", "pharmacies", "banks", "atms", "fuel", "hospitals", "post_offices",
    "fire_stations", "police", "ambulance_stations", "libraries", "schools", "kindergartens",
    "hotels", "transit", "cinemas", "ev_charging"]

def EPSILON : ℚ := 1 / 2 ^ 52

def clampConfidence (value : ℚ) : ℚ := max 0 (min 1 value)

def presentText : Option String → Option String
  | some text => if text = "" then none else some text
  | none => none

def comparedTexts (first second : Option String) : Option (String × Bool) :=
  match presentText first, presentText second with
  | some left, some right => some (left, left == right)
  | _, _ => none

def categoryCompatible (a b : ConflationPoint) : Bool :=
  match a.category, b.category with
  | some first, some second => first == second
  | _, _ => true

inductive ScoreOutcome where
  | rejected
  | notANumber
  | scored (score : ConflationPairScore)

section

variable (measures : Measures) (a b : ConflationPoint) (t : ConflationThresholds)

def distanceOf : ℚ := measures.haversineMeters a.lat a.lng b.lat b.lng
def namesOf : ℚ := measures.nameSimilarity a.name b.name

def makeScore (method : ConflationMethod) (confidence : ℚ) (evidence : List String) :
    ScoreOutcome :=
  .scored
    { method := method
      matchConfidence := clampConfidence confidence
      distanceM := distanceOf measures a b
      nameSimilarity := namesOf measures a b
      categoryCompatible := categoryCompatible a b
      evidence := evidence }

def singularCategory : Option String :=
  match a.category with
  | none => none
  | some category =>
    if b.category = some category ∧ category ∈ SINGULAR_PER_ADDRESS then some category else none

def scoreByName : ScoreOutcome :=
  let d := distanceOf measures a b
  let names := namesOf measures a b
  let categoriesMatch := categoryCompatible a b
  let floor := if d ≤ t.alwaysMergeM then CLOSE_BAND_NAME_FLOOR else t.nameDiceFloor
  if names < floor ∨ (t.alwaysMergeM < d ∧ categoriesMatch = false) then .rejected
  else if t.softWindowM = 0 then .notANumber
  else
    let normalizedName := (names - floor) / max (1 - floor) EPSILON
    let proximity := 1 - d / t.softWindowM
    makeScore measures a b .spatialName (72 / 100 + 2 / 10 * normalizedName + 8 / 100 * proximity)
      ([if d ≤ t.alwaysMergeM then "close-band" else "soft-window", "name-match"] ++
        if categoriesMatch then ["compatible-category"] else [])

def scoreByWebsite : ScoreOutcome :=
  match comparedTexts a.website b.website with
  | some (host, true) =>
    if host ∉ GENERIC_WEBSITE_HOSTS ∧ categoryCompatible a b = true then
      makeScore measures a b .website (92 / 100 + 5 / 100 * namesOf measures a b)
        ["shared-website:" ++ host, "compatible-category"]
    else scoreByName measures a b t
  | _ => scoreByName measures a b t

/-- A contradicting address rejects the pair, and an equal one needs another signal. -/
def scoreByAddress : ScoreOutcome :=
  match comparedTexts a.addressKey b.addressKey with
  | some (_, false) => .rejected
  | some (_, true) =>
    if ADDRESS_MATCH_NAME_FLOOR ≤ namesOf measures a b then
      makeScore measures a b .addressName (94 / 100 + 5 / 100 * namesOf measures a b)
        ["same-address", "name-corroboration"]
    else
      match singularCategory a b with
      | some category =>
        makeScore measures a b .addressCategory (94 / 100)
          ["same-address", "singular-category:" ++ category]
      | none => .rejected
  | none => scoreByWebsite measures a b t

def scoreConflationPair : ScoreOutcome :=
  if t.softWindowM < distanceOf measures a b then .rejected
  else
    match comparedTexts a.wikidata b.wikidata with
    | some (id, true) =>
      makeScore measures a b .wikidata 1 ["wikidata:" ++ id, "within-soft-window"]
    | _ =>
      let aPhones := a.phones.getD []
      let bPhones := b.phones.getD []
      let phonesBoth := aPhones ≠ [] ∧ bPhones ≠ []
      let phonesShare := phonesBoth ∧ ∃ phone ∈ aPhones, phone ∈ bPhones
      if phonesBoth ∧ ¬ phonesShare then .rejected
      else if phonesShare ∧ categoryCompatible a b = true then
        makeScore measures a b .phone (99 / 100) ["shared-phone", "compatible-category"]
      else scoreByAddress measures a b t

end

def BUCKET_DEG : ℚ := 2 / 1000
def METERS_PER_DEG_LAT : ℚ := 111320
def MIN_LAT_COS : ℚ := 1 / 100

def bucketKey (lat lng : ℚ) : Int × Int := (⌊lng / BUCKET_DEG⌋, ⌊lat / BUCKET_DEG⌋)

def lngNeighborRange (measures : Measures) (lat maxDistM : ℚ) : Int :=
  let cosLat := max (measures.cosDegrees lat) MIN_LAT_COS
  let maxLngDiffDeg := maxDistM / (METERS_PER_DEG_LAT * cosLat)
  ⌈maxLngDiffDeg / BUCKET_DEG⌉ + 1

/-- The integers from `-range` to `range`. -/
def offsets (range : Int) : List Int :=
  (List.range (2 * range + 1).toNat).map fun index : Nat => (index : Int) - range

def neighborKeys (measures : Measures) (key : Int × Int) (lat maxDistM : ℚ) : List (Int × Int) :=
  (offsets (lngNeighborRange measures lat maxDistM)).flatMap fun dx =>
    [-1, 0, 1].map fun dy => (key.1 + dx, key.2 + dy)

structure ConflationResult where
  matched : List ScoredConflationPair
  unmatchedA : List ConflationPoint
  unmatchedB : List ConflationPoint

section

variable (measures : Measures) (localeCompare : String → String → Int)
variable (a b : List ConflationPoint) (t : ConflationThresholds)

def neighbourPairs : List (ConflationPoint × ConflationPoint) :=
  a.flatMap fun point =>
    (neighborKeys measures (bucketKey point.lat point.lng) point.lat t.softWindowM).flatMap
      fun key => (b.filter fun other => bucketKey other.lat other.lng = key).map fun other =>
        (point, other)

/-- The accepted pairs; there are none to speak of when a confidence is no number. -/
def candidateEdges : Option (List ScoredConflationPair) :=
  (neighbourPairs measures a b t).foldlM (fun edges pair =>
    match scoreConflationPair measures pair.1 pair.2 t with
    | .rejected => some edges
    | .notANumber => none
    | .scored score => some (edges ++ [{ a := pair.1, b := pair.2, score := score }])) []

def conflate (fuel : Nat) : Option ConflationResult :=
  if a = [] ∧ b = [] then some { matched := [], unmatchedA := [], unmatchedB := [] }
  else if a = [] then some { matched := [], unmatchedA := [], unmatchedB := b }
  else if b = [] then some { matched := [], unmatchedA := a, unmatchedB := [] }
  else
    (candidateEdges measures a b t).bind fun edges =>
      (assignConflationPairs localeCompare fuel edges).map fun matched =>
        { matched := matched
          unmatchedA := a.filter fun point => point.id ∉ matched.map (·.a.id)
          unmatchedB := b.filter fun point => point.id ∉ matched.map (·.b.id) }

end

end OpenMapX.Places.Conflate
