import OpenMapX.Foundation.JsonValue
import OpenMapX.Places.Conflate

/-!
# Fusion of OSM and Overture results

Equal canonical ids fuse first, then the precomputed links, and what is left over goes
through the conflation. What becomes of a record that stays alone or of a fused pair is a
parameter of the stages, so that the results and the records behind them come from one
definition.
-/

namespace OpenMapX.Places.PoiFusion

open Foundation.JsonValue PoiConflation Conflate

structure PlaceProvenance where
  sourceId : String
  dataset : String
  property : Option String
  recordId : Option String
  updatedAt : Option String
  license : Option String
  release : Option String
  deriving DecidableEq

structure Credits where
  contributors : Option Json
  fieldContributors : Option Json

structure PoiSearchResult where
  id : String
  gersId : Option String
  name : String
  lng : ℚ
  lat : ℚ
  category : Option String
  address : Option String
  phone : Option String
  email : Option String
  website : Option String
  socials : Option (List String)
  brand : Option (String × Option String)
  names : Option (List (String × String))
  provenance : Option (List PlaceProvenance)
  openingHours : Option String
  openingHoursSource : Option String
  countryCode : Option String
  isOpen : Option Bool
  osmTags : Option (List (String × String))
  openingHoursInfo : Option Json
  credits : Credits

/-- What the fusion is given: the measures and the comparison of the conflation, the
readers of phones and hosts, and the receipts of a fused pair. -/
structure FusionDeps where
  measures : Measures
  localeCompare : String → String → Int
  parsePhones : Option String → List String
  websiteDomain : Option String → Option String
  captureCredits : PoiSearchResult → PoiSearchResult → Credits

def provenanceKey (value : PlaceProvenance) : String :=
  value.sourceId ++ "|" ++ value.dataset ++ "|" ++ value.property.getD "" ++ "|" ++
    value.recordId.getD ""

def firstOfKey : List String → List PlaceProvenance → List PlaceProvenance
  | _, [] => []
  | seen, value :: rest =>
    if seen.contains (provenanceKey value) then firstOfKey seen rest
    else value :: firstOfKey (provenanceKey value :: seen) rest

def mergeProvenance (first second : Option (List PlaceProvenance)) :
    Option (List PlaceProvenance) :=
  let values := first.getD [] ++ second.getD []
  if values = [] then none else some (firstOfKey [] values)

def entryOf (entries : List (String × String)) (key : String) : Option String :=
  (entries.find? fun entry => entry.1 = key).map (·.2)

def brandTags (overtR : PoiSearchResult) : List (String × String) :=
  ["brand", "brand:wikidata"].filterMap fun name =>
    (presentText (entryOf (overtR.osmTags.getD []) name)).map fun value => (name, value)

def spreadTags (tags : List (String × String)) (added : List (String × String)) :
    List (String × String) :=
  (tags.map fun tag => (added.find? fun other => other.1 = tag.1).getD tag) ++
    added.filter fun other => !(tags.any fun tag => tag.1 == other.1)

def fuseOsmOverturePair (deps : FusionDeps) (osmR overtR : PoiSearchResult) : PoiSearchResult :=
  { osmR with
    gersId := some (overtR.gersId.getD overtR.id)
    openingHours := osmR.openingHours.or overtR.openingHours
    openingHoursSource := if (presentText osmR.openingHours).isSome then osmR.openingHoursSource
      else overtR.openingHoursSource
    countryCode := osmR.countryCode.or overtR.countryCode
    phone := osmR.phone.or overtR.phone
    email := osmR.email.or overtR.email
    website := osmR.website.or overtR.website
    socials := osmR.socials.or overtR.socials
    address := osmR.address.or overtR.address
    brand := osmR.brand.or overtR.brand
    names := osmR.names.or overtR.names
    provenance := mergeProvenance osmR.provenance overtR.provenance
    category := osmR.category.or overtR.category
    osmTags := some (spreadTags (osmR.osmTags.getD []) (brandTags overtR))
    credits := deps.captureCredits osmR overtR }

/-- The key of the link table, for an id of the form `osm:type/id`. -/
def osmResultLinkKey (id : String) : Option String :=
  if "osm:".toList.isPrefixOf id.toList then
    let rest := id.toList.drop 4
    if rest.contains '/' then some (String.ofList rest) else none
  else none

def byId (records : List PoiSearchResult) (id : String) : Option PoiSearchResult :=
  records.reverse.find? fun record => record.id = id

def overtureByGers (overture : List PoiSearchResult) (gersId : String) : Option PoiSearchResult :=
  (overture.filter fun record => (presentText record.gersId).isSome).reverse.find?
    fun record => record.gersId = some gersId

abbrev Pairs := List (PoiSearchResult × PoiSearchResult)

def consumedOsm (pairs : Pairs) (id : String) : Bool := pairs.any fun pair => pair.1.id == id
def consumedOverture (pairs : Pairs) (id : String) : Bool := pairs.any fun pair => pair.2.id == id

def identityStage (osm overture : List PoiSearchResult) : Pairs :=
  overture.filterMap fun overtR =>
    if (osmResultLinkKey overtR.id).isNone then none
    else (byId osm overtR.id).map fun osmR => (osmR, overtR)

def linkRecord (overture : List PoiSearchResult) (link : List (String × String)) (pairs : Pairs)
    (osmR : PoiSearchResult) : Pairs :=
  if consumedOsm pairs osmR.id then pairs
  else
    match osmResultLinkKey osmR.id with
    | none => pairs
    | some key =>
      match presentText (entryOf link key) with
      | none => pairs
      | some gersId =>
        match overtureByGers overture gersId with
        | none => pairs
        | some overtR =>
          if consumedOverture pairs overtR.id then pairs
          else if (osmResultLinkKey overtR.id).isSome ∧ overtR.id ≠ osmR.id then pairs
          else pairs ++ [(osmR, overtR)]

def linkStage (osm overture : List PoiSearchResult) (link : Option (List (String × String)))
    (pairs : Pairs) : Pairs :=
  match link with
  | none => pairs
  | some [] => pairs
  | some entries => osm.foldl (linkRecord overture entries) pairs

def conflationPoint (deps : FusionDeps) (record : PoiSearchResult) : ConflationPoint :=
  { id := record.id, name := record.name, lat := record.lat, lng := record.lng
    category := record.category, addressKey := none, wikidata := none
    phones := some (deps.parsePhones record.phone)
    website := deps.websiteDomain record.website }

section

variable {Result : Type*} (deps : FusionDeps)
variable (alone : PoiSearchResult → Result) (fuse : PoiSearchResult → PoiSearchResult → Result)
variable (fuel : Nat) (osm overture : List PoiSearchResult) (thresholds : ConflationThresholds)
variable (link : Option (List (String × String)))

def fuseMatched (records others : List PoiSearchResult) (pair : ScoredConflationPair) :
    Option Result :=
  match byId records pair.a.id, byId others pair.b.id with
  | some osmR, some overtR => some (fuse osmR overtR)
  | _, _ => none

def fuseStages : Option (List Result) :=
  if overture = [] then some (osm.map alone)
  else
    let pairs := linkStage osm overture link (identityStage osm overture)
    let identityFused := pairs.map fun pair => fuse pair.1 pair.2
    let remainingOsm := osm.filter fun record => !consumedOsm pairs record.id
    let canonicalOnly := overture.filter fun record =>
      !consumedOverture pairs record.id && (osmResultLinkKey record.id).isSome
    let remainingOverture := overture.filter fun record =>
      !consumedOverture pairs record.id && (osmResultLinkKey record.id).isNone
    if remainingOverture = [] then
      some (identityFused ++ remainingOsm.map alone ++ canonicalOnly.map alone)
    else
      (conflate deps.measures deps.localeCompare (remainingOsm.map (conflationPoint deps))
        (remainingOverture.map (conflationPoint deps)) thresholds fuel).map fun result =>
          let unionFused := result.matched.filterMap (fuseMatched fuse osm remainingOverture)
          let osmOnly := (result.unmatchedA.filterMap fun point => byId osm point.id).map alone
          let overtureOnly :=
            (result.unmatchedB.filterMap fun point => byId remainingOverture point.id).map alone
          identityFused ++ unionFused ++ osmOnly ++ canonicalOnly.map alone ++ overtureOnly

end

def fusePoiResults (deps : FusionDeps) (fuel : Nat) (osm overture : List PoiSearchResult)
    (thresholds : ConflationThresholds) (link : Option (List (String × String))) :
    Option (List PoiSearchResult) :=
  fuseStages deps id (fuseOsmOverturePair deps) fuel osm overture thresholds link

inductive Origin where
  | alone (record : PoiSearchResult)
  | fused (osmR overtR : PoiSearchResult)

def Origin.result (deps : FusionDeps) : Origin → PoiSearchResult
  | .alone record => record
  | .fused osmR overtR => fuseOsmOverturePair deps osmR overtR

def Origin.records : Origin → List PoiSearchResult
  | .alone record => [record]
  | .fused osmR overtR => [osmR, overtR]

def originsOf (deps : FusionDeps) (fuel : Nat) (osm overture : List PoiSearchResult)
    (thresholds : ConflationThresholds) (link : Option (List (String × String))) :
    Option (List Origin) :=
  fuseStages deps .alone .fused fuel osm overture thresholds link

end OpenMapX.Places.PoiFusion
