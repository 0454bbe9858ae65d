import OpenMapX.Transit.DedupKeys

/-!
# The merged departure board

The departures of all linked stops are folded into rows, one after another. A row is known
by its place in the list of rows, and keeps the departures that were folded into it.
-/

namespace OpenMapX.Transit.MergedBoard

open Foundation.TextOrder DedupKeys

structure Departure where
  tripId : String
  shortName : String
  headsign : String
  scheduledAt : String
  expectedAt : Option String
  delaySeconds : Option Int
  platform : Option String
  scheduledPlatform : Option String
  canceled : Bool
  remarks : List String
  feedTag : Option String
  deriving DecidableEq

structure Listing where
  provider : String
  departure : Departure
  deriving DecidableEq

structure FoldedDeparture where
  provider : String
  tripId : String
  scheduledAt : String
  line : String
  headsign : String
  platform : Option String
  departure : Departure
  deriving DecidableEq

/-- A row: its departure, updated by what was merged, and the departures folded into it. -/
structure MergedDeparture where
  departure : Departure
  providers : List String
  tripIds : List String
  parts : List FoldedDeparture
  deriving DecidableEq

def truthy (text : Option String) : Option String := text.filter fun text => text ≠ ""

def partOf (listing : Listing) : FoldedDeparture :=
  { provider := listing.provider
    tripId := listing.departure.tripId
    scheduledAt := listing.departure.scheduledAt
    line := listing.departure.shortName
    headsign := listing.departure.headsign
    platform := listing.departure.scheduledPlatform.or listing.departure.platform
    departure := listing.departure }

section

variable (deps : DedupDeps)

/-- The departure has the scheduled time, the line and the direction of the part, and its
platform where both state one. -/
def repeats (part : FoldedDeparture) (dep : Departure) : Bool :=
  let platform := dep.scheduledPlatform.or dep.platform
  part.scheduledAt == dep.scheduledAt &&
    (deps.normalizeShortName part.line == deps.normalizeShortName dep.shortName) &&
    headsignsCompatible deps part.headsign dep.headsign &&
    ((truthy part.platform).isNone || (truthy platform).isNone || part.platform == platform)

inductive MatchedBy where
  | line
  | headsign
  deriving DecidableEq

def isSameDeparture (row : MergedDeparture) (listing : Listing) (matchedBy : MatchedBy) : Bool :=
  let dep := listing.departure
  if dep.tripId ≠ "" ∧ row.parts.any fun part => part.tripId == dep.tripId then true
  else
    let fromSameSource := row.parts.filter fun part => part.provider = listing.provider
    if fromSameSource ≠ [] then fromSameSource.any fun part => repeats deps part dep
    else
      match matchedBy with
      | .line => headsignsCompatible deps row.departure.headsign dep.headsign
      | .headsign => lineNamesCompatible deps row.departure.shortName dep.shortName

def pushNew (values : List String) (value : String) : List String :=
  if value ∈ values then values else values ++ [value]

def mergeInto (existing : MergedDeparture) (dep : Departure) (providerNames : List String) :
    MergedDeparture :=
  let row := existing.departure
  let earlier := dep.scheduledAt ≠ "" ∧ ¬ textLe row.scheduledAt dep.scheduledAt
  let expected := (truthy row.expectedAt).isNone ∧ (truthy dep.expectedAt).isSome
  { existing with
    providers := providerNames.foldl pushNew existing.providers
    tripIds := if dep.tripId = "" then existing.tripIds else pushNew existing.tripIds dep.tripId
    departure :=
      { row with
        tripId := if row.tripId = "" then dep.tripId else row.tripId
        scheduledAt := if earlier then dep.scheduledAt else row.scheduledAt
        expectedAt := if expected then dep.expectedAt else row.expectedAt
        delaySeconds := if expected then dep.delaySeconds else row.delaySeconds
        canceled := row.canceled || dep.canceled
        remarks := dep.remarks.foldl pushNew row.remarks } }

def providerNames (listing : Listing) : List String :=
  let feedProviders := (truthy listing.departure.feedTag).toList ++
    if listing.provider ≠ "" ∧ some listing.provider ≠ listing.departure.feedTag then
      [listing.provider] else []
  if feedProviders = [] then [listing.provider] else feedProviders

def entryFor (listing : Listing) : MergedDeparture :=
  { departure := listing.departure
    providers := providerNames listing
    tripIds := if listing.departure.tripId = "" then [] else [listing.departure.tripId]
    parts := [partOf listing] }

def keysIn (dep : Departure) (bucket : String) : List String :=
  let normShort := deps.normalizeShortName dep.shortName
  let normHeadsign := if dep.headsign = "" then "" else normalizeHeadsign deps dep.headsign
  (normShort ++ ":" ++ bucket) ::
    if normHeadsign = "" then []
    else
      ((truthy dep.platform).toList.map fun platform =>
        "trip:" ++ normHeadsign ++ ":" ++ bucket ++ ":" ++ platform) ++
      ["trip:" ++ normHeadsign ++ ":" ++ bucket]

def ownKeys (dep : Departure) : List String :=
  keysIn deps dep (bucketTimestamps deps dep.scheduledAt).1

def lookupKeys (dep : Departure) : List String :=
  ownKeys deps dep ++ keysIn deps dep (bucketTimestamps deps dep.scheduledAt).2

def matchedBy (key : String) : MatchedBy :=
  if "trip:".toList.isPrefixOf key.toList then .headsign else .line

/-- The rows, and the places of rows under keys in the order of their registration. -/
structure Board where
  rows : List MergedDeparture
  byKey : List (String × Nat)
  deriving DecidableEq

def registerKey (row : Nat) (byKey : List (String × Nat)) (key : String) : List (String × Nat) :=
  if (key, row) ∈ byKey then byKey else byKey ++ [(key, row)]

def register (byKey : List (String × Nat)) (row : Nat) (keys : List String) :
    List (String × Nat) := keys.foldl (registerKey row) byKey

def rowsUnder (board : Board) (key : String) : List Nat :=
  (board.byKey.filter fun entry => entry.1 = key).map (·.2)

def timeGap (first second : String) : Option Nat :=
  match deps.parseDate first, deps.parseDate second with
  | some first, some second => some (first - second).natAbs
  | _, _ => none

/-- The row found so far and its distance; without a distance every row is nearer. -/
structure Nearest where
  existing : Option Nat
  distance : Option Nat

def atLeast (gap distance : Option Nat) : Bool :=
  match gap, distance with
  | some gap, some distance => distance ≤ gap
  | _, _ => false

def consider (board : Board) (listing : Listing) (nearest : Nearest)
    (candidate : MatchedBy × Nat) : Nearest :=
  match board.rows[candidate.2]? with
  | none => nearest
  | some row =>
    let gap := timeGap deps row.departure.scheduledAt listing.departure.scheduledAt
    if atLeast gap nearest.distance ∨ ¬ isSameDeparture deps row listing candidate.1 then nearest
    else { existing := some candidate.2, distance := gap }

def candidates (board : Board) (listing : Listing) : List (MatchedBy × Nat) :=
  (lookupKeys deps listing.departure).flatMap fun key =>
    (rowsUnder board key).map fun row => (matchedBy key, row)

def findRow (board : Board) (listing : Listing) : Option Nat :=
  ((candidates deps board listing).foldl (consider deps board listing)
    { existing := none, distance := none }).existing

def foldListing (board : Board) (listing : Listing) : Board :=
  match findRow deps board listing with
  | none =>
    { rows := board.rows ++ [entryFor listing]
      byKey := register board.byKey board.rows.length (ownKeys deps listing.departure) }
  | some existing =>
    { rows := board.rows.modify existing fun row =>
        mergeInto { row with parts := row.parts ++ [partOf listing] } listing.departure
          (providerNames listing)
      byKey := register board.byKey existing (lookupKeys deps listing.departure) }

def mergeListings (listings : List Listing) : Board :=
  listings.foldl (foldListing deps) { rows := [], byKey := [] }

end

structure StopBoard where
  provider : String
  departures : Option (List Departure)

def listingsOf (stops : List StopBoard) : List Listing :=
  stops.flatMap fun stop => (stop.departures.getD []).map fun departure =>
    { provider := stop.provider, departure := departure }

def buildMergedTimetable (deps : DedupDeps) (stops : List StopBoard) :
    Except String (List MergedDeparture) :=
  if stops = [] then .ok []
  else if stops.all fun stop => stop.departures.isNone then
    .error "Transit timetable sources unavailable"
  else .ok (mergeListings deps (listingsOf stops)).rows

end OpenMapX.Transit.MergedBoard
