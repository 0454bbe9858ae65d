import OpenMapX.Foundation.JsonValue
import OpenMapX.Foundation.KeyedList
import OpenMapX.Foundation.TextOrder
import OpenMapX.Traffic.TarIndex

/-!
# The live traffic writer

A call plans one record for each edge, journals what it may write, writes in place, clears
what it no longer writes and commits. Its effects on the files are listed in order, so that
a crash or an error of a file operation leaves the effect of the operations before it.
-/

namespace OpenMapX.Traffic.WriteLive

open Foundation.FileBytes Foundation.JsText Foundation.JsonValue Foundation.KeyedList
  Foundation.TextOrder TrafficSpeed TarIndex

def TRAFFIC_LEASE_MAX_MS : ℤ := 300000

structure WayEdge where
  forward : Bool
  edge : EdgeIdentity

/-- A closure or a speed cap of one edge; a cap that is not finite is `none`. -/
structure EdgeOverride where
  edge : EdgeIdentity
  closed : Bool
  capKph : Option ℚ
  observationId : String
  contributorIds : Option (List String)

structure WriteLiveTrafficDeps where
  /-- `Date.parse` of the deadline, if one is given. -/
  validUntil : Option (Option ℤ)
  graphGeneration : Option String
  csv : String
  waysToEdges : ℚ → Option (List WayEdge)
  overrides : List EdgeOverride

/-- What a call meets: the maintenance marker, a graph that changed during planning, and
the clock at each of its readings, in milliseconds. -/
structure Surroundings where
  maintenance : Bool
  graphChanged : Bool
  journalNow : Nat
  deadlineNow : Nat
  boundNow : Nat
  writeNow : Nat
  stampNow : Nat

inductive Contents where
  | missing
  | text (parsed : Option Json)

inductive JournalPhase where
  | pending
  | committed
  deriving DecidableEq

structure TrafficJournal where
  graphGeneration : Json
  phase : JournalPhase
  validUntil : ℚ
  identities : List EdgeIdentity
  uncertain : Bool

structure Disk where
  tar : ByteFile
  tarIdentity : Nat
  state : Contents
  journal : Contents

inductive FileOp where
  | tarWrite (position : ℚ) (data : List UInt8)
  | fsync
  | saveIdentities (identities : List EdgeIdentity)
  | saveJournal (journal : TrafficJournal)

def identityJson (id : EdgeIdentity) : Json :=
  .object [("level", .number id.level), ("tile", .number id.tile), ("index", .number id.index)]

def phaseText : JournalPhase → String
  | .pending => "pending"
  | .committed => "committed"

/-- A journal as it is saved; it reads alike whether a false flag is saved or left out. -/
def journalJson (journal : TrafficJournal) : Json :=
  .object [("schemaVersion", .number 1), ("graphGeneration", journal.graphGeneration),
    ("phase", .string (phaseText journal.phase)), ("validUntil", .number journal.validUntil),
    ("identities", .array (journal.identities.map identityJson)),
    ("uncertain", .bool journal.uncertain)]

/-- The open tar keeps a position of its own, which a write at a number that is not whole
uses and moves. -/
structure Handle where
  disk : Disk
  position : Nat

def writeStart (handle : Handle) (position : ℚ) : Nat :=
  if position.den = 1 then position.num.toNat else handle.position

def applyOp (handle : Handle) : FileOp → Handle
  | .tarWrite position data =>
    { disk :=
        { handle.disk with tar := write handle.disk.tar (writeStart handle position) data }
      position :=
        if position.den = 1 then handle.position else handle.position + data.length }
  | .fsync => handle
  | .saveIdentities identities =>
    { handle with
      disk :=
        { handle.disk with state := .text (some (.array (identities.map identityJson))) } }
  | .saveJournal journal =>
    { handle with
      disk := { handle.disk with journal := .text (some (journalJson journal)) } }

def applyOps (handle : Handle) (ops : List FileOp) : Handle := ops.foldl applyOp handle

def readNumber : Option Json → Option ℚ
  | some (.number n) => some n
  | _ => none

def readIdentity (entry : Json) : Option EdgeIdentity :=
  match readNumber (entry.member "level"), readNumber (entry.member "tile"),
      readNumber (entry.member "index") with
  | some level, some tile, some index => some ⟨level, tile, index⟩
  | _, _, _ => none

def loadPreviousIdentities : Contents → Option (List EdgeIdentity)
  | .text (some (.array entries)) => some (entries.filterMap readIdentity)
  | _ => none

/-- `Number.isSafeInteger(n) && n >= 0`. -/
def isSafeIndex (n : ℚ) : Bool := decide (n.den = 1) && decide (0 ≤ n) &&
  decide (n ≤ (MAX_SAFE_INTEGER : ℚ))

def readSafeIdentity (entry : Json) : Option EdgeIdentity :=
  (readIdentity entry).filter fun id => isSafeIndex id.level && isSafeIndex id.tile &&
    isSafeIndex id.index

def readPhase : Option Json → Option JournalPhase
  | some (.string text) =>
    if text = "pending" then some .pending
    else if text = "committed" then some .committed
    else none
  | _ => none

inductive JournalRead where
  | absent
  | corrupt
  | found (journal : TrafficJournal)

def readJournalJson (now : Nat) (value : Json) : Option TrafficJournal :=
  match readNumber (value.member "schemaVersion"), value.member "graphGeneration",
      readPhase (value.member "phase"), readNumber (value.member "validUntil"),
      value.member "identities" with
  | some version, some generation, some phase, some validUntil, some (.array entries) =>
    if version ≠ 1 ∨ Json.falsy (some generation) = true ∨
        ((now : ℤ) + TRAFFIC_LEASE_MAX_MS : ℚ) < validUntil ∨
        entries.any (fun entry => (readSafeIdentity entry).isNone) then none
    else
      let journal (uncertain : Bool) : TrafficJournal :=
        ⟨generation, phase, validUntil, entries.filterMap readSafeIdentity, uncertain⟩
      match value.member "uncertain" with
      | none => some (journal false)
      | some (.bool uncertain) => some (journal uncertain)
      | some _ => none
  | _, _, _, _, _ => none

def readJournal (now : Nat) : Contents → JournalRead
  | .missing => .absent
  | .text none => .corrupt
  | .text (some value) =>
    match readJournalJson now value with
    | none => .corrupt
    | some journal => .found journal

structure CsvRow where
  wayId : ℚ
  forward : Bool
  currentKph : Option ℚ

/-- `split(/\r?\n/)`. -/
def splitLines : List Char → List (List Char)
  | [] => [[]]
  | '\r' :: '\n' :: rest => [] :: splitLines rest
  | '\n' :: rest => [] :: splitLines rest
  | c :: rest =>
    match splitLines rest with
    | line :: lines => (c :: line) :: lines
    | [] => [[c]]

section

variable (toNumber : List Char → Option ℚ)
  (digest : Nat × Nat × Option String × IndexMap → String)

/-- One data line; `toNumber` is `Number`, if it is finite. -/
def parseRow (line : List Char) : Option CsvRow :=
  let parts := line.splitOn ','
  let direction := trim (parts.getD 1 [])
  match toNumber (parts.getD 0 []) with
  | none => none
  | some wayId =>
    if direction ≠ ['f'] ∧ direction ≠ ['b'] then none
    else
      let kphRaw := trim (parts.getD 2 [])
      some ⟨wayId, direction = ['f'], if kphRaw = [] then none else toNumber kphRaw⟩

def dataLines (csv : String) : List (List Char) :=
  ((splitLines csv.toList).drop 1).filter fun line => trim line ≠ []

structure PlannedWrite where
  offset : ResolvedOffset
  kph : Option ℚ
  closed : Bool
  capped : Bool
  observationId : Option String
  contributorIds : List String

structure Planning where
  planned : List PlannedWrite
  matched : Nat
  outOfBounds : Nat
  overridesUnresolved : Nat
  unresolvedObservationIds : List String

def plannedEdge (write : PlannedWrite) : EdgeIdentity := write.offset.identity

def identitiesOf (planned : List PlannedWrite) : List EdgeIdentity := planned.map plannedEdge

def resolveOffsets (map : IndexMap) (forward : Bool) :
    List WayEdge → Except String (List ResolvedOffset × Nat)
  | [] => .ok ([], 0)
  | edge :: rest =>
    if edge.forward ≠ forward then resolveOffsets map forward rest
    else
      match resolveIdentityOffset map edge.edge with
      | .error message => .error message
      | .ok resolution =>
        match resolveOffsets map forward rest with
        | .error message => .error message
        | .ok (found, outside) =>
          match resolution with
          | .missingTile => .ok (found, outside)
          | .outOfBounds => .ok (found, outside + 1)
          | .found offset => .ok (offset :: found, outside)

def planRow (deps : WriteLiveTrafficDeps) (map : IndexMap) (planning : Planning) (row : CsvRow) :
    Except String Planning :=
  match deps.waysToEdges row.wayId with
  | none => .ok planning
  | some edges =>
    if edges = [] then .ok planning
    else
      match resolveOffsets map row.forward edges with
      | .error message => .error message
      | .ok (offsets, outside) =>
        .ok
          { planning with
            matched := planning.matched + 1
            outOfBounds := planning.outOfBounds + outside
            planned := offsets.foldl
              (fun planned offset =>
                setKey plannedEdge planned ⟨offset, row.currentKph, false, false, none, []⟩)
              planning.planned }

def contributorsOf (override : EdgeOverride) : List String :=
  override.contributorIds.getD [override.observationId]

def joinedContributors (previous : Option PlannedWrite) (override : EdgeOverride) : List String :=
  ((previous.map PlannedWrite.contributorIds).getD [] ++ contributorsOf override).eraseDups

def noteUnresolved (planning : Planning) (override : EdgeOverride) : Planning :=
  { planning with
    overridesUnresolved := planning.overridesUnresolved + 1
    unresolvedObservationIds := planning.unresolvedObservationIds ++ contributorsOf override }

def capUnresolved (previous : Option PlannedWrite) (override : EdgeOverride) : Bool :=
  !(previous.any PlannedWrite.closed) &&
    (isUnknown (previous.bind PlannedWrite.kph) || isUnknown override.capKph)

def cappedSpeed (previous : Option PlannedWrite) (override : EdgeOverride) : Option ℚ :=
  match previous.bind PlannedWrite.kph, override.capKph with
  | some kph, some cap => some (min kph cap)
  | _, cap => cap

def planOverride (map : IndexMap) (planning : Planning) (override : EdgeOverride) :
    Except String Planning :=
  match resolveIdentityOffset map override.edge with
  | .error message => .error message
  | .ok .missingTile => .ok (noteUnresolved planning override)
  | .ok .outOfBounds =>
    .ok (noteUnresolved { planning with outOfBounds := planning.outOfBounds + 1 } override)
  | .ok (.found offset) =>
    let previous := findKey plannedEdge planning.planned override.edge
    if override.closed then
      .ok
        { planning with
          planned := setKey plannedEdge planning.planned
            ⟨offset, none, true, false, some override.observationId,
              joinedContributors previous override⟩ }
    else if capUnresolved previous override then .ok (noteUnresolved planning override)
    else
      let closed := previous.any PlannedWrite.closed
      .ok
        { planning with
          planned := setKey plannedEdge planning.planned
            { offset := offset
              kph := cappedSpeed previous override
              closed := closed
              capped := !closed
              observationId :=
                if closed then previous.bind PlannedWrite.observationId
                else some override.observationId
              contributorIds := joinedContributors previous override } }

def foldSteps {State Item : Type} (step : State → Item → Except String State) :
    List Item → State → Except String State
  | [], state => .ok state
  | item :: rest, state =>
    match step state item with
    | .error message => .error message
    | .ok next => foldSteps step rest next

def planAll (deps : WriteLiveTrafficDeps) (map : IndexMap) : Except String Planning :=
  let rows := (dataLines deps.csv).filterMap (parseRow toNumber)
  match foldSteps (planRow deps map) rows ⟨[], 0, 0, 0, []⟩ with
  | .error message => .error message
  | .ok planning => foldSteps (planOverride map) deps.overrides planning

def namesGeneration (journal : TrafficJournal) (generation : String) : Bool :=
  match journal.graphGeneration with
  | .string named => named = generation
  | _ => false

def priorIdentities (disk : Disk) (journalNow : Nat) (generation : String) :
    Option (List EdgeIdentity) × Bool :=
  match readJournal journalNow disk.journal with
  | .found journal =>
    if !namesGeneration journal generation || journal.uncertain then
      (loadPreviousIdentities disk.state, true)
    else (some journal.identities, false)
  | _ => (loadPreviousIdentities disk.state, true)

def RECORDS_PER_BLOCK : Nat := 131072

def clearedRecord : List UInt8 := encodeTrafficSpeed none

def recordsStart (entry : TileEntry) : Nat := entry.dataOffset + TRAFFIC_TILE_HEADER_SIZE

def clearRecord (record : List UInt8) : List UInt8 :=
  if breakpointOf record ≠ 0 then clearedRecord else record

def clearBlock (tar : ByteFile) (entry : TileEntry) (block : Nat) : List FileOp :=
  let first := RECORDS_PER_BLOCK * block
  let start := recordsStart entry + TRAFFIC_SPEED_RECORD_SIZE * first
  let records := (List.range (min RECORDS_PER_BLOCK (entry.directedEdgeCount - first))).map
    fun i => read tar (start + TRAFFIC_SPEED_RECORD_SIZE * i) TRAFFIC_SPEED_RECORD_SIZE
  if records.any fun record => breakpointOf record ≠ 0 then
    [.tarWrite start (records.flatMap clearRecord)]
  else []

/-- The clearing of a tile. Blocks lie apart, so each is read as it was before the call. -/
def clearTile (tar : ByteFile) (entry : TileEntry) : List FileOp :=
  let blocks := (entry.directedEdgeCount + (RECORDS_PER_BLOCK - 1)) / RECORDS_PER_BLOCK
  (List.range blocks).flatMap (clearBlock tar entry)

def recordFor (write : PlannedWrite) : List UInt8 :=
  if write.closed then encodeClosedTrafficSpeed else encodeTrafficSpeed write.kph

def writePlanned (write : PlannedWrite) : FileOp :=
  .tarWrite write.offset.recordOffset (recordFor write)

/-- Clears what the last call wrote and this one did not, up to the first error. -/
def clearStale (map : IndexMap) (written : List EdgeIdentity) :
    List EdgeIdentity → List FileOp × Option String
  | [] => ([], none)
  | id :: rest =>
    if id ∈ written then clearStale map written rest
    else
      match resolveIdentityOffset map id with
      | .error message => ([], some message)
      | .ok (.found stale) =>
        let (ops, failure) := clearStale map written rest
        (.tarWrite stale.recordOffset clearedRecord :: ops, failure)
      | .ok _ => clearStale map written rest

def stampTiles (stampNow : Nat) (dataOffsets : List Nat) : List FileOp :=
  dataOffsets.map fun dataOffset =>
    .tarWrite ((dataOffset + TRAFFIC_TILE_LAST_UPDATE_OFFSET : Nat) : ℚ)
      (littleEndianBytes 8 (stampNow / 1000))

structure WriteLiveTrafficResult where
  written : Nat
  matched : Nat
  total : Nat
  outOfBounds : Nat
  closedEdges : Nat
  cappedEdges : Nat
  overridesUnresolved : Nat
  appliedObservationIds : List String

def resultOf (deps : WriteLiveTrafficDeps) (planning : Planning) (written : List PlannedWrite) :
    WriteLiveTrafficResult where
  written := written.length
  matched := planning.matched
  total := (dataLines deps.csv).length
  outOfBounds := planning.outOfBounds
  closedEdges := (written.filter PlannedWrite.closed).length
  cappedEdges := (written.filter PlannedWrite.capped).length
  overridesUnresolved := planning.overridesUnresolved
  appliedObservationIds := sortTexts
    (((written.flatMap PlannedWrite.contributorIds).eraseDups).filter fun id =>
      !planning.unresolvedObservationIds.contains id)

def writtenOf (around : Surroundings) (planned : List PlannedWrite) (validUntil : ℤ) :
    List PlannedWrite :=
  if validUntil ≤ around.writeNow then [] else planned

def pendingJournal (generation : String) (prior : Option (List EdgeIdentity) × Bool)
    (planned : List PlannedWrite) (validUntil : ℤ) : TrafficJournal where
  graphGeneration := .string generation
  phase := .pending
  validUntil := validUntil
  identities := (prior.1.getD [] ++ identitiesOf planned).eraseDups
  uncertain := prior.2

def clearOps (tar : ByteFile) (map : IndexMap) (clearAll : Bool) : List FileOp :=
  if clearAll then map.flatMap fun entry => clearTile tar entry.2 else []

def commitOps (around : Surroundings) (written : List PlannedWrite) (pending : TrafficJournal) :
    List FileOp :=
  stampTiles around.stampNow (written.map fun write => write.offset.dataOffset).eraseDups ++
    [.fsync, .saveIdentities (identitiesOf written),
      .saveJournal
        { pending with
          phase := .committed
          identities := identitiesOf written
          uncertain := false }]

/-- Once everything is planned and the deadline is known: the operations up to an error. -/
def writeAll (deps : WriteLiveTrafficDeps) (around : Surroundings) (disk : Disk)
    (map : IndexMap) (generation : String) (planning : Planning) (validUntil : ℤ) :
    List FileOp × Except String WriteLiveTrafficResult :=
  let prior := priorIdentities disk around.journalNow generation
  let pending := pendingJournal generation prior planning.planned validUntil
  let written := writtenOf around planning.planned validUntil
  let stale := clearStale map (identitiesOf written) (prior.1.getD [])
  let begun := .saveJournal pending ::
    (clearOps disk.tar map prior.2 ++ written.map writePlanned ++ stale.1)
  match stale.2 with
  | some message => (begun, .error message)
  | none => (begun ++ commitOps around written pending, .ok (resultOf deps planning written))

def generationOf (graphGeneration : Option String) (disk : Disk) (map : IndexMap) : String :=
  digest (disk.tarIdentity, disk.tar.size, graphGeneration, map)

def requestedDeadline (deps : WriteLiveTrafficDeps) (around : Surroundings) : Option ℤ :=
  deps.validUntil.getD (some (around.deadlineNow + TRAFFIC_LEASE_MAX_MS))

def deadlineOf (around : Surroundings) (requested : ℤ) : ℤ :=
  min requested (around.boundNow + TRAFFIC_LEASE_MAX_MS)

def writeLiveTrafficLocked (deps : WriteLiveTrafficDeps) (around : Surroundings) (disk : Disk) :
    List FileOp × Except String WriteLiveTrafficResult :=
  if around.maintenance then ([], .error "Traffic graph maintenance is in progress")
  else
    match parseIndexBin disk.tar with
    | .error message => ([], .error message)
    | .ok map =>
      match planAll toNumber deps map with
      | .error message => ([], .error message)
      | .ok planning =>
        match requestedDeadline deps around with
        | none => ([], .error "Invalid traffic write deadline")
        | some requested =>
          if around.graphChanged then ([], .error "Traffic graph changed during planning")
          else
            writeAll deps around disk map
              (generationOf digest deps.graphGeneration disk map) planning
              (deadlineOf around requested)

def expireDeps : WriteLiveTrafficDeps where
  validUntil := none
  graphGeneration := none
  csv := "way_id,dir,current_kph,free_flow_kph,los\n"
  waysToEdges := fun _ => none
  overrides := []

def leaseHolds (now : Nat) (around : Surroundings) (disk : Disk) : Bool :=
  match readJournal around.journalNow disk.journal with
  | .found journal => journal.phase = .committed && decide ((now : ℚ) < journal.validUntil)
  | _ => false

/-- `false` if the lease still holds, else the call that clears everything, for any graph. -/
def expireLiveTraffic (now : Nat) (around : Surroundings) (disk : Disk) :
    List FileOp × Except String Bool :=
  if leaseHolds now around disk then ([], .ok false)
  else
    let (ops, result) := writeLiveTrafficLocked toNumber digest expireDeps
      { around with graphChanged := false } disk
    (ops, result.map fun _ => true)

end

end OpenMapX.Traffic.WriteLive
