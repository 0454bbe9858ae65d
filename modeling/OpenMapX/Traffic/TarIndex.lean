import OpenMapX.Foundation.JsText
import OpenMapX.Traffic.TrafficSpeed

/-!
# The index of a traffic tar

The first member of the tar lists its tiles: where the data of each lies and how many
records it has. An accepted index names tiles that lie inside the file, behind the index
and apart from each other. Numbers of an edge are those of the program, so they need not be
whole.
-/

namespace OpenMapX.Traffic.TarIndex

open Foundation.FileBytes Foundation.JsText TrafficSpeed

def USTAR_HEADER_SIZE : Nat := 512

def USTAR_SIZE_FIELD_OFFSET : Nat := 124

def USTAR_SIZE_FIELD_LENGTH : Nat := 12

def INDEX_BIN_ENTRY_SIZE : Nat := 16

def TRAFFIC_TILE_HEADER_SIZE : Nat := 32

def TRAFFIC_TILE_LAST_UPDATE_OFFSET : Nat := 8

structure TileEntry where
  dataOffset : Nat
  directedEdgeCount : Nat
  deriving DecidableEq

structure EdgeIdentity where
  level : ℚ
  tile : ℚ
  index : ℚ
  deriving DecidableEq

structure ResolvedOffset where
  recordOffset : ℚ
  dataOffset : Nat
  identity : EdgeIdentity
  deriving DecidableEq

abbrev IndexMap := List (Nat × TileEntry)

/-- `toString("ascii")`, which drops the high bits. -/
def asciiText (bytes : List UInt8) : List Nat := bytes.map fun b => b.toNat % 128

def indexName : List Nat := ("index.bin".toList).map Char.toNat

def memberName (file : ByteFile) : List Nat :=
  (asciiText (read file 0 100)).takeWhile fun unit => unit ≠ 0

/-- `Number.parseInt(raw, 8)`; nothing is not a number. -/
def parseOctal (raw : List Nat) : Option ℤ :=
  let (sign, rest) : ℤ × List Nat :=
    match raw with
    | 45 :: rest => (-1, rest)
    | 43 :: rest => (1, rest)
    | _ => (1, raw)
  let digits := rest.takeWhile fun unit => 48 ≤ unit && unit ≤ 55
  if digits = [] then none
  else some (sign * (digits.foldl (fun value unit => 8 * value + (unit - 48)) 0 : Nat))

def trimUnits (units : List Nat) : List Nat :=
  ((units.dropWhile isWhiteSpace).reverse.dropWhile isWhiteSpace).reverse

def readOctalField (file : ByteFile) (offset length : Nat) : Option ℤ :=
  let raw := trimUnits ((asciiText (read file offset length)).filter fun unit => unit ≠ 0)
  if raw = [] then some 0 else parseOctal raw

def readUInt32LE (file : ByteFile) (position : Nat) : Nat := littleEndian (read file position 4)

def readBigUInt64LE (file : ByteFile) (position : Nat) : Nat := littleEndian (read file position 8)

def MAX_SAFE_INTEGER : Nat := 2 ^ 53 - 1

/-- The first offset behind the index, its padding and the next member's header. -/
def minimumOffset (size : Nat) : Nat :=
  USTAR_HEADER_SIZE + (size + (USTAR_HEADER_SIZE - 1)) / USTAR_HEADER_SIZE * USTAR_HEADER_SIZE +
    USTAR_HEADER_SIZE

def tileBoundsValid (file : ByteFile) (size : Nat) (known : IndexMap)
    (offset tileId memberSize : Nat) : Bool :=
  decide (offset ≤ MAX_SAFE_INTEGER) && decide (minimumOffset size ≤ offset) &&
    decide (offset % USTAR_HEADER_SIZE = 0) && decide (TRAFFIC_TILE_HEADER_SIZE ≤ memberSize) &&
    decide ((memberSize - TRAFFIC_TILE_HEADER_SIZE) % TRAFFIC_SPEED_RECORD_SIZE = 0) &&
    decide (offset + memberSize ≤ file.size) && !(known.any fun entry => entry.1 = tileId)

def tileHeaderValid (file : ByteFile) (offset tileId directedEdgeCount : Nat) : Bool :=
  decide (readBigUInt64LE file offset = tileId) &&
    decide (readUInt32LE file (offset + 16) = directedEdgeCount) &&
    decide (readUInt32LE file (offset + 20) = 3)

def parseEntry (file : ByteFile) (size : Nat) (known : IndexMap) (base : Nat) :
    Except String (Nat × TileEntry) :=
  let offset := readBigUInt64LE file (USTAR_HEADER_SIZE + base)
  let tileId := readUInt32LE file (USTAR_HEADER_SIZE + base + 8)
  let memberSize := readUInt32LE file (USTAR_HEADER_SIZE + base + 12)
  if !tileBoundsValid file size known offset tileId memberSize then
    .error "Invalid traffic tile bounds"
  else
    let directedEdgeCount := (memberSize - TRAFFIC_TILE_HEADER_SIZE) / TRAFFIC_SPEED_RECORD_SIZE
    if !tileHeaderValid file offset tileId directedEdgeCount then
      .error "Invalid traffic tile header"
    else .ok (tileId, ⟨offset, directedEdgeCount⟩)

def parseEntries (file : ByteFile) (size : Nat) : List Nat → IndexMap → Except String IndexMap
  | [], known => .ok known
  | base :: rest, known =>
    match parseEntry file size known base with
    | .error message => .error message
    | .ok entry => parseEntries file size rest (known ++ [entry])

def rangeOf (entry : TileEntry) : Nat × Nat :=
  (entry.dataOffset, entry.dataOffset + TRAFFIC_TILE_HEADER_SIZE +
    TRAFFIC_SPEED_RECORD_SIZE * entry.directedEdgeCount)

def overlapping : List (Nat × Nat) → Bool
  | first :: second :: rest => decide (second.1 < first.2) || overlapping (second :: rest)
  | _ => false

def parseIndexBin (file : ByteFile) : Except String IndexMap :=
  if file.size < USTAR_HEADER_SIZE ∨ memberName file ≠ indexName then
    .error "Invalid traffic tar index header"
  else
    match readOctalField file USTAR_SIZE_FIELD_OFFSET USTAR_SIZE_FIELD_LENGTH with
    | none => .error "Invalid traffic tar index size"
    | some size =>
      -- the length of the field keeps the number safe
      if size ≤ 0 ∨ size % INDEX_BIN_ENTRY_SIZE ≠ 0 ∨ 64 * 1024 * 1024 < size ∨
          (file.size : ℤ) < size + USTAR_HEADER_SIZE then
        .error "Invalid traffic tar index size"
      else
        let bases := (List.range (size.toNat / INDEX_BIN_ENTRY_SIZE)).map fun i =>
          INDEX_BIN_ENTRY_SIZE * i
        match parseEntries file size.toNat bases [] with
        | .error message => .error message
        | .ok map =>
          let ranges := (map.map fun entry => rangeOf entry.2).mergeSort
            fun first second => first.1 ≤ second.1
          if overlapping ranges then .error "Overlapping traffic tiles" else .ok map

def getTile (map : IndexMap) (key : ℤ) : Option TileEntry :=
  (map.find? fun entry => (entry.1 : ℤ) = key).map Prod.snd

/-- `BigInt(n)`, which throws for a number that is not whole. -/
def toBigInt (n : ℚ) : Except String ℤ :=
  if n.den = 1 then .ok n.num
  else .error "The number cannot be converted to a BigInt because it is not an integer"

def baseGraphId (id : EdgeIdentity) : Except String ℤ :=
  match toBigInt id.tile with
  | .error message => .error message
  | .ok tile =>
    match toBigInt id.level with
    | .error message => .error message
    | .ok level => .ok (Int.lor (tile <<< (3 : Nat)) level)

inductive Resolution where
  | missingTile
  | outOfBounds
  | found (offset : ResolvedOffset)
  deriving DecidableEq

def resolveIdentityOffset (map : IndexMap) (id : EdgeIdentity) : Except String Resolution :=
  match baseGraphId id with
  | .error message => .error message
  | .ok key =>
    match getTile map key with
    | none => .ok .missingTile
    | some entry =>
      if id.index < 0 ∨ (entry.directedEdgeCount : ℚ) ≤ id.index then .ok .outOfBounds
      else
        .ok (.found
          { recordOffset := entry.dataOffset + TRAFFIC_TILE_HEADER_SIZE +
              TRAFFIC_SPEED_RECORD_SIZE * id.index
            dataOffset := entry.dataOffset
            identity := id })

end OpenMapX.Traffic.TarIndex
