import OpenMapX.Artifacts.TarFields

/-!
# The artifact stream

A pull reader over chunks, the two byte limits, and the extraction of a tar stream below a
destination. What Node does between the wire and the tar reader (its readable stream and gunzip)
is a parameter: it may cut the bytes again, and it fails if its source or the gzip data does.
-/

namespace OpenMapX.Artifacts.ArtifactStream

open TarFields

/-- The rest of the current chunk, the chunks to come, and the error in which the source ends. -/
structure ByteSource where
  current : List UInt8
  chunks : List (List UInt8)
  failure : Option String

def openSource (chunks : List (List UInt8)) (failure : Option String) : ByteSource :=
  ⟨[], chunks, failure⟩

def pull (maximum : Nat) (failure : Option String) :
    List (List UInt8) → Except String (Option (List UInt8) × ByteSource)
  | [] =>
    match failure with
    | some message => .error message
    | none => .ok (none, ⟨[], [], none⟩)
  | chunk :: rest =>
    if 1048576 < chunk.length then
      .error "Artifact source chunk exceeds bounded decoder limit"
    else if chunk = [] then pull maximum failure rest
    else .ok (some (chunk.take maximum), ⟨chunk.drop maximum, rest, failure⟩)

def part (source : ByteSource) (maximum : Nat) : Except String (Option (List UInt8) × ByteSource) :=
  if source.current = [] then pull maximum source.failure source.chunks
  else .ok (some (source.current.take maximum),
    { source with current := source.current.drop maximum })

/-- Parts of at most `cap` bytes until there are `needed` bytes or the source ends. Each part has a
byte, so that `needed` is fuel enough. -/
def collect (cap : Nat) : Nat → Nat → ByteSource → Except String (List UInt8 × ByteSource)
  | 0, _, source => .ok ([], source)
  | fuel + 1, needed, source =>
    if needed = 0 then .ok ([], source)
    else do
      let (bytes, source) ← part source (min needed cap)
      match bytes with
      | none => pure ([], source)
      | some bytes => do
          let (rest, source) ← collect cap fuel (needed - bytes.length) source
          pure (bytes ++ rest, source)

def exact (source : ByteSource) (length : Nat) (allowEof : Bool) (label : String) :
    Except String (Option (List UInt8) × ByteSource) := do
  let (bytes, source) ← collect length length length source
  if bytes.length = length then pure (some bytes, source)
  else if bytes = [] ∧ allowEof then pure (none, source)
  else .error label

def payload (source : ByteSource) (size : Nat) : Except String (List UInt8 × ByteSource) := do
  let (bytes, source) ← collect 65536 size size source
  if bytes.length = size then pure (bytes, source)
  else .error "Artifact tar payload is truncated"

def held (source : ByteSource) : List UInt8 := source.current ++ source.chunks.flatten

/-- The parts of `remaining` and the error in which they end. -/
def remainingParts : Nat → ByteSource → List (List UInt8) × Option String
  | 0, _ => ([], none)
  | fuel + 1, source =>
    match part source 65536 with
    | .error message => ([], some message)
    | .ok (none, _) => ([], none)
    | .ok (some bytes, source) =>
      (bytes :: (remainingParts fuel source).1, (remainingParts fuel source).2)

/-- `remaining`; each part but the last has a byte. -/
def remaining (source : ByteSource) : List (List UInt8) × Option String :=
  remainingParts ((held source).length + 1) source

/-- The chunks that pass while their bytes are counted: `hashed` and `bounded`. -/
def counted (maximum : Nat) (message : String) (failure : Option String) :
    Nat → List (List UInt8) → List (List UInt8) × Option String
  | _, [] => ([], failure)
  | total, chunk :: rest =>
    if 9007199254740991 < total + chunk.length ∨ maximum < total + chunk.length then
      ([], some message)
    else
      (chunk :: (counted maximum message failure (total + chunk.length) rest).1,
        (counted maximum message failure (total + chunk.length) rest).2)

def hashed (maxArtifactBytes : Nat) (chunks : List (List UInt8)) :
    List (List UInt8) × Option String :=
  counted maxArtifactBytes ("Artifact size exceeds max " ++ toString maxArtifactBytes ++ " bytes")
    none 0 chunks

def bounded (maxExpandedBytes : Nat) (chunks : List (List UInt8)) (failure : Option String) :
    List (List UInt8) × Option String :=
  counted maxExpandedBytes
    ("Artifact extracted size exceeds max " ++ toString maxExpandedBytes ++ " bytes") failure 0
    chunks

inductive Node where
  | directory
  | file (bytes : List UInt8)
  | other
  deriving DecidableEq

abbrev Tree := List (List String × Node)

def nodeAt (tree : Tree) (path : List String) : Option Node :=
  (tree.find? fun entry => entry.1 = path).map Prod.snd

/-- `component`. -/
def safeComponent (name : String) : Bool :=
  name ≠ "" && name ≠ "." && name ≠ ".." && name.utf8ByteSize ≤ 255 &&
    name.toList.all fun c => c ≠ '/' && c ≠ '\\' && 32 ≤ c.toNat && c.toNat ≠ 127

/-- `AnchoredDirectory.directory`, which makes the directory if there is nothing. -/
def openDirectory (tree : Tree) (parent : List String) (name : String) : Except String Tree :=
  if safeComponent name then
    match nodeAt tree (parent ++ [name]) with
    | none => .ok (tree ++ [(parent ++ [name], .directory)])
    | some .directory => .ok tree
    | some (.file _) => .error "ENOTDIR"
    | some .other => .error "ELOOP"
  else .error "Unsafe filesystem component"

def openParents (tree : Tree) : List String → List String → Except String Tree
  | _, [] => .ok tree
  | parent, name :: rest => do
      let made ← openDirectory tree parent name
      openParents made (parent ++ [name]) rest

/-- `O_CREAT | O_EXCL | O_NOFOLLOW` below the opened parents. -/
def createFile (tree : Tree) (parts : List String) (bytes : List UInt8) : Except String Tree :=
  if (parts.getLast?).all safeComponent then
    match nodeAt tree parts with
    | none => .ok (tree ++ [(parts, .file bytes)])
    | some _ => .error "EEXIST"
  else .error "Unsafe filesystem component"

def zeros (bytes : List UInt8) : Bool := bytes.all (· = 0)

def fresh (seen : List (List String)) (parts : List String) : Except String Unit :=
  if parts ∈ seen then .error "Duplicate normalized artifact entry" else .ok ()

/-- One member behind its header. The paths of `seen` are joined components in the source. -/
def member (source : ByteSource) (header : Header) (seen : List (List String)) (tree : Tree) :
    Placement → Except String (ByteSource × List (List String) × Tree)
  | .root => .ok (source, seen, tree)
  | .directory parts => do
      fresh seen parts
      if header.size ≠ 0 then .error "Artifact directory has a payload"
      else
        let made ← openParents tree [] parts
        pure (source, parts :: seen, made)
  | .file parts => do
      fresh seen parts
      let made ← openParents tree [] parts.dropLast
      let _ ← createFile made parts []
      let (bytes, source) ← payload source header.size
      let written ← createFile made parts bytes
      let (fill, source) ← exact source (padding header.size) false
        "Artifact tar payload padding is truncated"
      if fill.all zeros then pure (source, parts :: seen, written)
      else .error "Invalid artifact tar padding"

def headerBlock (source : ByteSource) : Except String (List UInt8 × ByteSource) := do
  let (block, source) ← exact source 512 true "Artifact contains a partial tar header"
  match block with
  | none => .error "Artifact tar is truncated or missing end blocks"
  | some block => pure (block, source)

def endBlocks (source : ByteSource) (pending : Pending) (tree : Tree) :
    Except String (ByteSource × Tree) := do
  let (second, source) ← exact source 512 false "Artifact tar payload is truncated"
  if !(second.all zeros) then .error "Invalid artifact tar end blocks"
  else if pending ≠ Pending.none then
    .error "Artifact tar is truncated or missing end blocks"
  else pure (source, tree)

/-- The loop over the headers, with the number of headers that it may still read. -/
def members : Nat → ByteSource → Pending → List (List String) → Tree →
    Except String (ByteSource × Tree)
  | 0, source, pending, _, tree => do
      let (block, source) ← headerBlock source
      if zeros block then endBlocks source pending tree
      else .error "Artifact tar header limit exceeded: maximum 4,096"
  | left + 1, source, pending, seen, tree => do
      let (block, source) ← headerBlock source
      if zeros block then endBlocks source pending tree
      else do
        let header ← readHeader pending block
        if header.extended then
          if 16384 < header.size then .error "Artifact extended header exceeds 16 KiB"
          else do
            let (bytes, source) ← exact source header.size false
              "Artifact tar payload is truncated"
            let next ← extend pending header.kind (bytes.getD [])
            let (_, source) ← exact source (padding header.size) false
              "Artifact tar payload padding is truncated"
            members left source next seen tree
        else do
          let placement ← place pending header
          let (source, seen, tree) ← member source header seen tree placement
          members left source Pending.none seen tree

/-- `/^\x1f\x8b/`. -/
def isGzip : List UInt8 → Bool
  | 31 :: 139 :: _ => true
  | _ => false

def expand (gunzip : List UInt8 → Option (List UInt8)) (bytes : List UInt8) :
    Option (List UInt8) := if isGzip bytes then gunzip bytes else some bytes

structure Streams (gunzip : List UInt8 → Option (List UInt8)) where
  deliver : List (List UInt8) → Option String → List (List UInt8) × Option String
  small : ∀ parts failure, ∀ chunk ∈ (deliver parts failure).1, chunk.length ≤ 1048576
  whole : ∀ parts bytes, expand gunzip parts.flatten = some bytes →
    (deliver parts none).1.flatten = bytes ∧ (deliver parts none).2 = none
  broken : ∀ parts failure, failure ≠ none ∨ expand gunzip parts.flatten = none →
    (deliver parts failure).2 ≠ none

structure Options where
  expectedSha256 : Option String
  maxArtifactBytes : Nat
  maxExpandedBytes : Nat

structure Result where
  archiveSha256 : String
  expandedBytes : Nat
  deriving DecidableEq

section

variable (digest : List UInt8 → String) {gunzip : List UInt8 → Option (List UInt8)}

def checkTrailing (trailing : List (List UInt8) × Option String) : Except String Unit :=
  if trailing.1.all zeros then
    match trailing.2 with
    | some message => .error message
    | none => .ok ()
  else .error "Artifact has unexplained trailing data"

def checkDigest (options : Options) (archiveSha256 : String) : Except String Unit :=
  match options.expectedSha256 with
  | none => .ok ()
  | some expected =>
    -- An empty digest is not compared.
    if expected ≠ "" ∧ archiveSha256 ≠ expected then .error "Artifact sha256 mismatch"
    else .ok ()

def extractTar (options : Options) (archiveSha256 : String)
    (limited : List (List UInt8) × Option String) (destination : Tree) :
    Except String (Result × Tree) := do
  let (reader, tree) ← members 4096 (openSource limited.1 limited.2) Pending.none [] destination
  checkTrailing (remaining reader)
  checkDigest options archiveSha256
  pure (⟨archiveSha256, limited.1.flatten.length⟩, tree)

/-- The destination is extracted to while `source` lasts; its digest is that of all its bytes. -/
def extractIntegrationArtifactStream (streams : Streams gunzip) (options : Options)
    (source : List (List UInt8)) (destination : Tree) : Except String (Result × Tree) := do
  let passed := hashed options.maxArtifactBytes source
  let (magic, wire) ← exact (openSource passed.1 passed.2) 2 false
    "Artifact tar payload is truncated"
  let supplied := remaining wire
  let expanded := streams.deliver (magic.getD [] :: supplied.1) supplied.2
  extractTar options (digest source.flatten)
    (bounded options.maxExpandedBytes expanded.1 expanded.2) destination

end

end OpenMapX.Artifacts.ArtifactStream
