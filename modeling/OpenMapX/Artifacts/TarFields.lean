import Mathlib.Data.List.Basic

/-!
# Fields of an artifact archive

The pure parts of the extraction: texts and numbers of a tar header, paths, PAX payloads and
what the extended headers leave pending for the next member. A text is what the fatal UTF-8
decoder makes of its bytes.
-/

namespace OpenMapX.Artifacts.TarFields

/-- `UTF8.decode`, which drops a byte order mark. -/
def decode (bytes : List UInt8) : Except String String :=
  match String.fromUTF8? ⟨bytes.toArray⟩ with
  | none => .error "The encoded data was not valid for encoding utf-8"
  | some value =>
    match value.toList with
    | '\uFEFF' :: rest => .ok (String.ofList rest)
    | _ => .ok value

def slice (bytes : List UInt8) (start length : Nat) : List UInt8 := (bytes.drop start).take length

def text (header : List UInt8) (start length : Nat) : Except String String :=
  decode ((slice header start length).takeWhile (· ≠ 0))

/-- The white space and line terminators that `trim` removes. -/
def isSpace (c : Char) : Bool :=
  (9 ≤ c.toNat && c.toNat ≤ 13) || c.toNat = 32 || c.toNat = 160 || c.toNat = 5760 ||
    (8192 ≤ c.toNat && c.toNat ≤ 8202) || c.toNat = 8232 || c.toNat = 8233 || c.toNat = 8239 ||
    c.toNat = 8287 || c.toNat = 12288 || c.toNat = 65279

def trim (value : String) : List Char :=
  (((value.toList.dropWhile isSpace).reverse).dropWhile isSpace).reverse

def numeral (base : Nat) (digits : List Char) : Nat :=
  digits.foldl (fun total c => total * base + (c.toNat - 48)) 0

def isDigit (c : Char) : Bool := '0' ≤ c && c ≤ '9'

def octal (header : List UInt8) (start length : Nat) : Except String Nat := do
  let value := trim (← text header start length)
  if value.any fun c => !('0' ≤ c && c ≤ '7') then .error "Invalid tar numeric field"
  else if 9007199254740991 < numeral 8 value then .error "Invalid tar numeric field"
  else pure (numeral 8 value)

def split (value : String) : List String :=
  ((value.toList.splitOn '/').map String.ofList).filter fun part => part ≠ "" && part ≠ "."

def pathStructure (value label : String) : Except String Unit :=
  if 1024 < value.utf8ByteSize then .error (label ++ " exceeds 1,024 UTF-8 bytes")
  else if 32 < (split value).length then .error (label ++ " exceeds 32 components")
  else if (split value).any fun part => 255 < part.utf8ByteSize then
    .error (label ++ " component exceeds 255 UTF-8 bytes")
  else .ok ()

/-- `/^[A-Za-z]:/`. -/
def hasDrive : List Char → Bool
  | letter :: ':' :: _ => letter.isAlpha
  | _ => false

def unsafePath (value : String) : Bool :=
  value = "" || value.toList.head? = some '/' || hasDrive value.toList ||
    value.toList.any fun c => c = '\\' || c.toNat < 32 || c.toNat = 127

def safePath (value : String) : Except String (List String) := do
  pathStructure value "Artifact path"
  if unsafePath value then .error "Unsafe artifact path"
  else if (split value).any fun part => part = ".." then .error "Unsafe artifact path"
  else pure (split value)

structure Pending where
  path : Option String
  linkpath : Option String
  size : Option String
  deriving DecidableEq

def Pending.none : Pending := ⟨.none, .none, .none⟩

/-- `{ ...pending, ...values }`. -/
def Pending.merge (pending values : Pending) : Pending where
  path := values.path <|> pending.path
  linkpath := values.linkpath <|> pending.linkpath
  size := values.size <|> pending.size

/-- `includes`. -/
def contains (needle : List Char) : List Char → Bool
  | [] => needle.isEmpty
  | c :: rest => needle.isPrefixOf (c :: rest) || contains needle rest

def sparseKey (key : String) : Bool :=
  contains "sparse".toList key.toList || key = "SCHILY.realsize"

def override (values : Pending) (key : String) (value : List UInt8) : Except String Pending := do
  if key = "path" then
    let path ← decode value
    pathStructure path "Artifact path"
    if values.path.isSome then .error "Duplicate PAX override"
    else pure { values with path := some path }
  else if key = "linkpath" then
    let link ← decode value
    pathStructure link "Artifact link target"
    if values.linkpath.isSome then .error "Duplicate PAX override"
    else pure { values with linkpath := some link }
  else if key = "size" then
    let size ← decode value
    if values.size.isSome then .error "Duplicate PAX override"
    else pure { values with size := some size }
  else pure values

def recordLength (bytes : List UInt8) : Except String (Nat × Nat) :=
  let space := (bytes.takeWhile (· ≠ 32)).length
  if space = bytes.length ∨ 20 < space then
    .error "Invalid PAX payload: unterminated trailing data"
  else
    -- `toString("ascii")` clears the upper bit.
    let raw := (bytes.take space).map fun byte => Char.ofNat (byte &&& 127).toNat
    if raw = [] ∨ raw.any (fun c => !isDigit c) then .error "Invalid PAX record length"
    else .ok (numeral 10 raw, space + 1)

def readRecord (values : Pending) (bytes : List UInt8) : Except String (Pending × List UInt8) := do
  let (length, start) ← recordLength bytes
  if 9007199254740991 < length ∨ length ≤ start ∨ bytes.length < length ∨
      bytes[length - 1]? ≠ some 10 then
    .error "Invalid PAX record length or terminating newline"
  else
    let record := (bytes.take (length - 1)).drop start
    let equals := (record.takeWhile (· ≠ 61)).length
    if equals = 0 ∨ equals = record.length then
      .error "Invalid PAX record: missing key/value separator"
    else
      let key ← decode (record.take equals)
      if sparseKey key then .error "Sparse artifact metadata is not supported"
      else
        let next ← override values key (record.drop (equals + 1))
        pure (next, bytes.drop length)

/-- The loop of `pax`, with the number of records that it may still read. -/
def paxRecords : Nat → Pending → List UInt8 → Except String Pending
  | 0, values, bytes =>
    if bytes = [] then .ok values else .error "PAX payload exceeds 256 records"
  | left + 1, values, bytes =>
    if bytes = [] then .ok values
    else do
      let (next, rest) ← readRecord values bytes
      paxRecords left next rest

def pax (bytes : List UInt8) : Except String Pending := paxRecords 256 Pending.none bytes

structure Header where
  kind : String
  size : Nat
  rawPath : String
  link : String
  deriving DecidableEq

def checksumFrom : Nat → List UInt8 → Nat
  | _, [] => 0
  | index, byte :: rest =>
    (if 148 ≤ index ∧ index < 156 then 32 else byte.toNat) + checksumFrom (index + 1) rest

def linkOf (pending : Pending) (header : List UInt8) : Except String String :=
  match pending.linkpath with
  | some link => .ok link
  | none => text header 157 100

def readHeader (pending : Pending) (header : List UInt8) : Except String Header := do
  let expected ← octal header 148 8
  if checksumFrom 0 header ≠ expected then .error "Invalid artifact tar header checksum"
  else
    let name ← text header 0 100
    let directory ← text header 345 155
    let kind ← text header 156 1
    let size ← octal header 124 12
    let link ← linkOf pending header
    pure {
      kind := if kind = "" then "0" else kind
      size
      rawPath := pending.path.getD (if directory = "" then name else directory ++ "/" ++ name)
      link }

def Header.extended (header : Header) : Bool :=
  header.kind = "x" || header.kind = "g" || header.kind = "L" || header.kind = "K"

def padding (size : Nat) : Nat := (512 - size % 512) % 512

def extend (pending : Pending) (kind : String) (bytes : List UInt8) : Except String Pending :=
  if kind = "x" ∨ kind = "g" then do
    let values ← pax bytes
    pure (if kind = "x" then pending.merge values else pending)
  else do
    let value ← text bytes 0 bytes.length
    pathStructure value (if kind = "K" then "Artifact link target" else "Artifact path")
    pure (if kind = "L" then { pending with path := some value }
      else { pending with linkpath := some value })

inductive Placement where
  | root
  | directory (parts : List String)
  | file (parts : List String)
  deriving DecidableEq

def checkSize (pending : Pending) (size : Nat) : Except String Unit :=
  match pending.size with
  | none => .ok ()
  | some value =>
    if value.toList = [] ∨ value.toList.any (fun c => !isDigit c) ∨
        numeral 10 value.toList ≠ size then
      .error "Artifact PAX size does not match header"
    else .ok ()

def checkLink (link : String) : Except String Unit :=
  if link = "" then .ok () else pathStructure link "Artifact link target"

def place (pending : Pending) (header : Header) : Except String Placement := do
  checkSize pending header.size
  let parts ← safePath header.rawPath
  checkLink header.link
  if header.kind ≠ "0" ∧ header.kind ≠ "5" then
    .error ("Unsupported artifact entry type '" ++ header.kind ++ "'")
  else if parts = [] then
    if header.kind ≠ "5" ∨ header.size ≠ 0 then .error "Unsafe artifact root member"
    else pure .root
  else if header.kind = "5" then pure (.directory parts)
  else pure (.file parts)

end OpenMapX.Artifacts.TarFields
