import Mathlib
import OpenMapX.Foundation.TextOrder

/-!
# Keys and comparisons of departures

Departures are compared by normalised line names and headsigns, and looked up in buckets
of two minutes. The normalisation of names, the bigram similarity, the class of letters
and the reading and writing of timestamps are parameters; an absent text is the empty one.
-/

namespace OpenMapX.Transit.DedupKeys

open Foundation.JsText Foundation.TextOrder

structure DedupDeps where
  normalizeName : String → String
  normalizeShortName : String → String
  diceSimilarity : String → String → ℚ
  isLetter : Char → Bool
  parseDate : String → Option Int
  toISOString : Int → Option String

variable (deps : DedupDeps)

def BUCKET : Int := 120000

def bucketTimestamps (ts : String) : String × String :=
  match deps.parseDate ts with
  | none => (ts, ts)
  | some ms =>
    let lower := ms / BUCKET * BUCKET
    let upper := lower + BUCKET
    let mid := lower + BUCKET / 2
    let neighbor := if ms < mid then lower - BUCKET else upper
    match deps.toISOString lower, deps.toISOString neighbor with
    | some first, some second => (first, second)
    | _, _ => (ts, ts)

def tokensOf (text : String) : List String := (text.toList.splitOn ' ').map String.ofList

def normalizeHeadsign (headsign : String) : String :=
  " ".intercalate (sortTexts (tokensOf (deps.normalizeName headsign)))

/-- Bigram similarity at which differently written headsigns still name one destination. -/
def HEADSIGN_SIMILARITY_MIN : ℚ := 6 / 10

def headsignsCompatible (a b : String) : Bool :=
  if a = "" ∨ b = "" then true
  else
    let na := normalizeHeadsign deps a
    let nb := normalizeHeadsign deps b
    if na = "" ∨ nb = "" ∨ na = nb then true
    else
      let ta := (tokensOf na).dedup
      let tb := (tokensOf nb).dedup
      let fewer := if ta.length ≤ tb.length then ta else tb
      let more := if ta.length ≤ tb.length then tb else ta
      if fewer.all fun token => more.contains token then true
      else decide (HEADSIGN_SIMILARITY_MIN ≤ deps.diceSimilarity na nb)

def lineNamesCompatible (a b : String) : Bool :=
  let na := deps.normalizeShortName a
  let nb := deps.normalizeShortName b
  if na = "" ∨ nb = "" ∨ na = nb then true
  else
    let inOrder := (codeUnits na).length ≤ (codeUnits nb).length
    let shorter := if inOrder then na else nb
    let longer := if inOrder then nb else na
    shorter.toList.all deps.isLetter && shorter.toList.isPrefixOf longer.toList &&
      longer.toList.any Char.isDigit

end OpenMapX.Transit.DedupKeys
