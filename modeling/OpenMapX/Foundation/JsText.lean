import Mathlib.Data.String.Basic

/-!
# JavaScript text

What `\s` and `trim` take for white space, and the UTF-16 code units that
`length` and `charCodeAt` count.
-/

namespace OpenMapX.Foundation.JsText

/-- White space and line ends, as `\s` reads them. -/
def isWhiteSpace (unit : Nat) : Bool :=
  (9 ≤ unit && unit ≤ 13) || unit == 32 || unit == 0xA0 || unit == 0x1680
    || (0x2000 ≤ unit && unit ≤ 0x200A) || unit == 0x2028 || unit == 0x2029
    || unit == 0x202F || unit == 0x205F || unit == 0x3000 || unit == 0xFEFF

def codeUnitsOf (c : Char) : List Nat :=
  if c.toNat < 0x10000 then [c.toNat]
  else [0xD800 + (c.toNat - 0x10000) / 0x400, 0xDC00 + (c.toNat - 0x10000) % 0x400]

def codeUnits (text : String) : List Nat := text.toList.flatMap codeUnitsOf

/-- `replace(/\s+/g, " ")`. The flag says whether the run has already given its blank. -/
def collapseWhiteSpace : Bool → List Char → List Char
  | _, [] => []
  | inRun, c :: rest =>
    if isWhiteSpace c.toNat then
      if inRun then collapseWhiteSpace true rest else ' ' :: collapseWhiteSpace true rest
    else c :: collapseWhiteSpace false rest

def trim (text : List Char) : List Char :=
  ((text.dropWhile fun c => isWhiteSpace c.toNat).reverse.dropWhile
    fun c => isWhiteSpace c.toNat).reverse

end OpenMapX.Foundation.JsText
