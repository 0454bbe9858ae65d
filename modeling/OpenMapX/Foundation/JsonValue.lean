import Mathlib.Data.Rat.Defs

/-!
# JSON values

Parsed JSON of any shape. An object is the list of its own members in the order
in which they are enumerated.
-/

namespace OpenMapX.Foundation.JsonValue

inductive Json where
  | null
  | bool (value : Bool)
  | number (value : ℚ)
  | string (value : String)
  | array (items : List Json)
  | object (members : List (String × Json))

def memberOf (name : String) : List (String × Json) → Option Json
  | [] => none
  | (key, value) :: rest => if key == name then some value else memberOf name rest

def Json.member (value : Json) (name : String) : Option Json :=
  match value with
  | .object members => memberOf name members
  | _ => none

/-- The value is `null` or absent, which is what `??` and `?.` test for. -/
def Json.absent : Option Json → Bool
  | none => true
  | some .null => true
  | _ => false

def Json.falsy : Option Json → Bool
  | none => true
  | some .null => true
  | some (.bool value) => !value
  | some (.number value) => value == 0
  | some (.string value) => value == ""
  | _ => false

/-- The value under `depth` objects, each with the one member `name`. -/
def nestedUnder (name : String) (inner : Json) : Nat → Json
  | 0 => inner
  | depth + 1 => .object [(name, nestedUnder name inner depth)]

end OpenMapX.Foundation.JsonValue
