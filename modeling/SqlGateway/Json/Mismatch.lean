import SqlGateway.Json.Printer
import SqlGateway.Text.Quoted

/-!
# Values of the wrong shape

A decoder asks for a shape.  `Mismatch` says how a value differs from it, and
`Mismatch.message` puts that into words: what was found, and what was expected in its
place.
-/

namespace SqlGateway.Json

/-- What a decoder found, as far as a message shows it. -/
inductive Found where
  /-- The value `null`. -/
  | null
  /-- A truth value. -/
  | bool (b : Bool)
  /-- An integer. -/
  | integer (n : Int)
  /-- A double. -/
  | float (x : Float)
  /-- A string. -/
  | string (s : String)
  /-- A list. -/
  | sequence
  /-- An object. -/
  | map

/-- What a number is found as. -/
def Found.ofNumber : Number → Found
  | .integer n => .integer n.val
  | .float x => .float x

/-- What a value is found as. -/
def Found.ofJson : Json → Found
  | .null => .null
  | .bool b => .bool b
  | .number n => .ofNumber n
  | .string s => .string s
  | .array _ => .sequence
  | .object _ => .map

/-- The words for what was found. -/
def Found.message : Found → String
  | .null => "null"
  | .bool b => s!"boolean `{b}`"
  | .integer n => "integer `" ++ String.ofList (Number.intText n) ++ "`"
  | .float x => "floating point `" ++ String.ofList (Number.floatText x) ++ "`"
  | .string s => "string " ++ quote s
  | .sequence => "sequence"
  | .map => "map"

/-- How a value differs from the shape asked for. -/
inductive Mismatch where
  /-- A value of another type. -/
  | wrongType (found : Found) (expected : String)
  /-- A value of the right type that the shape does not allow. -/
  | wrongValue (found : Found) (expected : String)
  /-- A list of the wrong length. -/
  | wrongLength (length : Nat) (expected : String)
  /-- A member that must be there is not. -/
  | missingField (name : String)
  /-- A member is there twice. -/
  | duplicateField (name : String)
  /-- A member the shape does not know. -/
  | unknownField (name : String) (expected : List String)
  /-- A name that is none of the shape's names. -/
  | unknownVariant (name : String) (expected : List String)
  /-- A value that the shape refuses in words of its own. -/
  | refused (text : String)

/-- A list of names as alternatives. -/
def oneOf : List String → String
  | [] => "there are no fields"
  | [a] => s!"expected `{a}`"
  | [a, b] => s!"expected `{a}` or `{b}`"
  | names => "expected one of " ++ ", ".intercalate (names.map fun n => s!"`{n}`")

/-- The words for a mismatch. -/
def Mismatch.message : Mismatch → String
  | .wrongType found expected => s!"invalid type: {found.message}, expected {expected}"
  | .wrongValue found expected => s!"invalid value: {found.message}, expected {expected}"
  | .wrongLength length expected => s!"invalid length {length}, expected {expected}"
  | .missingField name => s!"missing field `{name}`"
  | .duplicateField name => s!"duplicate field `{name}`"
  | .unknownField name expected => s!"unknown field `{name}`, {oneOf expected}"
  | .unknownVariant name expected => s!"unknown variant `{name}`, {oneOf expected}"
  | .refused text => text

end SqlGateway.Json
