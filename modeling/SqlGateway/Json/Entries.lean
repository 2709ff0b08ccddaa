import SqlGateway.Json.Printer

/-!
# Entries with any key

A dictionary whose keys are values can be written as an object only if every key has a
text: a string is its own text, and a truth value and a number are written out.  A value
that cannot be written is refused before anything is.
-/

namespace SqlGateway.Json

/-- Why a value cannot be written. -/
inductive Unwritable where
  /-- A key has no text. -/
  | key
deriving DecidableEq, Repr

/-- The words for a value that cannot be written. -/
def Unwritable.message : Unwritable → String
  | .key => "key must be a string"

/-- The text of a key, if it has one. -/
def keyText? : Json → Option String
  | .string s => some s
  | .bool b => some (if b then "true" else "false")
  | .number n => some (.ofList n.text)
  | _ => none

/-- A dictionary as an object. -/
def ofEntries : List (Json × Json) → Except Unwritable Json
  | entries =>
      match entries.mapM fun e => (keyText? e.1).map fun k => (k, e.2) with
      | some ms => .ok (.object ms)
      | none => .error .key

end SqlGateway.Json
