import SqlGateway.Fault
import SqlGateway.Json.Entries
import SqlGateway.Query.Result

/-!
# Envelopes

An envelope is an outcome on its way to a reader who expects two members, `response` and
`error`, of which one is `null`.  It is made from an outcome and from nothing else.
-/

namespace SqlGateway.Query

/-- An outcome as two sides, of which one is there. -/
structure Envelope (α : Type) where
  /-- What came of the query. -/
  outcome : Outcome α

namespace Envelope

variable {α : Type}

/-- The side of success, if there is one. -/
def response? (e : Envelope α) : Option α := e.outcome.toOption

/-- The side of failure, if there is one. -/
def error? (e : Envelope α) : Option Error :=
  match e.outcome with
  | .ok _ => none
  | .error e => some e

/-- The side of failure is there. -/
def isError (e : Envelope α) : Bool := e.error?.isSome

/-- An envelope as a value, if its response can be written. -/
def toJson (write : α → Except Json.Unwritable Json) (e : Envelope α) :
    Except Json.Unwritable Json :=
  match e.outcome with
  | .ok a => (write a).map fun v => .object [("response", v), ("error", .null)]
  | .error e => .ok (.object [("response", .null), ("error", e.toJson)])

/-- The text of an envelope, with a line for each item and member. -/
def pretty (write : α → Except Json.Unwritable Json) (e : Envelope α) : Except Fault String :=
  match e.toJson write with
  | .ok v => .ok (Json.pretty v)
  | .error u => .error (.serialization "outcome envelope" u.message)

end Envelope

end SqlGateway.Query
