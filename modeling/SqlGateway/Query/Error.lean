import SqlGateway.Json.Record

/-!
# Failed queries

A query that fails gives an `Error`: a value like any other.  It says where the failure
comes from, what the backend said, and what led to it.

`Error.message` finds the words for people.  They are the payload itself if it is a
string, and the member `message` of an object, or `error` where there is no `message`.
If that is no string, the whole payload is shown.
-/

namespace SqlGateway.Query

/-- Where a failure comes from. -/
inductive ErrorKind where
  /-- The network: no complete answer arrived. -/
  | transport
  /-- The backend: it answered that it failed. -/
  | backend
  /-- The answer: it does not have the agreed shape. -/
  | decode
deriving DecidableEq, Repr

namespace ErrorKind

/-- The name of a kind. -/
def name : ErrorKind → String
  | .transport => "transport"
  | .backend => "backend"
  | .decode => "decode"

/-- The decoder of a kind. -/
def decoder : Json.Decoder ErrorKind :=
  .choice [("transport", .transport), ("backend", .backend), ("decode", .decode)]

end ErrorKind

/-- A failed query. -/
structure Error where
  /-- A flag that is false in every error this library makes. -/
  success : Bool := false
  /-- What the backend said, or the failure in words. -/
  payload : Json
  /-- What led to the failure. -/
  trace : Option String := none
  /-- Where the failure comes from. -/
  kind : ErrorKind := .backend

namespace Error

/-! ## Making errors -/

/-- A failure of the network. -/
def transport (text trace : String) : Error where
  payload := .string text
  trace := some trace
  kind := .transport

/-- A failure the backend reports. -/
def backend (payload : Json) (trace : Option String := none) : Error where
  payload := payload
  trace := trace

/-- A failure the backend reports in words. -/
def stated (text : String) (trace : Option String := none) : Error :=
  backend (.string text) trace

/-- An answer that does not have the agreed shape. -/
def decode (text trace : String) : Error where
  payload := .string text
  trace := some trace
  kind := .decode

/-! ## Words -/

/-- The string a payload has for people, if it has one. -/
def words? : Json → Option String
  | .string s => some s
  | .object ms =>
      match (Members.get? ms "message").or (Members.get? ms "error") with
      | some (.string s) => some s
      | _ => none
  | _ => none

/-- The words for people. -/
def message (e : Error) : String := (words? e.payload).getD (Json.compact e.payload)

/-- The kind and the words. -/
def summary (e : Error) : String := s!"{e.kind.name} error: {e.message}"

/-! ## As a value -/

/-- The members of an error, without an absent trace. -/
def members (e : Error) : Members :=
  [("success", .bool e.success), ("error", e.payload)] ++
    (match e.trace with
    | none => []
    | some t => [("trace", .string t)]) ++
    [("kind", .string e.kind.name)]

/-- An error as a value. -/
def toJson (e : Error) : Json := .object e.members

/-- The shape of an error. -/
def shape : Json.RecordShape Error where
  name := "QueryError"
  blank := { payload := .null }
  members :=
    [.needed "success" .bool fun v e => { e with success := v },
      .needed "error" .any fun v e => { e with payload := v },
      .optional "trace" (.option .string) fun v e => { e with trace := v },
      .optional "kind" ErrorKind.decoder fun v e => { e with kind := v }]

/-- The decoder of an error. -/
def decoder : Json.Decoder Error := shape.decoder

end Error

end SqlGateway.Query
