import SqlGateway.Query.Error
import SqlGateway.Query.Field

/-!
# Results of queries

A query that succeeds gives a `Result`: the columns, the rows, and what the backend says
about its work.  A row is an object whose members are named after the columns, until
`Result.typed` decodes it into something better.

An `Outcome` is a result or an error, never both.
-/

namespace SqlGateway.Query

/-- A row as the backend sends it. -/
abbrev Row := Members

/-- The result of a query. -/
structure Result (ρ : Type) where
  /-- A flag that the backend may send. -/
  success : Bool := true
  /-- What kind of query it was. -/
  command : String
  /-- The columns. -/
  fields : List Field := []
  /-- How many rows there are. -/
  rowCount : UInt64
  /-- The rows. -/
  rows : List ρ := []
  /-- How long the query took, roughly. -/
  executionTime : String := ""
  /-- How long the query took, exactly. -/
  executionTimeHighRes : String := ""

/-- What comes of a query. -/
abbrev Outcome (α : Type) := Except Error α

namespace Result

variable {ρ τ : Type}

/-- The names of the columns. -/
def columnNames (r : Result ρ) : List String := r.fields.map (·.name)

/-- The same result with other rows. -/
def withRows (r : Result ρ) (rows : List τ) : Result τ :=
  ⟨r.success, r.command, r.fields, r.rowCount, rows, r.executionTime, r.executionTimeHighRes⟩

/-- Apply a function to every row. -/
def mapRows (f : ρ → τ) (r : Result ρ) : Result τ := r.withRows (r.rows.map f)

/-! ## Typed rows -/

/-- The error for a row that does not fit. -/
def rowError (index : Nat) (m : Json.Mismatch) : Error :=
  .decode s!"row {index} does not match the requested shape" m.message

/-- Decode rows, the first of which has a number, up to the first that does not fit. -/
def decodeRows (d : Json.Decoder τ) : (index : Nat) → List Row → Outcome (List τ)
  | _, [] => .ok []
  | index, row :: rows =>
      match d.ofJson (.object row) with
      | .error m => .error (rowError index m)
      | .ok t => (decodeRows d (index + 1) rows).map (t :: ·)

/-- Decode every row. -/
def typed (d : Json.Decoder τ) (r : Result Row) : Outcome (Result τ) :=
  (decodeRows d 0 r.rows).map r.withRows

/-! ## As a value -/

/-- The members of a result whose rows `row` writes. -/
def members (row : ρ → Json) (r : Result ρ) : Members :=
  [("success", .bool r.success), ("command", .string r.command),
    ("fields", .array (r.fields.map Field.toJson)), ("rowCount", .int (.ofUInt64 r.rowCount)),
    ("rows", .array (r.rows.map row)), ("executionTime", .string r.executionTime),
    ("executionTimeHighRes", .string r.executionTimeHighRes)]

/-- A result as a value. -/
def toJson (r : Result Row) : Json := .object (r.members .object)

/-- The shape of a result whose rows `row` decodes. -/
def shape (row : Json.Decoder ρ) : Json.RecordShape (Result ρ) where
  name := "QueryResult"
  blank := { command := "", rowCount := 0 }
  members :=
    [.optional "success" .bool fun v r => { r with success := v },
      .needed "command" .string fun v r => { r with command := v },
      .optional "fields" (.list Field.decoder) fun v r => { r with fields := v },
      .needed "rowCount" .uint64 fun v r => { r with rowCount := v },
      .optional "rows" (.list row) fun v r => { r with rows := v },
      .optional "executionTime" .string fun v r => { r with executionTime := v },
      .optional "executionTimeHighRes" .string fun v r => { r with executionTimeHighRes := v }]

/-- The decoder of a result. -/
def decoder : Json.Decoder (Result Row) := (shape .object).decoder

end Result

end SqlGateway.Query
