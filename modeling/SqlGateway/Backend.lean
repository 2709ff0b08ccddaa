import SqlGateway.Fault
import SqlGateway.Text.Blank

/-!
# Backends

A backend is a kind of server that answers queries.  It has one name and may have others
that are read as well, with blanks around them and in any case.
-/

namespace SqlGateway

/-- A kind of server. -/
inductive Backend where
  /-- Splitgraph, over HTTP. -/
  | splitgraph
  /-- Seafowl, over HTTP. -/
  | seafowl
  /-- A server that speaks the protocol of Postgres. -/
  | postgres
deriving DecidableEq, Repr

namespace Backend

/-- Every backend, in the order in which they are listed. -/
def all : List Backend := [.splitgraph, .seafowl, .postgres]

/-- The name of a backend. -/
def name : Backend → String
  | .splitgraph => "splitgraph"
  | .seafowl => "seafowl"
  | .postgres => "postgres"

/-- The title of a backend, in messages. -/
def title : Backend → String
  | .splitgraph => "Splitgraph"
  | .seafowl => "Seafowl"
  | .postgres => "Postgres"

/-- The place of a backend among all. -/
def index (b : Backend) : Nat := all.idxOf b

/-- Read the name of a backend. -/
def read (s : String) : Except Fault Backend :=
  let lower := (trim s).map Char.toLower
  if lower = "splitgraph" ∨ lower = "ddn" then .ok .splitgraph
  else if lower = "seafowl" then .ok .seafowl
  else if lower = "postgres" ∨ lower = "postgresql" ∨ lower = "pg" then .ok .postgres
  else .error (.misconfigured (.unknownBackend lower))

end Backend

end SqlGateway
