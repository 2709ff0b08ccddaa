import SqlGateway.Client

/-!
# Builds of the program

The program can be built without some of its backends.  A build knows the names of all
backends, and makes clients for those it has.
-/

namespace SqlGateway.CommandLine

/-- What the program is built with. -/
structure Build where
  /-- The backends over HTTP. -/
  http : Bool := true
  /-- The backend for Postgres. -/
  postgres : Bool := true
deriving DecidableEq, Repr

namespace Build

/-- A build has a backend. -/
def has (build : Build) : Backend → Bool
  | .postgres => build.postgres
  | _ => build.http

/-- The fault of a build that does not have a backend. -/
def missing : Backend → Fault
  | .postgres =>
      .unsupported "Postgres client"
        "Compile with --features postgresql to enable the Postgres-wire backend"
  | b =>
      .unsupported s!"{b.name} client" "Compile with --features http to enable HTTP backends"

/-- Make a client for a backend, if the build has it. -/
def createClient [Url.Idna] (build : Build) (env : Environment) (b : Backend) (o : Options) :
    Logged (Except Fault Client) :=
  if build.has b then (Client.create env b o).map fun made => made.mapError Fault.misconfigured
  else ⟨.error (missing b), []⟩

/-- What a list of backends tells of one. -/
def status (build : Build) (b : Backend) : String :=
  if !build.has b then "(not compiled in)"
  else
    match b with
    | .postgres => s!"{b.defaultEndpoint} (placeholder)"
    | _ => b.defaultEndpoint

end Build

end SqlGateway.CommandLine
