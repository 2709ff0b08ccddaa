import SqlGateway.CommandLine.Run

/-!
# The outermost layer

The program takes the arguments and the environment, asks for a secret where the command
line says so, and writes what `CommandLine.run` leaves.

It has no network of its own.  A query over HTTP ends as one that did not reach its backend.
-/

namespace SqlGateway.CommandLine

/-- The variables the program looks at. -/
def variableNames : List String :=
  ["SPLITGRAPH_API_KEY", "SPLITGRAPH_API_SECRET", "MADATDATA_TOKEN", Options.proxyVariable,
    Log.Filter.variableName, "PGHOSTADDR", "PGHOST", "PGPORT", "PGUSER", "PGPASSWORD",
    "PGDATABASE"]

/-- The environment the program is started with. -/
def readEnvironment : IO Environment := do
  let found ← variableNames.filterMapM fun name => do
    return (← IO.getEnv name).map fun value => (name, value)
  return ⟨found⟩

/-- Ask for a line. -/
def askFor (p : Prompt) : IO Answer := do
  IO.eprint p.text
  let line ← (← IO.getStdin).getLine
  return if line.isEmpty then .error "unexpected end of file" else .ok line.trimAsciiEnd.toString

/-- The answer to what the command line asks for, if it asks for anything. -/
def readAnswer (env : Environment) (arguments : List String) : IO Answer := do
  match (Invocation.read env arguments).toOption.bind Invocation.prompt? with
  | some p => askFor p
  | none => return .error "nothing is asked for"

end SqlGateway.CommandLine

open SqlGateway.CommandLine in
/-- Run the program. -/
def main (arguments : List String) : IO UInt32 := do
  let env ← readEnvironment
  let answer ← readAnswer env arguments
  let output := run {} env (fun _ => answer) (.unreached ["no network"]) arguments
  IO.print output.stdout
  IO.eprint output.stderr
  return output.code.toUInt32
