import SqlGateway.CommandLine.Arguments
import SqlGateway.CommandLine.Prompt
import SqlGateway.Json.Reader

/-!
# Failures of the program

A failure ends the program before it has an outcome to print.  It is reported as a message
and, where something else failed first, its cause.  A query that fails is no failure of
the program: its outcome is printed.
-/

namespace SqlGateway.CommandLine

/-- Why the program ends without an outcome. -/
inductive Failure where
  /-- An API key has no secret. -/
  | noSecret
  /-- There was no answer to a prompt. -/
  | noAnswer (prompt : Prompt) (cause : String)
  /-- Requests would have no time. -/
  | zeroTimeout
  /-- The value of a setting is not JSON. -/
  | notJson (setting : Setting) (cause : Json.ReadError)
  /-- The library refuses what it is given. -/
  | fault (fault : Fault)

namespace Failure

/-- The words for a failure. -/
def message : Failure → String
  | .noSecret => "--api-key requires --api-secret, SPLITGRAPH_API_SECRET or --prompt-secret"
  | .noAnswer prompt _ => s!"Failed to read {prompt.name}"
  | .zeroTimeout => "--timeout must be greater than 0"
  | .notJson setting _ => s!"--{setting.name} is not valid JSON"
  | .fault f => f.message

/-- What is behind a failure, where something else failed first. -/
def cause? : Failure → Option String
  | .noAnswer _ cause => some cause
  | .notJson _ cause => some cause.message
  | .fault f => f.source?
  | _ => none

/-- A failure as it is reported. -/
def report (f : Failure) : String :=
  let cause := (f.cause?.map fun c => s!"\n\nCaused by:\n    {c}").getD ""
  s!"Error: {f.message}{cause}\n"

end Failure

end SqlGateway.CommandLine
