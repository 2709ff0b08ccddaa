import SqlGateway.CommandLine.Build
import SqlGateway.CommandLine.Login
import SqlGateway.Import.Csv
import SqlGateway.Log.Filter
import SqlGateway.Program
import SqlGateway.Query.Envelope
import SqlGateway.Url.Idna.Unmapped

/-!
# Running the program

`run` makes an `Output` of a command line and all it depends on: the build, the environment,
the answers to prompts, and what the network makes of a request.

A command is a `Work`: events on the way to a text to print, or to a failure.  The commands
`query` and `import` print the envelope of their outcome, and the exit code says which side
of the envelope is there.  A failure prints nothing, and is reported behind the events.
The events that the filter shows and the report go to the standard error.

The program spells names beyond ASCII by the instance of `Url.Idna.Unmapped`.
-/

namespace SqlGateway.CommandLine

/-! ## Work -/

/-- A text to print, and what else is left when a command is done. -/
structure Printed where
  /-- The text. -/
  text : String
  /-- There is no error in it. -/
  success : Bool := true
  /-- The request that arrived at a backend, if one did. -/
  arrived : Option Http.Request := none

/-- What a command does: it tells events, and ends with a value or a failure. -/
abbrev Work (α : Type) := Logged (Except Failure α)

namespace Work

variable {α : Type}

/-- Tell an event, and go on. -/
def telling (e : Event) (w : Work α) : Work α := w.after [e]

/-- Go on with a value, if there is one. -/
def trying {β : Type} (v : Except Failure β) (go : β → Work α) : Work α :=
  match v with
  | .ok b => go b
  | .error f => ⟨.error f, []⟩

/-- Print an envelope. -/
def printing (write : α → Json) (o : Query.Outcome α) (arrived : Option Http.Request) :
    Work Printed :=
  let e : Query.Envelope α := ⟨o⟩
  trying ((e.pretty fun a => .ok (write a)).mapError .fault) fun text =>
    ⟨.ok { text := text ++ "\n", success := !e.isError, arrived }, []⟩

end Work

/-- An event of the command line. -/
def event (level : Log.Level) (message : String) : Event := ⟨level, .commandLine, message, []⟩

/-! ## Queries -/

/-- The event for the outcome of a query. -/
def outcomeEvent : Query.Outcome (Query.Result Query.Row) → Event
  | .ok r => event .info s!"✓ {r.command} returned {r.rowCount} row(s)"
  | .error e => event .error s!"Query failed ({e.kind.name}): {e.message}"

/-- Send a query with a client, and print its outcome. -/
def runQueryWith (client : Client) (sql : String) (x : Http.Exchange) : Work Printed :=
  let posted := client.execute sql x
  let querying := event .info s!"Querying {client.backend.name} at {client.endpoint}"
  (Work.printing Query.Result.toJson posted.outcome posted.arrived).after
    (querying :: posted.events ++ [outcomeEvent posted.outcome])

/-- Make a client, send a query, and print its outcome. -/
def runQuery [Url.Idna] (build : Build) (env : Environment) (answers : Prompt → Answer)
    (x : Http.Exchange) (c : Connection) (sql : String) : Work Printed :=
  Work.trying (c.options.value answers) fun (options, source) =>
    let made := build.createClient env c.backend options
    Work.telling source.event <| Logged.after made.events <|
      match made.value with
      | .ok client => runQueryWith client sql x
      | .error f =>
          ⟨.error (.fault f),
            [event .error s!"Failed to create {c.backend.name} client: {f.message}"]⟩

/-! ## Imports -/

/-- Read the value of a setting that is JSON. -/
def readJson (s : Setting) (text : String) : Except Failure Json :=
  (Json.read text).mapError (Failure.notJson s)

/-- Hand an import to a plugin of a registry, and print its outcome. -/
def runImportWith (r : Import.Registry) (plugin : String) (source destination : Json) :
    Work Printed :=
  Work.telling (event .info s!"Importing through plugin '{plugin}'") <|
    match r.dispatch plugin source destination with
    | .error f =>
        let names := ", ".intercalate r.names
        ⟨.error (.fault f), [event .error s!"Available plugins: {names}"]⟩
    | .ok answer =>
        let failed :=
          match answer.value with
          | .ok _ => []
          | .error e => [event .error s!"Import failed: {e.message}"]
        (Work.printing id answer.value none).after (answer.events ++ failed)

/-- Read source and destination, hand an import to a plugin, and print its outcome. -/
def runImport [Url.Idna] (answers : Prompt → Answer) (c : Connection)
    (plugin source destination : String) : Work Printed :=
  Work.trying (c.options.value answers) fun (options, asked) =>
    Work.telling asked.event <|
      Work.trying (readJson .source source) fun source =>
        Work.trying (readJson .destination destination) fun destination =>
          let made := Import.Registry.standard options
          Logged.after made.events <|
            Work.trying (made.value.mapError Failure.fault) fun r =>
              runImportWith r plugin source destination

/-! ## Lists -/

/-- A backend as a line of a list, with its status behind a column of eleven. -/
def Build.line (build : Build) (b : Backend) : String :=
  let space := "".pushn ' ' (11 - b.name.length)
  s!"  {b.name}{space} {build.status b}\n"

/-- List backends and plugins. -/
def runList [Url.Idna] (build : Build) : Work Printed :=
  let made := Import.Registry.standard {}
  Logged.after made.events <|
    Work.trying (made.value.mapError Failure.fault) fun r =>
      let backends := String.join (Backend.all.map build.line)
      let plugins := String.join (r.names.map fun name => s!"  {name}\n")
      ⟨.ok { text := s!"Backends:\n{backends}\nImport plugins:\n{plugins}" }, []⟩

/-! ## Running -/

/-- What the program leaves when it ends. -/
structure Output where
  /-- The exit code. -/
  code : Nat
  /-- What it wrote to the standard output. -/
  stdout : String := ""
  /-- What it wrote to the standard error. -/
  stderr : String := ""
  /-- The request that arrived at a backend, if one did. -/
  arrived : Option Http.Request := none

/-- The output for a command line that is not run.  The texts that explain the command line
are no part of it. -/
def Halt.output : Halt → Output
  | .help => { code := 0 }
  | .version => { code := 0, stdout := s!"{Program.name} {Program.version}\n" }
  | _ => { code := 2 }

/-- The output of work, of whose events a filter shows some. -/
def Work.output (f : Log.Filter) (w : Work Printed) : Output :=
  let log := String.join ((w.events.filter fun e => f.shows e).map fun e => e.line ++ "\n")
  match w.value with
  | .ok p =>
      { code := if p.success then 0 else 1, stdout := p.text, stderr := log, arrived := p.arrived }
  | .error failure => { code := 1, stderr := log ++ failure.report }

/-- What an invocation does. -/
def Invocation.work [Url.Idna] (build : Build) (env : Environment) (answers : Prompt → Answer)
    (x : Http.Exchange) (i : Invocation) : Work Printed :=
  match i.command with
  | .query sql => runQuery build env answers x i.connection sql
  | .importData plugin source destination =>
      runImport answers i.connection plugin source destination
  | .list => runList build

/-- Run the program. -/
def run [Url.Idna] (build : Build) (env : Environment) (answers : Prompt → Answer)
    (x : Http.Exchange) (arguments : List String) : Output :=
  match Invocation.read env arguments with
  | .error halt => halt.output
  | .ok i => (i.work build env answers x).output (.choose env i.verbose i.quiet)

end SqlGateway.CommandLine
