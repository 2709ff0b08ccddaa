import SqlGateway.CommandLine.Arguments

/-!
# Reading command lines

`Invocation.read` makes of the arguments and the environment what the program shall do.

The arguments are read one by one.  A `Scan` is where the reader is on a level.  The value of
a setting may be the next argument, unless that looks like a setting or a switch.  So the
reader waits for a value, and a value it has got counts when the next argument is read, or
at the end.  Until then nothing is known to be wrong with it, and what is wrong with the
next argument as a word comes first.

Behind the argument `--` there are only operands, on the same level.

The name of a command ends the upper level.  The lower level is read, and its command must
be complete, before the last value of the upper level counts.
-/

namespace SqlGateway.CommandLine

/-! ## Arguments as words -/

/-- What an argument looks like. -/
inductive Word where
  /-- Two hyphens alone. -/
  | escape
  /-- A name behind two hyphens, and what follows it behind an equals sign. -/
  | long (name : String) (value : Option String)
  /-- Letters behind one hyphen. -/
  | short (letters : List Char)
  /-- Anything else. -/
  | plain (text : String)
deriving DecidableEq

/-- What an argument looks like. -/
def Word.ofArgument (argument : String) : Word :=
  match argument.toList with
  | ['-', '-'] => .escape
  | '-' :: '-' :: cs =>
      .long (.ofList (cs.takeWhile (· ≠ '=')))
        (match cs.dropWhile (· ≠ '=') with
          | [] => none
          | _ :: value => some (.ofList value))
  | '-' :: c :: cs => .short (c :: cs)
  | _ => .plain argument

/-! ## Reading a level -/

/-- Where the reader of a level is. -/
structure Scan where
  /-- What is given so far. -/
  given : Given := {}
  /-- A setting that does not count yet, and its value if that is read. -/
  pending : Option (Setting × Option String) := none
  /-- Only operands follow. -/
  escaped : Bool := false

namespace Scan

/-- A setting waits for its value. -/
def waits (s : Scan) : Bool := s.pending.any fun p => p.2.isNone

/-- Let the setting that does not count yet count. -/
def settle (s : Scan) : Except Halt Scan :=
  match s.pending with
  | none => .ok s
  | some (o, none) => .error (.noValue o)
  | some (o, some text) =>
      (s.given.set o text).map fun given => { s with given, pending := none }

/-- Turn a switch on. -/
def turnOn (o : Switch) (s : Scan) : Except Halt Scan := do
  let s ← s.settle
  let given ← s.given.turnOn o
  pure { s with given }

/-- Give a setting a value, or wait for one. -/
def set (o : Setting) (value : Option String) (s : Scan) : Except Halt Scan := do
  let s ← s.settle
  match value with
  | none => pure { s with pending := some (o, none) }
  | some text =>
      let given ← s.given.set o text
      pure { s with given }

/-- Turn on the switches of some letters. -/
def letters (l : Level) : List Char → Scan → Except Halt Scan
  | [], s => .ok s
  | c :: cs, s =>
      match l.switchOf? c with
      | none => .error (.unknownArgument (.ofList ['-', c]))
      | some o => do letters l cs (← s.turnOn o)

/-- The words that name something on the upper level. -/
def isCommandName (text : String) : Bool := (Verb.ofName? text).isSome || text = "help"

/-- Read an operand.  The upper level has none, so one that stands there is no command. -/
def operand (l : Level) (text : String) (s : Scan) : Except Halt Scan :=
  if l.hasOperand && s.given.operand.isNone then do
    let s ← s.settle
    pure { s with given := { s.given with operand := some text } }
  else if l = .upper && !(s.escaped && isCommandName text) then .error (.unknownCommand text)
  else .error (.unknownArgument text)

/-- Read an argument that names no command. -/
def argument (l : Level) (s : Scan) (text : String) : Except Halt Scan :=
  if s.escaped then s.operand l text
  else
    match Word.ofArgument text with
    | .escape => .ok { s with escaped := true }
    | .long name value =>
        match l.setting? name, l.switch? name with
        | some o, _ => s.set o value
        | none, some o => if value.isSome then .error (.switchValue o) else s.turnOn o
        | none, none => .error (.unknownArgument s!"--{name}")
    | .short cs => s.letters l cs
    | .plain text =>
        match s.pending with
        | some (o, none) => .ok { s with pending := some (o, some text) }
        | _ => s.operand l text

end Scan

/-- Read the arguments behind the name of a command. -/
def readLower (v : Verb) (arguments : List String) : Except Halt Given := do
  let s ← arguments.foldlM (Scan.argument (.lower v)) ({} : Scan)
  let s ← s.settle
  pure s.given

/-- The answer to a question for help, about a command or about all of them. -/
def explain : List String → Halt
  | [] => .help
  | name :: more =>
      if Scan.isCommandName name then
        match more with
        | [] => .help
        | name :: _ => .unknownCommand name
      else .unknownCommand name

/-- Read arguments up to the name of a command.  If there is one, the arguments behind it
are left. -/
def readUpper : Scan → List String → Except Halt (Scan × Option (Verb × List String))
  | s, [] => .ok (s, none)
  | s, text :: more =>
      let mayName := !s.escaped && !s.waits
      match (if mayName then Verb.ofName? text else none) with
      | some v => .ok (s, some (v, more))
      | none =>
          if mayName && text = "help" then .error (explain more)
          else do readUpper (← s.argument .upper text) more

/-! ## Invocations -/

/-- What the program is asked to do. -/
inductive Command where
  /-- Send a query. -/
  | query (sql : String)
  /-- Run an import, by the name of a plugin. -/
  | importData (plugin source destination : String)
  /-- List backends and plugins. -/
  | list
deriving DecidableEq

/-- How to reach a backend, as a command line says it. -/
structure Connection where
  /-- The backend. -/
  backend : Backend
  /-- Where the backend is. -/
  endpoint : Option String
  /-- The API key. -/
  apiKey : Option String
  /-- The secret of the API key. -/
  apiSecret : Option String
  /-- The token. -/
  token : Option String
  /-- The secret is to be asked for. -/
  promptSecret : Bool
  /-- How many seconds a request may take. -/
  timeout : Nat
deriving DecidableEq

/-- What a command line says. -/
structure Invocation where
  /-- How to reach the backend. -/
  connection : Connection
  /-- How many times more is to be told. -/
  verbose : Nat
  /-- Failures only are to be told. -/
  quiet : Bool
  /-- What to do. -/
  command : Command
deriving DecidableEq

/-- The source and the destination of an import that names none: an object without members. -/
def emptyObject : String := "\x7b\x7d"

/-- The command that is given, if its operand is. -/
def Command.ofGiven (v : Verb) (g : Given) : Except Halt Command :=
  match v, g.operand with
  | .list, _ => .ok .list
  | .query, some sql => .ok (.query sql)
  | .importData, some plugin =>
      .ok (.importData plugin (g.source.getD emptyObject) (g.destination.getD emptyObject))
  | v, none => .error (.noOperand (v.operand?.getD ""))

/-- The connection that is given. -/
def Connection.ofGiven (g : Given) : Connection where
  backend := g.backend.getD .splitgraph
  endpoint := g.endpoint
  apiKey := g.apiKey
  apiSecret := g.apiSecret
  token := g.token
  promptSecret := g.promptSecret
  timeout := g.timeout.getD 30

namespace Invocation

/-- The invocation of a command, by what is given for it on all levels. -/
def ofGiven (g : Given) (command : Command) : Invocation :=
  ⟨.ofGiven g, g.verbose, g.quiet, command⟩

/-- Read a command line. -/
def read (env : Environment) (arguments : List String) : Except Halt Invocation := do
  match ← readUpper {} arguments with
  | (s, none) =>
      let s ← s.settle
      .error (if s.given.laidOver (.ofEnvironment env) = {} then .noArguments else .noCommand)
  | (s, some (v, more)) =>
      let lower ← readLower v more
      let command ← Command.ofGiven v lower
      let s ← s.settle
      pure (.ofGiven (lower.laidOver (s.given.laidOver (.ofEnvironment env))) command)

end Invocation

end SqlGateway.CommandLine
