import SqlGateway.Backend
import SqlGateway.Environment
import SqlGateway.Text.Numeral

/-!
# Arguments

A command line has two levels.  The arguments before the name of a command are on the upper
level, and those behind it on the lower one.  A level takes settings, which have a value, and
switches, which have none.  Nearly all may stand on either level; `Level.takes` tells those
that may not.  The commands `query` and `import` take one operand more.

`Given` is what the arguments of one level say.  It may be laid over another one, and what
is said in both is then what the upper one of the two says.  So the lower level goes over
the upper level, and that over the environment.

`Halt` is why a command line is not run.  A setting may be given once on a level, and so may
a switch other than `verbose`.
-/

namespace SqlGateway.CommandLine

/-! ## Commands and levels -/

/-- What the program can be asked to do. -/
inductive Verb where
  /-- Send a query. -/
  | query
  /-- Run an import. -/
  | importData
  /-- List backends and plugins. -/
  | list
deriving DecidableEq, Repr

namespace Verb

/-- Every command. -/
def all : List Verb := [.query, .importData, .list]

/-- The name of a command. -/
def name : Verb → String
  | .query => "query"
  | .importData => "import"
  | .list => "list"

/-- The command of a name. -/
def ofName? (s : String) : Option Verb := all.find? fun v => v.name = s

/-- The name of the operand of a command, if it has one. -/
def operand? : Verb → Option String
  | .query => some "sql"
  | .importData => some "plugin"
  | .list => none

end Verb

/-- A level of a command line. -/
inductive Level where
  /-- Before the name of the command. -/
  | upper
  /-- Behind the name of a command. -/
  | lower (verb : Verb)
deriving DecidableEq, Repr

/-- The level has an operand. -/
def Level.hasOperand : Level → Bool
  | .upper => false
  | .lower v => v.operand?.isSome

/-! ## Settings and switches -/

/-- Something that is given a value. -/
inductive Setting where
  /-- The backend. -/
  | backend
  /-- Where the backend is. -/
  | endpoint
  /-- The API key. -/
  | apiKey
  /-- The secret of the API key. -/
  | apiSecret
  /-- The token. -/
  | token
  /-- How many seconds a request may take. -/
  | timeout
  /-- Where an import takes its data. -/
  | source
  /-- Where an import puts its data. -/
  | destination
deriving DecidableEq, Repr

namespace Setting

/-- Every setting. -/
def all : List Setting :=
  [.backend, .endpoint, .apiKey, .apiSecret, .token, .timeout, .source, .destination]

/-- The name of a setting. -/
def name : Setting → String
  | .backend => "backend"
  | .endpoint => "endpoint"
  | .apiKey => "api-key"
  | .apiSecret => "api-secret"
  | .token => "token"
  | .timeout => "timeout"
  | .source => "source"
  | .destination => "destination"

end Setting

/-- Something that is turned on. -/
inductive Switch where
  /-- Tell more, each time it is given. -/
  | verbose
  /-- Tell of failures only. -/
  | quiet
  /-- Ask for the secret. -/
  | promptSecret
  /-- Explain the command line. -/
  | help
  /-- Tell the version. -/
  | version
deriving DecidableEq, Repr

namespace Switch

/-- Every switch. -/
def all : List Switch := [.verbose, .quiet, .promptSecret, .help, .version]

/-- The name of a switch. -/
def name : Switch → String
  | .verbose => "verbose"
  | .quiet => "quiet"
  | .promptSecret => "prompt-secret"
  | .help => "help"
  | .version => "version"

/-- The letter for a switch, if it has one. -/
def letter? : Switch → Option Char
  | .verbose => some 'v'
  | .quiet => some 'q'
  | .promptSecret => none
  | .help => some 'h'
  | .version => some 'V'

end Switch

namespace Level

/-- A level takes a setting.  Those of an import are for its own level. -/
def takes (l : Level) : Setting → Bool
  | .source => l = .lower .importData
  | .destination => l = .lower .importData
  | _ => true

/-- A level takes a switch.  The version is told on the upper level. -/
def takesSwitch (l : Level) : Switch → Bool
  | .version => l = .upper
  | _ => true

/-- The setting of a name on a level. -/
def setting? (l : Level) (name : String) : Option Setting :=
  Setting.all.find? fun s => s.name = name && l.takes s

/-- The switch of a name on a level. -/
def switch? (l : Level) (name : String) : Option Switch :=
  Switch.all.find? fun s => s.name = name && l.takesSwitch s

/-- The switch of a letter on a level. -/
def switchOf? (l : Level) (letter : Char) : Option Switch :=
  Switch.all.find? fun s => s.letter? = some letter && l.takesSwitch s

end Level

/-! ## Command lines that are not run -/

/-- Why a command line is not run. -/
inductive Halt where
  /-- It asks for an explanation. -/
  | help
  /-- It asks for the version. -/
  | version
  /-- It says nothing. -/
  | noArguments
  /-- It names no command. -/
  | noCommand
  /-- It names a command that is not there. -/
  | unknownCommand (name : String)
  /-- An argument has no place in it. -/
  | unknownArgument (argument : String)
  /-- The command lacks its operand. -/
  | noOperand (name : String)
  /-- A setting lacks its value. -/
  | noValue (setting : Setting)
  /-- A setting is given a value it cannot have. -/
  | badValue (setting : Setting) (why : String)
  /-- A setting or a switch is given twice on a level. -/
  | repeated (name : String)
  /-- A switch is given a value. -/
  | switchValue (switch : Switch)
deriving DecidableEq

/-! ## What is given on a level -/

/-- What the arguments of a level say. -/
structure Given where
  /-- The backend. -/
  backend : Option Backend := none
  /-- Where the backend is. -/
  endpoint : Option String := none
  /-- The API key. -/
  apiKey : Option String := none
  /-- The secret of the API key. -/
  apiSecret : Option String := none
  /-- The token. -/
  token : Option String := none
  /-- How many seconds a request may take. -/
  timeout : Option Nat := none
  /-- Where an import takes its data. -/
  source : Option String := none
  /-- Where an import puts its data. -/
  destination : Option String := none
  /-- How many times more is to be told, up to 255. -/
  verbose : Nat := 0
  /-- Failures only are to be told. -/
  quiet : Bool := false
  /-- The secret is to be asked for. -/
  promptSecret : Bool := false
  /-- The operand of the command. -/
  operand : Option String := none
deriving DecidableEq

namespace Given

/-- What is given, laid over what is given elsewhere. -/
def laidOver (g under : Given) : Given where
  backend := g.backend.or under.backend
  endpoint := g.endpoint.or under.endpoint
  apiKey := g.apiKey.or under.apiKey
  apiSecret := g.apiSecret.or under.apiSecret
  token := g.token.or under.token
  timeout := g.timeout.or under.timeout
  source := g.source.or under.source
  destination := g.destination.or under.destination
  verbose := if g.verbose = 0 then under.verbose else g.verbose
  quiet := g.quiet || under.quiet
  promptSecret := g.promptSecret || under.promptSecret
  operand := g.operand.or under.operand

/-- What the environment says. -/
def ofEnvironment (env : Environment) : Given where
  apiKey := env.get? "SPLITGRAPH_API_KEY"
  apiSecret := env.get? "SPLITGRAPH_API_SECRET"
  token := env.get? "MADATDATA_TOKEN"

/-- Give a value to a setting that has none yet. -/
def fill {α : Type} (s : Setting) (old : Option α) (value : Except String α) :
    Except Halt (Option α) :=
  match old, value with
  | some _, _ => .error (.repeated s.name)
  | none, .error why => .error (.badValue s why)
  | none, .ok a => .ok (some a)

/-- Give a value to a setting. -/
def set (s : Setting) (text : String) (g : Given) : Except Halt Given :=
  match s with
  | .backend =>
      (fill s g.backend ((Backend.read text).mapError Fault.message)).map fun v =>
        { g with backend := v }
  | .endpoint => (fill s g.endpoint (.ok text)).map fun v => { g with endpoint := v }
  | .apiKey => (fill s g.apiKey (.ok text)).map fun v => { g with apiKey := v }
  | .apiSecret => (fill s g.apiSecret (.ok text)).map fun v => { g with apiSecret := v }
  | .token => (fill s g.token (.ok text)).map fun v => { g with token := v }
  | .timeout =>
      (fill s g.timeout ((Numeral.read UInt64.size text.toList).mapError Numeral.Fault.message)).map
        fun v => { g with timeout := v }
  | .source => (fill s g.source (.ok text)).map fun v => { g with source := v }
  | .destination => (fill s g.destination (.ok text)).map fun v => { g with destination := v }

/-- Turn a switch on. -/
def turnOn (s : Switch) (g : Given) : Except Halt Given :=
  match s with
  | .verbose => .ok { g with verbose := min 255 (g.verbose + 1) }
  | .quiet => if g.quiet then .error (.repeated s.name) else .ok { g with quiet := true }
  | .promptSecret =>
      if g.promptSecret then .error (.repeated s.name) else .ok { g with promptSecret := true }
  | .help => .error .help
  | .version => .error .version

end Given

end SqlGateway.CommandLine
