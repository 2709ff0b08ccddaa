import SqlGateway.Backend

/-!
# Log events

While it works, the library tells what it does.  Each thing it tells is an `Event`.  Nothing
depends on the events; whoever runs the library writes those it wants to see.

An event is written as one line.  Characters with which its message could control a
terminal are spelled out there.

`Logged α` is a value and the events that led to it.
-/

namespace SqlGateway

namespace Log

/-! ## Levels -/

/-- How much an event matters, from most to least. -/
inductive Level where
  /-- Something failed. -/
  | error
  /-- Something may be wrong. -/
  | warn
  /-- What the program does. -/
  | info
  /-- How it does it. -/
  | debug
  /-- Every step. -/
  | trace
deriving DecidableEq, Repr

namespace Level

/-- Every level. -/
def all : List Level := [.error, .warn, .info, .debug, .trace]

/-- The rank of a level. -/
def rank : Level → Nat
  | .error => 1
  | .warn => 2
  | .info => 3
  | .debug => 4
  | .trace => 5

/-- The name of a level, in lower case. -/
def name : Level → String
  | .error => "error"
  | .warn => "warn"
  | .info => "info"
  | .debug => "debug"
  | .trace => "trace"

/-- The name of a level at the front of a line, where all are equally wide. -/
def label : Level → String
  | .error => "ERROR"
  | .warn => " WARN"
  | .info => " INFO"
  | .debug => "DEBUG"
  | .trace => "TRACE"

end Level

/-! ## Origins -/

/-- The part of the program that tells an event. -/
inductive Origin where
  /-- The command line. -/
  | commandLine
  /-- The transport of queries over HTTP. -/
  | transport
  /-- The client for a backend. -/
  | client (backend : Backend)
  /-- The registry of plugins. -/
  | registry
  /-- The plugin for CSV files. -/
  | csv
  /-- The reader of connection strings. -/
  | connection
deriving DecidableEq, Repr

/-- The name of an origin, by which a filter chooses events. -/
def Origin.name : Origin → String
  | .commandLine => "madatdata"
  | .transport => "madatdata_core::clients::http"
  | .client b => s!"madatdata_core::clients::{b.name}"
  | .registry => "madatdata_core::db"
  | .csv => "madatdata_core::db::csv"
  | .connection => "sqlx_postgres::options::parse"

end Log

/-! ## Events -/

/-- Something the program tells. -/
structure Event where
  /-- How much it matters. -/
  level : Log.Level
  /-- Who tells it. -/
  origin : Log.Origin
  /-- What it says. -/
  message : String
  /-- Texts that belong to it, by name. -/
  details : List (String × String) := []
deriving DecidableEq

namespace Event

/-- A character of a message, spelled out if a terminal would obey it. -/
def spell (c : Char) : List Char :=
  if c = '\x1b' ∨ c = '\x07' ∨ c = '\x08' ∨ c = '\x0c' ∨ c = '\x7f' then
    ['\\', 'x', Nat.digitChar (c.toNat / 16), Nat.digitChar (c.toNat % 16)]
  else if '\u0080' ≤ c ∧ c ≤ '\u009f' then
    ['\\', 'u', '\x7b', Nat.digitChar (c.toNat / 16), Nat.digitChar (c.toNat % 16), '\x7d']
  else [c]

/-- An event as a line of a log. -/
def line (e : Event) : String :=
  let message := String.ofList (e.message.toList.flatMap spell)
  e.details.foldl (fun text (k, v) => s!"{text} {k}={v}") s!"{e.level.label} {message}"

end Event

/-! ## Values and the events that led to them -/

/-- A value, and the events that led to it. -/
structure Logged (α : Type) where
  /-- The value. -/
  value : α
  /-- The events, first to last. -/
  events : List Event := []

namespace Logged

variable {α β : Type}

/-- The same events, and another value. -/
def map (f : α → β) (x : Logged α) : Logged β := ⟨f x.value, x.events⟩

/-- More events before those of a value. -/
def after (events : List Event) (x : Logged α) : Logged α := ⟨x.value, events ++ x.events⟩

/-- Go on with a value, if there is one. -/
def andThen {ε : Type} (x : Logged (Except ε α)) (f : α → Logged (Except ε β)) :
    Logged (Except ε β) :=
  match x.value with
  | .ok a => (f a).after x.events
  | .error e => ⟨.error e, x.events⟩

end Logged

end SqlGateway
