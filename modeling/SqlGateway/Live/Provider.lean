import SqlGateway.Live.Handle

/-!
# Providers

A provider shares one client between any number of handles.  A handle is known by its
number.

A query that a handle dispatches becomes a task.  The runtime goes through the tasks only
when it is run.  `Provider.run` starts every task that waits, in the order in which the
tasks were made, and each start is one call of the client.  It also hands the outcome of
every call that was answered to the handle of the task, and the task is over.

A `Receiver` watches a handle from outside and knows how much of what was published it
has seen.  It is closed when the handle is dropped and its tasks are over.
-/

namespace SqlGateway.Live

open Query (Outcome Row)

/-! ## Tasks -/

/-- How far a task is. -/
inductive Phase where
  /-- It was not started. -/
  | waiting
  /-- The client was called, and has not answered. -/
  | called (call : Nat)
  /-- The client has answered. -/
  | answered (outcome : Outcome (Query.Result Row))

/-- A query on its way. -/
structure Task where
  /-- The number of the handle. -/
  owner : Nat
  /-- The generation of the dispatch. -/
  generation : UInt64
  /-- The query. -/
  query : String
  /-- How far the task is. -/
  phase : Phase := .waiting

/-- The task waits for the answer of a call. -/
def Task.awaits (call : Nat) (t : Task) : Bool :=
  match t.phase with
  | .called n => n = call
  | _ => false

/-- Start tasks that wait.  The first call has the number of the calls before it. -/
def start (calls : Nat) : List Task → List Task
  | [] => []
  | t :: ts =>
      match t.phase with
      | .waiting => { t with phase := .called calls } :: start (calls + 1) ts
      | _ => t :: start calls ts

/-- The query of a task that waits to be started. -/
def Task.toStart? (t : Task) : Option String :=
  match t.phase with
  | .waiting => some t.query
  | _ => none

/-- The task is not over. -/
def Task.goesOn (t : Task) : Bool :=
  match t.phase with
  | .answered _ => false
  | _ => true

/-- Hand the outcome of a task, if it has one, to its handle. -/
def Task.deliver (t : Task) (handles : List Handle) : List Handle :=
  match t.phase with
  | .answered o => handles.modify t.owner (Handle.settle t.generation o)
  | _ => handles

/-! ## Providers -/

/-- A client shared between handles. -/
structure Provider where
  /-- The handles, by number. -/
  handles : List Handle := []
  /-- The tasks that are not over, in the order in which they were made. -/
  tasks : List Task := []
  /-- The queries the client was called with, first to last. -/
  calls : List String := []

namespace Provider

/-- The handle of a number. -/
def handle (p : Provider) (n : Nat) : Handle := p.handles.getD n {}

/-- Make a handle.  Its number is given back. -/
def newHandle (p : Provider) : Provider × Nat :=
  ({ p with handles := p.handles ++ [{}] }, p.handles.length)

/-- Set the query of a handle. -/
def set (onRuntime : Bool) (n : Nat) (query : String) (p : Provider) : Provider :=
  let (h, generation?) := (p.handle n).set onRuntime query
  let tasks :=
    match generation? with
    | some g => p.tasks ++ [{ owner := n, generation := g, query }]
    | none => p.tasks
  { p with handles := p.handles.set n h, tasks }

/-- Drop a handle. -/
def drop (n : Nat) (p : Provider) : Provider := { p with handles := p.handles.modify n Handle.drop }

/-- Answer a call, if it was made and is not answered. -/
def resolve? (call : Nat) (o : Outcome (Query.Result Row)) (p : Provider) : Option Provider :=
  if p.tasks.any (Task.awaits call) then
    some
      { p with
        tasks := p.tasks.map fun t => if t.awaits call then { t with phase := .answered o } else t }
  else none

/-- Run the runtime until there is nothing more to do. -/
def run (p : Provider) : Provider where
  handles := p.tasks.foldl (fun hs t => t.deliver hs) p.handles
  tasks := start p.calls.length (p.tasks.filter Task.goesOn)
  calls := p.calls ++ p.tasks.filterMap Task.toStart?

/-- Somebody may still publish for a handle. -/
def isOpen (p : Provider) (n : Nat) : Bool :=
  !(p.handle n).dropped || p.tasks.any fun t => t.owner = n

/-- The state of a handle, if it is not loading. -/
def settled? (p : Provider) (n : Nat) : Option State :=
  let s := (p.handle n).state
  if s.isLoading then none else some s

end Provider

/-! ## Receivers -/

/-- Somebody who watches a handle. -/
structure Receiver where
  /-- The number of the handle. -/
  watched : Nat
  /-- How many of its states were seen. -/
  seen : Nat

namespace Receiver

/-- Watch a handle.  What it has published already counts as seen. -/
def subscribe (p : Provider) (n : Nat) : Receiver := ⟨n, (p.handle n).version⟩

/-- There are states that were not seen.  A closed receiver does not know. -/
def changed? (p : Provider) (r : Receiver) : Option Bool :=
  if p.isOpen r.watched then some (r.seen ≠ (p.handle r.watched).version) else none

/-- The current state. -/
def state (p : Provider) (r : Receiver) : State := (p.handle r.watched).state

/-- The current state was seen. -/
def markSeen (p : Provider) (r : Receiver) : Receiver :=
  { r with seen := (p.handle r.watched).version }

end Receiver

end SqlGateway.Live
