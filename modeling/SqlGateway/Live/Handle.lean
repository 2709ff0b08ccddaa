import SqlGateway.Query.Result

/-!
# Handles

A handle follows one query at a time and publishes what becomes of it.  Setting a new query
publishes `loading`, and the outcome of that query is published when it is there.

A handle may have set another query by then, or may be dropped.  So every dispatch of a
query has a generation, the number of times the handle has moved on, and an outcome is
published only if its generation is still the current one.  Setting the query that the
handle follows already does nothing.

A query is dispatched on a runtime.  Where there is none, the handle fails at once.
-/

namespace SqlGateway.Live

open Query (Outcome Row)

/-! ## States -/

/-- What a handle shows. -/
inductive State where
  /-- No query was set. -/
  | idle
  /-- The query is on its way. -/
  | loading
  /-- The query succeeded. -/
  | success (result : Query.Result Row)
  /-- The query failed. -/
  | failed (error : Query.Error)

namespace State

/-- The name of a state. -/
def name : State → String
  | .idle => "idle"
  | .loading => "loading"
  | .success _ => "success"
  | .failed _ => "failed"

/-- The query is on its way. -/
def isLoading : State → Bool
  | .loading => true
  | _ => false

/-- The result, if the query succeeded. -/
def result? : State → Option (Query.Result Row)
  | .success r => some r
  | _ => none

/-- The error, if the query failed. -/
def error? : State → Option Query.Error
  | .failed e => some e
  | _ => none

/-- The state that an outcome leads to. -/
def ofOutcome : Outcome (Query.Result Row) → State
  | .ok r => .success r
  | .error e => .failed e

end State

/-- The error of a query for which there is no runtime. -/
def noRuntime : Query.Error :=
  .transport "query handle used outside a Tokio runtime"
    "there is no reactor running, must be called from the context of a Tokio 1.x runtime"

/-! ## Handles -/

/-- A handle. -/
structure Handle where
  /-- The states it has published, the latest first. -/
  published : List State := []
  /-- How often it has moved on. -/
  generation : UInt64 := 0
  /-- The query it follows. -/
  query : Option String := none
  /-- It was dropped. -/
  dropped : Bool := false

namespace Handle

/-- The current state. -/
def state (h : Handle) : State := h.published.headD .idle

/-- The number of states published. -/
def version (h : Handle) : Nat := h.published.length

/-- Publish a state. -/
def publish (s : State) (h : Handle) : Handle := { h with published := s :: h.published }

/-- Move on to a query. -/
def moveOn (query : String) (h : Handle) : Handle :=
  publish .loading { h with generation := h.generation + 1, query := some query }

/-- Set the query.  On a runtime, a new query is to be dispatched with the generation that
is given back. -/
def set (onRuntime : Bool) (query : String) (h : Handle) : Handle × Option UInt64 :=
  if h.query = some query then (h, none)
  else
    let h := h.moveOn query
    if onRuntime then (h, some h.generation) else (h.publish (.failed noRuntime), none)

/-- Take the outcome of a dispatch of some generation. -/
def settle (generation : UInt64) (o : Outcome (Query.Result Row)) (h : Handle) : Handle :=
  if h.generation = generation then h.publish (.ofOutcome o) else h

/-- Drop the handle.  Whatever is on its way is out of date. -/
def drop (h : Handle) : Handle := { h with generation := h.generation + 1, dropped := true }

end Handle

end SqlGateway.Live
