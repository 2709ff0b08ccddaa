import Mathlib.Logic.Function.Basic
import SqlGateway.Live.Provider

/-!
# Handles that share a client

A `Sharing` is a provider at the grain at which its handles interleave.  The owner of a handle
makes it, sets its query and drops it, one after the other.  The runtime starts the tasks of
dispatches, the client answers their calls, and the runtime hands out what was answered, each
task at a time of its own.  So the steps of different handles may alternate in any way, and so
may the tasks of one handle.

A call of `set` that finds no runtime takes two steps, as in a `Session`: the handle moves on,
and then publishes the failure.

A task is known by its handle and by its place among the tasks of that handle.  The number of
its call depends on the calls of other handles, and no event speaks of it.

What the provider does as a whole is a run of these steps.  `Run.set` is one call of `set`,
`Run.run` all that the runtime does at a time, and `Run.resolve` an answer of the client.
-/

namespace SqlGateway.Live

open Query (Outcome Row)

/-! ## Tasks by handle -/

/-- The tasks of a handle. -/
def own (n : Nat) (ts : List Task) : List Task := ts.filter fun t => t.owner = n

@[simp] theorem own_nil (n : Nat) : own n [] = [] := rfl

@[simp] theorem own_append (n : Nat) (ts us : List Task) :
    own n (ts ++ us) = own n ts ++ own n us :=
  List.filter_append _ _

theorem own_cons_self {n : Nat} {t : Task} (owner : t.owner = n) (ts : List Task) :
    own n (t :: ts) = t :: own n ts :=
  List.filter_cons_of_pos (decide_eq_true owner)

theorem own_cons_other {n : Nat} {t : Task} (other : t.owner ≠ n) (ts : List Task) :
    own n (t :: ts) = own n ts :=
  List.filter_cons_of_neg (by simpa using other)

theorem Task.awaits_iff {t : Task} {call : Nat} :
    t.awaits call = true ↔ t.phase = .called call := by
  unfold Task.awaits
  split
  next n phase => simp [phase]
  next other => exact iff_of_false Bool.false_ne_true (other call)

theorem Task.toStart?_of_waiting {t : Task} (waiting : t.phase = .waiting) :
    t.toStart? = some t.query := by
  rw [Task.toStart?, waiting]

/-- A task that does not wait is not to be started. -/
theorem Task.toStart?_of_started {t : Task} (started : t.phase ≠ .waiting) :
    t.toStart? = none := by
  rw [Task.toStart?]
  split
  next waiting => exact absurd waiting started
  next => rfl

theorem Task.toStart?_of_called {t : Task} {call : Nat} (called : t.phase = .called call) :
    t.toStart? = none :=
  toStart?_of_started fun waiting => Phase.noConfusion (waiting.symm.trans called)

/-- Among some tasks there is one of a handle at a place, with tasks before and after it. -/
structure Held (ts : List Task) (n place : Nat) (before : List Task) (t : Task)
    (after : List Task) : Prop where
  /-- The tasks. -/
  tasks : ts = before ++ t :: after
  /-- The handle of the task. -/
  owner : t.owner = n
  /-- How many tasks of the handle are before it. -/
  place : (own n before).length = place

/-! ## Events -/

/-- What can happen to handles that share a client. -/
inductive Happening where
  /-- A handle is made. -/
  | make
  /-- A handle is asked to follow a query. -/
  | set (n : Nat) (onRuntime : Bool) (query : String)
  /-- A call that found no runtime publishes its failure and is over. -/
  | fail (n : Nat)
  /-- A handle is dropped. -/
  | drop (n : Nat)
  /-- A task of a handle calls the client. -/
  | start (n place : Nat)
  /-- The client answers a task of a handle. -/
  | answer (n place : Nat) (outcome : Outcome (Query.Result Row))
  /-- A task of a handle hands out its outcome and is over. -/
  | finish (n place : Nat)

/-- The handle to which something happens. -/
def Happening.handle? : Happening → Option Nat
  | .make => none
  | .set n _ _ | .fail n | .drop n | .start n _ | .answer n _ _ | .finish n _ => some n

/-- A provider, and what its handles are in the middle of. -/
structure Sharing where
  /-- The provider. -/
  provider : Provider := {}
  /-- The handle of a number is in the middle of a call that found no runtime. -/
  failing : Nat → Bool := fun _ => false

namespace Sharing

/-- The owner of a handle is not in the middle of a call, and has not dropped it. -/
structure Ready (s : Sharing) (n : Nat) : Prop where
  /-- The handle was made. -/
  made : n < s.provider.handles.length
  /-- It was not dropped. -/
  kept : (s.provider.handle n).dropped = false
  /-- No call is to fail. -/
  idle : s.failing n = false

/-- Change a handle. -/
def modify (n : Nat) (f : Handle → Handle) (s : Sharing) : Sharing :=
  { s with provider := { s.provider with handles := s.provider.handles.modify n f } }

/-- A handle moves on to a query for which there is no runtime. -/
def stray (n : Nat) (query : String) (s : Sharing) : Sharing :=
  { s.modify n (Handle.moveOn query) with failing := Function.update s.failing n true }

/-- The failure of a call without a runtime is published. -/
def fail (n : Nat) (s : Sharing) : Sharing :=
  { s.modify n (Handle.publish (.failed noRuntime)) with
    failing := Function.update s.failing n false }

/-- A task calls the client. -/
def start (before : List Task) (t : Task) (after : List Task) (s : Sharing) : Sharing :=
  { s with
    provider :=
      { s.provider with
        tasks := before ++ { t with phase := .called s.provider.calls.length } :: after
        calls := s.provider.calls ++ [t.query] } }

/-- The client answers a task. -/
def answer (before : List Task) (t : Task) (after : List Task)
    (o : Outcome (Query.Result Row)) (s : Sharing) : Sharing :=
  { s with
    provider := { s.provider with tasks := before ++ { t with phase := .answered o } :: after } }

/-- A task hands out its outcome and is over. -/
def finish (before : List Task) (t : Task) (after : List Task) (s : Sharing) : Sharing :=
  { s with
    provider :=
      { s.provider with
        tasks := before ++ after
        handles := t.deliver s.provider.handles } }

/-- One event. -/
inductive Step : Sharing → Happening → Sharing → Prop where
  /-- A handle is made. -/
  | make {s : Sharing} : Step s .make { s with provider := s.provider.newHandle.1 }
  /-- A query is set on a runtime, or the query that the handle follows is set again. -/
  | set {s : Sharing} {n : Nat} {onRuntime : Bool} {query : String} (ready : s.Ready n)
      (able : onRuntime = true ∨ (s.provider.handle n).query = some query) :
      Step s (.set n onRuntime query) { s with provider := s.provider.set onRuntime n query }
  /-- A new query is set where there is no runtime. -/
  | stray {s : Sharing} {n : Nat} {query : String} (ready : s.Ready n)
      (new : (s.provider.handle n).query ≠ some query) :
      Step s (.set n false query) (s.stray n query)
  /-- The failure of such a call is published. -/
  | fail {s : Sharing} {n : Nat} (failing : s.failing n = true) : Step s (.fail n) (s.fail n)
  /-- A handle is dropped. -/
  | drop {s : Sharing} {n : Nat} (ready : s.Ready n) :
      Step s (.drop n) { s with provider := s.provider.drop n }
  /-- A task that waits is started. -/
  | start {s : Sharing} {n place : Nat} {before after : List Task} {t : Task}
      (held : Held s.provider.tasks n place before t after) (waiting : t.phase = .waiting) :
      Step s (.start n place) (s.start before t after)
  /-- A task that has called the client is answered. -/
  | answer {s : Sharing} {n place call : Nat} {before after : List Task} {t : Task}
      {o : Outcome (Query.Result Row)} (held : Held s.provider.tasks n place before t after)
      (called : t.phase = .called call) : Step s (.answer n place o) (s.answer before t after o)
  /-- A task that was answered is finished. -/
  | finish {s : Sharing} {n place : Nat} {before after : List Task} {t : Task}
      {o : Outcome (Query.Result Row)} (held : Held s.provider.tasks n place before t after)
      (answered : t.phase = .answered o) : Step s (.finish n place) (s.finish before t after)

/-- Events one after the other. -/
inductive Run : Sharing → List Happening → Sharing → Prop where
  | nil {s : Sharing} : Run s [] s
  | cons {s s' s'' : Sharing} {e : Happening} {es : List Happening} :
      Step s e s' → Run s' es s'' → Run s (e :: es) s''

theorem Run.single {s s' : Sharing} {e : Happening} (step : Step s e s') : Run s [e] s' :=
  .cons step .nil

theorem Run.append {s s' s'' : Sharing} {es es' : List Happening} (here : Run s es s')
    (later : Run s' es' s'') : Run s (es ++ es') s'' := by
  induction here with
  | nil => exact later
  | cons step _ ih => exact .cons step (ih later)

/-! ## Events happen in one way -/

theorem eq_of_held {ts before after before' after' : List Task} {t t' : Task} {n place : Nat}
    (held : Held ts n place before t after) (held' : Held ts n place before' t' after') :
    before = before' ∧ t = t' ∧ after = after' := by
  obtain ⟨tasks, owner, rfl⟩ := held
  obtain ⟨rfl, owner', same⟩ := held'
  -- Along the tasks before one of the two: where they part, one has a task of the handle less.
  induction before generalizing before' with
  | nil =>
      cases before' with
      | nil =>
          obtain ⟨rfl, rfl⟩ := List.cons.inj tasks
          exact ⟨rfl, rfl, rfl⟩
      | cons u before' =>
          obtain ⟨rfl, -⟩ := List.cons.inj tasks
          rw [own_cons_self owner] at same
          cases same
  | cons u before ih =>
      cases before' with
      | nil =>
          obtain ⟨rfl, -⟩ := List.cons.inj tasks
          rw [own_cons_self owner'] at same
          cases same
      | cons u' before' =>
          obtain ⟨rfl, rest⟩ := List.cons.inj tasks
          by_cases mine : u'.owner = n
          · rw [own_cons_self mine, own_cons_self mine] at same
            obtain ⟨rfl, rfl, rfl⟩ := ih (Nat.succ.inj same) rest
            exact ⟨rfl, rfl, rfl⟩
          · rw [own_cons_other mine, own_cons_other mine] at same
            obtain ⟨rfl, rfl, rfl⟩ := ih same rest
            exact ⟨rfl, rfl, rfl⟩

/-- An event leads to one state. -/
theorem Step.unique {s a b : Sharing} {e : Happening} (here : Step s e a) (there : Step s e b) :
    a = b := by
  cases here with
  | make | fail _ | drop _ =>
      cases there
      rfl
  | set ready able =>
      cases there with
      | set => rfl
      | stray _ new => exact absurd (able.resolve_left Bool.false_ne_true) new
  | stray ready new =>
      cases there with
      | set _ able => exact absurd (able.resolve_left Bool.false_ne_true) new
      | stray => rfl
  | start held _ =>
      cases there with
      | start held' _ =>
          obtain ⟨rfl, rfl, rfl⟩ := eq_of_held held held'
          rfl
  | answer held _ =>
      cases there with
      | answer held' _ =>
          obtain ⟨rfl, rfl, rfl⟩ := eq_of_held held held'
          rfl
  | finish held _ =>
      cases there with
      | finish held' _ =>
          obtain ⟨rfl, rfl, rfl⟩ := eq_of_held held held'
          rfl

/-- A run ends in one state. -/
theorem Run.unique {s a b : Sharing} {es : List Happening} (here : Run s es a)
    (there : Run s es b) : a = b := by
  induction here with
  | nil =>
      cases there
      rfl
  | cons step _ ih =>
      cases there with
      | cons step' rest =>
          obtain rfl := step.unique step'
          exact ih rest

/-! ## What the provider does -/

theorem fail_stray {s : Sharing} {n : Nat} {query : String} (ready : s.Ready n)
    (new : (s.provider.handle n).query ≠ some query) :
    (s.stray n query).fail n = { s with provider := s.provider.set false n query } := by
  have failing : Function.update (Function.update s.failing n true) n false = s.failing := by
    rw [Function.update_idem, ← ready.idle, Function.update_eq_self]
  have handles : (s.provider.handles.modify n (Handle.moveOn query)).modify n
      (Handle.publish (.failed noRuntime)) =
        s.provider.handles.set n
          (((s.provider.handle n).moveOn query).publish (.failed noRuntime)) := by
    rw [List.modify_modify_eq, @List.modify_eq_set Handle ⟨{}⟩, Provider.handle,
      List.getD_eq_getElem?_getD]
    rfl
  rw [Provider.set, Handle.set, if_neg new]
  dsimp only [Sharing.fail, Sharing.stray, Sharing.modify]
  rw [failing, handles]
  rfl

/-- A call of `Provider.set` is a run of one event, or of two where a new query finds no
runtime. -/
theorem Run.set {s : Sharing} {n : Nat} (ready : s.Ready n) (onRuntime : Bool) (query : String) :
    ∃ es, Run s es { s with provider := s.provider.set onRuntime n query } ∧
      (es = [.set n onRuntime query] ∨ es = [.set n onRuntime query, .fail n]) := by
  by_cases able : onRuntime = true ∨ (s.provider.handle n).query = some query
  · exact ⟨_, .single (.set ready able), .inl rfl⟩
  · obtain ⟨off, new⟩ := not_or.mp able
    obtain rfl := Bool.not_eq_true _ ▸ off
    have failing : (s.stray n query).failing n = true := Function.update_self ..
    rw [← fail_stray ready new]
    exact ⟨_, .cons (.stray ready new) (.single (.fail failing)), .inr rfl⟩

/-- A provider when the runtime has gone through its tasks, but for some at the front. -/
def runFrom (done rest : List Task) (p : Provider) : Provider where
  handles := rest.foldl (fun hs t => t.deliver hs) p.handles
  tasks := done ++ Live.start p.calls.length (rest.filter Task.goesOn)
  calls := p.calls ++ rest.filterMap Task.toStart?

section

variable {t : Task} {done rest : List Task} {s : Sharing}

theorem runFrom_waiting (waiting : t.phase = .waiting) :
    runFrom (done ++ [{ t with phase := .called s.provider.calls.length }]) rest
      (s.start done t rest).provider = runFrom done (t :: rest) s.provider := by
  simp [runFrom, start, Live.start, Task.deliver, Task.goesOn, Task.toStart?, waiting]

theorem runFrom_called {call : Nat} (called : t.phase = .called call) :
    runFrom (done ++ [t]) rest s.provider = runFrom done (t :: rest) s.provider := by
  simp [runFrom, Live.start, Task.deliver, Task.goesOn, Task.toStart?, called]

theorem runFrom_answered {o : Outcome (Query.Result Row)} (answered : t.phase = .answered o) :
    runFrom done rest (s.finish done t rest).provider = runFrom done (t :: rest) s.provider := by
  simp [runFrom, finish, Task.deliver, Task.goesOn, Task.toStart?, answered]

end

theorem Run.runFrom {s : Sharing} (done : List Task) {rest : List Task}
    (tasks : s.provider.tasks = done ++ rest) :
    ∃ es, Run s es { s with provider := runFrom done rest s.provider } := by
  -- Only a task that goes on joins those that are done, so `done` is not a part of the tasks of
  -- the beginning.
  induction rest generalizing s done with
  | nil =>
      have still : Sharing.runFrom done [] s.provider = s.provider := by
        simp [Sharing.runFrom, Live.start, ← tasks]
      rw [still]
      exact ⟨[], .nil⟩
  | cons t rest ih =>
      have held : Held s.provider.tasks t.owner (own t.owner done).length done t rest :=
        ⟨tasks, rfl, rfl⟩
      cases phase : t.phase with
      | waiting =>
          obtain ⟨es, run⟩ := ih (s := s.start done t rest)
            (done ++ [{ t with phase := .called s.provider.calls.length }]) (by simp [start])
          rw [runFrom_waiting phase] at run
          exact ⟨_, .cons (.start held phase) run⟩
      | called call =>
          obtain ⟨es, run⟩ := ih (s := s) (done ++ [t]) (by simp [tasks])
          rw [runFrom_called phase] at run
          exact ⟨es, run⟩
      | answered o =>
          obtain ⟨es, run⟩ := ih (s := s.finish done t rest) done rfl
          rw [runFrom_answered phase] at run
          exact ⟨_, .cons (.finish held phase) run⟩

/-- Running the runtime is a run. -/
theorem Run.run (s : Sharing) : ∃ es, Run s es { s with provider := s.provider.run } :=
  Run.runFrom [] rfl

/-- The tasks that await a call, answered. -/
def answered (call : Nat) (o : Outcome (Query.Result Row)) (ts : List Task) : List Task :=
  ts.map fun t => if t.awaits call then { t with phase := .answered o } else t

section Answered

variable {call : Nat} {o : Outcome (Query.Result Row)} {t : Task} {ts us : List Task}

theorem answered_append : answered call o (ts ++ us) = answered call o ts ++ answered call o us :=
  List.map_append

theorem answered_cons (called : t.phase = .called call) :
    answered call o (t :: ts) = { t with phase := .answered o } :: answered call o ts := by
  rw [answered, List.map_cons, if_pos (Task.awaits_iff.mpr called), answered]

theorem answered_of_others (others : ∀ t ∈ ts, t.phase ≠ .called call) :
    answered call o ts = ts := by
  refine (List.map_congr_left fun t mem => if_neg fun awaits => ?_).trans (List.map_id ts)
  exact others t mem (Task.awaits_iff.mp awaits)

end Answered

/-- An answer is for a call that a task has made, and changes tasks alone. -/
theorem resolve?_inv {p p' : Provider} {call : Nat} {o : Outcome (Query.Result Row)}
    (resolved : p.resolve? call o = some p') :
    (∃ t ∈ p.tasks, t.phase = .called call) ∧
      p' = { p with tasks := answered call o p.tasks } := by
  rw [Provider.resolve?] at resolved
  split at resolved
  case isFalse => cases resolved
  case isTrue awaits =>
    cases resolved
    obtain ⟨t, mem, awaits⟩ := List.any_eq_true.mp awaits
    exact ⟨⟨t, mem, Task.awaits_iff.mp awaits⟩, rfl⟩

theorem Run.answerFrom {s : Sharing} (call : Nat) (o : Outcome (Query.Result Row))
    (done : List Task) {rest : List Task} (tasks : s.provider.tasks = done ++ rest) :
    ∃ es, Run s es { s with
      provider := { s.provider with tasks := done ++ Sharing.answered call o rest } } := by
  induction rest generalizing s done with
  | nil =>
      have still :
          { s.provider with tasks := done ++ Sharing.answered call o [] } = s.provider := by
        simp [Sharing.answered, ← tasks]
      rw [still]
      exact ⟨[], .nil⟩
  | cons t rest ih =>
      have held : Held s.provider.tasks t.owner (own t.owner done).length done t rest :=
        ⟨tasks, rfl, rfl⟩
      cases awaits : t.awaits call with
      | false =>
          obtain ⟨es, run⟩ := ih (s := s) (done ++ [t]) (by simp [tasks])
          refine ⟨es, ?_⟩
          simpa [Sharing.answered, awaits] using run
      | true =>
          have called : t.phase = .called call := Task.awaits_iff.mp awaits
          obtain ⟨es, run⟩ := ih (s := s.answer done t rest o)
            (done ++ [{ t with phase := .answered o }]) (by simp [answer])
          refine ⟨.answer _ _ o :: es, .cons (.answer held called) ?_⟩
          simpa [Sharing.answered, Sharing.answer, awaits] using run

/-- An answer of the client is a run. -/
theorem Run.resolve {s : Sharing} {call : Nat} {o : Outcome (Query.Result Row)} {p : Provider}
    (resolved : s.provider.resolve? call o = some p) :
    ∃ es, Run s es { s with provider := p } := by
  obtain ⟨-, rfl⟩ := resolve?_inv resolved
  exact Run.answerFrom call o [] rfl

end Sharing

end SqlGateway.Live
