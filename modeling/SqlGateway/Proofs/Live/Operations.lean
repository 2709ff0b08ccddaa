import SqlGateway.Proofs.Live.Isolation

/-!
# Histories of a provider

A provider is used by operations: handles are made, set and dropped, the runtime is run, and calls
are answered.  A `History` is any number of them.

What a history does is a run of the events of `Sharing` (`History.sharing`), so handles do not meet
in it either (`handle_of_history`).  The client is called in the order of the dispatches: the
invariant is `History.asked`, of the queries that it was called with before those of the tasks that
wait, and `run` lets no task wait.  Each task that was started knows the number of its own call
(`Numbered`), so an answer to a call goes to the task whose query it was (`answer_taken`).
`calls_of_history` has what was called once the runtime is run.
-/

namespace SqlGateway.Live

open Query (Outcome Row)

/-! ## Operations -/

/-- What can be done to a provider. -/
inductive Operation where
  /-- A handle is made. -/
  | newHandle
  /-- The query of a handle is set. -/
  | set (n : Nat) (onRuntime : Bool) (query : String)
  /-- A handle is dropped. -/
  | drop (n : Nat)
  /-- The runtime is run. -/
  | run
  /-- A call is answered. -/
  | resolve (call : Nat) (outcome : Outcome (Query.Result Row))

/-- What happens to a handle by an operation alone. -/
def Operation.happening? : Operation → Option Happening
  | .newHandle => some .make
  | .set n onRuntime query => some (.set n onRuntime query)
  | .drop n => some (.drop n)
  | .run | .resolve _ _ => none

/-- The queries that operations dispatch, first to last: those that are set on a runtime and are
not followed already. -/
def Operation.dispatched (ops : List Operation) : List String :=
  Live.dispatched (ops.filterMap Operation.happening?)

namespace Provider

variable {p p' : Provider} {op : Operation} {ops : List Operation} {n call : Nat}
  {onRuntime : Bool} {query : String} {o : Outcome (Query.Result Row)}

/-- An operation takes one provider to another.  Only a handle that was made and was not dropped is
set or dropped, and only a call that was made and is not answered is answered. -/
inductive Does : Provider → Operation → Provider → Prop where
  /-- A handle is made. -/
  | newHandle {p : Provider} : Does p .newHandle p.newHandle.1
  /-- The query of a handle is set. -/
  | set {p : Provider} {n : Nat} {onRuntime : Bool} {query : String}
      (made : n < p.handles.length) (kept : (p.handle n).dropped = false) :
      Does p (.set n onRuntime query) (p.set onRuntime n query)
  /-- A handle is dropped. -/
  | drop {p : Provider} {n : Nat} (made : n < p.handles.length)
      (kept : (p.handle n).dropped = false) : Does p (.drop n) (p.drop n)
  /-- The runtime is run. -/
  | run {p : Provider} : Does p .run p.run
  /-- A call is answered. -/
  | resolve {p p' : Provider} {call : Nat} {o : Outcome (Query.Result Row)}
      (resolved : p.resolve? call o = some p') : Does p (.resolve call o) p'

/-- Operations one after the other. -/
inductive History : Provider → List Operation → Provider → Prop where
  | nil {p : Provider} : History p [] p
  | cons {p p' p'' : Provider} {op : Operation} {ops : List Operation} :
      Does p op p' → History p' ops p'' → History p (op :: ops) p''

/-! ## Histories are runs -/

theorem Does.sharing (does : p.Does op p') :
    ∃ es, Sharing.Run { provider := p } es { provider := p' } := by
  have ready {n : Nat} (made : n < p.handles.length) (kept : (p.handle n).dropped = false) :
      Sharing.Ready { provider := p } n := ⟨made, kept, rfl⟩
  cases does with
  | newHandle => exact ⟨_, .single .make⟩
  | set made kept =>
      obtain ⟨es, run, -⟩ := Sharing.Run.set (ready made kept) _ _
      exact ⟨es, run⟩
  | drop made kept => exact ⟨_, .single (.drop (ready made kept))⟩
  | run => exact Sharing.Run.run _
  | resolve resolved => exact Sharing.Run.resolve resolved

/-- A history is a run of events, in which no call of `set` is left in the middle. -/
theorem History.sharing (history : p.History ops p') :
    ∃ es, Sharing.Run { provider := p } es { provider := p' } := by
  induction history with
  | nil => exact ⟨[], .nil⟩
  | cons does _ ih =>
      obtain ⟨es, here⟩ := does.sharing
      obtain ⟨es', later⟩ := ih
      exact ⟨es ++ es', here.append later⟩

/-! ## Started tasks -/

/-- Among tasks that go on, all are called once they are started. -/
theorem called_of_mem_start {ts : List Task} (goesOn : ∀ t ∈ ts, t.goesOn = true) (calls : Nat) :
    ∀ t ∈ start calls ts, ∃ call, t.phase = .called call := by
  induction ts generalizing calls with
  | nil => exact nofun
  | cons t ts ih =>
      obtain ⟨here, later⟩ := List.forall_mem_cons.mp goesOn
      rw [start]
      cases phase : t.phase with
      | waiting => exact List.forall_mem_cons.mpr ⟨⟨_, rfl⟩, ih later _⟩
      | called call => exact List.forall_mem_cons.mpr ⟨⟨_, phase⟩, ih later _⟩
      | answered o =>
          rw [Task.goesOn, phase] at here
          cases here

/-- Once the runtime is run, every task has called the client. -/
theorem called_of_mem_run : ∀ t ∈ p.run.tasks, ∃ call, t.phase = .called call :=
  called_of_mem_start (fun _ mem => (List.mem_filter.mp mem).2) _

/-! ## Numbers of calls -/

/-- A task that was started knows the number of the call for its query, and no other knows it. -/
structure Numbered (calls : List String) (ts : List Task) : Prop where
  /-- The call of a task is for its query. -/
  query : ∀ t ∈ ts, ∀ call, t.phase = .called call → calls[call]? = some t.query
  /-- Different tasks have different calls. -/
  apart : ts.Pairwise fun t u => ∀ call, t.phase = .called call → u.phase ≠ .called call

namespace Numbered

variable {calls : List String} {ts : List Task} {t : Task} (numbered : Numbered calls ts)

include numbered

theorem sublist {us : List Task} (sub : us.Sublist ts) : Numbered calls us :=
  ⟨fun u mem => numbered.query u (sub.subset mem), numbered.apart.sublist sub⟩

/-- More calls take no number of the others. -/
theorem append (more : List String) : Numbered (calls ++ more) ts :=
  ⟨fun t mem call called => by
    have found := numbered.query t mem call called
    obtain ⟨inside, -⟩ := List.getElem?_eq_some_iff.mp found
    rw [List.getElem?_append_left inside, found], numbered.apart⟩

/-- A task that waits has no call. -/
theorem concat (waiting : t.phase = .waiting) : Numbered calls (ts ++ [t]) where
  query u mem call called := by
    rcases List.mem_append.mp mem with mem | mem
    · exact numbered.query u mem call called
    · obtain rfl := List.mem_singleton.mp mem
      cases waiting.symm.trans called
  apart := by
    refine List.pairwise_append.mpr ⟨numbered.apart, List.pairwise_singleton _ _, ?_⟩
    intro _ _ u mem call _ called
    obtain rfl := List.mem_singleton.mp mem
    cases waiting.symm.trans called

/-- Tasks that change end their calls. -/
theorem map {f : Task → Task} (ends : ∀ t call, (f t).phase = .called call → f t = t) :
    Numbered calls (ts.map f) where
  query u mem call called := by
    obtain ⟨t, there, rfl⟩ := List.mem_map.mp mem
    have same := ends t call called
    rw [same] at called ⊢
    exact numbered.query t there call called
  apart := by
    refine List.pairwise_map.mpr (numbered.apart.imp fun {t u} apart call here there => ?_)
    rw [ends t call here] at here
    rw [ends u call there] at there
    exact apart call here there

end Numbered

/-- A call from before tasks were started is that of a task from before. -/
theorem mem_of_mem_start {ts : List Task} {calls : Nat} {t : Task} (mem : t ∈ start calls ts)
    (called : t.phase = .called call) (old : call < calls) : t ∈ ts := by
  induction ts generalizing calls with
  | nil => cases mem
  | cons u ts ih =>
      rw [start] at mem
      split at mem
      · rcases List.mem_cons.mp mem with rfl | mem
        · cases called
          exact absurd old (Nat.lt_irrefl _)
        · exact .tail _ (ih mem (Nat.lt_succ_of_lt old))
      · rcases List.mem_cons.mp mem with rfl | mem
        · exact .head _
        · exact .tail _ (ih mem old)

/-- Tasks that are started are called for in their order, after the calls before. -/
theorem Numbered.start {calls : List String} {ts : List Task} (numbered : Numbered calls ts) :
    Numbered (calls ++ ts.filterMap Task.toStart?) (start calls.length ts) := by
  induction ts generalizing calls with
  | nil => exact ⟨nofun, .nil⟩
  | cons t ts ih =>
      have later := numbered.sublist (List.sublist_cons_self t ts)
      have apart := (List.pairwise_cons.mp numbered.apart).1
      rw [Live.start]
      split
      next waiting =>
        have length : (calls ++ [t.query]).length = calls.length + 1 := by simp
        have started := ih (later.append [t.query])
        rw [List.append_assoc, length] at started
        rw [List.filterMap_cons_some (Task.toStart?_of_waiting waiting)]
        refine ⟨List.forall_mem_cons.mpr ⟨?_, started.query⟩, .cons ?_ started.apart⟩
        · rintro call ⟨⟩
          simp
        · -- The number of this call was not given before.
          rintro u mem call ⟨⟩ called
          have old := mem_of_mem_start mem called (Nat.lt_succ_self _)
          have found := later.query u old _ called
          rw [List.getElem?_eq_none (Nat.le_refl _)] at found
          cases found
      next other =>
        have started := ih later
        rw [List.filterMap_cons_none (Task.toStart?_of_started other)]
        refine ⟨List.forall_mem_cons.mpr ⟨?_, started.query⟩, .cons ?_ started.apart⟩
        · exact (numbered.append _).query t (.head _)
        · intro u mem call here there
          have found := numbered.query t (.head _) call here
          have old := (List.getElem?_eq_some_iff.mp found).1
          exact apart u (mem_of_mem_start mem there old) call here there

/-- Only tasks that go on wait. -/
theorem toStart?_of_goesOn (ts : List Task) :
    (ts.filter Task.goesOn).filterMap Task.toStart? = ts.filterMap Task.toStart? := by
  rw [List.filterMap_filter]
  refine List.filterMap_congr fun t _ => ?_
  rw [Task.goesOn, Task.toStart?]
  cases t.phase <;> rfl

/-- The numbers of calls are right in every operation. -/
theorem Does.numbered (does : p.Does op p') (numbered : Numbered p.calls p.tasks) :
    Numbered p'.calls p'.tasks := by
  cases does with
  | newHandle | drop => exact numbered
  | @set _ n onRuntime query =>
      rw [Provider.set]
      dsimp only
      split
      · exact numbered.concat rfl
      · exact numbered
  | run =>
      have goingOn : (p.tasks.filter Task.goesOn).Sublist p.tasks := List.filter_sublist
      have started := (numbered.sublist goingOn).start
      rw [toStart?_of_goesOn] at started
      exact started
  | resolve resolved =>
      obtain ⟨-, rfl⟩ := Sharing.resolve?_inv resolved
      refine numbered.map fun t call called => ?_
      split at called
      next => cases called
      next others => exact if_neg others

theorem History.numbered (history : p.History ops p') (numbered : Numbered p.calls p.tasks) :
    Numbered p'.calls p'.tasks := by
  induction history with
  | nil => exact numbered
  | cons does _ ih => exact ih (does.numbered numbered)

/-- An answer is taken by the one task that called, and the call was for its query. -/
theorem answer_taken (history : History {} ops p) (resolved : p.resolve? call o = some p') :
    ∃ before t after, p.tasks = before ++ t :: after ∧ t.phase = .called call ∧
      p.calls[call]? = some t.query ∧
      p' = { p with tasks := before ++ { t with phase := .answered o } :: after } := by
  have numbered := history.numbered ⟨nofun, .nil⟩
  obtain ⟨⟨t, mem, called⟩, rfl⟩ := Sharing.resolve?_inv resolved
  obtain ⟨before, after, tasks⟩ := List.append_of_mem mem
  refine ⟨before, t, after, tasks, called, numbered.query t mem call called, ?_⟩
  -- No task before or after the one that called awaits the same call.
  have apart := numbered.apart
  rw [tasks, List.pairwise_append, List.pairwise_cons] at apart
  obtain ⟨-, ⟨later, -⟩, earlier⟩ := apart
  have front : Sharing.answered call o before = before :=
    Sharing.answered_of_others fun u mem here => earlier u mem t (.head _) call here called
  have back : Sharing.answered call o after = after :=
    Sharing.answered_of_others fun u mem => later u mem call called
  rw [tasks, Sharing.answered_append, Sharing.answered_cons called, front, back]

/-! ## Calls in order -/

/-- The outcome of a task does not change which query a handle follows. -/
theorem query_deliver (t : Task) (handles : List Handle) (n : Nat) :
    ((t.deliver handles).getD n {}).query = (handles.getD n {}).query := by
  rw [Task.deliver]
  split
  · exact congrFun (Sharing.followed_modify t.owner _ (Handle.settle_query _ _)
      { provider := { handles } }) n
  · rfl

theorem followed_run : Sharing.followed { provider := p.run } =
    Sharing.followed { provider := p } := by
  have told (ts : List Task) (handles : List Handle) (n : Nat) :
      ((ts.foldl (fun hs t => t.deliver hs) handles).getD n {}).query =
        (handles.getD n {}).query := by
    induction ts generalizing handles with
    | nil => rfl
    | cons t ts ih => exact (ih _).trans (query_deliver t handles n)
  exact funext (told p.tasks p.handles)

/-- No task waits once the runtime is run. -/
theorem toStart?_run : p.run.tasks.filterMap Task.toStart? = [] := by
  refine List.filterMap_eq_nil_iff.mpr fun t mem => ?_
  obtain ⟨call, called⟩ := called_of_mem_run t mem
  exact Task.toStart?_of_called called

theorem asked_resolve (resolved : p.resolve? call o = some p') :
    Sharing.asked { provider := p' } = Sharing.asked { provider := p } := by
  obtain ⟨-, rfl⟩ := Sharing.resolve?_inv resolved
  rw [Sharing.asked, Sharing.asked, Sharing.answered, List.filterMap_map]
  refine congrArg _ (List.filterMap_congr fun t _ => ?_)
  dsimp only [Function.comp_apply]
  split
  next awaits => exact (Task.toStart?_of_called (Task.awaits_iff.mp awaits)).symm
  next => rfl

/-- An operation adds what it dispatches to the queries that the client was or will be called
with. -/
theorem Does.asked (does : p.Does op p') (es : List Happening) :
    Sharing.asked { provider := p } ++
        dispatchedFrom (Sharing.followed { provider := p }) (op.happening?.toList ++ es) =
      Sharing.asked { provider := p' } ++
        dispatchedFrom (Sharing.followed { provider := p' }) es := by
  cases does with
  | newHandle =>
      have followed := Sharing.followed_newHandle { provider := p }
      rw [followed]
      rfl
  | set made kept => exact Sharing.asked_append_set (s := { provider := p }) made _ _ es
  | @drop n =>
      have followed := Sharing.followed_drop n { provider := p }
      rw [followed]
      rfl
  | run =>
      rw [followed_run, Sharing.asked, Sharing.asked, toStart?_run, List.append_nil]
      rfl
  | resolve resolved =>
      rw [asked_resolve resolved]
      obtain ⟨-, rfl⟩ := Sharing.resolve?_inv resolved
      rfl

/-- The client was or will be called with what was dispatched, in that order. -/
theorem History.asked (history : p.History ops p') :
    Sharing.asked { provider := p } ++ dispatchedFrom (Sharing.followed { provider := p })
        (ops.filterMap Operation.happening?) =
      Sharing.asked { provider := p' } := by
  induction history with
  | nil => exact List.append_nil _
  | @cons _ _ _ op ops does _ ih =>
      have happenings : (op :: ops).filterMap Operation.happening? =
          op.happening?.toList ++ ops.filterMap Operation.happening? := by
        rw [List.filterMap_cons]
        cases op.happening? <;> rfl
      rw [happenings, does.asked, ih]

/-- A handle is after a history what it is after the events of a run that concern it. -/
theorem handle_of_history (history : History {} ops p) :
    ∃ es, Sharing.Run {} es { provider := p } ∧
      ∀ n, ∃ r, Sharing.Run {} (es.filter (Happening.concerns n)) r ∧
        r.provider.handle n = p.handle n := by
  obtain ⟨es, run⟩ := history.sharing
  refine ⟨es, run, fun n => ?_⟩
  obtain ⟨r, restricted, alike⟩ := run.restrict (.refl n {})
  exact ⟨r, restricted, alike.handle⟩

/-- Once the runtime is run after a history, the client was called with the queries that were
dispatched, in their order, and with no others.  Every task that is left has called, and knows the
number of the call for its query. -/
theorem calls_of_history (history : History {} ops p) :
    p.run.calls = Operation.dispatched ops ∧
      ∀ t ∈ p.run.tasks, ∃ call, t.phase = .called call ∧ p.run.calls[call]? = some t.query := by
  refine ⟨history.asked.symm, fun t mem => ?_⟩
  obtain ⟨call, called⟩ := called_of_mem_run t mem
  have numbered := Does.run.numbered (history.numbered ⟨nofun, .nil⟩)
  exact ⟨call, called, numbered.query t mem call called⟩

end Provider

end SqlGateway.Live
