import Mathlib.Data.List.Perm.Basic
import SqlGateway.Proofs.Live.Session
import SqlGateway.Proofs.Live.Sharing

/-!
# Handles that share a client do not meet

What happens to one handle changes no other (`Step.handle_other`).  So a handle is, after any
run, what it is after the events of that run that concern it (`Run.restrict`).  Two runs are
compared by `AlikeFor`, which sees of a state what one handle and its tasks see, and of these
not the numbers of their calls: an event elsewhere cannot be seen (`Step.alike_other`), and an
event of the handle can happen in both (`Step.mirror`).

The client is called once for each query that was dispatched, and for no other.  `Sharing.asked`
are the queries that the client was or will be called with, and an event adds the query that it
dispatches, if it does (`Step.asked`).  `shared_client` has both.
-/

namespace SqlGateway.Live

open Query (Outcome Row)

/-! ## Events by handle -/

/-- An event concerns a handle if it happens to it.  Making a handle concerns all, since it
takes a number. -/
def Happening.concerns (n : Nat) (e : Happening) : Bool := e.handle?.all (· = n)

/-- The queries that events dispatch, first to last, for handles that follow some queries: those
that are set on a runtime and are not followed already. -/
def dispatchedFrom (followed : Nat → Option String) : List Happening → List String
  | [] => []
  | .set n onRuntime query :: es =>
      if followed n = some query then dispatchedFrom followed es
      else
        (if onRuntime then [query] else []) ++
          dispatchedFrom (Function.update followed n (some query)) es
  | _ :: es => dispatchedFrom followed es

/-- The queries that events dispatch from the beginning. -/
def dispatched (es : List Happening) : List String := dispatchedFrom (fun _ => none) es

/-! ## Handles of a provider -/

section Handles

variable {handles : List Handle} {m n : Nat}

theorem getD_modify_other (other : m ≠ n) (f : Handle → Handle) :
    (handles.modify m f).getD n {} = handles.getD n {} := by
  rw [List.getD_eq_getElem?_getD, List.getElem?_modify_ne f handles other,
    ← List.getD_eq_getElem?_getD]

theorem getD_modify_self (made : n < handles.length) (f : Handle → Handle) :
    (handles.modify n f).getD n {} = f (handles.getD n {}) := by
  rw [List.getD_eq_getElem?_getD, List.getD_eq_getElem?_getD, List.getElem?_modify_eq,
    List.getElem?_eq_getElem made]
  rfl

theorem getD_set_other (other : m ≠ n) (h : Handle) :
    (handles.set m h).getD n {} = handles.getD n {} := by
  rw [List.getD_eq_getElem?_getD, List.getElem?_set_ne other, ← List.getD_eq_getElem?_getD]

theorem getD_set_self (made : n < handles.length) (h : Handle) :
    (handles.set n h).getD n {} = h := by
  rw [List.getD_eq_getElem?_getD, List.getElem?_set_self made, Option.getD_some]

/-- A handle that is not made yet is as one that is made. -/
theorem getD_append_fresh (handles : List Handle) (n : Nat) :
    (handles ++ [({} : Handle)]).getD n {} = handles.getD n {} := by
  rw [List.getD_eq_getElem?_getD, List.getD_eq_getElem?_getD]
  rcases Nat.lt_or_ge n handles.length with inside | outside
  · rw [List.getElem?_append_left inside]
  · rw [List.getElem?_append_right outside, List.getElem?_eq_none outside]
    cases n - handles.length <;> rfl

end Handles

namespace Sharing

variable {s s' r : Sharing} {e : Happening} {m n : Nat}

theorem deliver_answered {t : Task} {o : Outcome (Query.Result Row)}
    (answered : t.phase = .answered o) (handles : List Handle) :
    t.deliver handles = handles.modify t.owner (Handle.settle t.generation o) := by
  rw [Task.deliver, answered]

/-- What happens elsewhere does not change a handle. -/
theorem Step.handle_other (step : Step s e s') (elsewhere : e.handle? ≠ some n) :
    s'.provider.handle n = s.provider.handle n := by
  have other {m : Nat} (on : e.handle? = some m) : m ≠ n := fun same => elsewhere (same ▸ on)
  cases step with
  | make => exact getD_append_fresh _ n
  | set => exact getD_set_other (other rfl) _
  | stray | fail | drop => exact getD_modify_other (other rfl) _
  | start | answer => rfl
  | finish held answered =>
      dsimp only [Sharing.finish, Provider.handle]
      rw [deliver_answered answered, held.owner]
      exact getD_modify_other (other rfl) _

end Sharing

/-! ## What a handle sees -/

/-- A phase without the number of its call. -/
def Phase.bare : Phase → Phase
  | .called _ => .called 0
  | p => p

/-- A task without the number of its call. -/
def Task.bare (t : Task) : Task := { t with phase := t.phase.bare }

theorem Task.phase_of_bare {t t' : Task} (same : t'.bare = t.bare) :
    t'.phase.bare = t.phase.bare :=
  (Task.mk.inj same).2.2.2

section

variable {p q : Phase} (bare : p.bare = q.bare)
include bare

theorem Phase.waiting_of_bare (waiting : q = .waiting) : p = .waiting := by
  subst waiting
  cases p with
  | waiting => rfl
  | called | answered => cases bare

theorem Phase.called_of_bare {call : Nat} (called : q = .called call) :
    ∃ call', p = .called call' := by
  subst called
  cases p with
  | called call' => exact ⟨call', rfl⟩
  | waiting | answered => cases bare

theorem Phase.answered_of_bare {o : Outcome (Query.Result Row)} (answered : q = .answered o) :
    p = .answered o := by
  subst answered
  cases p with
  | answered o' => exact bare
  | waiting | called => cases bare

end

namespace Sharing

/-- Two states that are alike for a handle: it is the same in both, and so are its tasks but for
the numbers of their calls. -/
structure AlikeFor (n : Nat) (s r : Sharing) : Prop where
  /-- The handle is the same. -/
  handle : r.provider.handle n = s.provider.handle n
  /-- As many handles were made. -/
  made : r.provider.handles.length = s.provider.handles.length
  /-- The handle is in the middle of the same. -/
  failing : r.failing n = s.failing n
  /-- Its tasks are the same. -/
  tasks : (own n r.provider.tasks).map Task.bare = (own n s.provider.tasks).map Task.bare

variable {s s' r : Sharing} {e : Happening} {m n place : Nat} {before after : List Task} {t : Task}

theorem AlikeFor.refl (n : Nat) (s : Sharing) : AlikeFor n s s := ⟨rfl, rfl, rfl, rfl⟩

theorem AlikeFor.symm (alike : AlikeFor n s r) : AlikeFor n r s :=
  ⟨alike.handle.symm, alike.made.symm, alike.failing.symm, alike.tasks.symm⟩

theorem AlikeFor.trans {q : Sharing} (one : AlikeFor n s r) (two : AlikeFor n r q) :
    AlikeFor n s q :=
  ⟨two.handle.trans one.handle, two.made.trans one.made, two.failing.trans one.failing,
    two.tasks.trans one.tasks⟩

theorem AlikeFor.ready (alike : AlikeFor n s r) (ready : s.Ready n) : r.Ready n :=
  ⟨alike.made ▸ ready.made, alike.handle ▸ ready.kept, alike.failing.trans ready.idle⟩

/-- A task among those of a handle is one among all tasks. -/
theorem exists_held {ts front back : List Task} (split : own n ts = front ++ t :: back) :
    ∃ before after, Held ts n front.length before t after ∧ own n before = front ∧
      own n after = back := by
  obtain ⟨us, vs, rfl, rfl, second⟩ := List.filter_eq_append_iff.mp split
  obtain ⟨others, after, rfl, notMine, mine, rfl⟩ := List.filter_eq_cons_iff.mp second
  have front : own n (us ++ others) = own n us := by
    have nothing : own n others = [] := List.filter_eq_nil_iff.mpr notMine
    rw [own_append, nothing, List.append_nil]
  refine ⟨us ++ others, after, ⟨?_, of_decide_eq_true mine, ?_⟩, front, rfl⟩
  · rw [List.append_assoc]
  · rw [front]
    rfl

/-- A task of a handle is there in a state that is alike. -/
theorem AlikeFor.held (alike : AlikeFor n s r)
    (held : Held s.provider.tasks n place before t after) :
    ∃ before' t' after', Held r.provider.tasks n place before' t' after' ∧ t'.bare = t.bare ∧
      (own n before').map Task.bare = (own n before).map Task.bare ∧
      (own n after').map Task.bare = (own n after).map Task.bare := by
  have tasks := alike.tasks
  rw [held.tasks, own_append, own_cons_self held.owner, List.map_append, List.map_cons] at tasks
  obtain ⟨front, rest, split, fronts, rests⟩ := List.map_eq_append_iff.mp tasks
  obtain ⟨t', back, rfl, task, backs⟩ := List.map_eq_cons_iff.mp rests
  obtain ⟨before', after', held', rfl, rfl⟩ := exists_held split
  have place : (own n before').length = place := by
    have lengths := congrArg List.length fronts
    rw [List.length_map, List.length_map] at lengths
    exact lengths.trans held.place
  exact ⟨before', t', after', place ▸ held', task, fronts, backs⟩

/-- Tasks that change alike stay alike. -/
theorem AlikeFor.withTasks (alike : AlikeFor n s r) {ts us : List Task} {calls calls' : List String}
    (tasks : (own n us).map Task.bare = (own n ts).map Task.bare) :
    AlikeFor n { s with provider := { s.provider with tasks := ts, calls } }
      { r with provider := { r.provider with tasks := us, calls := calls' } } :=
  ⟨alike.handle, alike.made, alike.failing, tasks⟩

theorem handle_modify (n : Nat) (f : Handle → Handle) (s : Sharing) :
    (s.modify n f).provider.handle n =
      if n < s.provider.handles.length then f (s.provider.handle n) else s.provider.handle n := by
  split
  case isTrue made => exact getD_modify_self made f
  case isFalse unmade =>
    exact congrArg (·.getD n {}) (List.modify_eq_self (Nat.not_lt.mp unmade))

/-- A handle that changes alike stays alike. -/
theorem AlikeFor.modify (alike : AlikeFor n s r) (f : Handle → Handle) :
    AlikeFor n (s.modify n f) (r.modify n f) := by
  refine ⟨?_, ?_, alike.failing, alike.tasks⟩
  · rw [handle_modify, handle_modify, alike.made, alike.handle]
  · exact (List.length_modify ..).trans (alike.made.trans (List.length_modify ..).symm)

theorem bare_withPhase {t t' : Task} (same : t'.bare = t.bare) {p p' : Phase}
    (phases : p'.bare = p.bare) :
    ({ t' with phase := p' } : Task).bare = ({ t with phase := p } : Task).bare := by
  obtain ⟨owner, generation, query, -⟩ := Task.mk.inj same
  rw [Task.bare, Task.bare]
  dsimp only
  rw [owner, generation, query, phases]

/-- A task that changes alike among tasks that are alike. -/
theorem map_bare_change {before before' after after' : List Task} {t t' : Task} {p p' : Phase}
    (mine : t.owner = n) (same : t'.bare = t.bare) (phases : p'.bare = p.bare)
    (front : (own n before').map Task.bare = (own n before).map Task.bare)
    (back : (own n after').map Task.bare = (own n after).map Task.bare) :
    (own n (before' ++ { t' with phase := p' } :: after')).map Task.bare =
      (own n (before ++ { t with phase := p } :: after)).map Task.bare := by
  have mine' : t'.owner = n := (Task.mk.inj same).1.trans mine
  rw [own_append, own_append, own_cons_self (t := { t with phase := p }) mine,
    own_cons_self (t := { t' with phase := p' }) mine', List.map_append, List.map_append,
    List.map_cons, List.map_cons, bare_withPhase same phases, front, back]

theorem map_bare_remove {before before' after after' : List Task}
    (front : (own n before').map Task.bare = (own n before).map Task.bare)
    (back : (own n after').map Task.bare = (own n after).map Task.bare) :
    (own n (before' ++ after')).map Task.bare = (own n (before ++ after)).map Task.bare := by
  rw [own_append, own_append, List.map_append, List.map_append, front, back]

/-- The task of a dispatch, if a call dispatches one. -/
theorem tasks_set (p : Provider) (onRuntime : Bool) (n : Nat) (query : String) :
    (p.set onRuntime n query).tasks = p.tasks ++
      (((p.handle n).set onRuntime query).2.map fun g => ⟨n, g, query, .waiting⟩).toList := by
  rw [Provider.set]
  obtain ⟨h, generation?⟩ := (p.handle n).set onRuntime query
  cases generation? with
  | none => exact (List.append_nil _).symm
  | some g => rfl

theorem own_set_other (other : m ≠ n) (p : Provider) (onRuntime : Bool) (query : String) :
    own n (p.set onRuntime m query).tasks = own n p.tasks := by
  rw [tasks_set, own_append]
  cases ((p.handle m).set onRuntime query).2 with
  | none => exact List.append_nil _
  | some g =>
      rw [Option.map_some, Option.toList_some, own_cons_other other, own_nil, List.append_nil]

/-- The tasks of other handles do not see that a task changes. -/
theorem own_change {t t' : Task} (other : t.owner ≠ n) (same : t'.owner = t.owner) :
    own n (before ++ t' :: after) = own n (before ++ t :: after) := by
  rw [own_append, own_append, own_cons_other other, own_cons_other (same ▸ other)]

theorem own_remove (other : t.owner ≠ n) :
    own n (before ++ after) = own n (before ++ t :: after) := by
  rw [own_append, own_append, own_cons_other other]

/-- An event elsewhere cannot be seen. -/
theorem Step.alike_other (step : Step s e s') (on : e.handle? = some m) (other : m ≠ n) :
    AlikeFor n s s' := by
  -- The handle is as it was by what is known of it; the cases are about its tasks.
  have elsewhere : e.handle? ≠ some n := fun same => other (Option.some.inj (on.symm.trans same))
  have handle := step.handle_other elsewhere
  cases step with
  | make => cases on
  | set =>
      cases on
      refine ⟨handle, List.length_set, rfl, ?_⟩
      exact congrArg _ (own_set_other other ..)
  | stray | fail =>
      cases on
      exact ⟨handle, List.length_modify .., Function.update_of_ne other.symm _ _, rfl⟩
  | drop =>
      cases on
      exact ⟨handle, List.length_modify .., rfl, rfl⟩
  | start held | answer held =>
      cases on
      refine ⟨handle, rfl, rfl, ?_⟩
      rw [held.tasks]
      exact congrArg _ (own_change (held.owner ▸ other) rfl)
  | finish held answered =>
      cases on
      refine ⟨handle, ?_, rfl, ?_⟩
      · dsimp only [Sharing.finish]
        rw [deliver_answered answered, List.length_modify]
      · rw [held.tasks]
        exact congrArg _ (own_remove (held.owner ▸ other))

theorem AlikeFor.set (alike : AlikeFor n s r) (made : n < s.provider.handles.length)
    (onRuntime : Bool) (query : String) :
    AlikeFor n { s with provider := s.provider.set onRuntime n query }
      { r with provider := r.provider.set onRuntime n query } := by
  refine ⟨?_, ?_, alike.failing, ?_⟩
  · refine (getD_set_self (alike.made ▸ made) _).trans ?_
    rw [alike.handle]
    exact (getD_set_self made _).symm
  · exact List.length_set.trans (alike.made.trans List.length_set.symm)
  · dsimp only
    rw [tasks_set, tasks_set, own_append, own_append, List.map_append, List.map_append,
      alike.tasks, alike.handle]

theorem AlikeFor.withFailing (alike : AlikeFor n s r) (value : Bool) :
    AlikeFor n { s with failing := Function.update s.failing n value }
      { r with failing := Function.update r.failing n value } :=
  ⟨alike.handle, alike.made, by simp only [Function.update_self], alike.tasks⟩

/-- The end of a task is told to its handle alone. -/
theorem finish_eq {o : Outcome (Query.Result Row)}
    (held : Held s.provider.tasks n place before t after) (answered : t.phase = .answered o) :
    s.finish before t after =
      let told := s.modify n (Handle.settle t.generation o)
      { told with provider := { told.provider with tasks := before ++ after } } := by
  rw [finish, deliver_answered answered, held.owner]
  rfl

/-- An event of a handle can happen in a state that is alike, and leaves it alike. -/
theorem Step.mirror (step : Step s e s') (concerned : e.concerns n = true)
    (alike : AlikeFor n s r) : ∃ r', Step r e r' ∧ AlikeFor n s' r' := by
  -- A task is found in the other state by its place.  Its call may have another number there.
  cases step with
  | make =>
      refine ⟨_, .make, ?_, ?_, alike.failing, alike.tasks⟩
      · exact (getD_append_fresh _ n).trans (alike.handle.trans (getD_append_fresh _ n).symm)
      · simp [Provider.newHandle, alike.made]
  | set ready able =>
      obtain rfl := of_decide_eq_true concerned
      exact ⟨_, .set (alike.ready ready) (alike.handle ▸ able), alike.set ready.made _ _⟩
  | stray ready new =>
      obtain rfl := of_decide_eq_true concerned
      exact ⟨_, .stray (alike.ready ready) (alike.handle ▸ new), (alike.modify _).withFailing true⟩
  | fail failing =>
      obtain rfl := of_decide_eq_true concerned
      exact ⟨_, .fail (alike.failing.trans failing), (alike.modify _).withFailing false⟩
  | drop ready =>
      obtain rfl := of_decide_eq_true concerned
      exact ⟨_, .drop (alike.ready ready), alike.modify _⟩
  | start held waiting =>
      obtain rfl := of_decide_eq_true concerned
      obtain ⟨before', t', after', held', task, front, back⟩ := alike.held held
      have waiting' := Phase.waiting_of_bare (Task.phase_of_bare task) waiting
      exact ⟨_, .start held' waiting',
        alike.withTasks (map_bare_change held.owner task rfl front back)⟩
  | answer held called =>
      obtain rfl := of_decide_eq_true concerned
      obtain ⟨before', t', after', held', task, front, back⟩ := alike.held held
      obtain ⟨call', called'⟩ := Phase.called_of_bare (Task.phase_of_bare task) called
      exact ⟨_, .answer held' called',
        alike.withTasks (map_bare_change held.owner task rfl front back)⟩
  | @finish _ _ _ _ t o held answered =>
      obtain rfl := of_decide_eq_true concerned
      obtain ⟨before', t', after', held', task, front, back⟩ := alike.held held
      have answered' := Phase.answered_of_bare (Task.phase_of_bare task) answered
      have generation : t'.generation = t.generation := (Task.mk.inj task).2.1
      rw [finish_eq held answered]
      refine ⟨_, .finish held' answered', ?_⟩
      rw [finish_eq held' answered', generation]
      exact (alike.modify _).withTasks (map_bare_remove front back)

theorem exists_handle_of_not_concerns (elsewhere : e.concerns n = false) :
    ∃ m, e.handle? = some m ∧ m ≠ n := by
  rw [Happening.concerns] at elsewhere
  cases on : e.handle? with
  | none =>
      rw [on] at elsewhere
      cases elsewhere
  | some m =>
      rw [on] at elsewhere
      exact ⟨m, rfl, of_decide_eq_false elsewhere⟩

/-- A handle is after a run what it is after the events that concern it. -/
theorem Run.restrict {es : List Happening} (run : Run s es s') (alike : AlikeFor n s r) :
    ∃ r', Run r (es.filter (Happening.concerns n)) r' ∧ AlikeFor n s' r' := by
  induction run generalizing r with
  | nil => exact ⟨r, .nil, alike⟩
  | @cons s s₁ s' e es step _ ih =>
      cases concerned : e.concerns n with
      | true =>
          obtain ⟨r₁, step', alike⟩ := step.mirror concerned alike
          obtain ⟨r', run, alike⟩ := ih alike
          rw [List.filter_cons_of_pos concerned]
          exact ⟨r', .cons step' run, alike⟩
      | false =>
          obtain ⟨m, on, other⟩ := exists_handle_of_not_concerns concerned
          obtain ⟨r', run, alike⟩ := ih ((step.alike_other on other).symm.trans alike)
          rw [List.filter_cons_of_neg (Bool.eq_false_iff.mp concerned)]
          exact ⟨r', run, alike⟩

/-! ## Calls of the client -/

/-- The queries that the handles follow. -/
def followed (s : Sharing) (n : Nat) : Option String := (s.provider.handle n).query

/-- The queries that the client was called with, and those of the tasks that wait. -/
def asked (s : Sharing) : List String :=
  s.provider.calls ++ s.provider.tasks.filterMap Task.toStart?

theorem followed_modify (n : Nat) (f : Handle → Handle) (keeps : ∀ h, (f h).query = h.query)
    (s : Sharing) : (s.modify n f).followed = s.followed := by
  funext m
  rw [followed, followed]
  by_cases here : n = m
  · subst here
    rw [handle_modify]
    split
    · exact keeps _
    · rfl
  · exact congrArg Handle.query (getD_modify_other here f)

theorem followed_newHandle (s : Sharing) :
    ({ s with provider := s.provider.newHandle.1 } : Sharing).followed = s.followed :=
  funext fun n => congrArg Handle.query (getD_append_fresh _ n)

theorem followed_drop (n : Nat) (s : Sharing) :
    ({ s with provider := s.provider.drop n } : Sharing).followed = s.followed :=
  followed_modify n Handle.drop (fun _ => rfl) s

theorem followed_moveOn {n : Nat} (made : n < s.provider.handles.length) (query : String) :
    (s.modify n (Handle.moveOn query)).followed = Function.update s.followed n (some query) := by
  funext m
  by_cases here : n = m
  · subst here
    rw [followed, handle_modify, if_pos made, Function.update_self]
    rfl
  · rw [Function.update_of_ne (Ne.symm here)]
    exact congrArg Handle.query (getD_modify_other here _)

theorem query_set (onRuntime : Bool) (query : String) (h : Handle) :
    (h.set onRuntime query).1.query = some query := by
  rw [Handle.set]
  split
  case isTrue same => exact same
  case isFalse =>
    split <;> rfl

theorem followed_set {n : Nat} (made : n < s.provider.handles.length) (onRuntime : Bool)
    (query : String) :
    ({ s with provider := s.provider.set onRuntime n query } : Sharing).followed =
      Function.update s.followed n (some query) := by
  funext m
  by_cases here : n = m
  · subst here
    rw [Function.update_self]
    exact (congrArg Handle.query (getD_set_self made _)).trans (query_set ..)
  · rw [Function.update_of_ne (Ne.symm here)]
    exact congrArg Handle.query (getD_set_other here _)

theorem asked_set (s : Sharing) (onRuntime : Bool) (n : Nat) (query : String) :
    ({ s with provider := s.provider.set onRuntime n query } : Sharing).asked =
      s.asked ++ (((s.provider.handle n).set onRuntime query).2.map fun _ => query).toList := by
  rw [Sharing.asked, tasks_set, List.filterMap_append, Sharing.asked, List.append_assoc]
  cases ((s.provider.handle n).set onRuntime query).2 <;> rfl

/-- A query that is set is asked for as it is dispatched. -/
theorem asked_append_set {n : Nat} (made : n < s.provider.handles.length) (onRuntime : Bool)
    (query : String) (es : List Happening) :
    s.asked ++ dispatchedFrom s.followed (.set n onRuntime query :: es) =
      let s' : Sharing := { s with provider := s.provider.set onRuntime n query }
      s'.asked ++ dispatchedFrom s'.followed es := by
  dsimp only
  rw [followed_set made, asked_set, dispatchedFrom, Handle.set]
  by_cases same : s.followed n = some query
  · rw [if_pos same, if_pos (show (s.provider.handle n).query = some query from same), ← same,
      Function.update_eq_self]
    simp
  · rw [if_neg same, if_neg (show (s.provider.handle n).query ≠ some query from same),
      ← List.append_assoc]
    cases onRuntime <;> rfl

/-- A task that is started is asked for no more, and called for. -/
theorem asked_start (tasks : s.provider.tasks = before ++ t :: after)
    (waiting : t.phase = .waiting) : s.asked.Perm (s.start before t after).asked := by
  rw [Sharing.asked, Sharing.asked, tasks, start]
  dsimp only
  rw [List.filterMap_append, List.filterMap_append,
    List.filterMap_cons_some (Task.toStart?_of_waiting waiting), List.filterMap_cons_none rfl,
    List.append_assoc]
  exact List.perm_middle.append_left _

/-- A task that does not wait asks for nothing. -/
theorem filterMap_toStart?_of_none (started : t.toStart? = none) :
    (before ++ t :: after).filterMap Task.toStart? =
      before.filterMap Task.toStart? ++ after.filterMap Task.toStart? := by
  rw [List.filterMap_append, List.filterMap_cons_none started]

theorem asked_answer {call : Nat} (tasks : s.provider.tasks = before ++ t :: after)
    (called : t.phase = .called call) (o : Outcome (Query.Result Row)) :
    (s.answer before t after o).asked = s.asked := by
  rw [Sharing.asked, Sharing.asked, tasks, answer,
    filterMap_toStart?_of_none (Task.toStart?_of_called called)]
  exact congrArg _ (filterMap_toStart?_of_none rfl)

theorem asked_finish {o : Outcome (Query.Result Row)}
    (tasks : s.provider.tasks = before ++ t :: after) (answered : t.phase = .answered o) :
    (s.finish before t after).asked = s.asked := by
  have started : t.toStart? = none := Task.toStart?_of_started (by rw [answered]; exact nofun)
  rw [Sharing.asked, Sharing.asked, tasks, finish, filterMap_toStart?_of_none started]
  exact congrArg _ List.filterMap_append

/-- An event adds to the queries that are asked what it dispatches. -/
theorem Step.asked (step : Step s e s') (es : List Happening) :
    (s.asked ++ dispatchedFrom s.followed (e :: es)).Perm
      (s'.asked ++ dispatchedFrom s'.followed es) := by
  -- Equal but for `start`, which takes a query from among those that wait to the end of the calls.
  cases step with
  | make =>
      rw [followed_newHandle]
      exact .refl _
  | @set n onRuntime query ready able => exact .of_eq (asked_append_set ready.made _ _ es)
  | @stray n query ready new =>
      have followed : (s.stray n query).followed = Function.update s.followed n (some query) :=
        followed_moveOn ready.made query
      rw [followed, dispatchedFrom, if_neg (show s.followed n ≠ some query from new)]
      exact .refl _
  | @fail n failing =>
      have same : (s.fail n).followed = s.followed :=
        followed_modify n (Handle.publish _) (fun _ => rfl) s
      rw [same]
      exact .refl _
  | drop ready =>
      rw [followed_drop]
      exact .refl _
  | start held waiting => exact (asked_start held.tasks waiting).append_right _
  | @answer _ _ _ before after t o held called =>
      rw [asked_answer held.tasks called o]
      exact .refl _
  | @finish _ _ before after t o held answered =>
      have followed : (s.finish before t after).followed = s.followed := by
        rw [finish_eq held answered]
        exact followed_modify _ _ (Handle.settle_query t.generation o) s
      rw [asked_finish held.tasks answered, followed]
      exact .refl _

/-- The client is called with what was dispatched, and with nothing else. -/
theorem Run.asked {es : List Happening} (run : Run s es s') :
    (s.asked ++ dispatchedFrom s.followed es).Perm s'.asked := by
  induction run with
  | nil => rw [dispatchedFrom, List.append_nil]
  | cons step _ ih => exact (step.asked _).trans ih

/-- Any number of handles that share a client, in any order of events.  A handle is what it is
after the events that concern it, and what happens to another does not change it.  Once no task
waits, the client was called exactly once for every query that was set on a runtime and was not
followed already, and so it is when the runtime is run. -/
theorem shared_client {s : Sharing} {es : List Happening} (run : Run {} es s) :
    (∀ n, (∃ r, Run {} (es.filter (Happening.concerns n)) r) ∧
      ∀ r, Run {} (es.filter (Happening.concerns n)) r →
        r.provider.handle n = s.provider.handle n) ∧
    (∀ e s', Step s e s' → ∀ n, e.handle? ≠ some n →
      s'.provider.handle n = s.provider.handle n) ∧
    ((∀ t ∈ s.provider.tasks, t.phase ≠ .waiting) → s.provider.calls.Perm (dispatched es)) ∧
    s.provider.run.calls.Perm (dispatched es) := by
  have asked : s.asked.Perm (dispatched es) := (Run.asked run).symm
  refine ⟨fun n => ?_, fun _ _ step _ => step.handle_other, fun started => ?_, asked⟩
  · obtain ⟨r, restricted, alike⟩ := run.restrict (AlikeFor.refl n {})
    refine ⟨⟨r, restricted⟩, fun r' restricted' => ?_⟩
    obtain rfl := restricted.unique restricted'
    exact alike.handle
  · have none : s.provider.tasks.filterMap Task.toStart? = [] := by
      refine List.filterMap_eq_nil_iff.mpr fun t mem => ?_
      exact Task.toStart?_of_started (started t mem)
    rw [Sharing.asked, none, List.append_nil] at asked
    exact asked

/-- Two handles follow the same query.  The first moves on before its task is started, and the
second is dropped. -/
def sharedLife : List Happening :=
  [.make, .make, .set 0 true "a", .set 1 true "a", .start 1 0, .set 0 true "b", .drop 1,
    .set 0 false "b", .set 0 false "c", .fail 0, .start 0 1, .start 0 0]

theorem shared_client_in_sharedLife :
    ∃ s r, Run {} sharedLife s ∧ Run {} (sharedLife.filter (Happening.concerns 0)) r ∧
      r.provider.handle 0 = s.provider.handle 0 ∧ (∀ t ∈ s.provider.tasks, t.phase ≠ .waiting) ∧
      s.provider.calls.Perm ["a", "a", "b"] := by
  have life : ∃ s, Run {} sharedLife s ∧ ∀ t ∈ s.provider.tasks, t.phase ≠ .waiting := by
    have first : Held [⟨0, 1, "a", .waiting⟩, ⟨1, 1, "a", .waiting⟩] 1 0 [⟨0, 1, "a", .waiting⟩]
        ⟨1, 1, "a", .waiting⟩ [] := ⟨rfl, rfl, rfl⟩
    have second : Held [⟨0, 1, "a", .waiting⟩, ⟨1, 1, "a", .called 0⟩, ⟨0, 2, "b", .waiting⟩] 0 1
        [⟨0, 1, "a", .waiting⟩, ⟨1, 1, "a", .called 0⟩] ⟨0, 2, "b", .waiting⟩ [] := ⟨rfl, rfl, rfl⟩
    have third : Held [⟨0, 1, "a", .waiting⟩, ⟨1, 1, "a", .called 0⟩, ⟨0, 2, "b", .called 1⟩] 0 0
        [] ⟨0, 1, "a", .waiting⟩ [⟨1, 1, "a", .called 0⟩, ⟨0, 2, "b", .called 1⟩] :=
      ⟨rfl, rfl, rfl⟩
    refine ⟨_, .cons .make <| .cons .make <| .cons (.set ⟨by decide, rfl, rfl⟩ (.inl rfl)) <|
      .cons (.set ⟨by decide, rfl, rfl⟩ (.inl rfl)) <| .cons (.start first rfl) <|
      .cons (.set ⟨by decide, rfl, rfl⟩ (.inl rfl)) <| .cons (.drop ⟨by decide, rfl, rfl⟩) <|
      .cons (.set ⟨by decide, rfl, rfl⟩ (.inr rfl)) <|
      .cons (.stray ⟨by decide, rfl, rfl⟩ (by decide)) <| .cons (.fail rfl) <|
      .cons (.start second rfl) <| .cons (.start third rfl) .nil, ?_⟩
    rintro t (_ | ⟨_, _ | ⟨_, _ | ⟨_, ⟨⟩⟩⟩⟩) <;> nofun
  obtain ⟨s, run, started⟩ := life
  obtain ⟨handles, -, calls, -⟩ := shared_client run
  obtain ⟨⟨r, restricted⟩, same⟩ := handles 0
  exact ⟨s, r, run, restricted, same r restricted, started, calls started⟩

end Sharing

end SqlGateway.Live
