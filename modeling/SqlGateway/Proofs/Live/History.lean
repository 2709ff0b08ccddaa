import SqlGateway.Proofs.Live.Session

/-!
# What a session publishes

The history of a session is read off its events alone, without generations.  A call counts
if it sets another query than the call before it (`calls`).  Each call that counts
contributes one block: `loading`, and behind it the state in which its query settled, if it
did (`Call.block`).  A call without a runtime settles at once.  Any other settles with the
outcome of its own dispatch, if that arrives during its reign: before the next call that
counts and before the drop (`reign`).

`published_eq_history` says that this is what the handle publishes in every run from its
start, as long as the calls that count can be counted in a word.  So the handle always shows
the end of the last block, and an outcome that comes too late leaves no trace.
-/

namespace SqlGateway.Live

open Query (Outcome Row)

/-! ## Histories -/

/-- The outcome of a dispatch, if an event ends it. -/
def Event.outcomeOf? (number : Nat) : Event → Option (Outcome (Query.Result Row))
  | .finish n o => if n = number then some o else none
  | _ => none

/-- The events from a time when a handle follows a query to the time when it follows another
or is dropped. -/
def reign (followed : Option String) : List Event → List Event
  | [] => []
  | .set onRuntime query :: es =>
      if followed = some query then .set onRuntime query :: reign followed es else []
  | .fail :: es => .fail :: reign followed es
  | .finish n o :: es => .finish n o :: reign followed es
  | .drop :: _ => []

/-- A call that sets another query than the one that the handle follows. -/
structure Call where
  /-- How many such calls came before. -/
  number : Nat
  /-- There is a runtime. -/
  onRuntime : Bool
  /-- The query. -/
  query : String
  /-- What happens while the handle follows it. -/
  events : List Event

/-- The calls that count among some events, behind `number` others of which the last left
the handle with `followed`. -/
def callsFrom (followed : Option String) (number : Nat) : List Event → List Call
  | [] => []
  | .set onRuntime query :: es =>
      if followed = some query then callsFrom followed number es
      else
        ⟨number, onRuntime, query, reign (some query) es⟩ ::
          callsFrom (some query) (number + 1) es
  | .fail :: es => callsFrom followed number es
  | .finish _ _ :: es => callsFrom followed number es
  | .drop :: es => callsFrom followed number es

/-- The calls that count in the life of a handle. -/
def calls (es : List Event) : List Call := callsFrom none 0 es

/-- The outcome of a dispatch, if it is among some events. -/
def outcomeIn? (number : Nat) (es : List Event) : Option State :=
  (es.findSome? (Event.outcomeOf? number)).map State.ofOutcome

/-- The state in which the query of a call settles, if it does. -/
def Call.settled? (c : Call) : Option State :=
  if c.onRuntime then outcomeIn? c.number c.events else some (.failed noRuntime)

/-- The states published for a call. -/
def Call.block (c : Call) : List State := .loading :: c.settled?.toList

/-- The states published in the life of a handle, first to last. -/
def history (es : List Event) : List State := (calls es).flatMap Call.block

/-! ## What is yet to come -/

@[simp] theorem outcomeIn?_nil (number : Nat) : outcomeIn? number [] = none := rfl

@[simp] theorem outcomeIn?_set (number : Nat) (onRuntime : Bool) (query : String)
    (es : List Event) : outcomeIn? number (.set onRuntime query :: es) = outcomeIn? number es := rfl

@[simp] theorem outcomeIn?_fail (number : Nat) (es : List Event) :
    outcomeIn? number (.fail :: es) = outcomeIn? number es := rfl

theorem outcomeIn?_finish (number n : Nat) (o : Outcome (Query.Result Row)) (es : List Event) :
    outcomeIn? number (.finish n o :: es) =
      if n = number then some (.ofOutcome o) else outcomeIn? number es := by
  by_cases h : n = number
  · simp [outcomeIn?, Event.outcomeOf?, h]
  · simp [outcomeIn?, Event.outcomeOf?, h]

namespace Session

/-- What a call in progress has yet to publish. -/
def owed (s : Session) : List State := if s.failing then [.failed noRuntime] else []

/-- The outcome of the latest dispatch, if it is still on its way and comes in time. -/
def expected? (s : Session) (es : List Event) : Option State :=
  if s.Awaiting then outcomeIn? (s.moves - 1) (reign s.handle.query es) else none

/-- What a session publishes while some events happen. -/
def toCome (s : Session) (es : List Event) : List State :=
  s.owed ++ (s.expected? es).toList ++
    (callsFrom s.handle.query s.moves es).flatMap Call.block

theorem toCome_nil (s : Session) : s.toCome [] = s.owed := by
  simp [toCome, expected?, reign, callsFrom]

theorem Ready.owed {s : Session} (ready : s.Ready) : s.owed = [] := by
  simp [Session.owed, ready.2]

theorem expected?_of_not_awaiting {s : Session} (h : ¬s.Awaiting) (es : List Event) :
    s.expected? es = none := if_neg h

/-- An event either publishes the first of what is to come, or leaves it to come. -/
theorem Step.published {s s' : Session} {e : Event} (step : Step s e s') (h : s.Numbered)
    (few : s.moves < UInt64.size) (es : List Event) :
    s.handle.published.reverse ++ s.toCome (e :: es) =
      s'.handle.published.reverse ++ s'.toCome es := by
  cases step with
  | again _ same => simp [toCome, expected?, reign, callsFrom, same]
  | @dispatch query ready new =>
      have awaiting : (s.dispatch query).Awaiting := by
        refine ⟨ready.1, _, List.mem_append_right _ (List.mem_singleton_self _), rfl⟩
      have here : s.expected? (.set true query :: es) = none := by
        simp [expected?, reign, new]
      have there : (s.dispatch query).expected? es = outcomeIn? s.moves (reign (some query) es) :=
        if_pos awaiting
      simp only [toCome, here, there, ready.owed, callsFrom, if_neg new]
      simp [Session.dispatch, owed, ready.2, Handle.moveOn, Handle.publish, Call.block,
        Call.settled?]
  | @stray query ready new =>
      have here : s.expected? (.set false query :: es) = none := by
        simp [expected?, reign, new]
      have there : (s.stray query).expected? es = none :=
        expected?_of_not_awaiting ((h.stray ready query).alone rfl) es
      simp only [toCome, here, there, ready.owed, callsFrom, if_neg new]
      simp [Session.stray, owed, Handle.moveOn, Handle.publish, Call.block, Call.settled?]
  | fail failing =>
      have here : s.expected? (.fail :: es) = none :=
        expected?_of_not_awaiting (h.alone failing) _
      have there : s.fail.expected? es = none :=
        expected?_of_not_awaiting (h.alone failing) es
      simp only [toCome, here, there, callsFrom]
      simp [Session.fail, owed, failing, Handle.publish]
  | @finish d o hd =>
      by_cases current : s.handle.generation = d.generation
      · -- The latest dispatch: its outcome is the one expected, and nothing is in flight for it.
        obtain ⟨kept, latest⟩ := (h.current_iff few hd).mp current
        have number : d.number = s.moves - 1 := by omega
        have here : s.expected? (.finish d.number o :: es) = some (.ofOutcome o) := by
          rw [expected?, if_pos ⟨kept, d, hd, latest⟩, reign, outcomeIn?_finish, if_pos number]
        have there : (s.finish d o).expected? es = none := by
          refine expected?_of_not_awaiting ?_ es
          exact fun awaiting => ((h.awaiting_finish_iff hd o).mp awaiting).2 latest
        have idle : s.failing = false := by
          cases failing : s.failing with
          | false => rfl
          | true => exact absurd ⟨kept, d, hd, latest⟩ (h.alone failing)
        simp only [toCome, here, there, callsFrom]
        simp [Session.finish, owed, idle, Handle.settle, current, Handle.publish]
      · -- An earlier dispatch, or one that outlives the handle: the handle stays as it is.
        have untouched : s.handle.settle d.generation o = s.handle := if_neg current
        have same : (s.finish d o).expected? es = s.expected? (.finish d.number o :: es) := by
          by_cases awaiting : s.Awaiting
          · have older : d.number + 1 ≠ s.moves := fun latest =>
              current ((h.current_iff few hd).mpr ⟨awaiting.1, latest⟩)
            have given := (h.captured d hd).1
            have other : d.number ≠ s.moves - 1 := by omega
            rw [expected?, if_pos ((h.awaiting_finish_iff hd o).mpr ⟨awaiting, older⟩), expected?,
              if_pos awaiting, reign, outcomeIn?_finish, if_neg other]
            simp [Session.finish]
          · rw [expected?_of_not_awaiting awaiting, expected?_of_not_awaiting]
            exact fun later => awaiting ((h.awaiting_finish_iff hd o).mp later).1
        simp only [toCome, same, callsFrom]
        simp [Session.finish, owed, untouched]
  | drop ready =>
      have here : s.expected? (.drop :: es) = none := by simp [expected?, reign]
      have there : s.drop.expected? es = none := by
        refine expected?_of_not_awaiting ?_ es
        rintro ⟨kept, -⟩
        cases kept
      simp only [toCome, here, there, callsFrom]
      simp [Session.drop, owed, ready.2, Handle.drop]

/-! ## Runs -/

/-- The moves of a session and the calls that count are the same. -/
theorem Step.moves {s s' : Session} {e : Event} (step : Step s e s') (es : List Event) :
    s'.moves + (callsFrom s'.handle.query s'.moves es).length =
      s.moves + (callsFrom s.handle.query s.moves (e :: es)).length := by
  cases step with
  | again _ same => simp [callsFrom, same]
  | dispatch _ new =>
      simp [callsFrom, new, Session.dispatch, Handle.moveOn, Handle.publish]
      omega
  | stray _ new =>
      simp [callsFrom, new, Session.stray, Handle.moveOn, Handle.publish]
      omega
  | fail _ => simp [callsFrom, Session.fail, Handle.publish]
  | finish _ => simp [callsFrom, Session.finish]
  | drop _ => simp [callsFrom, Session.drop, Handle.drop]

theorem Run.moves {s s' : Session} {es : List Event} (run : Run s es s') :
    s'.moves = s.moves + (callsFrom s.handle.query s.moves es).length := by
  induction run with
  | nil => simp [callsFrom]
  | cons step _ ih => rw [ih, step.moves]

theorem Run.numbered {s s' : Session} {es : List Event} (run : Run s es s') (h : s.Numbered) :
    s'.Numbered := by
  induction run with
  | nil => exact h
  | cons step _ ih => exact ih (step.numbered h)

/-- A run publishes what is to come, except for what a call in progress still owes. -/
theorem Run.published {s s' : Session} {es : List Event} (run : Run s es s') (h : s.Numbered)
    (few : s.moves + (callsFrom s.handle.query s.moves es).length < UInt64.size) :
    s'.handle.published.reverse ++ s'.owed = s.handle.published.reverse ++ s.toCome es := by
  induction run with
  | nil => rw [toCome_nil]
  | @cons s s₁ s' e es step _ ih =>
      rw [step.published h (by omega) es]
      refine ih (step.numbered h) ?_
      rw [step.moves]
      exact few

/-- A handle follows the query of the last call that counts. -/
theorem Run.query {s s' : Session} {es : List Event} (run : Run s es s') :
    s'.handle.query =
      ((callsFrom s.handle.query s.moves es).map fun c => some c.query).getLastD
        s.handle.query := by
  induction run with
  | nil => rfl
  | cons step _ ih =>
      rw [ih]
      cases step with
      | again _ same => simp [callsFrom, same]
      | dispatch _ new =>
          simp [callsFrom, new, Session.dispatch, Handle.moveOn, Handle.publish,
            List.getLastD_cons, -List.getLastD_eq_getLast?]
      | stray _ new =>
          simp [callsFrom, new, Session.stray, Handle.moveOn, Handle.publish,
            List.getLastD_cons, -List.getLastD_eq_getLast?]
      | fail _ => rfl
      | finish _ => simp [callsFrom, Session.finish]
      | drop _ => rfl

/-- An event that publishes nothing: a call that sets the query again, the end of a dispatch
that is not the latest or outlives the handle, or the drop. -/
def Quiet (s : Session) : Event → Prop
  | .set _ query => s.handle.query = some query
  | .fail => False
  | .finish number _ => s.handle.dropped = true ∨ number + 1 ≠ s.moves
  | .drop => True

/-- The events that publish nothing are the quiet ones. -/
theorem Step.quiet_iff {s s' : Session} {e : Event} (step : Step s e s') (h : s.Numbered)
    (few : s.moves < UInt64.size) : s'.handle.published = s.handle.published ↔ s.Quiet e := by
  cases step with
  | again _ same => simp [Quiet, same]
  | dispatch _ new => simp [Quiet, new, Session.dispatch, Handle.moveOn, Handle.publish]
  | stray _ new => simp [Quiet, new, Session.stray, Handle.moveOn, Handle.publish]
  | fail _ => simp [Quiet, Session.fail, Handle.publish]
  | @finish d o hd =>
      have agree := h.current_iff few hd
      by_cases current : s.handle.generation = d.generation
      · obtain ⟨kept, latest⟩ := agree.mp current
        simp [Quiet, Session.finish, Handle.settle, current, Handle.publish, kept, latest]
      · simp only [current, false_iff, not_and_or, Bool.not_eq_false] at agree
        simp [Quiet, Session.finish, Handle.settle, current, agree]
  | drop _ => simp [Quiet, Session.drop, Handle.drop]

end Session

/-! ## The history of a handle -/

/-- The end of a history: `idle` where no call counts, and else what the last of them has
come to. -/
theorem getLastD_history (es : List Event) :
    (history es).getLastD .idle =
      match (calls es).getLast? with
      | none => .idle
      | some c => c.settled?.getD .loading := by
  rcases List.eq_nil_or_concat (calls es) with none | ⟨before, c, last⟩
  · simp [history, none]
  · cases settled : c.settled? with
    | none => simp [history, last, Call.block, settled]
    | some s => simp [history, last, Call.block, settled]

/-- A handle publishes its history, in every run of events from its start in which fewer than
`UInt64.size` calls set a new query.  Between calls, nothing of the history is missing, and the
handle shows the end of it. -/
theorem published_eq_history {s : Session} {es : List Event} (run : Session.Run {} es s)
    (few : (calls es).length < UInt64.size) :
    s.handle.published.reverse ++ s.owed = history es ∧
      s.moves = (calls es).length ∧
      s.handle.query = (calls es).getLast?.map Call.query ∧
      (s.failing = false →
        s.handle.published.reverse = history es ∧
          s.handle.state =
            match (calls es).getLast? with
            | none => .idle
            | some c => c.settled?.getD .loading) ∧
      ∀ e s', Session.Step s e s' →
        (s'.handle.published = s.handle.published ↔ s.Quiet e) := by
  have numbered := run.numbered Session.numbered_start
  have moves : s.moves = (calls es).length := by simpa [calls] using run.moves
  have published : s.handle.published.reverse ++ s.owed = history es := by
    have := run.published Session.numbered_start (by simpa [calls] using few)
    rw [this]
    simp [Session.toCome, Session.owed, Session.expected?, Session.Awaiting, history, calls]
  refine ⟨published, moves, ?_, ?_, ?_⟩
  · have query : s.handle.query = ((calls es).map fun c => some c.query).getLastD none := run.query
    rw [query, List.getLastD_eq_getLast?, List.getLast?_map]
    cases (calls es).getLast? with
    | none => rfl
    | some c => rfl
  · intro between
    have all : s.handle.published.reverse = history es := by
      simpa [Session.owed, between] using published
    refine ⟨all, ?_⟩
    rw [← getLastD_history, ← all]
    simp [Handle.state]
  · intro e s' step
    exact step.quiet_iff numbered (moves ▸ few)

/-- A life with everything in it: a query that comes back, outcomes that come too late, one of
them in the middle of a call without a runtime, and a dispatch that outlives the handle. -/
def eventfulLife : List Event :=
  let late : Outcome (Query.Result Row) := .error (.stated "late")
  [.set true "a", .set true "b", .set true "a", .finish 0 late, .set true "a",
    .finish 2 (.error (.stated "in time")), .set false "c", .finish 1 late, .fail,
    .set true "a", .drop, .finish 4 late]

theorem published_in_eventfulLife :
    ∃ s, Session.Run {} eventfulLife s ∧ (calls eventfulLife).length < UInt64.size ∧
      s.handle.published.reverse =
        [.loading, .loading, .loading, .failed (.stated "in time"), .loading, .failed noRuntime,
          .loading] := by
  have run : ∃ s, Session.Run {} eventfulLife s ∧ s.failing = false := by
    refine ⟨_, .cons (.dispatch ⟨rfl, rfl⟩ (by decide)) <|
      .cons (.dispatch ⟨rfl, rfl⟩ (by decide)) <| .cons (.dispatch ⟨rfl, rfl⟩ (by decide)) <|
      .cons (Session.Step.finish (d := ⟨0, 1⟩) (by decide)) <| .cons (.again ⟨rfl, rfl⟩ rfl) <|
      .cons (Session.Step.finish (d := ⟨2, 3⟩) (by decide)) <|
      .cons (.stray ⟨rfl, rfl⟩ (by decide)) <|
      .cons (Session.Step.finish (d := ⟨1, 2⟩) (by decide)) <| .cons (.fail rfl) <|
      .cons (.dispatch ⟨rfl, rfl⟩ (by decide)) <| .cons (.drop ⟨rfl, rfl⟩) <|
      .cons (Session.Step.finish (d := ⟨4, 5⟩) (by decide)) .nil, rfl⟩
  obtain ⟨s, run, between⟩ := run
  have few : (calls eventfulLife).length < UInt64.size := by decide
  exact ⟨s, run, few, ((published_eq_history run few).2.2.2.1 between).1⟩

end SqlGateway.Live
