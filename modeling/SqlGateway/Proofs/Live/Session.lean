import Mathlib.Data.List.Nodup
import SqlGateway.Live.Handle

/-!
# Sessions

A session is the life of one handle, seen at the grain of its channel: every closure that
runs under the lock of the channel is one event.  Calls of `set` and the drop come from the
owner of the handle, one after the other.  The ends of dispatches come from elsewhere, at any
time and in any order, also in the middle of a call and after the drop.

A call that finds no runtime takes two events.  It moves the handle on, and then publishes
the failure, and a dispatch may end in between.  `Run.set` says that a call of `Handle.set`
is a run of one event or two.

`Numbered` is the invariant.  It ties the generation of the handle and the generation that
each dispatch took along to the number of times the handle has moved on, and every event
keeps it (`Step.numbered`).  As long as that number fits a word, the generations agree for
the dispatch of the latest query and for no other, and for none once the handle is dropped
(`Numbered.current_iff`).
-/

namespace SqlGateway.Live

open Query (Outcome Row)

/-! ## What the operations of a handle leave alone -/

namespace Handle

@[simp] theorem settle_generation (g : UInt64) (o : Outcome (Query.Result Row)) (h : Handle) :
    (h.settle g o).generation = h.generation := by
  unfold settle
  split <;> rfl

@[simp] theorem settle_query (g : UInt64) (o : Outcome (Query.Result Row)) (h : Handle) :
    (h.settle g o).query = h.query := by
  unfold settle
  split <;> rfl

@[simp] theorem settle_dropped (g : UInt64) (o : Outcome (Query.Result Row)) (h : Handle) :
    (h.settle g o).dropped = h.dropped := by
  unfold settle
  split <;> rfl

end Handle

/-! ## Events and sessions -/

/-- What can happen to a handle. -/
inductive Event where
  /-- The handle is asked to follow a query. -/
  | set (onRuntime : Bool) (query : String)
  /-- A call that found no runtime publishes its failure and is over. -/
  | fail
  /-- The dispatch of a number is over. -/
  | finish (number : Nat) (outcome : Outcome (Query.Result Row))
  /-- The handle is dropped. -/
  | drop

/-- A query on its way. -/
structure Dispatch where
  /-- How often the handle had moved on before. -/
  number : Nat
  /-- The generation it took along. -/
  generation : UInt64
deriving DecidableEq

/-- A handle and all that may still happen to it. -/
structure Session where
  /-- The handle. -/
  handle : Handle := {}
  /-- How often the handle has moved on. -/
  moves : Nat := 0
  /-- The dispatches that are not over. -/
  inFlight : List Dispatch := []
  /-- A call has yet to publish that there is no runtime. -/
  failing : Bool := false

namespace Session

/-- The owner of the handle is not in the middle of a call, and has not dropped it. -/
def Ready (s : Session) : Prop := s.handle.dropped = false ∧ s.failing = false

/-- The handle moves on to a query, which is dispatched. -/
def dispatch (query : String) (s : Session) : Session where
  handle := s.handle.moveOn query
  moves := s.moves + 1
  inFlight := s.inFlight ++ [⟨s.moves, (s.handle.moveOn query).generation⟩]
  failing := s.failing

/-- The handle moves on to a query for which there is no runtime. -/
def stray (query : String) (s : Session) : Session where
  handle := s.handle.moveOn query
  moves := s.moves + 1
  inFlight := s.inFlight
  failing := true

/-- The failure of a call without a runtime is published. -/
def fail (s : Session) : Session :=
  { s with handle := s.handle.publish (.failed noRuntime), failing := false }

/-- A dispatch is over. -/
def finish (d : Dispatch) (o : Outcome (Query.Result Row)) (s : Session) : Session :=
  { s with handle := s.handle.settle d.generation o, inFlight := s.inFlight.erase d }

/-- The handle is dropped. -/
def drop (s : Session) : Session := { s with handle := s.handle.drop }

/-- One event. -/
inductive Step : Session → Event → Session → Prop where
  /-- The query that the handle follows is set again. -/
  | again {s : Session} {onRuntime : Bool} {query : String} :
      s.Ready → s.handle.query = some query → Step s (.set onRuntime query) s
  /-- A new query is set on a runtime. -/
  | dispatch {s : Session} {query : String} :
      s.Ready → s.handle.query ≠ some query → Step s (.set true query) (s.dispatch query)
  /-- A new query is set where there is no runtime. -/
  | stray {s : Session} {query : String} :
      s.Ready → s.handle.query ≠ some query → Step s (.set false query) (s.stray query)
  /-- The failure of such a call is published. -/
  | fail {s : Session} : s.failing = true → Step s .fail s.fail
  /-- A dispatch in flight is over. -/
  | finish {s : Session} {d : Dispatch} {o : Outcome (Query.Result Row)} :
      d ∈ s.inFlight → Step s (.finish d.number o) (s.finish d o)
  /-- The handle is dropped. -/
  | drop {s : Session} : s.Ready → Step s .drop s.drop

/-- Events one after the other. -/
inductive Run : Session → List Event → Session → Prop where
  | nil {s : Session} : Run s [] s
  | cons {s s' s'' : Session} {e : Event} {es : List Event} :
      Step s e s' → Run s' es s'' → Run s (e :: es) s''

/-- A call of `Handle.set` is a run of one event, or of two where a new query finds no
runtime. -/
theorem Run.set {s : Session} (ready : s.Ready) (onRuntime : Bool) (query : String) :
    ∃ es s', Run s es s' ∧ s'.handle = (s.handle.set onRuntime query).1 ∧
      (es = [.set onRuntime query] ∨ es = [.set onRuntime query, .fail]) := by
  by_cases same : s.handle.query = some query
  · refine ⟨_, s, .cons (.again ready same) .nil, ?_, Or.inl rfl⟩
    rw [Handle.set, if_pos same]
  · cases onRuntime with
    | true =>
        refine ⟨_, _, .cons (.dispatch ready same) .nil, ?_, Or.inl rfl⟩
        rw [Handle.set, if_neg same]
        rfl
    | false =>
        refine ⟨_, _, .cons (.stray ready same) (.cons (.fail rfl) .nil), ?_, Or.inr rfl⟩
        rw [Handle.set, if_neg same]
        rfl

/-! ## Generations and moves -/

/-- The latest query is on its way, and its outcome would be published. -/
def Awaiting (s : Session) : Prop :=
  s.handle.dropped = false ∧ ∃ d ∈ s.inFlight, d.number + 1 = s.moves

instance (s : Session) : Decidable s.Awaiting :=
  inferInstanceAs (Decidable (_ ∧ ∃ d ∈ s.inFlight, _))

/-- Generations count the moves of the handle. -/
structure Numbered (s : Session) : Prop where
  /-- The generation of the handle.  The drop counts as a move. -/
  generation : s.handle.generation = .ofNat (s.moves + s.handle.dropped.toNat)
  /-- A dispatch in flight took the generation of its move along. -/
  captured : ∀ d ∈ s.inFlight, d.number < s.moves ∧ d.generation = .ofNat (d.number + 1)
  /-- No two dispatches in flight have one number. -/
  distinct : (s.inFlight.map Dispatch.number).Nodup
  /-- A call that found no runtime has dispatched nothing. -/
  alone : s.failing = true → ¬s.Awaiting

theorem numbered_start : Numbered {} where
  generation := rfl
  captured := by simp
  distinct := by simp
  alone := by simp

section

variable {s : Session} (h : s.Numbered)

include h

theorem Numbered.moveOn (kept : s.handle.dropped = false) (query : String) :
    (s.handle.moveOn query).generation = .ofNat (s.moves + 1) := by
  change s.handle.generation + 1 = _
  rw [h.generation, kept]
  simp [UInt64.ofNat_add]

/-- The number of the next dispatch is not in flight. -/
theorem Numbered.fresh {d : Dispatch} (hd : d ∈ s.inFlight) : d.number ≠ s.moves :=
  Nat.ne_of_lt (h.captured d hd).1

theorem Numbered.dispatch (ready : s.Ready) (query : String) : (s.dispatch query).Numbered where
  generation := by
    rw [show (s.dispatch query).handle.dropped = false from ready.1]
    exact h.moveOn ready.1 query
  captured := by
    intro d hd
    rcases List.mem_append.mp hd with old | new
    · exact ⟨Nat.lt_succ_of_lt (h.captured d old).1, (h.captured d old).2⟩
    · rw [List.mem_singleton.mp new]
      exact ⟨Nat.lt_succ_self _, h.moveOn ready.1 query⟩
  distinct := by
    simp only [Session.dispatch, List.map_append, List.map_cons, List.map_nil]
    refine h.distinct.append (List.nodup_singleton _) ?_
    intro n hn hm
    obtain ⟨d, hd, he⟩ := List.mem_map.mp hn
    exact h.fresh hd (he.trans (List.mem_singleton.mp hm))
  alone := by
    intro failing
    rw [show (s.dispatch query).failing = false from ready.2] at failing
    cases failing

theorem Numbered.stray (ready : s.Ready) (query : String) : (s.stray query).Numbered where
  generation := by
    rw [show (s.stray query).handle.dropped = false from ready.1]
    exact h.moveOn ready.1 query
  captured := fun d hd => ⟨Nat.lt_succ_of_lt (h.captured d hd).1, (h.captured d hd).2⟩
  distinct := h.distinct
  alone := by
    rintro - ⟨-, d, hd, he⟩
    exact h.fresh hd (Nat.succ.inj he)

theorem Numbered.fail : s.fail.Numbered where
  generation := h.generation
  captured := h.captured
  distinct := h.distinct
  alone := by simp [Session.fail]

theorem Numbered.finish (d : Dispatch) (o : Outcome (Query.Result Row)) :
    (s.finish d o).Numbered where
  generation := by simpa [Session.finish] using h.generation
  captured := fun d' hd' => h.captured d' (List.mem_of_mem_erase hd')
  distinct := h.distinct.sublist (List.erase_sublist.map Dispatch.number)
  alone := by
    rintro failing ⟨kept, d', hd', he⟩
    refine h.alone failing ⟨?_, d', List.mem_of_mem_erase hd', he⟩
    simpa [Session.finish] using kept

theorem Numbered.drop (ready : s.Ready) : s.drop.Numbered where
  generation := by
    change s.handle.generation + 1 = _
    rw [h.generation, ready.1]
    simp [Session.drop, Handle.drop, UInt64.ofNat_add]
  captured := h.captured
  distinct := h.distinct
  alone := by
    rintro - ⟨kept, -⟩
    cases kept

/-- The end of a dispatch leaves a session awaiting another, if it was. -/
theorem Numbered.awaiting_finish_iff {d : Dispatch} (hd : d ∈ s.inFlight)
    (o : Outcome (Query.Result Row)) :
    (s.finish d o).Awaiting ↔ s.Awaiting ∧ d.number + 1 ≠ s.moves := by
  have apart : s.inFlight.Nodup := h.distinct.of_map Dispatch.number
  constructor
  · rintro ⟨kept, d', hd', he⟩
    obtain ⟨other, old⟩ := apart.mem_erase_iff.mp hd'
    refine ⟨⟨by simpa [Session.finish] using kept, d', old, he⟩, ?_⟩
    intro latest
    exact other (List.inj_on_of_nodup_map h.distinct old hd (Nat.succ.inj (he.trans latest.symm)))
  · rintro ⟨⟨kept, d', hd', he⟩, older⟩
    refine ⟨by simpa [Session.finish] using kept, d', apart.mem_erase_iff.mpr ⟨?_, hd'⟩, he⟩
    intro same
    exact older (same ▸ he)

/-- A dispatch in flight has the generation of the handle if it is the latest and the handle
was not dropped. -/
theorem Numbered.current_iff (few : s.moves < UInt64.size) {d : Dispatch} (hd : d ∈ s.inFlight) :
    s.handle.generation = d.generation ↔ s.handle.dropped = false ∧ d.number + 1 = s.moves := by
  have older := (h.captured d hd).1
  have size : UInt64.size = 0x10000000000000000 := rfl
  rw [h.generation, (h.captured d hd).2, ← UInt64.toNat_inj]
  cases s.handle.dropped with
  | true => simp; omega
  | false => simp; omega

end

/-- Every event keeps the generations in step with the moves. -/
theorem Step.numbered {s s' : Session} {e : Event} (step : Step s e s') (h : s.Numbered) :
    s'.Numbered := by
  cases step with
  | again _ _ => exact h
  | dispatch ready _ => exact h.dispatch ready _
  | stray ready _ => exact h.stray ready _
  | fail _ => exact h.fail
  | finish _ => exact h.finish _ _
  | drop ready => exact h.drop ready

end Session

end SqlGateway.Live
