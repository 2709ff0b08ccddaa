import Mathlib.Data.List.Forall2
import SqlGateway.Client
import SqlGateway.Proofs.Attempt

/-!
# Typed rows

Rows are decoded one after another, up to the first that does not fit.  So either every row fits,
and the typed rows are what the decoder makes of each (`decodeRows_eq_ok_iff`), or there is a
first row that does not (`FirstMisfit`), and the error names its number and tells what the decoder
says of it (`decodeRows_eq_error_iff`).  The rows behind it are not looked at.

Decoding all rows is the same as applying a function to each, if the decoder is such a function
on the rows.  Both keep everything but the rows (`SameButRows`).  The whole is
`Result.typed_or_first_misfit`.
-/

namespace SqlGateway.Query

variable {ρ σ τ : Type}

/-- A result has everything but the rows from another. -/
structure Result.SameButRows (r : Result ρ) (t : Result τ) : Prop where
  success : t.success = r.success
  command : t.command = r.command
  fields : t.fields = r.fields
  rowCount : t.rowCount = r.rowCount
  executionTime : t.executionTime = r.executionTime
  executionTimeHighRes : t.executionTimeHighRes = r.executionTimeHighRes

/-- A row does not fit, and all rows before it do. -/
structure FirstMisfit (d : Json.Decoder τ) (rows : List Row) (i : Nat) (m : Json.Mismatch) :
    Prop where
  /-- The row of that number does not fit. -/
  here : ∃ row, rows[i]? = some row ∧ d.ofJson (.object row) = .error m
  /-- The rows before it fit. -/
  before : ∀ j < i, ∀ row, rows[j]? = some row → ∃ t, d.ofJson (.object row) = .ok t

section Rows

variable {d : Json.Decoder τ} {row : Row} {rows : List Row} {i : Nat} {m m' : Json.Mismatch} {t : τ}

/-- A first row that does not fit is the first misfit. -/
theorem firstMisfit_cons_of_error (misfit : d.ofJson (.object row) = .error m) :
    FirstMisfit d (row :: rows) i m' ↔ i = 0 ∧ m' = m := by
  constructor
  · intro first
    cases i with
    | zero =>
        obtain ⟨_, ⟨⟩, same⟩ := first.here
        rw [misfit] at same
        cases same
        exact ⟨rfl, rfl⟩
    | succ i =>
        obtain ⟨t, fits⟩ := first.before 0 i.succ_pos row rfl
        rw [misfit] at fits
        cases fits
  · rintro ⟨rfl, rfl⟩
    exact ⟨⟨row, rfl, misfit⟩, nofun⟩

/-- A first row that fits only moves the first misfit by one. -/
theorem firstMisfit_cons_of_ok (fits : d.ofJson (.object row) = .ok t) :
    FirstMisfit d (row :: rows) i m ↔ ∃ j, i = j + 1 ∧ FirstMisfit d rows j m := by
  constructor
  · intro first
    cases i with
    | zero =>
        obtain ⟨_, ⟨⟩, misfit⟩ := first.here
        rw [fits] at misfit
        cases misfit
    | succ j => exact ⟨j, rfl, first.here, fun k hk => first.before (k + 1) (Nat.succ_lt_succ hk)⟩
  · rintro ⟨j, rfl, first⟩
    refine ⟨first.here, fun k hk row' found => ?_⟩
    cases k with
    | zero =>
        cases found
        exact ⟨t, fits⟩
    | succ k => exact first.before k (Nat.lt_of_succ_lt_succ hk) row' found

end Rows

namespace Result

/-- Rows are decoded if each fits. -/
theorem decodeRows_eq_ok_iff {d : Json.Decoder τ} : ∀ {rows : List Row} {index : Nat} {ts : List τ},
    decodeRows d index rows = .ok ts ↔
      List.Forall₂ (fun row t => d.ofJson (.object row) = .ok t) rows ts
  | [], _, ts => by
      rw [decodeRows, List.forall₂_nil_left_iff]
      simp [eq_comm]
  | row :: rows, index, ts => by
      rw [List.forall₂_cons_left_iff]
      cases decoded : d.ofJson (.object row) with
      | error m => simp [decodeRows, decoded]
      | ok t =>
          simp only [decodeRows, decoded, exceptMap_eq_ok, decodeRows_eq_ok_iff, Except.ok.injEq]
          constructor
          · rintro ⟨rest, fit, rfl⟩
            exact ⟨t, rest, rfl, fit, rfl⟩
          · rintro ⟨_, rest, rfl, fit, rfl⟩
            exact ⟨rest, fit, rfl⟩

/-- Rows fail to be decoded at the first that does not fit. -/
theorem decodeRows_eq_error_iff {d : Json.Decoder τ} {e : Error} :
    ∀ {rows : List Row} {index : Nat}, decodeRows d index rows = .error e ↔
      ∃ i m, FirstMisfit d rows i m ∧ e = rowError (index + i) m
  | [], _ => by
      constructor
      · nofun
      · rintro ⟨i, m, ⟨⟨row, ⟨⟩, -⟩, -⟩, -⟩
  | row :: rows, index => by
      cases decoded : d.ofJson (.object row) with
      | error m =>
          simp only [decodeRows, decoded, firstMisfit_cons_of_error decoded]
          constructor
          · rintro ⟨⟩
            exact ⟨0, m, ⟨rfl, rfl⟩, rfl⟩
          · rintro ⟨_, _, ⟨rfl, rfl⟩, rfl⟩
            rfl
      | ok t =>
          have later : decodeRows d index (row :: rows) = .error e ↔
              decodeRows d (index + 1) rows = .error e := by
            simp only [decodeRows, decoded]
            cases decodeRows d (index + 1) rows <;> simp [Except.map]
          rw [later, decodeRows_eq_error_iff]
          simp only [firstMisfit_cons_of_ok decoded]
          constructor
          · rintro ⟨i, m, first, rfl⟩
            exact ⟨i + 1, m, ⟨i, rfl, first⟩, by rw [Nat.add_assoc, Nat.add_comm 1]⟩
          · rintro ⟨_, m, ⟨i, rfl, first⟩, rfl⟩
            exact ⟨i, m, first, by rw [Nat.add_assoc, Nat.add_comm 1]⟩

variable {d : Json.Decoder τ} {r : Result Row}

theorem typed_eq_ok_iff {t : Result τ} : r.typed d = .ok t ↔
    List.Forall₂ (fun row x => d.ofJson (.object row) = .ok x) r.rows t.rows ∧
      r.SameButRows t := by
  rw [typed, exceptMap_eq_ok]
  constructor
  · rintro ⟨ts, decoded, rfl⟩
    exact ⟨decodeRows_eq_ok_iff.mp decoded, rfl, rfl, rfl, rfl, rfl, rfl⟩
  · rintro ⟨fit, same⟩
    obtain ⟨success, command, fields, rowCount, rows, time, timeHighRes⟩ := t
    obtain ⟨rfl, rfl, rfl, rfl, rfl, rfl⟩ := same
    exact ⟨rows, decodeRows_eq_ok_iff.mpr fit, rfl⟩

theorem typed_eq_error_iff {e : Error} : r.typed d = .error e ↔
    ∃ i m, FirstMisfit d r.rows i m ∧ e = rowError i m := by
  have rows : r.typed d = .error e ↔ decodeRows d 0 r.rows = .error e := by
    rw [typed]
    cases decodeRows d 0 r.rows <;> simp [Except.map]
  rw [rows, decodeRows_eq_error_iff]
  simp only [Nat.zero_add]

/-- Where the decoder is a function on the rows, decoding them is applying the function. -/
theorem typed_eq_mapRows {f : Row → τ}
    (fit : ∀ row ∈ r.rows, d.ofJson (.object row) = .ok (f row)) :
    r.typed d = .ok (r.mapRows f) := by
  refine typed_eq_ok_iff.mpr ⟨?_, rfl, rfl, rfl, rfl, rfl, rfl⟩
  show List.Forall₂ _ r.rows (r.rows.map f)
  exact List.forall₂_map_right_iff.mpr (List.forall₂_same.mpr fit)

/-- The rows are decoded exactly if each fits. -/
theorem exists_typed_iff :
    (∃ t, r.typed d = .ok t) ↔ ∀ row ∈ r.rows, ∃ x, d.ofJson (.object row) = .ok x := by
  constructor
  · rintro ⟨t, decoded⟩ row hrow
    obtain ⟨i, here, rfl⟩ := List.mem_iff_getElem.mp hrow
    have fit := (typed_eq_ok_iff.mp decoded).1
    exact ⟨_, (List.forall₂_iff_get.mp fit).2 i here (fit.length_eq ▸ here)⟩
  · intro fit
    cases decoded : r.typed d with
    | ok t => exact ⟨t, rfl⟩
    | error e =>
        obtain ⟨i, m, ⟨⟨row, found, misfit⟩, -⟩, -⟩ := typed_eq_error_iff.mp decoded
        obtain ⟨x, fits⟩ := fit row (List.mem_of_getElem? found)
        rw [misfit] at fits
        cases fits

/-- Typing a result takes every row or fails at the first that does not fit.  If every row fits,
each typed row is what the decoder makes of the row in its place, and the rest is unchanged, as if
a function were applied to the rows; such functions compose.  Otherwise the error is one of
decoding, with the number of the first row that does not fit and the words of the decoder for it.
A client that is asked for typed rows hands on its own errors. -/
theorem typed_or_first_misfit (d : Json.Decoder τ) (r : Result Row) :
    ((∃ t, r.typed d = .ok t) ↔ ∀ row ∈ r.rows, ∃ x, d.ofJson (.object row) = .ok x) ∧
    (∀ t, r.typed d = .ok t →
      t.rows.length = r.rows.length ∧
      (∀ (i : Nat) (row : Row), r.rows[i]? = some row →
        ∃ x, t.rows[i]? = some x ∧ d.ofJson (.object row) = .ok x) ∧ r.SameButRows t) ∧
    (∀ f : Row → τ, (∀ row ∈ r.rows, d.ofJson (.object row) = .ok (f row)) →
      r.typed d = .ok (r.mapRows f)) ∧
    (∀ e, r.typed d = .error e ↔ ∃ i m, FirstMisfit d r.rows i m ∧
      e = .decode s!"row {i} does not match the requested shape" m.message) ∧
    (∀ (c : Client) (query : String) (x : Http.Exchange),
      (∀ e, (c.execute query x).outcome = .error e → c.executeAs d query x = .error e) ∧
      ∀ q, (c.execute query x).outcome = .ok q → c.executeAs d query x = q.typed d) ∧
    ∀ {α β γ : Type} (f : α → β) (g : β → γ) (q : Result α),
      (q.mapRows f).rows.length = q.rows.length ∧
      (∀ i : Nat, (q.mapRows f).rows[i]? = q.rows[i]?.map f) ∧ q.SameButRows (q.mapRows f) ∧
      q.mapRows (g ∘ f) = (q.mapRows f).mapRows g := by
  refine ⟨exists_typed_iff, ?_, fun f => typed_eq_mapRows, fun e => typed_eq_error_iff, ?_, ?_⟩
  · intro t decoded
    obtain ⟨fit, same⟩ := typed_eq_ok_iff.mp decoded
    refine ⟨fit.length_eq.symm, fun i row found => ?_, same⟩
    obtain ⟨here, rfl⟩ := List.getElem?_eq_some_iff.mp found
    have there : i < t.rows.length := fit.length_eq ▸ here
    exact ⟨_, List.getElem?_eq_getElem there, (List.forall₂_iff_get.mp fit).2 i here there⟩
  · intro c query x
    constructor
    · intro e failed
      rw [Client.executeAs, failed]
      rfl
    · intro q answered
      rw [Client.executeAs, answered]
      rfl
  · intro α β γ f g q
    refine ⟨List.length_map f, fun i => List.getElem?_map, ⟨rfl, rfl, rfl, rfl, rfl, rfl⟩, ?_⟩
    simp only [mapRows, withRows, List.map_map]

/-- A result whose second and third rows do not have a number. -/
def mixedResult : Result Row where
  command := "SELECT"
  rowCount := 3
  rows := [[("n", .int { val := 1 })], [("n", .string "x")], [("n", .null)]]

/-- Rows of numbers are decoded up to the second row, and the third is not told of. -/
theorem typed_mixedResult :
    (∃ x, (Json.Decoder.dict .int64).ofJson (.object [("n", .int { val := 1 })]) = .ok x) ∧
      mixedResult.typed (.dict .int64) =
        .error (rowError 1 (.wrongType (.string "x") "i64")) := by
  have first :
      ∃ x, (Json.Decoder.dict .int64).ofJson (.object [("n", .int { val := 1 })]) = .ok x :=
    ⟨_, rfl⟩
  refine ⟨first, ((typed_or_first_misfit (.dict .int64) mixedResult).2.2.2.1 _).mpr
    ⟨1, .wrongType (.string "x") "i64", ⟨⟨_, rfl, rfl⟩, fun j before row found => ?_⟩, rfl⟩⟩
  cases Nat.lt_one_iff.mp before
  cases found
  exact first

end Result

end SqlGateway.Query
