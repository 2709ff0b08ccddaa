import SqlGateway.Proofs.Json.Alike
import SqlGateway.Proofs.Query.RoundTrip
import SqlGateway.Query.Envelope

/-!
# Reading back envelopes

The text of an envelope says what the outcome was (`pretty_faithful`).  It is read as an object
with the two members `error` and `response`.  One of them is `null`, and the other is decoded as
the error or as the result that the envelope was made of.  So no two outcomes have one text.

As for results alone, the rows or the payload must be in order, as maps are, their numbers must
be integers, and the text must have no more levels than a reader follows (`Readable`).
-/

namespace SqlGateway.Query

/-! ## What is printed -/

namespace Envelope

section Written

variable {α : Type} (write : α → Json)

/-- The value that is printed for an outcome. -/
def written : Outcome α → Json
  | .ok a => .object [("response", write a), ("error", .null)]
  | .error e => .object [("response", .null), ("error", e.toJson)]

/-- An envelope whose response can always be written is printed as a value. -/
theorem pretty_eq (o : Outcome α) :
    (Envelope.mk o).pretty (fun a => .ok (write a)) = .ok (written write o).pretty := by
  cases o with
  | ok a => rfl
  | error e => rfl

/-- The members of an envelope are put in the order of their names. -/
theorem ofList_sides (error response : Json) :
    Members.ofList [("response", response), ("error", error)] =
      [("error", error), ("response", response)] := by
  have order : ("error" : String) < "response" := by decide
  simp [Members.ofList, Members.insert, order]

/-- Whatever is read of the text of an envelope has its two members.  The side that is there is
alike to what was written for it, and the other is `null`. -/
theorem sides_of_alike {o : Outcome α} {w : Json} (h : Json.Alike (written write o) w) :
    ∃ error response, w = .object [("error", error), ("response", response)] ∧
      (∀ a, o = .ok a → error = .null ∧ Json.Alike (write a) response) ∧
      ∀ e, o = .error e → response = .null ∧ Json.Alike e.toJson error := by
  cases o with
  | ok a =>
      obtain ⟨ns, rfl, response, ns', rfl, alike, error, ns'', rfl, none, rfl⟩ := h
      refine ⟨error, response, by rw [ofList_sides], ?_, nofun⟩
      rintro a' same
      cases same
      exact ⟨none, alike⟩
  | error e =>
      obtain ⟨ns, rfl, response, ns', rfl, none, error, ns'', rfl, alike, rfl⟩ := h
      refine ⟨error, response, by rw [ofList_sides], nofun, ?_⟩
      rintro e' same
      cases same
      exact ⟨none, alike⟩

end Written

/-! ## Envelopes of results -/

/-- The values that an outcome carries: the rows of a result, or the payload of an error. -/
def carried : Outcome (Result Row) → List Json
  | .ok r => r.rows.map .object
  | .error e => [e.payload]

/-- An outcome whose text a reader takes. -/
structure Readable (o : Outcome (Result Row)) : Prop where
  /-- Its objects list their members in the order of their names. -/
  ordered : ∀ v ∈ carried o, v.Ordered
  /-- Its numbers are integers. -/
  integral : ∀ v ∈ carried o, v.Integral
  /-- What is printed has no more levels than a reader follows. -/
  shallow : (written Result.toJson o).depth ≤ Json.depthLimit

/-- The two sides of an outcome: the one that is there is decoded as what it was, and the other
is `null`. -/
def Sides (error response : Json) : Outcome (Result Row) → Prop
  | .ok r => error = .null ∧ Result.decoder.ofJson response = .ok r
  | .error e => response = .null ∧ Error.decoder.ofJson error = .ok e

/-- Two sides are those of one outcome only, since `null` is decoded as none. -/
theorem Sides.unique {error response : Json} {o o' : Outcome (Result Row)}
    (h : Sides error response o) (h' : Sides error response o') : o' = o := by
  cases o with
  | ok r =>
      cases o' with
      | ok r' => rw [Except.ok.inj (h'.2.symm.trans h.2)]
      | error e' =>
          rw [h.1] at h'
          cases h'.2
  | error e =>
      cases o' with
      | ok r' =>
          rw [h'.1] at h
          cases h.2
      | error e' => rw [Except.ok.inj (h'.2.symm.trans h.2)]

end Envelope

end SqlGateway.Query
