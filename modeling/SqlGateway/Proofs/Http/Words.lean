import SqlGateway.Proofs.Http.RoundTrip
import SqlGateway.Proofs.Query.Words

/-!
# The words of a backend

What the body of an answer says of a failure becomes the payload of an error (`Said`), and what
the payload says in words becomes the message of the error (`Query.Tells`).  So two levels are
taken off: the member `error` of the body, and then a member of that.

An answer hides its words in one shape only (`HidesWords`).  A body without words of its own
under `error` gives its other members as the payload, and there is no `error` among them that
could be hidden.  So the words are hidden exactly if the member `error` of the body is an object
that hides them (`Said.hidden_iff`).
-/

namespace SqlGateway.Http

open Query (Hidden Tells)

/-- The member `error` of a body hides its words. -/
def HidesWords (body : Bytes) : Prop :=
  ∃ ms p, Json.readBytes body = .ok (.object ms) ∧ ("error", p) ∈ ms ∧ Hidden p

section Body

variable {s : Status} {body : Bytes} {p : Json}

/-- What a body says is in order. -/
theorem Said.ordered (said : Said s body p) : p.Ordered := by
  cases said with
  | member read error =>
      exact (Json.orderedMembers_iff _).mp (Json.ordered_of_readBytes read).2 _ error
  | others read =>
      obtain ⟨increasing, values⟩ := Json.ordered_of_readBytes read
      refine ⟨increasing.sublist (List.filter_sublist.map _), ?_⟩
      rw [Json.orderedMembers_iff] at values ⊢
      exact fun m hm => values m (List.mem_of_mem_filter hm)
  | value read => exact Json.ordered_of_readBytes read
  | text | line => trivial

/-- What a body says hides its words exactly if the body does. -/
theorem Said.hidden_iff (said : Said s body p) : Hidden p ↔ HidesWords body := by
  cases said with
  | @member ms _ read error =>
      refine ⟨fun hidden => ⟨ms, p, read, error, hidden⟩, ?_⟩
      rintro ⟨ns, q, read', error', hidden⟩
      cases read.symm.trans read'
      exact Members.eq_of_mem (nodup_of_readBytes read) error' error ▸ hidden
  | @others ms read absent =>
      -- Nothing under `error` is left in the payload, and what the body had there was `null`.
      refine iff_of_false ?_ ?_
      · rintro ⟨-, -, said⟩
        simpa using (List.mem_filter.mp said).2
      · rintro ⟨ns, q, read', error, hidden⟩
        cases read.symm.trans read'
        cases absent q error
        cases hidden
  | value read noObject =>
      refine iff_of_false ?_ ?_
      · rintro ⟨-, -, -⟩
        exact noObject _ rfl
      · rintro ⟨ns, q, read', -⟩
        cases read.symm.trans read'
        exact noObject ns rfl
  | text read | line read =>
      refine iff_of_false nofun ?_
      rintro ⟨ns, q, read', -⟩
      cases read.symm.trans read'

/-- A failure of the backend has what the body says as its payload. -/
theorem said_iff_of_interpret {e : Query.Error} (outcome : (interpret s body).value = .error e)
    (kind : e.kind = .backend) : ∀ p, Said s body p ↔ p = e.payload := by
  by_cases failed : ¬ s.Success ∨ Indicates body
  · obtain ⟨p, said, outcome'⟩ := interpret_failed failed
    cases outcome.symm.trans outcome'
    exact said
  · obtain ⟨success, silent⟩ := not_or.mp failed
    rcases interpret_answered (not_not.mp success) silent with ⟨_, r, _, _, result⟩ | undecoded
    · cases outcome.symm.trans result
    · obtain ⟨text, cause, -, outcome'⟩ := undecoded
      cases outcome.symm.trans outcome'
      cases kind

end Body

/-- The summary of an error is its kind and its message, and the message is the text to tell of
the payload.  Where an answer is interpreted as a failure of the backend, the payload is what the
body says, and its words are hidden exactly if the member `error` of the body hides them. -/
theorem words_told (e : Query.Error) :
    e.summary = e.kind.name ++ " error: " ++ e.message ∧
      (e.payload.Ordered → ∀ text, Tells e.payload text ↔ text = e.message) ∧
      ∀ (s : Status) (body : Bytes), (interpret s body).value = .error e → e.kind = .backend →
        (∀ p, Said s body p ↔ p = e.payload) ∧
          (∀ text, Tells e.payload text ↔ text = e.message) ∧
          (Hidden e.payload ↔ HidesWords body) := by
  refine ⟨rfl, Query.Error.tells_iff, fun s body outcome kind => ?_⟩
  have payload := said_iff_of_interpret outcome kind
  have said : Said s body e.payload := (payload _).mpr rfl
  exact ⟨payload, Query.Error.tells_iff said.ordered, said.hidden_iff⟩

/-- Members with words under `error`, and no `message`. -/
def nestedWords : Members := [("code", .string "42P01"), ("error", .string "no such table")]

/-- An error that has its words under `error`. -/
def nestedError : Query.Error where
  payload := .object nestedWords

theorem words_told_nested :
    nestedError.payload.Ordered ∧ nestedError.message = "no such table" ∧
      ∃ e, (interpret ⟨200⟩ (Utf8.encode nestedError.toJson.pretty)).value = .error e ∧
        e.kind = .backend ∧ e.summary = "backend error: no such table" ∧
        ¬ HidesWords (Utf8.encode nestedError.toJson.pretty) := by
  have ordered : nestedError.payload.Ordered := by
    refine ⟨?_, trivial, trivial, trivial⟩
    rw [Members.Increasing]
    decide
  have outcome := interpret_error (s := ⟨200⟩) (Or.inr rfl) Json.noConfusion ordered
    ⟨trivial, trivial, trivial⟩ (by decide)
  have absent : ∀ v, ("message", v) ∉ nestedWords := by simp [nestedWords]
  have said : ("error", .string "no such table") ∈ nestedWords := by simp [nestedWords]
  have told : nestedError.message = "no such table" :=
    ((((words_told nestedError).2.1 ordered _).mpr rfl).error_iff nestedWords _ rfl
      (fun _ => absent _) said).mpr absent
  obtain ⟨summary, -, answered⟩ := words_told (.backend nestedError.payload (some "HTTP 200 OK"))
  obtain ⟨-, -, hidden⟩ := answered _ _ outcome rfl
  refine ⟨ordered, told, _, outcome, rfl, summary.trans (congrArg _ told), ?_⟩
  rw [← hidden]
  rintro ⟨message, -, -⟩
  exact absent _ message

/-- An error whose payload has `null` in front of its words. -/
def nullError : Query.Error where
  payload := .object [("error", .string "no such table"), ("message", .null)]

/-- The backend sent words, and the message is the whole payload. -/
theorem words_behind_null :
    ∃ e ms, (interpret ⟨500⟩ (Utf8.encode nullError.toJson.compact)).value = .error e ∧
      e.kind = .backend ∧ e.payload = .object ms ∧ (∀ t, ("message", .string t) ∉ ms) ∧
      ("error", .string "no such table") ∈ ms ∧ e.message ≠ "no such table" ∧
      e.message = "\x7b\"error\":\"no such table\",\"message\":null\x7d" := by
  have ordered : nullError.payload.Ordered := by
    refine ⟨?_, trivial, trivial, trivial⟩
    rw [Members.Increasing]
    decide
  have outcome := interpret_error (s := ⟨500⟩) (Or.inl rfl) Json.noConfusion ordered
    ⟨trivial, trivial, trivial⟩ (by decide)
  exact ⟨_, _, outcome, rfl, rfl, by simp, List.mem_cons_self, by decide, by decide⟩

end SqlGateway.Http
