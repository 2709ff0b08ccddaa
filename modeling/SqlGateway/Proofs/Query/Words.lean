import SqlGateway.Proofs.Json.Layout
import SqlGateway.Proofs.Json.Order
import SqlGateway.Query.Error

/-!
# The words of a payload

A backend says in words what went wrong, in one of three places: the payload is a string, or it
is an object with a string under `message`, or with one under `error` and none under `message`
(`Words`).  These words are the message of the error, but in one case.  An object hides the words
under `error` if it has a member `message` at all, be it `null` or anything else that is no
string (`Hidden`): the member is taken for the words, and it has none.

Where there are no words, or they are hidden, the message is the text of the whole payload.  It
is so nowhere else, since words never read like the payload that holds them: they are shorter
than its text (`Words.length_lt`).  So a payload leaves one text to be told, and that is the
message (`Error.tells_iff`).
-/

namespace SqlGateway.Query

open Json (compactText)

/-! ## Words -/

/-- What a payload says in words. -/
inductive Words : Json → String → Prop where
  /-- The payload is a string. -/
  | whole {s : String} : Words (.string s) s
  /-- A string stands under `message`. -/
  | message {ms : Members} {s : String} (said : ("message", .string s) ∈ ms) :
      Words (.object ms) s
  /-- A string stands under `error`, and none under `message`. -/
  | error {ms : Members} {s : String} (said : ("error", .string s) ∈ ms)
      (silent : ∀ t, ("message", .string t) ∉ ms) : Words (.object ms) s

/-- A payload has words under `error`, and a member `message` that is no string. -/
inductive Hidden : Json → Prop where
  /-- The member stands in front of the words. -/
  | behind {ms : Members} {v : Json} {s : String} (message : ("message", v) ∈ ms)
      (noText : ∀ t, v ≠ .string t) (said : ("error", .string s) ∈ ms) : Hidden (.object ms)

section Payload

variable {p : Json} {ms : Members} {s : String}

/-- Words are shorter than the text of their payload. -/
theorem Words.length_lt (h : Words p s) : s.toList.length < (compactText p).length := by
  cases h with
  | whole => exact Json.length_lt_quoted s
  | message said | error said =>
      have held := Json.Layout.compact.length_text_lt_object 0 said
      rw [Json.Layout.text_compact, Json.Layout.text_compact] at held
      exact (Json.length_lt_quoted s).trans held

theorem Words.ne_compact (h : Words p s) : p.compact ≠ s := by
  rintro rfl
  have shorter := h.length_lt
  rw [Json.compact, String.toList_ofList] at shorter
  exact Nat.lt_irrefl _ shorter

/-- Words under `error`, with none under `message`, are hidden by any `message`. -/
theorem hidden_iff (said : ("error", .string s) ∈ ms) (silent : ∀ t, ("message", .string t) ∉ ms) :
    Hidden (.object ms) ↔ ∃ v, ("message", v) ∈ ms := by
  constructor
  · rintro ⟨message, -, -⟩
    exact ⟨_, message⟩
  · rintro ⟨v, message⟩
    refine .behind message ?_ said
    rintro t rfl
    exact silent t message

/-! ## Finding words -/

/-- What is found in a payload are its words. -/
theorem words_of_found (ordered : p.Ordered) (found : Error.words? p = some s) : Words p s := by
  cases p with
  | null | bool | number | array => cases found
  | string t =>
      cases found
      exact .whole
  | object ms =>
      have nodup := ordered.1.nodup
      rw [Error.words?] at found
      split at found
      next t looked =>
        cases found
        rcases Option.or_eq_some_iff.mp looked with message | ⟨absent, error⟩
        · exact .message ((Members.get?_eq_some_iff nodup).mp message)
        · refine .error ((Members.get?_eq_some_iff nodup).mp error) fun u message => ?_
          exact Members.get?_eq_none_iff.mp absent (Members.mem_names_of_mem message)
      next => cases found

/-- Nothing is found in a payload that hides its words. -/
theorem Hidden.not_found (hidden : Hidden p) (ordered : p.Ordered) : Error.words? p = none := by
  cases hidden with
  | behind message noText said =>
      have looked := (Members.get?_eq_some_iff ordered.1.nodup).mpr message
      rw [Error.words?, looked, Option.some_or]
      split
      next t same => exact absurd (Option.some.inj same) (noText t)
      next => rfl

/-- Words that are not hidden are found. -/
theorem Words.found (h : Words p s) (ordered : p.Ordered) (visible : ¬ Hidden p) :
    Error.words? p = some s := by
  cases h with
  | whole => rfl
  | message said =>
      have looked := (Members.get?_eq_some_iff ordered.1.nodup).mpr said
      rw [Error.words?, looked]
      rfl
  | @error ms s said silent =>
      have looked := (Members.get?_eq_some_iff ordered.1.nodup).mpr said
      -- No string stands under `message`, so whatever else stood there would hide the words.
      have absent : Members.get? ms "message" = none := by
        refine Option.eq_none_iff_forall_ne_some.mpr fun v present => ?_
        have message := (Members.get?_eq_some_iff ordered.1.nodup).mp present
        exact visible ((hidden_iff said silent).mpr ⟨v, message⟩)
      rw [Error.words?, absent, looked]
      rfl

end Payload

/-! ## What people are told -/

/-- A text is the one to tell people of a payload. -/
structure Tells (p : Json) (text : String) : Prop where
  /-- A payload that is a string is told as it is. -/
  whole : ∀ s, p = .string s → text = s
  /-- A string under `message` is told. -/
  message : ∀ ms s, p = .object ms → ("message", .string s) ∈ ms → text = s
  /-- Where no string stands under `message`, one under `error` is told exactly if nothing at all
  stands under `message`. -/
  error_iff : ∀ ms s, p = .object ms → (∀ t, ("message", .string t) ∉ ms) →
    ("error", .string s) ∈ ms → (text = s ↔ ∀ v, ("message", v) ∉ ms)
  /-- The whole payload is told exactly if it has no words, or hides them. -/
  compact_iff : text = p.compact ↔ ∀ s, Words p s → Hidden p

section Telling

variable {p : Json} {s text text' : String}

theorem Tells.eq_of_words (h : Tells p text) (words : Words p s) (visible : ¬ Hidden p) :
    text = s := by
  cases words with
  | whole => exact h.whole s rfl
  | message said => exact h.message _ s rfl said
  | error said silent =>
      rw [hidden_iff said silent, not_exists] at visible
      exact (h.error_iff _ s rfl silent said).mpr visible

/-- There is one text to tell of a payload. -/
theorem Tells.unique (h : Tells p text) (h' : Tells p text') : text = text' := by
  by_cases hidden : ∀ s, Words p s → Hidden p
  · rw [h.compact_iff.mpr hidden, h'.compact_iff.mpr hidden]
  · obtain ⟨s, some⟩ := not_forall.mp hidden
    obtain ⟨words, visible⟩ := Classical.not_imp.mp some
    rw [h.eq_of_words words visible, h'.eq_of_words words visible]

end Telling

namespace Error

variable {e : Error} {s : String}

theorem message_of_words (ordered : e.payload.Ordered) (words : Words e.payload s)
    (visible : ¬ Hidden e.payload) : e.message = s := by
  rw [message, words.found ordered visible, Option.getD_some]

theorem message_of_hidden (ordered : e.payload.Ordered) (hidden : Hidden e.payload) :
    e.message = e.payload.compact := by
  rw [message, hidden.not_found ordered, Option.getD_none]

/-- Words are the message exactly if they are not hidden. -/
theorem message_eq_iff (ordered : e.payload.Ordered) (words : Words e.payload s) :
    e.message = s ↔ ¬ Hidden e.payload := by
  refine ⟨fun told hidden => ?_, message_of_words ordered words⟩
  exact words.ne_compact ((message_of_hidden ordered hidden).symm.trans told)

/-- The whole payload is the message exactly if it has no words, or hides them. -/
theorem message_eq_compact_iff (ordered : e.payload.Ordered) :
    e.message = e.payload.compact ↔ ∀ s, Words e.payload s → Hidden e.payload := by
  constructor
  · intro whole s words
    by_contra visible
    exact words.ne_compact (whole.symm.trans (message_of_words ordered words visible))
  · intro hidden
    cases found : words? e.payload with
    | none => rw [message, found, Option.getD_none]
    | some s => exact message_of_hidden ordered (hidden s (words_of_found ordered found))

theorem tells (ordered : e.payload.Ordered) : Tells e.payload e.message where
  whole s same := by
    have visible : ¬ Hidden e.payload := by
      rw [same]
      rintro ⟨⟩
    exact message_of_words ordered (same ▸ .whole) visible
  message ms s same said := by
    have visible : ¬ Hidden e.payload := by
      rw [same] at ordered ⊢
      rintro ⟨other, noText, -⟩
      exact noText s (Members.eq_of_mem ordered.1.nodup other said)
    exact message_of_words ordered (same ▸ .message said) visible
  error_iff ms s same silent said := by
    rw [message_eq_iff ordered (same ▸ .error said silent), same, hidden_iff said silent,
      not_exists]
  compact_iff := message_eq_compact_iff ordered

/-- The message of an error is the text to tell of its payload. -/
theorem tells_iff (ordered : e.payload.Ordered) :
    ∀ text, Tells e.payload text ↔ text = e.message := by
  refine fun text => ⟨fun told => told.unique (tells ordered), ?_⟩
  rintro rfl
  exact tells ordered

end Error

end SqlGateway.Query
