import SqlGateway.Http.Exchange
import SqlGateway.Proofs.Json.Reading

/-!
# Which outcome an answer has

A query over HTTP ends in exactly one of four ways, and what arrived decides which
(`post_classified`).

* No complete answer arrived: the failure is one of transport.
* An answer arrived that has another status than success or whose body indicates a failure:
  the failure is one of the backend, and its payload is what the body says (`Said`).
* An answer of success arrived whose body indicates no failure and is no result: the answer
  does not decode.
* An answer of success arrived whose body is a result: that is the outcome.

An answer that sends the request on to another place is not the one that counts, but the one there
is, with the limit on redirects (`Exchange.answer?`).

Bodies are any bytes.  `Indicates` and `Said` speak of the members of an object as a set,
which is sound because a body that is read names no member twice.
-/

namespace SqlGateway.Http

open Query (Outcome Row)

/-! ## What arrived -/

/-- A code from 200 to 299. -/
def Status.Success (s : Status) : Prop := 200 ≤ s.code ∧ s.code < 300

theorem Status.isSuccess_iff (s : Status) : s.isSuccess = true ↔ s.Success := by
  simp [isSuccess, Success]

namespace Exchange

/-- The complete answer that an exchange comes to, if `left` redirects may be followed.  An answer
that sends the request on is not the one that it comes to. -/
def answer? : (left : Nat) → Exchange → Option (Status × Bytes)
  | _, .reply status body _ => some (status, body)
  | left, .elsewhere status place body _ further =>
      if redirects status place then
        match left with
        | 0 => none
        | left + 1 => if isOverHttp place then further.answer? left else none
      else some (status, body)
  | _, _ => none
termination_by structural _ x => x

/-- The causes why an exchange comes to no complete answer, outermost first. -/
def causes : (left : Nat) → Exchange → List String
  | _, .unreached causes => causes
  | _, .unanswered causes => causes
  | _, .cut _ causes => causes
  | _, .reply .. => []
  | left, .elsewhere status place _ _ further =>
      if redirects status place then
        match left with
        | 0 => ["too many redirects"]
        | left + 1 =>
            if isOverHttp place then further.causes left else ["URL scheme is not allowed"]
      else []
termination_by structural _ x => x

end Exchange

namespace Transport

/-- The causes of a query without a complete answer, outermost first. -/
def causes (t : Transport) (query : String) (x : Exchange) : List String :=
  if (t.request query).canBeSent then x.causes redirectLimit
  else ["Parsed Url is not a valid Uri"]

/-- The complete answer to a query, if one arrived. -/
def received (t : Transport) (query : String) (x : Exchange) : Option (Status × Bytes) :=
  if (t.request query).canBeSent then x.answer? redirectLimit else none

end Transport

/-- An ending, given the complete answer that arrived, or the causes why none did. -/
inductive Ends (received : Option (Status × Bytes)) (causes : List String) : Ending → Prop where
  /-- No answer began. -/
  | failed {text : String} (absent : received = none) : Ends received causes (.failed text causes)
  /-- No answer was complete. -/
  | cut (absent : received = none) : Ends received causes (.cut causes)
  /-- An answer arrived. -/
  | answered {s : Status} {body : Bytes} {elapsed : Nat} (arrived : received = some (s, body)) :
      Ends received causes (.answered s body elapsed)

theorem Exchange.ends (first : Request) (left : Nat) (last : Request) (x : Exchange) :
    Ends (x.answer? left) (x.causes left) (x.course first left last).ending := by
  fun_induction Exchange.course first left last x with
  | case1 | case2 => exact .failed rfl
  | case3 => exact .cut rfl
  | case4 => exact .answered rfl
  | case5 last s place body elapsed further sent =>
      simp only [answer?, causes, if_pos sent]
      exact .failed rfl
  | case6 last s place body elapsed further sent left web rest ih =>
      simpa only [answer?, causes, if_pos sent, if_pos web] using ih
  | case7 last s place body elapsed further sent left web =>
      simp only [answer?, causes, if_pos sent, if_neg web]
      exact .failed rfl
  | case8 last s place body elapsed further left stays =>
      simp only [answer?, causes, if_neg stays]
      exact .answered rfl

/-- The requests of a query end with the complete answer, or for the causes why there is none. -/
theorem Transport.ends (t : Transport) (query : String) (x : Exchange) :
    Ends (t.received query x) (t.causes query x) (t.course query x).ending := by
  rw [received, causes, course]
  split
  · exact x.ends _ _ _
  · exact .failed rfl

/-! ## What a body says -/

/-- A body is an object with a member `success` that is false or a member `error` that is not
`null`. -/
def Indicates (body : Bytes) : Prop :=
  ∃ ms, Json.readBytes body = .ok (.object ms) ∧
    (("success", .bool false) ∈ ms ∨ ∃ e, ("error", e) ∈ ms ∧ e ≠ .null)

/-- What the body of an answer says of a failure. -/
inductive Said (status : Status) (body : Bytes) : Json → Prop where
  /-- The member `error` of an object. -/
  | member {ms : Members} {e : Json} (read : Json.readBytes body = .ok (.object ms))
      (error : ("error", e) ∈ ms) (present : e ≠ .null) : Said status body e
  /-- An object without the member `error`. -/
  | others {ms : Members} (read : Json.readBytes body = .ok (.object ms))
      (absent : ∀ e, ("error", e) ∈ ms → e = .null) :
      Said status body (.object (ms.filter fun m => m.1 ≠ "error"))
  /-- A value that is no object. -/
  | value {v : Json} (read : Json.readBytes body = .ok v) (noObject : ∀ ms, v ≠ .object ms) :
      Said status body v
  /-- The text of a body that is no JSON. -/
  | text {f : Json.ReadError} (read : Json.readBytes body = .error f)
      (some : trim (Utf8.lossy body) ≠ "") :
      Said status body (.string (trim (Utf8.lossy body)))
  /-- The line of the status, where a body that is no JSON has no text. -/
  | line {f : Json.ReadError} (read : Json.readBytes body = .error f)
      (blank : trim (Utf8.lossy body) = "") : Said status body (.string status.line)

/-- The trace of a failure: its words, and each cause on a line of its own. -/
def tracesBack (text : String) (causes : List String) : String :=
  text ++ String.join (causes.map fun cause => "\n  caused by: " ++ cause)

theorem traceText_eq (text : String) (causes : List String) :
    traceText text causes = tracesBack text causes := by
  induction causes generalizing text with
  | nil => simp [traceText, tracesBack]
  | cons cause causes ih =>
      have step : traceText text (cause :: causes) =
          traceText (text ++ ("\n  caused by: " ++ cause)) causes := by
        rw [String.append_assoc.symm]
        rfl
      rw [step, ih]
      simp [tracesBack, String.append_assoc]

section Body

variable {body : Bytes} {ms : Members} {v p q : Json} {s : Status}

/-- The names of an object that is read are different. -/
theorem nodup_of_readBytes (read : Json.readBytes body = .ok (.object ms)) :
    (Members.names ms).Nodup :=
  Members.Increasing.nodup (Json.ordered_of_readBytes read).1

theorem reportsFailure_iff (read : Json.readBytes body = .ok v) :
    reportsFailure v = true ↔ Indicates body := by
  cases v with
  | object ms =>
      have nodup := nodup_of_readBytes read
      have error : ((Members.get? ms "error").map Json.isSome).getD false = true ↔
          ∃ e, ("error", e) ∈ ms ∧ e ≠ .null := by
        simp only [← Members.get?_eq_some_iff nodup]
        cases Members.get? ms "error" with
        | none => simp
        | some e => cases e <;> simp [Json.isSome]
      have members : reportsFailure (.object ms) = true ↔
          ("success", .bool false) ∈ ms ∨ ∃ e, ("error", e) ∈ ms ∧ e ≠ .null := by
        rw [reportsFailure, Bool.or_eq_true, error, ← Members.get?_eq_some_iff nodup]
        refine or_congr ?_ Iff.rfl
        split <;> simp_all
      rw [members]
      constructor
      · exact fun h => ⟨ms, read, h⟩
      · rintro ⟨ns, read', h⟩
        cases read.symm.trans read'
        exact h
  | _ =>
      refine ⟨nofun, ?_⟩
      rintro ⟨ms, read', -⟩
      cases read.symm.trans read'

/-- What a body that is JSON says is its payload. -/
theorem said_iff_of_ok (read : Json.readBytes body = .ok v) : Said s body p ↔ p = payload v := by
  cases v with
  | object ms =>
      have nodup := nodup_of_readBytes read
      rw [payload]
      split
      next e he =>
        obtain ⟨found, some⟩ := Option.filter_eq_some_iff.mp he
        have member : ("error", e) ∈ ms := (Members.get?_eq_some_iff nodup).mp found
        have present : e ≠ .null := by
          rintro rfl
          cases some
        constructor
        · intro h
          cases h with
          | member read' error _ =>
              cases read.symm.trans read'
              exact Option.some.inj (((Members.get?_eq_some_iff nodup).mpr error).symm.trans found)
          | others read' absent =>
              cases read.symm.trans read'
              exact absurd (absent e member) present
          | value read' noObject =>
              cases read.symm.trans read'
              exact absurd rfl (noObject ms)
          | text read' | line read' => cases read.symm.trans read'
        · rintro rfl
          exact .member read member present
      next he =>
        have absent : ∀ e, ("error", e) ∈ ms → e = .null := by
          intro e member
          have dropped := Option.filter_eq_none_iff.mp he e
            ((Members.get?_eq_some_iff nodup).mpr member)
          cases e <;> simp_all [Json.isSome]
        constructor
        · intro h
          cases h with
          | member read' error present =>
              cases read.symm.trans read'
              exact absurd (absent _ error) present
          | others read' =>
              cases read.symm.trans read'
              rfl
          | value read' noObject =>
              cases read.symm.trans read'
              exact absurd rfl (noObject ms)
          | text read' | line read' => cases read.symm.trans read'
        · rintro rfl
          exact .others read absent
  | _ =>
      constructor
      · intro h
        cases h with
        | value read' =>
            cases read.symm.trans read'
            rfl
        | member read' | others read' | text read' | line read' => cases read.symm.trans read'
      · rintro rfl
        exact .value read nofun

/-- What a body that is no JSON says is its text, or the line of the status. -/
theorem said_iff_of_error {f : Json.ReadError} (read : Json.readBytes body = .error f) :
    Said s body p ↔
      p = .string (if trim (Utf8.lossy body) = "" then s.line else trim (Utf8.lossy body)) := by
  split
  next blank =>
    constructor
    · intro h
      cases h with
      | text _ some => exact absurd blank some
      | line => rfl
      | member read' | others read' | value read' => cases read.symm.trans read'
    · rintro rfl
      exact .line read blank
  next some =>
    constructor
    · intro h
      cases h with
      | text => rfl
      | line _ blank => exact absurd blank some
      | member read' | others read' | value read' => cases read.symm.trans read'
    · rintro rfl
      exact .text read some

end Body

/-! ## The outcome of an answer -/

/-- Why a body is no result: it is no JSON, or JSON of another shape. -/
inductive Undecoded (body : Bytes) : String → Prop where
  /-- The body is no JSON. -/
  | malformed {f : Json.ReadError} (read : Json.readBytes body = .error f) :
      Undecoded body f.message
  /-- The body is JSON of another shape. -/
  | mismatched {v : Json} {m : Json.Mismatch} (read : Json.readBytes body = .ok v)
      (other : Query.Result.decoder.ofJson v = .error m) : Undecoded body m.message

section Answer

variable {s : Status} {body : Bytes}

/-- An answer that fails is a failure of the backend with what the body says. -/
theorem interpret_failed (failed : ¬ s.Success ∨ Indicates body) :
    ∃ p, (∀ q, Said s body q ↔ q = p) ∧
      (interpret s body).value = .error (.backend p (some s.line)) := by
  rw [← s.isSuccess_iff] at failed
  cases read : Json.readBytes body with
  | error f =>
      have noSuccess : s.isSuccess = false := by
        rcases failed with status | ⟨ms, read', -⟩
        · exact Bool.eq_false_iff.mpr status
        · cases read.symm.trans read'
      refine ⟨_, fun q => said_iff_of_error read, ?_⟩
      simp [interpret, read, noSuccess, Query.Error.stated]
  | ok v =>
      have fails : (!s.isSuccess || reportsFailure v) = true := by
        rw [Bool.or_eq_true, Bool.not_eq_true', ← Bool.not_eq_true, reportsFailure_iff read]
        exact failed
      refine ⟨_, fun q => said_iff_of_ok read, ?_⟩
      simp [interpret, read, fails]

/-- An answer of success that indicates no failure is a result, or it does not decode. -/
theorem interpret_answered (success : s.Success) (silent : ¬ Indicates body) :
    (∃ v r, Json.readBytes body = .ok v ∧ Query.Result.decoder.ofJson v = .ok r ∧
        (interpret s body).value = .ok r) ∨
      ∃ text cause, Undecoded body cause ∧
        (interpret s body).value = .error (.decode text s!"{s.line}: {cause}") := by
  rw [← s.isSuccess_iff] at success
  cases read : Json.readBytes body with
  | error f =>
      right
      simp only [interpret, read, success, if_pos]
      exact ⟨_, _, .malformed read, rfl⟩
  | ok v =>
      have passes : (!s.isSuccess || reportsFailure v) = false := by
        rw [Bool.or_eq_false_iff, success, ← Bool.not_eq_true (reportsFailure v),
          reportsFailure_iff read]
        exact ⟨rfl, silent⟩
      cases decoded : Query.Result.decoder.ofJson v with
      | ok r =>
          exact Or.inl ⟨v, r, rfl, decoded, by simp [interpret, read, passes, decoded]⟩
      | error m =>
          right
          simp only [interpret, read, passes, decoded]
          exact ⟨_, _, .mismatched read decoded, rfl⟩

end Answer

/-! ## The outcome of a query -/

namespace Transport

variable {t : Transport} {query : String} {x : Exchange}

/-- Without a complete answer a query fails in transport. -/
theorem outcome_of_received_none (absent : t.received query x = none) :
    ∃ text, (t.post query x).outcome = .error (transportError text (t.causes query x)) := by
  have ends := t.ends query x
  rw [post]
  dsimp only
  generalize (t.course query x).ending = ending at ends ⊢
  cases ends with
  | failed | cut => exact ⟨_, rfl⟩
  | answered arrived => cases absent.symm.trans arrived

/-- A complete answer is interpreted. -/
theorem outcome_of_received_some {s : Status} {body : Bytes}
    (arrived : t.received query x = some (s, body)) :
    (t.post query x).outcome = (interpret s body).value := by
  have ends := t.ends query x
  rw [post]
  dsimp only
  generalize (t.course query x).ending = ending at ends ⊢
  cases ends with
  | failed absent | cut absent => cases absent.symm.trans arrived
  | answered arrived' =>
      cases arrived.symm.trans arrived'
      rfl

end Transport

/-- The outcome that a query has, given what arrived, or the causes why nothing did. -/
inductive Verdict (received : Option (Status × Bytes)) (causes : List String) :
    Outcome (Query.Result Row) → Prop where
  /-- Nothing arrived. -/
  | transport {text : String} (absent : received = none) :
      Verdict received causes (.error (.transport text (tracesBack text causes)))
  /-- What arrived fails. -/
  | backend {s : Status} {body : Bytes} {p : Json} (arrived : received = some (s, body))
      (failed : ¬ s.Success ∨ Indicates body) (said : ∀ q, Said s body q ↔ q = p) :
      Verdict received causes (.error (.backend p (some s.line)))
  /-- What arrived is no result. -/
  | decode {s : Status} {body : Bytes} {text cause : String} (arrived : received = some (s, body))
      (success : s.Success) (silent : ¬ Indicates body) (undecoded : Undecoded body cause) :
      Verdict received causes (.error (.decode text s!"{s.line}: {cause}"))
  /-- What arrived is a result. -/
  | result {s : Status} {body : Bytes} {v : Json} {r : Query.Result Row}
      (arrived : received = some (s, body)) (success : s.Success) (silent : ¬ Indicates body)
      (read : Json.readBytes body = .ok v) (decoded : Query.Result.decoder.ofJson v = .ok r) :
      Verdict received causes (.ok r)

theorem Transport.verdict (t : Transport) (query : String) (x : Exchange) :
    Verdict (t.received query x) (t.causes query x) (t.post query x).outcome := by
  cases arrived : t.received query x with
  | none =>
      obtain ⟨text, outcome⟩ := outcome_of_received_none arrived
      rw [outcome, transportError, traceText_eq]
      exact .transport rfl
  | some answer =>
      obtain ⟨s, body⟩ := answer
      rw [outcome_of_received_some arrived]
      by_cases failed : ¬ s.Success ∨ Indicates body
      · obtain ⟨p, said, outcome⟩ := interpret_failed failed
        rw [outcome]
        exact .backend rfl failed said
      · obtain ⟨success, silent⟩ := not_or.mp failed
        rw [not_not] at success
        rcases interpret_answered success silent with ⟨v, r, read, decoded, outcome⟩ | other
        · rw [outcome]
          exact .result rfl success silent read decoded
        · obtain ⟨text, cause, undecoded, outcome⟩ := other
          rw [outcome]
          exact .decode rfl success silent undecoded

/-- An outcome is the one that what arrived calls for, or that the causes call for why nothing
did. -/
structure Classified (received : Option (Status × Bytes)) (causes : List String)
    (o : Outcome (Query.Result Row)) : Prop where
  /-- It is a failure of transport exactly where no complete answer arrived. -/
  transport_iff : (∃ e, o = .error e ∧ e.kind = .transport) ↔ received = none
  /-- It is a failure of the backend exactly where the answer that arrived fails. -/
  backend_iff : (∃ e, o = .error e ∧ e.kind = .backend) ↔
    ∃ s body, received = some (s, body) ∧ (¬ s.Success ∨ Indicates body)
  /-- It is a failure to decode exactly where the answer succeeds and is no result. -/
  decode_iff : (∃ e, o = .error e ∧ e.kind = .decode) ↔
    ∃ s body, received = some (s, body) ∧ s.Success ∧ ¬ Indicates body ∧
      ∃ cause, Undecoded body cause
  /-- It is a result exactly where the answer succeeds and is that result. -/
  result_iff : ∀ r, o = .ok r ↔
    ∃ s body v, received = some (s, body) ∧ s.Success ∧ ¬ Indicates body ∧
      Json.readBytes body = .ok v ∧ Query.Result.decoder.ofJson v = .ok r
  /-- A failure of transport shows its words and each cause in order. -/
  transport_words : ∀ e, o = .error e → e.kind = .transport →
    ∃ text, e.payload = .string text ∧ e.trace = some (tracesBack text causes)
  /-- A failure of the backend shows the line of the status and what the body says. -/
  backend_words : ∀ e s body, o = .error e → e.kind = .backend → received = some (s, body) →
    e.trace = some s.line ∧ ∀ p, Said s body p ↔ p = e.payload
  /-- A failure to decode shows the line of the status and why the body is no result. -/
  decode_words : ∀ e s body, o = .error e → e.kind = .decode → received = some (s, body) →
    ∃ cause, Undecoded body cause ∧ e.trace = some s!"{s.line}: {cause}"

/-- A body that is a result does not fail to decode. -/
theorem Undecoded.not_decoded {body : Bytes} {cause : String} {v : Json} {r : Query.Result Row}
    (undecoded : Undecoded body cause) (read : Json.readBytes body = .ok v) :
    Query.Result.decoder.ofJson v ≠ .ok r := by
  intro decoded
  cases undecoded with
  | malformed read' => cases read.symm.trans read'
  | mismatched read' other =>
      cases read.symm.trans read'
      cases decoded.symm.trans other

theorem Verdict.classified {received : Option (Status × Bytes)} {causes : List String}
    {o : Outcome (Query.Result Row)} (h : Verdict received causes o) :
    Classified received causes o where
  transport_iff := by
    cases h with
    | transport absent => exact iff_of_true ⟨_, rfl, rfl⟩ absent
    | backend arrived | decode arrived | result arrived =>
        refine iff_of_false ?_ (by simp [arrived])
        rintro ⟨e, ⟨⟩, ⟨⟩⟩
  backend_iff := by
    cases h with
    | transport absent =>
        refine iff_of_false ?_ (by simp [absent])
        rintro ⟨e, ⟨⟩, ⟨⟩⟩
    | backend arrived failed => exact iff_of_true ⟨_, rfl, rfl⟩ ⟨_, _, arrived, failed⟩
    | decode arrived success silent | result arrived success silent =>
        refine iff_of_false ?_ ?_
        · rintro ⟨e, ⟨⟩, ⟨⟩⟩
        · -- Only one answer arrived, so the two descriptions are of the same one.
          rintro ⟨s, body, arrived', failed⟩
          cases arrived.symm.trans arrived'
          exact failed.elim (absurd success) silent
  decode_iff := by
    cases h with
    | transport absent =>
        refine iff_of_false ?_ (by simp [absent])
        rintro ⟨e, ⟨⟩, ⟨⟩⟩
    | backend arrived failed =>
        refine iff_of_false ?_ ?_
        · rintro ⟨e, ⟨⟩, ⟨⟩⟩
        · rintro ⟨s, body, arrived', success, silent, -⟩
          cases arrived.symm.trans arrived'
          exact failed.elim (absurd success) silent
    | decode arrived success silent undecoded =>
        exact iff_of_true ⟨_, rfl, rfl⟩ ⟨_, _, arrived, success, silent, _, undecoded⟩
    | result arrived success silent read decoded =>
        refine iff_of_false ?_ ?_
        · rintro ⟨e, ⟨⟩, ⟨⟩⟩
        · rintro ⟨s, body, arrived', -, -, cause, undecoded⟩
          cases arrived.symm.trans arrived'
          exact undecoded.not_decoded read decoded
  result_iff r := by
    cases h with
    | transport absent => exact iff_of_false nofun (by simp [absent])
    | backend arrived failed =>
        refine iff_of_false nofun ?_
        rintro ⟨s, body, v, arrived', success, silent, -⟩
        cases arrived.symm.trans arrived'
        exact failed.elim (absurd success) silent
    | decode arrived success silent undecoded =>
        refine iff_of_false nofun ?_
        rintro ⟨s, body, v, arrived', -, -, read, decoded⟩
        cases arrived.symm.trans arrived'
        exact undecoded.not_decoded read decoded
    | result arrived success silent read decoded =>
        constructor
        · rintro ⟨⟩
          exact ⟨_, _, _, arrived, success, silent, read, decoded⟩
        · rintro ⟨s, body, v, arrived', -, -, read', decoded'⟩
          cases arrived.symm.trans arrived'
          cases read.symm.trans read'
          cases decoded.symm.trans decoded'
          rfl
  transport_words := by
    rintro e rfl kind
    cases h with
    | transport => exact ⟨_, rfl, rfl⟩
    | backend | decode => cases kind
  backend_words := by
    rintro e s body rfl kind arrived
    cases h with
    | backend arrived' failed said =>
        cases arrived.symm.trans arrived'
        exact ⟨rfl, said⟩
    | transport | decode => cases kind
  decode_words := by
    rintro e s body rfl kind arrived
    cases h with
    | decode arrived' success silent undecoded =>
        cases arrived.symm.trans arrived'
        exact ⟨_, undecoded, rfl⟩
    | transport | backend => cases kind

/-- Every query over HTTP ends in exactly one of the four ways, and what arrived decides
which. -/
theorem post_classified (t : Transport) (query : String) (x : Exchange) :
    Classified (t.received query x) (t.causes query x) (t.post query x).outcome :=
  (t.verdict query x).classified

end SqlGateway.Http
