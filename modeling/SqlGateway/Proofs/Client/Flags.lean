import SqlGateway.CommandLine.Run
import SqlGateway.Proofs.Client.TypedRows
import SqlGateway.Proofs.Http.Classification
import SqlGateway.Proofs.Json.RoundTrip
import SqlGateway.Proofs.Query.Decoding

/-!
# When flags tell the truth

A result carries a flag that should be true, and an error one that should be false.  For errors
it is so.  For results it is so but in one case: the answer is a list whose first item is false,
and the list decodes as a result (`flags_of_execute`).  A body that is an object is asked for
its member `success` before it is decoded; a body that is a list is not.

Decoding the rows carries the flag over, and so do the response side of an envelope and an exit
code of zero.
-/

namespace SqlGateway

open Query (Outcome Row)

namespace Query

/-- The flag of an outcome tells the truth, but for results where `denied` holds. -/
structure TruthfulBut {ρ : Type} (denied : Prop) (o : Outcome (Result ρ)) : Prop where
  /-- The flag of an error is false. -/
  error : ∀ e, o = .error e → e.success = false
  /-- The flag of a result is true unless `denied` holds. -/
  result : ∀ r, o = .ok r → (r.success = true ↔ ¬ denied)

variable {ρ τ : Type} {denied : Prop}

theorem TruthfulBut.of_error {e : Error} (h : e.success = false) :
    TruthfulBut denied (.error e : Outcome (Result ρ)) where
  error := by
    rintro e' ⟨⟩
    exact h
  result := nofun

theorem TruthfulBut.of_ok {r : Result ρ} (h : r.success = true ↔ ¬ denied) :
    TruthfulBut denied (.ok r) where
  error := nofun
  result := by
    rintro r' ⟨⟩
    exact h

/-- An error for a row has its flag down. -/
theorem Result.decodeRows_flag {d : Json.Decoder τ} {e : Error} {rows : List Row} {index : Nat}
    (failed : decodeRows d index rows = .error e) : e.success = false := by
  obtain ⟨i, m, -, rfl⟩ := decodeRows_eq_error_iff.mp failed
  rfl

/-- Decoding the rows carries the flag over. -/
theorem TruthfulBut.typed {o : Outcome (Result Row)} (h : TruthfulBut denied o)
    (d : Json.Decoder τ) : TruthfulBut denied (o.bind (Result.typed d)) := by
  cases o with
  | error e => exact .of_error (h.error e rfl)
  | ok r =>
      show TruthfulBut denied (r.typed d)
      rw [Result.typed]
      cases rows : Result.decodeRows d 0 r.rows with
      | error e => exact .of_error (Result.decodeRows_flag rows)
      | ok ts => exact .of_ok (h.result r rfl)

end Query

/-! ## Answers -/

/-- What arrived is a list whose first item is false. -/
def DeniedByList (received : Option (Http.Status × Bytes)) : Prop :=
  ∃ s body items, received = some (s, body) ∧
    Json.readBytes body = .ok (.array (.bool false :: items))

open Http in
/-- A query over HTTP ends in a flag that tells the truth, unless the answer is a list whose
first item is false. -/
theorem Http.Verdict.truthful {received : Option (Status × Bytes)} {causes : List String}
    {o : Outcome (Query.Result Row)} (h : Verdict received causes o) :
    Query.TruthfulBut (DeniedByList received) o := by
  cases h with
  | transport | backend | decode => exact .of_error rfl
  | @result s body v r arrived success silent read decoded =>
      have flag := Query.Result.success_iff (Json.ordered_of_readBytes read) decoded
      have noMember : ¬ ∃ ms, v = .object ms ∧ ("success", .bool false) ∈ ms := by
        rintro ⟨ms, rfl, member⟩
        exact silent ⟨ms, read, Or.inl member⟩
      refine .of_ok ?_
      rw [← Bool.not_eq_false, flag, or_iff_right noMember]
      refine not_congr ⟨?_, ?_⟩
      · rintro ⟨items, rfl⟩
        exact ⟨s, body, items, arrived, read⟩
      · rintro ⟨s', body', items, arrived', read'⟩
        cases arrived.symm.trans arrived'
        cases read.symm.trans read'
        exact ⟨items, rfl⟩

/-! ## Clients -/

namespace Client

/-- The complete answer to a query, if one arrived. -/
def received : Client → String → Http.Exchange → Option (Http.Status × Bytes)
  | .splitgraph t, query, x => t.received query x
  | .seafowl t, query, x => t.received query x
  | .postgres _, _, _ => none

/-- A query exits with zero only for a result. -/
theorem result_of_code_zero {c : Client} {query : String} {x : Http.Exchange} {f : Log.Filter}
    (h : ((CommandLine.runQueryWith c query x).output f).code = 0) :
    ∃ r, (c.execute query x).outcome = .ok r := by
  cases outcome : (c.execute query x).outcome with
  | ok r => exact ⟨r, rfl⟩
  | error e =>
      have failed : ((CommandLine.runQueryWith c query x).output f).code = 1 := by
        simp only [CommandLine.runQueryWith, outcome]
        rfl
      rw [failed] at h
      cases h

/-- Whatever a client is asked and answered, the flags of errors are false, and those of results
are true unless the answer is a list whose first item is false.  So are those on the response
side of an envelope and behind an exit code of zero. -/
theorem flags_of_execute (c : Client) (query : String) (x : Http.Exchange) :
    Query.TruthfulBut (DeniedByList (c.received query x)) (c.execute query x).outcome ∧
      (∀ {τ : Type} (d : Json.Decoder τ),
        Query.TruthfulBut (DeniedByList (c.received query x)) (c.executeAs d query x)) ∧
      (∀ r, (⟨(c.execute query x).outcome⟩ : Query.Envelope _).response? = some r →
        (r.success = true ↔ ¬ DeniedByList (c.received query x))) ∧
      ∀ f, ((CommandLine.runQueryWith c query x).output f).code = 0 →
        ∃ r, (c.execute query x).outcome = .ok r ∧
          (r.success = true ↔ ¬ DeniedByList (c.received query x)) := by
  have plain : Query.TruthfulBut (DeniedByList (c.received query x))
      (c.execute query x).outcome := by
    cases c with
    | splitgraph t => exact (t.verdict query x).truthful
    | seafowl t => exact (t.verdict query x).truthful
    | postgres settings =>
        refine .of_ok (iff_of_true rfl ?_)
        rintro ⟨s, body, items, arrived, -⟩
        cases arrived
  refine ⟨plain, fun d => plain.typed d, fun r response => ?_, fun f zero => ?_⟩
  · cases outcome : (c.execute query x).outcome with
    | ok r' =>
        rw [outcome] at response
        cases response
        exact plain.result r outcome
    | error e =>
        rw [outcome] at response
        cases response
  · obtain ⟨r, outcome⟩ := result_of_code_zero zero
    exact ⟨r, outcome, plain.result r outcome⟩

/-- A way to a server on this machine. -/
def localTransport : Http.Transport where
  endpoint := {
    scheme := ['h', 't', 't', 'p']
    authority := some ⟨[], none, some (.name "localhost".toList), some 8080⟩
    path := .segments [['q']]
    query := none
    fragment := none }
  credential := []
  proxy := none
  timeout := .seconds 30

theorem canBeSent_local (query : String) : (localTransport.request query).canBeSent = true := by
  have url : (localTransport.request query).url =
      if (Http.loginOf localTransport.endpoint).isSome then localTransport.endpoint.anonymous
      else localTransport.endpoint := rfl
  rw [Http.Request.canBeSent, url]
  split <;> decide

/-- A list that says that a query failed, and decodes as a result. -/
def refusal : Json :=
  .array [.bool false, .string "SELECT", .array [], .int { val := 0 }]

theorem readBytes_refusal :
    Json.readBytes (Utf8.encode "[false,\"SELECT\",[],0]") = .ok refusal := by
  have text : refusal.compact = "[false,\"SELECT\",[],0]" := by decide
  have integral : refusal.Integral := ⟨trivial, trivial, trivial, trivial, trivial⟩
  rw [← text]
  exact Json.readBytes_compact integral (by decide)

/-- A query ends in a result with its flag down: the answer is a list. -/
theorem result_of_refusal :
    ∃ r, ((Client.seafowl localTransport).execute "SELECT 1"
        (.reply ⟨200⟩ (Utf8.encode "[false,\"SELECT\",[],0]") 0)).outcome = .ok r ∧
      r.success = false := by
  have arrived : localTransport.received "SELECT 1"
      (.reply ⟨200⟩ (Utf8.encode "[false,\"SELECT\",[],0]") 0) =
        some (⟨200⟩, Utf8.encode "[false,\"SELECT\",[],0]") := by
    rw [Http.Transport.received, canBeSent_local, if_pos rfl]
    rfl
  rw [execute, Http.Transport.outcome_of_received_some arrived, Http.interpret, readBytes_refusal]
  exact ⟨_, rfl, rfl⟩

end Client

end SqlGateway
