import SqlGateway.Proofs.Client.Sending

/-!
# What a run of queries sends

A run sends one request for every query that is let through, in the order of the queries, and more
where answers send requests on, or none at all: whether a request can be sent is a matter of the
endpoint (`arrivals_eq`, `length_arrivals`).  The server of the endpoint receives what goes there,
and a proxy receives all.

A request asks its query exactly (`ask_asks_iff`), with one exception: a login that does not
spell texts stays in the URL, and a proxy sees it.  So a run sends what it should exactly if the
endpoint can be sent to, a proxy sees no login, and no redirect leads back to the one who receives
(`run_asks_iff`).  A client is made for endpoints to which nothing can be sent (`nothing_sent`).
-/

namespace SqlGateway

open Http (Request Exchange valuesOf)

namespace Url

/-- A URL that requests may go to. -/
structure Sendable (u : Url) : Prop where
  /-- It is not too long. -/
  length_le : u.chars.length ≤ Request.lengthLimit
  /-- Its host has no character that a request may not have. -/
  host : ∀ h ∈ u.host?, ∀ c ∈ h.text, c ≠ '"' ∧ c ≠ '`' ∧ c ≠ '\x7b' ∧ c ≠ '\x7d'

theorem forbiddenInHost_iff (c : Char) : Request.forbiddenInHost c = false ↔
    c ≠ '"' ∧ c ≠ '`' ∧ c ≠ '\x7b' ∧ c ≠ '\x7d' := by
  simp [Request.forbiddenInHost]

theorem canBeSent_iff (r : Request) : r.canBeSent = true ↔ r.url.Sendable := by
  rw [Request.canBeSent, Request.canBeSentTo, Bool.and_eq_true, decide_eq_true_eq,
    Bool.not_eq_true', List.any_eq_false]
  simp only [Bool.not_eq_true, forbiddenInHost_iff]
  constructor
  · rintro ⟨length_le, host⟩
    refine ⟨length_le, fun h mem => ?_⟩
    rw [Option.mem_def] at mem
    rwa [mem] at host
  · rintro ⟨length_le, host⟩
    refine ⟨length_le, ?_⟩
    cases there : r.url.host? with
    | none => exact fun _ mem => absurd mem List.not_mem_nil
    | some h => exact host h there

/-- The target of a request that asks at an endpoint: the path and the query, and for a proxy
the URL without login and fragment. -/
def askedTarget (u : Url) (viaProxy : Bool) : List Char :=
  if viaProxy then { u.anonymous with fragment := none }.chars
  else u.path.text ++ marked '?' u.query

/-- A URL that has a login has more characters than without. -/
theorem anonymous_eq_of_length {u : Url} (same : u.anonymous.chars.length = u.chars.length) :
    u.anonymous = u := by
  obtain ⟨scheme, authority, path, query, fragment⟩ := u
  cases authority with
  | none => rfl
  | some a =>
      obtain ⟨username, password, host, port⟩ := a
      rw [chars_eq rfl, chars_eq rfl] at same
      cases password with
      | some p =>
          simp [Authority.text, userinfoText, behindAuthority, anonymous] at same
          omega
      | none =>
          cases username with
          | nil => rfl
          | cons c cs =>
              simp [Authority.text, userinfoText, behindAuthority, anonymous] at same
              omega

end Url

namespace Http

/-- A request asks a query at an endpoint. -/
structure Request.Asks (r : Request) (u : Url) (viaProxy : Bool) (query : String) : Prop where
  /-- It posts to the target of the endpoint. -/
  line : r.line viaProxy = "POST " ++ .ofList (u.askedTarget viaProxy) ++ " HTTP/1.1"
  /-- Its body is an object with the query as its only member. -/
  body : Json.read r.body = .ok (.object [("sql", .string query)])
  /-- The announced length is that of the body. -/
  length : valuesOf "content-length" r.headers = [toString (Utf8.encode r.body).length]

/-- The body of a query is read back as the query. -/
theorem read_bodyFor (query : String) :
    Json.read (Request.bodyFor query) = .ok (.object [("sql", .string query)]) := by
  have integral : (Json.object [("sql", .string query)]).Integral := ⟨trivial, trivial⟩
  have shallow : (Json.object [("sql", .string query)]).depth ≤ Json.depthLimit := by
    simp [Json.depth, Json.depthMembers, Json.depthLimit]
  exact Json.readBytes_compact integral shallow

/-- A login does not reach the backend, or there is none. -/
def Unseen (u : Url) : Prop := (loginOf u).isSome ∨ u.anonymous = u

/-- A request asks its query exactly, but for a login that a proxy sees. -/
theorem ask_asks_iff (u : Url) (credential : List Header) (viaProxy : Bool) (query : String) :
    (Request.ask u credential query).Asks u viaProxy query ↔ (viaProxy = true → Unseen u) := by
  constructor
  · rintro ⟨line, -, -⟩ rfl
    rw [Unseen, or_iff_not_imp_left]
    intro stays
    have url : (Request.ask u credential query).url = u := if_neg stays
    rw [Request.line, url] at line
    have text : ({ u with fragment := none } : Url).text =
        .ofList ({ u with fragment := none } : Url).anonymous.chars :=
      (String.append_right_inj _).mp ((String.append_left_inj _).mp line)
    have anonymous := Url.anonymous_eq_of_length
      (congrArg List.length (String.ofList_injective text)).symm
    have fragment : u.anonymous = { ({ u with fragment := none } : Url).anonymous with
      fragment := u.fragment } := rfl
    rw [fragment, anonymous]
  · intro unseen
    refine ⟨?_, read_bodyFor query, contentLength_ask u credential query⟩
    cases viaProxy with
    | false =>
        have url : (Request.ask u credential query).url = requested u := rfl
        have target : (requested u).target = u.askedTarget false := by
          rw [requested]
          split <;> rfl
        rw [Request.line, url, target]
        rfl
    | true =>
        have url : (Request.ask u credential query).url = u.anonymous := by
          change requested u = u.anonymous
          rw [requested]
          split
          case isTrue => rfl
          case isFalse stays => exact ((unseen rfl).resolve_left stays).symm
        rw [Request.line, url]
        rfl

end Http

namespace Client

/-- What goes to a URL is received by the server of an endpoint, or by a proxy, which receives
everything. -/
def Receives (endpoint : Url) (viaProxy : Bool) (u : Url) : Bool :=
  viaProxy || Request.sameServer endpoint u

/-- The requests that the server of an endpoint, or a proxy, receives in a run of queries, of each
of which the network makes an exchange. -/
def arrivals (c : Client) (endpoint : Url) (viaProxy : Bool) (steps : List (String × Exchange)) :
    List Request :=
  (steps.flatMap fun s => (c.execute s.1 s.2).requests).filter fun r =>
    Receives endpoint viaProxy r.url

/-- A run sends its queries exactly: the requests that are received ask the queries that are let
through, one by one, at the endpoint. -/
def SendsExactly (c : Client) (u : Url) (viaProxy : Bool) (steps : List (String × Exchange)) :
    Prop :=
  List.Forall₂ (fun s r => r.Asks u viaProxy s.1) (steps.filter fun s => s.2.arrived)
    (c.arrivals u viaProxy steps)

section Arrivals

variable (b : Backend) {t : Http.Transport} (viaProxy : Bool)

theorem receives_request (t : Http.Transport) (query : String) :
    Receives t.endpoint viaProxy (t.request query).url = true := by
  have same (u : Url) : Request.sameServer u u.anonymous = true := by
    obtain ⟨scheme, authority, path, query, fragment⟩ := u
    cases authority <;> simp [Request.sameServer, Url.anonymous, Url.host?, Url.port?]
  change Receives t.endpoint viaProxy (Http.requested t.endpoint) = true
  rw [Receives, Http.requested, Bool.or_eq_true]
  split
  · exact .inr (same _)
  · exact .inr (by simp [Request.sameServer])

theorem canBeSent_request (t : Http.Transport) (query : String) :
    (t.request query).canBeSent = (t.request "").canBeSent :=
  Http.Transport.canBeSent_congr rfl

/-- The requests after the first that are received in one step of a run. -/
def followers (t : Http.Transport) (viaProxy : Bool) (s : String × Exchange) : List Request :=
  (t.course s.1 s.2).arrived.tail.filter fun r => Receives t.endpoint viaProxy r.url

/-- Requests that follow are received exactly where an exchange reaches whoever receives. -/
theorem followers_eq_nil_iff (sendable : (t.request "").canBeSent = true)
    (s : String × Exchange) :
    followers t viaProxy s = [] ↔
      ∀ v, s.2.Reaches Http.redirectLimit v → Receives t.endpoint viaProxy v = false := by
  have course : t.course s.1 s.2 = s.2.course (t.request s.1) Http.redirectLimit (t.request s.1) :=
    if_pos ((canBeSent_request t s.1).trans sendable)
  rw [followers, course, List.filter_eq_nil_iff]
  constructor
  · rintro none v reached
    obtain ⟨r, mem, rfl⟩ := Exchange.reaches_iff.mp reached
    exact Bool.eq_false_iff.mpr (none r mem)
  · intro none r mem
    exact Bool.eq_false_iff.mp (none _ (Exchange.reaches_iff.mpr ⟨r, mem, rfl⟩))

theorem followers_of_silent {s : String × Exchange} (silent : s.2.arrived = false) :
    followers t viaProxy s = [] := by
  rw [followers, t.arrived_course, silent, Bool.and_false]
  rfl

/-- Nothing is received where nothing can be sent. -/
theorem arrivals_of_stuck (stuck : (t.request "").canBeSent = false)
    (steps : List (String × Exchange)) :
    arrivals (ofTransport b t) t.endpoint viaProxy steps = [] := by
  rw [arrivals, List.filter_eq_nil_iff]
  intro r mem
  obtain ⟨s, -, mem⟩ := List.mem_flatMap.mp mem
  rw [execute_ofTransport, Http.Transport.post, t.arrived_course, canBeSent_request, stuck] at mem
  cases mem

variable (sendable : (t.request "").canBeSent = true)

include sendable

/-- One step of a run sends its own request, and those that follow. -/
theorem arrivals_cons (s : String × Exchange) (steps : List (String × Exchange)) :
    arrivals (ofTransport b t) t.endpoint viaProxy (s :: steps) =
      (if s.2.arrived then [t.request s.1] else []) ++ followers t viaProxy s ++
        arrivals (ofTransport b t) t.endpoint viaProxy steps := by
  have requests : ((ofTransport b t).execute s.1 s.2).requests = (t.course s.1 s.2).arrived := by
    rw [execute_ofTransport, Http.Transport.post]
  rw [arrivals, List.flatMap_cons, List.filter_append, requests, ← arrivals, followers,
    t.arrived_course, canBeSent_request, sendable]
  cases s.2.arrived <;> simp [receives_request]

/-- A run sends one request for every query that is let through, and those that follow. -/
theorem length_arrivals (steps : List (String × Exchange)) :
    (arrivals (ofTransport b t) t.endpoint viaProxy steps).length =
      (steps.filter fun s => s.2.arrived).length +
        (steps.flatMap (followers t viaProxy)).length := by
  induction steps with
  | nil => rfl
  | cons s steps ih =>
      rw [arrivals_cons b viaProxy sendable, List.length_append, List.length_append, ih,
        List.flatMap_cons, List.length_append, List.filter_cons]
      split
      · rw [List.length_singleton, List.length_cons]
        omega
      · rw [List.length_nil]
        omega

/-- A run in which no request follows sends those of the queries that are let through. -/
theorem arrivals_eq {steps : List (String × Exchange)}
    (none : ∀ s ∈ steps, followers t viaProxy s = []) :
    arrivals (ofTransport b t) t.endpoint viaProxy steps =
      (steps.filter fun s => s.2.arrived).map fun s => t.request s.1 := by
  induction steps with
  | nil => rfl
  | cons s steps ih =>
      obtain ⟨here, later⟩ := List.forall_mem_cons.mp none
      rw [arrivals_cons b viaProxy sendable, ih later, here, List.append_nil, List.filter_cons]
      split <;> rfl

end Arrivals

/-- A client over HTTP sends a run of queries exactly if nothing is let through, or if the
endpoint can be sent to, a proxy sees no login, and no redirect leads to whoever receives. -/
theorem run_asks_iff [Url.Idna] {build : CommandLine.Build} {env : Environment} {b : Backend}
    {o : Options} {c : Client} (http : b ≠ .postgres)
    (made : (build.createClient env b o).value = .ok c) :
    ∃ u, Url.read (trim (o.place b)) = .ok u ∧ ∀ viaProxy steps,
      c.SendsExactly u viaProxy steps ↔
        (∀ s ∈ steps, s.2.arrived = false) ∨
          (Http.requested u).Sendable ∧ (viaProxy = true → Http.Unseen u) ∧
            ∀ s ∈ steps, ∀ v, s.2.Reaches Http.redirectLimit v →
              Receives u viaProxy v = false := by
  obtain ⟨t, rfl, read, -⟩ := transport_of_created http made
  refine ⟨t.endpoint, read, fun viaProxy steps => ?_⟩
  have sendable : (t.request "").canBeSent = true ↔ (Http.requested t.endpoint).Sendable :=
    Url.canBeSent_iff _
  have none_arrives : (∀ s ∈ steps, s.2.arrived = false) ↔
      (steps.filter fun s => s.2.arrived) = [] := by
    simp [List.filter_eq_nil_iff]
  have asks (query : String) : (t.request query).Asks t.endpoint viaProxy query ↔
      (viaProxy = true → Http.Unseen t.endpoint) := Http.ask_asks_iff _ _ _ _
  rw [SendsExactly, none_arrives, ← sendable]
  by_cases can : (t.request "").canBeSent = true
  · simp only [← followers_eq_nil_iff viaProxy can, can, true_and]
    by_cases follow : ∀ s ∈ steps, followers t viaProxy s = []
    · rw [arrivals_eq b viaProxy can follow, List.forall₂_map_right_iff, List.forall₂_same,
        and_iff_left follow]
      simp only [asks]
      cases steps.filter fun s => s.2.arrived with
      | nil => simp
      | cons s through =>
          simp only [reduceCtorEq, false_or]
          exact ⟨fun all => all s List.mem_cons_self, fun unseen _ _ => unseen⟩
    · -- A request that follows is one too many.
      have more : (steps.flatMap (followers t viaProxy)).length ≠ 0 := by
        rwa [Ne, List.length_eq_zero_iff, List.flatMap_eq_nil_iff]
      refine iff_of_false (fun exactly => ?_) ?_
      · have lengths := exactly.length_eq
        rw [length_arrivals b viaProxy can] at lengths
        omega
      · rintro (silent | ⟨-, none⟩)
        · exact follow fun s mem => followers_of_silent viaProxy (none_arrives.mpr silent s mem)
        · exact follow none
  · rw [arrivals_of_stuck b viaProxy (Bool.eq_false_iff.mpr can), List.forall₂_nil_right_iff,
      or_iff_left fun both => can both.1]

/-- A server is sent every query in a run without redirects, and a proxy is. -/
theorem run_asks_iff_local :
    ∃ c, (({} : CommandLine.Build).createClient {} .seafowl
        { endpoint := some "http://localhost:8080/q" }).value = .ok c ∧
      ∀ viaProxy steps, (∀ s ∈ steps, ∀ v, ¬ s.2.Reaches Http.redirectLimit v) →
        c.SendsExactly localTransport.endpoint viaProxy steps := by
  have read : Url.read (trim "http://localhost:8080/q") = .ok localTransport.endpoint := by
    decide +kernel
  have made := create_plain read rfl
  obtain ⟨u, read', exactly⟩ := run_asks_iff (b := .seafowl) (by decide) made
  cases read.symm.trans read'
  have sendable := (Url.canBeSent_iff _).mp (canBeSent_local "")
  exact ⟨_, made, fun viaProxy steps direct => (exactly viaProxy steps).mpr
    (.inr ⟨sendable, fun _ => .inr rfl, fun s mem v reached => absurd reached (direct s mem v)⟩)⟩

/-- A URL whose host no request may have. -/
def bracedUrl : Url where
  scheme := "http".toList
  authority := some ⟨[], none, some (.name "a\x7bb".toList), none⟩
  path := .segments [[]]
  query := none
  fragment := none

/-- A client is made for an endpoint to which nothing is sent. -/
theorem nothing_sent :
    ∃ c, (({} : CommandLine.Build).createClient {} .seafowl
        { endpoint := some "http://a\x7bb/" }).value = .ok c ∧
      Url.read (trim "http://a\x7bb/") = .ok bracedUrl ∧
      ∀ viaProxy, c.arrivals bracedUrl viaProxy [("SELECT 1", .reply ⟨200⟩ [] 0)] = [] ∧
        ¬ c.SendsExactly bracedUrl viaProxy [("SELECT 1", .reply ⟨200⟩ [] 0)] := by
  have read : Url.read (trim "http://a\x7bb/") = .ok bracedUrl := by decide +kernel
  refine ⟨_, create_plain read rfl, read, fun viaProxy => ?_⟩
  have silent : (Client.seafowl ⟨bracedUrl, [], none, .seconds 30⟩).arrivals bracedUrl viaProxy
      [("SELECT 1", .reply ⟨200⟩ [] 0)] = [] :=
    arrivals_of_stuck .seafowl viaProxy (by decide +kernel) _
  refine ⟨silent, ?_⟩
  rw [SendsExactly, silent]
  exact nofun

end Client

end SqlGateway
