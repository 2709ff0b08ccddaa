import SqlGateway.Proofs.Client.Sending

/-!
# Backends that take each other's place

Splitgraph and Seafowl differ in the credentials that they take and in the place where they are by
default.  Where the options name the place, and a token or no credential, nothing of that matters:
both clients are made of one transport or fail with one fault (`createTransport_of_token`), and
clients of one transport are `Interchangeable`.

A client converses with a network: each query sends a request, and what the network makes of it
may depend on the request and on all that have arrived before.  Interchangeable clients send the
same requests in every conversation and come to the same outcomes (`Interchangeable.converse_eq`),
by induction on the queries from the equality of one step.
-/

namespace SqlGateway.Client

/-! ## Conversations -/

/-- The request for a query, of a client that sends requests. -/
def request? : Client → String → Option Http.Request
  | .splitgraph t, query => some (t.request query)
  | .seafowl t, query => some (t.request query)
  | .postgres _, _ => none

/-- What a network makes of a request, after those that have arrived. -/
abbrev Network := (arrived : List Http.Request) → Http.Request → Http.Exchange

/-- The exchange of a query with a network.  That of a client without requests is not looked at. -/
def exchange (c : Client) (network : Network) (arrived : List Http.Request) (query : String) :
    Http.Exchange :=
  match c.request? query with
  | some r => network arrived r
  | none => .unreached []

/-- What comes of queries, one after another, after requests that have arrived. -/
def converse (c : Client) (network : Network) : List Http.Request → List String → List Http.Posted
  | _, [] => []
  | arrived, query :: queries =>
      let posted := c.execute query (c.exchange network arrived query)
      posted :: c.converse network (arrived ++ posted.requests) queries

/-- Two clients for the same place, which send the same requests and make the same of every
exchange. -/
structure Interchangeable (m n : Client) : Prop where
  /-- They lead to the same place. -/
  endpoint : m.endpoint = n.endpoint
  /-- Their requests are the same. -/
  request : ∀ query, m.request? query = n.request? query
  /-- The same comes of each exchange: the outcome, the requests that arrive, and what is told. -/
  execute : ∀ query x, m.execute query x = n.execute query x

namespace Interchangeable

variable {m n : Client} (same : m.Interchangeable n)

include same

theorem executeAs_eq {τ : Type} (d : Json.Decoder τ) (query : String) (x : Http.Exchange) :
    m.executeAs d query x = n.executeAs d query x := by
  rw [executeAs, executeAs, same.execute]

theorem exchange_eq (network : Network) (arrived : List Http.Request) (query : String) :
    m.exchange network arrived query = n.exchange network arrived query := by
  rw [exchange, exchange, same.request]

/-- Interchangeable clients have the same conversations. -/
theorem converse_eq (network : Network) (arrived : List Http.Request) (queries : List String) :
    m.converse network arrived queries = n.converse network arrived queries := by
  induction queries generalizing arrived with
  | nil => rfl
  | cons query queries ih =>
      rw [converse, converse, same.exchange_eq, same.execute]
      exact congrArg _ (ih _)

end Interchangeable

/-! ## Backends over HTTP -/

variable {b b' : Backend} {o : Options}

theorem request?_ofTransport (b : Backend) (t : Http.Transport) (query : String) :
    (ofTransport b t).request? query = some (t.request query) := by
  cases b <;> rfl

/-- The backend of a transport does not matter. -/
theorem interchangeable_ofTransport (b b' : Backend) (t : Http.Transport) :
    (ofTransport b t).Interchangeable (ofTransport b' t) where
  endpoint := (endpoint_ofTransport b t).trans (endpoint_ofTransport b' t).symm
  request query := (request?_ofTransport b t query).trans (request?_ofTransport b' t query).symm
  execute query x := (execute_ofTransport b t query x).trans (execute_ofTransport b' t query x).symm

/-- A token is sent to every backend in the same header. -/
theorem headersFor_of_token (token : ∀ c, o.credential = some c → c.kind = .token)
    (b b' : Backend) : headersFor b o.credential = headersFor b' o.credential := by
  have alike (b : Backend) : headersFor b o.credential = headersFor .seafowl o.credential := by
    cases given : o.credential with
    | none => cases b <;> rfl
    | some c =>
        cases c with
        | token t => cases b <;> rfl
        | apiKey k s => cases token _ given
  exact (alike b).trans (alike b').symm

/-- With a token or no credential, and a place, all backends have the same transport. -/
theorem createTransport_of_token [Url.Idna] (placed : o.endpoint ≠ none)
    (token : ∀ c, o.credential = some c → c.kind = .token) (env : Environment) (b b' : Backend) :
    (createTransport env b o).value = (createTransport env b' o).value := by
  obtain ⟨text, endpoint⟩ := Option.ne_none_iff_exists'.mp placed
  have place (b : Backend) : o.place b = text := by rw [Options.place, endpoint, Option.getD_some]
  rw [createTransport_value, createTransport_value, headersFor_of_token token b b', place, place]

/-- With a token or no credential, and a place, the clients for Splitgraph and for Seafowl are
interchangeable, or both fail with the same fault. -/
theorem createClient_of_token [Url.Idna] {build : CommandLine.Build} (http : build.http = true)
    (placed : o.endpoint ≠ none) (token : ∀ c, o.credential = some c → c.kind = .token)
    (env : Environment) :
    EndAlike Interchangeable (build.createClient env .splitgraph o).value
      (build.createClient env .seafowl o).value := by
  have transports : EndAlike Eq (createTransport env .splitgraph o).value
      (createTransport env .seafowl o).value :=
    .of_eq (fun _ => rfl) (createTransport_of_token placed token env _ _)
  have splitgraph : build.has .splitgraph = true := http
  have seafowl : build.has .seafowl = true := http
  rw [createClient_of_has splitgraph, createClient_of_has seafowl,
    create_http (by decide : Backend.splitgraph ≠ .postgres),
    create_http (by decide : Backend.seafowl ≠ .postgres)]
  refine (transports.map fun t t' same => ?_).mapError
  subst same
  exact interchangeable_ofTransport .splitgraph .seafowl t

/-- Given a place, and a token or no credential, a client for Splitgraph and one for Seafowl end
alike when they are made, and lead to the same place.  They have the same conversations with every
network, that is the same requests and the same outcomes, and the same outcomes with rows of any
type. -/
theorem backends_agree [Url.Idna] {build : CommandLine.Build} (http : build.http = true)
    (o : Options) (placed : o.endpoint ≠ none)
    (token : ∀ c, o.credential = some c → c.kind = .token) (env : Environment) :
    EndAlike
      (fun m n => m.endpoint = n.endpoint ∧
        (∀ network queries, m.converse network [] queries = n.converse network [] queries) ∧
        ∀ {τ : Type} (d : Json.Decoder τ) query x, m.executeAs d query x = n.executeAs d query x)
      (build.createClient env .splitgraph o).value
      (build.createClient env .seafowl o).value :=
  (createClient_of_token http placed token env).mono fun _ _ same =>
    ⟨same.endpoint, fun network queries => same.converse_eq network [] queries, same.executeAs_eq⟩

/-- Clients with a token have the same conversations at an endpoint of this machine. -/
theorem backends_agree_local :
    let o := tokenOptions "http://localhost:8080/q"
    let made (b : Backend) := (({} : CommandLine.Build).createClient {} b o).value
    o.endpoint ≠ none ∧ (∀ c, o.credential = some c → c.kind = .token) ∧
      ∃ m n, made .splitgraph = .ok m ∧ made .seafowl = .ok n ∧ m.endpoint = n.endpoint ∧
        ∀ network queries, m.converse network [] queries = n.converse network [] queries := by
  intro o made
  have read : Url.read (trim "http://localhost:8080/q") = .ok localTransport.endpoint := by
    decide +kernel
  have placed : o.endpoint ≠ none := Option.some_ne_none _
  have token : ∀ c, o.credential = some c → c.kind = .token := by
    rintro c ⟨⟩
    rfl
  have alike : EndAlike _ (made .splitgraph) (made .seafowl) :=
    backends_agree rfl o placed token {}
  have seafowl : made .seafowl = .ok _ := create_token read rfl
  rw [seafowl] at alike ⊢
  generalize made .splitgraph = splitgraph at alike ⊢
  cases alike with
  | ok here => exact ⟨placed, token, _, _, rfl, rfl, here.1, here.2.1⟩

end SqlGateway.Client
