import SqlGateway.Backend
import SqlGateway.Http.Exchange
import SqlGateway.Options
import SqlGateway.Postgres.Settings

/-!
# Clients

A client is made once, from options, for one backend.  Everything that can be wrong with
the options shows then: `Client.create` fails with the first thing that is wrong, and a
client that is made can send queries.

The backends over HTTP differ in the credentials they take and in their default place.
The client for Postgres does not send queries yet.  It answers every query with the same
result without rows.
-/

namespace SqlGateway

open Query (Outcome Row)

/-! ## Making clients -/

/-- A client for a backend. -/
inductive Client where
  /-- A client for Splitgraph. -/
  | splitgraph (transport : Http.Transport)
  /-- A client for Seafowl. -/
  | seafowl (transport : Http.Transport)
  /-- A client for a server that speaks the protocol of Postgres. -/
  | postgres (settings : Postgres.Settings)

/-- Where a backend is if the options do not say. -/
def Backend.defaultEndpoint : Backend → String
  | .splitgraph => "https://data.splitgraph.com/sql/query/ddn"
  | .seafowl => "http://127.0.0.1:8080/q"
  | .postgres => "postgresql://data.splitgraph.com:5432/ddn"

namespace Http

/-- Read an endpoint.  Its scheme is `http` or `https`. -/
def readEndpoint [Url.Idna] (text : String) : Except Misconfiguration Url :=
  match Url.read (trim text) with
  | .error e => .error (.endpointUrl e)
  | .ok u =>
      if u.scheme = ['h', 't', 't', 'p'] ∨ u.scheme = ['h', 't', 't', 'p', 's'] then .ok u
      else .error (.endpointScheme (.ofList u.scheme))

/-- Read a proxy.  A URL without a host must be the rest of a URL that has one. -/
def readProxy [Url.Idna] (text : String) : Except Misconfiguration Url :=
  match Url.read (trim text) with
  | .error e => .error (.proxyUrl e)
  | .ok u =>
      if u.host?.isSome then .ok u
      else
        match Url.readChars (['h', 't', 't', 'p', ':', '/', '/'] ++ u.chars) with
        | .ok _ => .ok u
        | .error _ => .error .proxyHost

/-- Make a transport.  The options are checked before the endpoint, and the proxy is last. -/
def Transport.create [Url.Idna] (env : Environment) (endpoint : String) (credential : List Header)
    (o : Options) : Logged (Except Misconfiguration Transport) :=
  match o.check, readEndpoint endpoint with
  | .error e, _ => ⟨.error e, []⟩
  | .ok (), .error e => ⟨.error e, []⟩
  | .ok (), .ok url =>
      match (o.effectiveProxy env).map readProxy with
      | none => ⟨.ok ⟨url, credential, none, o.timeout⟩, []⟩
      | some (.error e) => ⟨.error e, []⟩
      | some (.ok proxy) =>
          ⟨.ok ⟨url, credential, some proxy, o.timeout⟩,
            [⟨.debug, .transport, s!"Routing requests through proxy {proxy.masked.text}", []⟩]⟩

end Http

namespace Client

/-- The headers with which a backend over HTTP is sent a credential.  Seafowl takes tokens
only. -/
def headersFor : Backend → Option Credential → Except Misconfiguration (List Http.Header)
  | _, none => .ok []
  | .seafowl, some (.token t) => Http.tokenHeaders t
  | .seafowl, some c => .error (.refusedCredential c.kind)
  | _, some c => Http.credentialHeaders c

/-- Make the transport of a client over HTTP. -/
def createTransport [Url.Idna] (env : Environment) (b : Backend) (o : Options) :
    Logged (Except Misconfiguration Http.Transport) :=
  match headersFor b o.credential with
  | .error e => ⟨.error e, []⟩
  | .ok headers =>
      (Http.Transport.create env (o.endpoint.getD b.defaultEndpoint) headers o).andThen fun t =>
        ⟨.ok t, [⟨.debug, .client b, s!"Created {b.title} client for {t.endpoint.text}", []⟩]⟩

/-- Make the settings of a client for Postgres. -/
def createSettings [Url.Idna] (env : Environment) (o : Options) :
    Logged (Except Misconfiguration Postgres.Settings) :=
  match o.check with
  | .error e => ⟨.error e, []⟩
  | .ok () =>
      let text := o.endpoint.getD Backend.postgres.defaultEndpoint
      let read := Postgres.Settings.read env text
      match read.value with
      | .error e => ⟨.error (.connectionString (Url.redact text) e), read.events⟩
      | .ok s =>
          let s := ((o.credential.map fun c => s.withLogin c.login)).getD s
          let created : Event :=
            ⟨.debug, .client .postgres, s!"Created Postgres client for {s.endpoint}", []⟩
          ⟨.ok s, read.events ++ [created]⟩

/-- Make a client. -/
def create [Url.Idna] (env : Environment) (b : Backend) (o : Options) :
    Logged (Except Misconfiguration Client) :=
  match b with
  | .splitgraph => (createTransport env .splitgraph o).map (·.map Client.splitgraph)
  | .seafowl => (createTransport env .seafowl o).map (·.map Client.seafowl)
  | .postgres => (createSettings env o).map (·.map Client.postgres)

/-! ## Describing clients -/

/-- The backend of a client. -/
def backend : Client → Backend
  | .splitgraph _ => .splitgraph
  | .seafowl _ => .seafowl
  | .postgres _ => .postgres

/-- Where a client sends queries, without passwords. -/
def endpoint : Client → String
  | .splitgraph t => t.endpoint.masked.text
  | .seafowl t => t.endpoint.masked.text
  | .postgres s => s.endpoint

/-! ## Sending queries -/

/-- The result of every query to Postgres. -/
def placeholder : Query.Result Row where
  command := "SELECT"
  rowCount := 0
  executionTime := "0ms"
  executionTimeHighRes := "0s 0ms"

/-- Send a query, of which the network makes an exchange. -/
def execute (c : Client) (query : String) (x : Http.Exchange) : Http.Posted :=
  match c with
  | .splitgraph t => t.post query x
  | .seafowl t => t.post query x
  | .postgres _ =>
      let length := (Utf8.encode query).length
      ⟨.ok placeholder, [],
        [⟨.debug, .client .postgres,
          s!"Postgres placeholder answering query of length {length}", []⟩]⟩

/-- The outcome of a query, with its rows decoded. -/
def executeAs {τ : Type} (d : Json.Decoder τ) (c : Client) (query : String) (x : Http.Exchange) :
    Outcome (Query.Result τ) :=
  (c.execute query x).outcome.bind (Query.Result.typed d)

end Client

end SqlGateway
