import SqlGateway.Http.Redirect
import SqlGateway.Log
import SqlGateway.Options
import SqlGateway.Query.Result

/-!
# What comes of a request

An `Exchange` is what the network makes of a request: an answer, or a failure at one of
three points with its causes.  An answer that names another place comes with what the network
makes of the request that follows there.

The redirects of an exchange are followed up to a limit, which is a `Course` of requests with one
`Ending`.  `Transport.post` turns the ending into the outcome of a query.

* Without a complete answer, the query failed in transport.
* An answer with another status than success, or whose body says that it failed, is a
  failure of the backend.  `payload` finds what the body says.
* Any other answer must be a result, or it does not decode.
-/

namespace SqlGateway.Http

open Query (Outcome Row)

/-! ## Exchanges -/

/-- What the network makes of a request. -/
inductive Exchange where
  /-- The backend was not reached. -/
  | unreached (causes : List String)
  /-- The backend got the request and no answer came. -/
  | unanswered (causes : List String)
  /-- An answer began and broke off. -/
  | cut (status : Status) (causes : List String)
  /-- A complete answer, after so many milliseconds.  It names no other place. -/
  | reply (status : Status) (body : Bytes) (elapsed : Nat)
  /-- A complete answer that names another place, where its header `location` leads from the URL
  of the request, and what the network makes of the request that follows there, if one does. -/
  | elsewhere (status : Status) (place : Url) (body : Bytes) (elapsed : Nat) (further : Exchange)

/-- The backend got the request. -/
def Exchange.arrived : Exchange → Bool
  | .unreached _ => false
  | _ => true

/-! ## Courses of requests -/

/-- How the requests for a query end. -/
inductive Ending where
  /-- No answer was taken, for these causes. -/
  | failed (text : String) (causes : List String)
  /-- An answer broke off. -/
  | cut (causes : List String)
  /-- A complete answer was taken, after so many milliseconds. -/
  | answered (status : Status) (body : Bytes) (elapsed : Nat)

/-- The requests for a query. -/
structure Course where
  /-- Those that arrived, first to last. -/
  arrived : List Request
  /-- How they end. -/
  ending : Ending

/-- An answer with a status is a redirect to a place: requests can go there, and the status says
that one does. -/
def redirects (s : Status) (place : Url) : Bool :=
  (s.sendsOn || s.sendsToFetch) && Request.canBeSentTo place

/-- Requests go to places of the web alone. -/
def isOverHttp (u : Url) : Bool :=
  u.scheme = ['h', 't', 't', 'p'] || u.scheme = ['h', 't', 't', 'p', 's']

/-- The requests that an exchange of the last one leads to, where `left` redirects may still be
followed and the first request was made for the query. -/
def Exchange.course (first : Request) : (left : Nat) → (last : Request) → Exchange → Course
  | _, _, .unreached causes =>
      ⟨[], .failed s!"error sending request for url ({first.url.text})" causes⟩
  | _, r, .unanswered causes =>
      ⟨[r], .failed s!"error sending request for url ({first.url.text})" causes⟩
  | _, r, .cut _ causes => ⟨[r], .cut causes⟩
  | _, r, .reply status body elapsed => ⟨[r], .answered status body elapsed⟩
  | left, r, .elsewhere status place body elapsed further =>
      if redirects status place then
        match left with
        | 0 =>
            let url := { r.url with fragment := none }
            ⟨[r], .failed s!"error following redirect for url ({url.text})" ["too many redirects"]⟩
        | left + 1 =>
            if isOverHttp place then
              let rest := further.course first left (first.onward r status place)
              ⟨r :: rest.arrived, rest.ending⟩
            else
              let url := { place with fragment := none }
              ⟨[r], .failed s!"builder error for url ({url.text})" ["URL scheme is not allowed"]⟩
      else ⟨[r], .answered status body elapsed⟩
termination_by structural _ _ x => x

/-! ## Failures of transport -/

/-- A failure and its causes, each on a line. -/
def traceText (text : String) (causes : List String) : String :=
  causes.foldl (fun acc cause => s!"{acc}\n  caused by: {cause}") text

/-- The error for a failure with causes. -/
def transportError (text : String) (causes : List String) : Query.Error :=
  .transport text (traceText text causes)

/-! ## Answers -/

/-- A body that says that the query failed. -/
def reportsFailure : Json → Bool
  | .object ms =>
      (match Members.get? ms "success" with
        | some (.bool false) => true
        | _ => false) ||
        ((Members.get? ms "error").map Json.isSome).getD false
  | _ => false

/-- What a body says of a failure: its member `error`, unless that is `null`, or else all the
rest of it. -/
def payload : Json → Json
  | .object ms =>
      match (Members.get? ms "error").filter Json.isSome with
      | some e => e
      | none => .object (Members.erase ms "error")
  | v => v

/-- The outcome of a complete answer. -/
def interpret (status : Status) (body : Bytes) : Logged (Outcome (Query.Result Row)) :=
  match Json.readBytes body with
  | .error e =>
      if status.isSuccess then
        ⟨.error (.decode "Response body is not valid JSON" s!"{status.line}: {e.message}"), []⟩
      else
        let text := trim (Utf8.lossy body)
        let text := if text = "" then status.line else text
        ⟨.error (.stated text (some status.line)),
          [⟨.warn, .transport, s!"Backend returned {status.line}", []⟩]⟩
  | .ok v =>
      if !status.isSuccess || reportsFailure v then
        ⟨.error (.backend (payload v) (some status.line)),
          [⟨.warn, .transport, s!"Backend reported a query failure ({status.line})", []⟩]⟩
      else
        match Query.Result.decoder.ofJson v with
        | .ok r => ⟨.ok r, []⟩
        | .error m =>
            ⟨.error (.decode "Response body does not match the query result shape"
              s!"{status.line}: {m.message}"), []⟩

/-! ## Transport -/

/-- How to send queries to an endpoint. -/
structure Transport where
  /-- The endpoint. -/
  endpoint : Url
  /-- The headers of the credential. -/
  credential : List Header
  /-- The proxy, if there is one. -/
  proxy : Option Url
  /-- How long a request may take. -/
  timeout : Span

/-- What came of a query, and the requests for it that arrived. -/
structure Posted where
  /-- The outcome. -/
  outcome : Outcome (Query.Result Row)
  /-- The requests that arrived: that of the query, and those that followed redirects. -/
  requests : List Request
  /-- The events on the way. -/
  events : List Event

/-- The request of the query, if it arrived. -/
def Posted.arrived (p : Posted) : Option Request := p.requests.head?

namespace Transport

/-- The request for a query. -/
def request (t : Transport) (query : String) : Request := .ask t.endpoint t.credential query

/-- The requests for a query. -/
def course (t : Transport) (query : String) (x : Exchange) : Course :=
  let r := t.request query
  if r.canBeSent then x.course r redirectLimit r
  else ⟨[], .failed s!"builder error for url ({r.url.text})" ["Parsed Url is not a valid Uri"]⟩

/-- The outcome that an ending calls for. -/
def conclude (t : Transport) : Ending → Logged (Outcome (Query.Result Row))
  | .failed text causes =>
      let host := String.ofList ((t.endpoint.host?.map Url.Host.text).getD [])
      ⟨.error (transportError text causes),
        [⟨.warn, .transport, s!"Request to {host} failed: {text}", []⟩]⟩
  | .cut causes =>
      let text := "error decoding response body"
      ⟨.error (transportError text causes),
        [⟨.warn, .transport, s!"Reading response body failed: {text}", []⟩]⟩
  | .answered status body elapsed =>
      let answer := interpret status body
      let received : Event :=
        ⟨.debug, .transport,
          s!"Response status={status.text} bytes={body.length} elapsed_ms={elapsed}", []⟩
      ⟨answer.value, received :: answer.events⟩

/-- Send a query. -/
def post (t : Transport) (query : String) (x : Exchange) : Posted :=
  let course := t.course query x
  let concluded := t.conclude course.ending
  let path := String.ofList t.endpoint.path.text
  let length := (Utf8.encode query).length
  ⟨concluded.value, course.arrived,
    ⟨.debug, .transport, s!"POST {path} (query length {length})", []⟩ :: concluded.events⟩

end Transport

end SqlGateway.Http
