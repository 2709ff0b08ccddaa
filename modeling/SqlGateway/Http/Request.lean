import SqlGateway.Fault
import SqlGateway.Json.Printer
import SqlGateway.Program
import SqlGateway.Text.Base64
import SqlGateway.Url.Basic

/-!
# Requests

A query is sent as the body of a `POST` request, `{"sql": ...}`.  The headers of a request
are in increasing order of names, one header a name.

The user name and the password of an endpoint are not part of the target.  They are sent
in the header `authorization`, in the place of any other credential there.  They stay in
the URL if they do not spell texts.
-/

namespace SqlGateway.Http

/-! ## Headers -/

/-- A header: its name, in lower case, and its value. -/
abbrev Header := String × String

/-- Put a header in its place in increasing order of names.  It replaces a header of the
same name. -/
def insertHeader (h : Header) : List Header → List Header
  | [] => [h]
  | g :: gs =>
      if h.1 < g.1 then h :: g :: gs
      else if h.1 = g.1 then h :: gs
      else g :: insertHeader h gs

/-- A text may be the value of a header: it has no control but tabs. -/
def isSendable (s : String) : Bool :=
  s.toList.all fun c => (' ' ≤ c && c ≠ '\x7f') || c = '\t'

/-- A header for a part of a credential, if it may be sent. -/
def credentialHeader (name : String) (part : SentPart) (value : String) :
    Except Misconfiguration Header :=
  if isSendable value then .ok (name, value) else .error (.unsendable part)

/-- The header for a token. -/
def tokenHeaders (token : String) : Except Misconfiguration (List Header) := do
  pure [← credentialHeader "authorization" .token s!"Bearer {token}"]

/-- The headers for a credential. -/
def credentialHeaders : Credential → Except Misconfiguration (List Header)
  | .token t => tokenHeaders t
  | .apiKey k s => do
      let key ← credentialHeader "x-api-key" .apiKey k
      let secret ← credentialHeader "x-api-secret" .apiSecret s
      pure [key, secret]

/-! ## Logins in URLs -/

/-- The user name and the password of a URL, if there are any and they spell texts. -/
def loginOf (u : Url) : Option (String × Option String) :=
  match Utf8.decode? (Url.decode u.username) with
  | none => none
  | some name =>
      let password := u.password?.bind fun p => Utf8.decode? (Url.decode p)
      if name = "" ∧ password = none then none else some (name, password)

/-- The value of the header for a login. -/
def basicValue (login : String × Option String) : String :=
  let password := login.2.getD ""
  "Basic " ++ String.ofList (Base64.encode (Utf8.encode s!"{login.1}:{password}"))

/-! ## Requests -/

/-- What a request is for. -/
inductive Method where
  /-- It hands something over. -/
  | post
  /-- It fetches something. -/
  | get
deriving DecidableEq, Repr

/-- The name of a method. -/
def Method.name : Method → String
  | .post => "POST"
  | .get => "GET"

/-- A request. -/
structure Request where
  /-- What it is for. -/
  method : Method
  /-- Where it goes. -/
  url : Url
  /-- Its headers, in increasing order of names. -/
  headers : List Header
  /-- Its body. -/
  body : String

namespace Request

/-- What every request says of who sends it. -/
def userAgent : String := s!"{Program.name}/{Program.version}"

/-- The body that asks a query. -/
def bodyFor (query : String) : String := Json.compact (.object [("sql", .string query)])

/-- The host and the port of a URL as a header names them. -/
def hostText (u : Url) : String :=
  let port :=
    match u.port? with
    | some p => ':' :: Nat.toDigits 10 p.toNat
    | none => []
  .ofList (((u.host?.map Url.Host.text).getD []) ++ port)

/-- A request that asks a query at an endpoint, with the headers of a credential. -/
def ask (endpoint : Url) (credential : List Header) (query : String) : Request :=
  let login := loginOf endpoint
  let url := if login.isSome then endpoint.anonymous else endpoint
  let body := bodyFor query
  let length := (Utf8.encode body).length
  let own : List Header :=
    [("accept", "*/*"), ("content-length", toString length),
      ("content-type", "application/json"), ("host", hostText url), ("user-agent", userAgent)]
  let basic : List Header := (login.map fun l => ("authorization", basicValue l)).toList
  ⟨.post, url, (credential ++ basic ++ own).foldl (fun hs h => insertHeader h hs) [], body⟩

/-- The greatest length of a URL that can be sent, in bytes. -/
def lengthLimit : Nat := 65534

/-- A character that a host may have and a request may not. -/
def forbiddenInHost (c : Char) : Bool := ['"', '`', '{', '}'].contains c

/-- A URL that requests can be sent to. -/
def canBeSentTo (u : Url) : Bool :=
  let host := (u.host?.map Url.Host.text).getD []
  u.chars.length ≤ lengthLimit && !host.any forbiddenInHost

/-- A request that can be sent. -/
def canBeSent (r : Request) : Bool := canBeSentTo r.url

/-- The first line of a request as the backend sees it, or a proxy, which sees the whole
URL. -/
def line (viaProxy : Bool) (r : Request) : String :=
  let whole : Url := { r.url with fragment := none }
  let target := if viaProxy then whole.text else .ofList r.url.target
  s!"{r.method.name} {target} HTTP/1.1"

end Request

end SqlGateway.Http
