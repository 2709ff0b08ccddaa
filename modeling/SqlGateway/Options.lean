import SqlGateway.Credential
import SqlGateway.Environment
import SqlGateway.Fault
import SqlGateway.Text.Blank
import SqlGateway.Text.Quoted
import SqlGateway.Url.Reader

/-!
# Options of a client

`Options` say how to reach a backend: with which credential, where, through which proxy,
and how long to wait.  `Options.check` finds what no backend could use.

`Options.summary` is for people who may not see secrets.  It masks the password in the
endpoint, and shows of the credential only its kind.
-/

namespace SqlGateway

/-! ## Spans of time -/

/-- A span of time, in milliseconds. -/
structure Span where
  /-- How many milliseconds. -/
  milliseconds : Nat
deriving DecidableEq, Repr

namespace Span

/-- A span of seconds. -/
def seconds (n : Nat) : Span := ⟨1000 * n⟩

/-- The digits behind the point of a fraction, given as thousandths. -/
def fraction (thousandths : Nat) : List Char :=
  let ds := Nat.toDigits 10 (1000 + thousandths)
  ((ds.drop 1).reverse.dropWhile (· = '0')).reverse

/-- A span in words: in seconds from one second on, and in milliseconds below. -/
def description (t : Span) : String :=
  let whole := t.milliseconds / 1000
  let rest := fraction (t.milliseconds % 1000)
  if t.milliseconds = 0 then "0ns"
  else if whole = 0 then s!"{t.milliseconds}ms"
  else if rest = [] then s!"{whole}s"
  else s!"{whole}." ++ String.ofList rest ++ "s"

end Span

/-! ## Options -/

/-- How to reach a backend. -/
structure Options where
  /-- The credential.  Without one, queries are anonymous. -/
  credential : Option Credential := none
  /-- Where the backend is, if not at its default place. -/
  endpoint : Option String := none
  /-- The proxy, if one is named. -/
  proxy : Option String := none
  /-- How long a request may take. -/
  timeout : Span := .seconds 30

namespace Options

/-- The variable that names a proxy where the options name none. -/
def proxyVariable : String := "MITM"

/-- The proxy to use: that of the options, blank or not, or else that of the environment.
A blank one is none. -/
def effectiveProxy (o : Options) (env : Environment) : Option String :=
  (o.proxy.or (env.get? proxyVariable)).filter fun p => !isBlankText p

/-- Find what no backend could use: a timeout of zero, then an empty text in the credential,
then a blank endpoint. -/
def check (o : Options) : Except Misconfiguration Unit :=
  if o.timeout.milliseconds = 0 then .error .zeroTimeout
  else
    match o.credential.filter Credential.isBlank with
    | some c => .error (.blankCredential c.kind)
    | none =>
        if (o.endpoint.map isBlankText).getD false then .error .blankEndpoint else .ok ()

/-- The options for people. -/
def summary [Url.Idna] (o : Options) : String :=
  let endpoint := (o.endpoint.map Url.redact).getD "<default>"
  let kind := (o.credential.map (·.kind.name)).getD "anonymous"
  s!"ClientOptions(endpoint={endpoint}, auth={kind})"

/-- A value that may be absent, with its description where it is there. -/
def described (text? : Option String) : String := (text?.map fun t => s!"Some({t})").getD "None"

/-- The options for those who look for mistakes. -/
def description (o : Options) : String :=
  "ClientOptions \x7b credential: " ++ described (o.credential.map Credential.description) ++
    ", endpoint: " ++ described (o.endpoint.map quote) ++
    ", proxy: " ++ described (o.proxy.map quote) ++
    ", timeout: " ++ o.timeout.description ++ " \x7d"

end Options

end SqlGateway
