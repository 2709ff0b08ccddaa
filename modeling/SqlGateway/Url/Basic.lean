import SqlGateway.Url.Host

/-!
# URLs

A URL is what its text says once the spelling is repaired: a scheme, an authority, a path,
a query and a fragment.  `Url.text` prints it.

A scheme is special if it is one of the schemes of the web.  A special URL always has an
authority, and but for `file` a host, and a path that begins with a slash.

`redact` shows a URL to people who may not see its password.
-/

namespace SqlGateway

namespace Url

/-! ## Schemes -/

/-- How a scheme reads what follows it. -/
inductive SchemeKind where
  /-- The scheme `file`. -/
  | file
  /-- Another scheme of the web. -/
  | web
  /-- Any other scheme. -/
  | other
deriving DecidableEq, Repr

/-- The kind of a scheme. -/
def SchemeKind.ofScheme (scheme : List Char) : SchemeKind :=
  if scheme = ['f', 'i', 'l', 'e'] then .file
  else if [['h', 't', 't', 'p'], ['h', 't', 't', 'p', 's'], ['w', 's'], ['w', 's', 's'],
      ['f', 't', 'p']].contains scheme then .web
  else .other

/-- Schemes that repair their URLs the most. -/
def SchemeKind.isSpecial : SchemeKind → Bool
  | .other => false
  | _ => true

/-- The port a scheme leads to where its URL names none. -/
def defaultPort? (scheme : List Char) : Option UInt16 :=
  if scheme = ['h', 't', 't', 'p'] ∨ scheme = ['w', 's'] then some 80
  else if scheme = ['h', 't', 't', 'p', 's'] ∨ scheme = ['w', 's', 's'] then some 443
  else if scheme = ['f', 't', 'p'] then some 21
  else none

/-! ## Parts -/

/-- Where a URL leads and who asks. -/
structure Authority where
  /-- The user name, encoded. -/
  username : List Char
  /-- The password, encoded.  An empty one is none. -/
  password : Option (List Char)
  /-- The host, if it is not empty. -/
  host : Option Host
  /-- The port, if it is not the default port of the scheme. -/
  port : Option UInt16
deriving DecidableEq

/-- A path. -/
inductive Path where
  /-- Segments, each behind a slash. -/
  | segments (l : List (List Char))
  /-- A text that does not begin with a slash. -/
  | verbatim (text : List Char)
deriving DecidableEq

/-- A path as it stands in a URL. -/
def Path.text : Path → List Char
  | .segments l => l.flatMap fun s => '/' :: s
  | .verbatim cs => cs

/-- The name and the password as they stand before the host. -/
def userinfoText (username : List Char) (password : Option (List Char)) : List Char :=
  match password with
  | some p => username ++ ':' :: p ++ ['@']
  | none => if username = [] then [] else username ++ ['@']

/-- An authority as it stands in a URL. -/
def Authority.text (a : Authority) : List Char :=
  userinfoText a.username a.password ++ ((a.host.map Host.text).getD []) ++
    match a.port with
    | some p => ':' :: Nat.toDigits 10 p.toNat
    | none => []

end Url

/-- A URL. -/
structure Url where
  /-- The scheme, in lower case. -/
  scheme : List Char
  /-- The authority, if there is one. -/
  authority : Option Url.Authority
  /-- The path. -/
  path : Url.Path
  /-- The query, encoded, if there is one. -/
  query : Option (List Char)
  /-- The fragment, encoded, if there is one. -/
  fragment : Option (List Char)
deriving DecidableEq

namespace Url

/-- The host, if there is one. -/
def host? (u : Url) : Option Host := u.authority.bind (·.host)

/-- The password, encoded, if there is one. -/
def password? (u : Url) : Option (List Char) := u.authority.bind (·.password)

/-- The user name, encoded. -/
def username (u : Url) : List Char := (u.authority.map (·.username)).getD []

/-- The port, if the URL names one other than the default. -/
def port? (u : Url) : Option UInt16 := u.authority.bind (·.port)

/-! ## Printing -/

/-- What follows the scheme and its colon, up to the query.  Where there is no authority, a
path that begins with two slashes is kept apart from the colon. -/
def hierarchyText (u : Url) : List Char :=
  match u.authority with
  | some a => '/' :: '/' :: a.text ++ u.path.text
  | none =>
      match u.path.text with
      | '/' :: '/' :: cs => '/' :: '.' :: '/' :: '/' :: cs
      | cs => cs

/-- A part behind its mark, if it is there. -/
def marked (mark : Char) : Option (List Char) → List Char
  | some cs => mark :: cs
  | none => []

/-- The characters of a URL. -/
def chars (u : Url) : List Char :=
  u.scheme ++ ':' :: u.hierarchyText ++ marked '?' u.query ++ marked '#' u.fragment

/-- The text of a URL. -/
def text (u : Url) : String := .ofList u.chars

/-- The path and the query, as a request names its target. -/
def target (u : Url) : List Char := u.path.text ++ marked '?' u.query

/-! ## Hiding passwords -/

/-- What stands in the place of a password. -/
def mask : List Char := ['*', '*', '*', '*']

/-- A URL with another password.  An empty one is none.  A URL without a host takes no
password, and neither does one of a file. -/
def setPassword? (u : Url) (password : List Char) : Option Url :=
  match u.authority with
  | none => none
  | some a =>
      if a.host = none ∨ SchemeKind.ofScheme u.scheme = .file then none
      else
        let encoded := if password = [] then none else some (encode .userinfo password)
        some { u with authority := some { a with password := encoded } }

/-- A URL with its password masked, if it has one.  It stays as it is where a mask cannot
be set. -/
def masked (u : Url) : Url :=
  if u.password?.isSome then (u.setPassword? mask).getD u else u

/-- A URL without its user name and its password. -/
def anonymous (u : Url) : Url :=
  { u with authority := u.authority.map fun a => { a with username := [], password := none } }

end Url

end SqlGateway
