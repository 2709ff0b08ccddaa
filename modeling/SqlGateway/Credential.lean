/-!
# Credentials

A credential is a bearer token or a pair of an API key and its secret.  Its secrets are
for requests only; what describes a credential shows its kind.
-/

namespace SqlGateway

/-- What a client shows to a backend. -/
inductive Credential where
  /-- A bearer token. -/
  | token (token : String)
  /-- An API key and its secret. -/
  | apiKey (key secret : String)
deriving DecidableEq

namespace Credential

/-- The two kinds of credential. -/
inductive Kind where
  /-- A bearer token. -/
  | token
  /-- An API key and its secret. -/
  | apiKey
deriving DecidableEq, Repr

/-- The name of a kind. -/
def Kind.name : Kind → String
  | .token => "token"
  | .apiKey => "api-key"

/-- The kind of a credential. -/
def kind : Credential → Kind
  | .token _ => .token
  | .apiKey _ _ => .apiKey

/-- A credential one of whose texts is empty. -/
def isBlank : Credential → Bool
  | .token t => t.isEmpty
  | .apiKey k s => k.isEmpty || s.isEmpty

/-- The user name, if there is one, and the password of a login with a credential. -/
def login : Credential → Option String × String
  | .token t => (none, t)
  | .apiKey k s => (some k, s)

/-- A description on one line. -/
def description (c : Credential) : String :=
  "CredentialOptions \x7b kind: \"" ++ c.kind.name ++ "\", .. \x7d"

/-- A description with a line for each part. -/
def longDescription (c : Credential) : String :=
  "CredentialOptions \x7b\n    kind: \"" ++ c.kind.name ++ "\",\n    ..\n\x7d"

end Credential

end SqlGateway
