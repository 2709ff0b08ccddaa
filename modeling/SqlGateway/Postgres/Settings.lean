import SqlGateway.Environment
import SqlGateway.Log
import SqlGateway.Postgres.Fault
import SqlGateway.Url.Form
import SqlGateway.Url.Reader

/-!
# Connection strings

`Settings` say how to reach a server that speaks the protocol of Postgres.  They begin
with what the environment says, and a connection string changes them, first by the parts
of its URL and then by its parameters, one after the other.

A parameter that the reader does not know is left out, and an event says so.
-/

namespace SqlGateway.Postgres

/-! ## Settings -/

/-- How to reach a server. -/
structure Settings where
  /-- The host. -/
  host : String
  /-- The port. -/
  port : UInt16
  /-- The directory of a local socket, which goes before host and port. -/
  socket : Option String := none
  /-- The user, if one is named. -/
  username : Option String := none
  /-- The password, if there is one. -/
  password : Option String := none
  /-- The database, if one is named. -/
  database : Option String := none
deriving DecidableEq

namespace Settings

/-- How the settings show the server.  User and password are left out. -/
def endpoint (s : Settings) : String :=
  let database := s.database.getD ""
  s!"postgresql://{s.host}:{s.port}/{database}"

/-- Log in with a user, if one is given, and a password. -/
def withLogin (s : Settings) (login : Option String × String) : Settings :=
  { s with username := login.1.or s.username, password := some login.2 }

end Settings

/-! ## Values of parameters -/

/-- Read a port. -/
def readPort (s : String) : Except Numeral.Fault UInt16 :=
  (Numeral.read UInt16.size s.toList).map UInt16.ofNat

/-- A network address, of four bytes or of eight pieces. -/
def isAddress (s : String) : Bool :=
  (Url.Ipv4.strictBytes? s.toList).isSome || (Url.Ipv6.read? s.toList).isSome

/-- The modes of encryption. -/
def sslModes : List String :=
  ["disable", "allow", "prefer", "require", "verify-ca", "verify-full"]

/-- The text a part of a URL spells. -/
def decodeText (cs : List Char) : Except Fault String :=
  match Utf8.fault? (Url.decode cs) with
  | some cause => .error (.text cause)
  | none => .ok (Utf8.lossy (Url.decode cs))

/-- The parameters that are known and do not change the settings. -/
def quietParameters : List String :=
  ["sslrootcert", "ssl-root-cert", "ssl-ca", "sslcert", "ssl-cert", "sslkey", "ssl-key",
    "application_name", "options"]

/-- The event for a parameter that is not known. -/
def ignoredParameter (name value : String) : Event where
  level := .warn
  origin := .connection
  message := "ignoring unrecognized connect parameter"
  details := [("key", name), ("value", value)]

/-! ## Reading -/

/-- The settings of an environment. -/
def Settings.ofEnvironment (env : Environment) : Settings where
  host := ((env.get? "PGHOSTADDR").or (env.get? "PGHOST")).getD "localhost"
  port :=
    match (env.get? "PGPORT").map readPort with
    | some (.ok port) => port
    | _ => 5432
  username := env.get? "PGUSER"
  password := env.get? "PGPASSWORD"
  database := env.get? "PGDATABASE"

/-- Change settings by the host of a URL.  One that spells a path names a socket. -/
def withHost (s : Settings) (u : Url) : Except Fault Settings :=
  match u.host? with
  | none => .ok s
  | some host =>
      match Url.decode host.text with
      | 47 :: _ => (decodeText host.text).map fun path => { s with socket := some path }
      | _ => .ok { s with host := .ofList host.text }

/-- Change settings by the user name of a URL, if it is not empty. -/
def withUsername (s : Settings) (username : List Char) : Except Fault Settings :=
  if username = [] then .ok s
  else (decodeText username).map fun name => { s with username := some name }

/-- Change settings by the password of a URL, if it has one. -/
def withPassword (s : Settings) : Option (List Char) → Except Fault Settings
  | none => .ok s
  | some p => (decodeText p).map fun password => { s with password := some password }

/-- Change settings by the path of a URL, if it names a database. -/
def withDatabase (s : Settings) (path : List Char) : Except Fault Settings :=
  match path.dropWhile (· = '/') with
  | [] => .ok s
  | path => (decodeText path).map fun database => { s with database := some database }

/-- Change settings by the parts of a URL before its query. -/
def withParts (s : Settings) (u : Url) : Except Fault Settings := do
  let s ← withHost s u
  let s ← withUsername { s with port := u.port?.getD s.port } u.username
  let s ← withPassword s u.password?
  withDatabase s u.path.text

/-- Change settings by a parameter. -/
def withParameter (s : Settings) (name value : String) : Logged (Except Fault Settings) :=
  match name with
  | "sslmode" | "ssl-mode" =>
      if sslModes.contains (value.map Char.toLower) then ⟨.ok s, []⟩
      else ⟨.error (.sslMode value), []⟩
  | "statement-cache-capacity" =>
      ⟨((Numeral.read UInt64.size value.toList).mapError Fault.number).map fun _ => s, []⟩
  | "host" =>
      if value.startsWith "/" then ⟨.ok { s with socket := some value }, []⟩
      else ⟨.ok { s with host := value }, []⟩
  | "hostaddr" =>
      if isAddress value then ⟨.ok { s with host := value }, []⟩ else ⟨.error .address, []⟩
  | "port" =>
      ⟨((readPort value).mapError Fault.number).map fun port => { s with port := port }, []⟩
  | "dbname" => ⟨.ok { s with database := some value }, []⟩
  | "user" => ⟨.ok { s with username := some value }, []⟩
  | "password" => ⟨.ok { s with password := some value }, []⟩
  | _ =>
      if quietParameters.contains name || name.startsWith "options[" then ⟨.ok s, []⟩
      else ⟨.ok s, [ignoredParameter name value]⟩

/-- Change settings by parameters, up to the first that cannot be used. -/
def withParameters (s : Settings) : List (String × String) → Logged (Except Fault Settings)
  | [] => ⟨.ok s, []⟩
  | (name, value) :: rest => (withParameter s name value).andThen fun s => withParameters s rest

/-- Change settings by a URL. -/
def withUrl (s : Settings) (u : Url) : Logged (Except Fault Settings) :=
  (⟨withParts s u, []⟩ : Logged (Except Fault Settings)).andThen fun s =>
    withParameters s ((u.query.map Url.parameters).getD [])

/-- Read a connection string. -/
def Settings.read [Url.Idna] (env : Environment) (text : String) : Logged (Except Fault Settings) :=
  match Url.read text with
  | .error e => ⟨.error (.url e), []⟩
  | .ok u => withUrl (.ofEnvironment env) u

end SqlGateway.Postgres
