import SqlGateway.Credential
import SqlGateway.Postgres.Fault
import SqlGateway.Url.Fault

/-!
# Faults

A fault is a mistake of the caller: options no client can be made from, or a plugin that
is not there.  It shows at once, where the mistake is made.  A query that fails is no
fault but an outcome.

A fault is its cause.  `Fault.message` puts it into words, and none of the words tell a
secret.
-/

namespace SqlGateway

/-- A part of a credential that is sent in a header. -/
inductive SentPart where
  /-- A token. -/
  | token
  /-- An API key. -/
  | apiKey
  /-- The secret of an API key. -/
  | apiSecret
deriving DecidableEq, Repr

/-- The name of a part in a message. -/
def SentPart.name : SentPart → String
  | .token => "token"
  | .apiKey => "API key"
  | .apiSecret => "API secret"

/-- Why no client can be made. -/
inductive Misconfiguration where
  /-- No backend has the name. -/
  | unknownBackend (name : String)
  /-- Requests would have no time. -/
  | zeroTimeout
  /-- The credential has an empty text. -/
  | blankCredential (kind : Credential.Kind)
  /-- The endpoint is given and blank. -/
  | blankEndpoint
  /-- A part of the credential may not stand in a header. -/
  | unsendable (part : SentPart)
  /-- The backend has no use for a credential of the kind. -/
  | refusedCredential (kind : Credential.Kind)
  /-- The endpoint is no URL. -/
  | endpointUrl (cause : Url.Fault)
  /-- The endpoint is a URL of another scheme. -/
  | endpointScheme (scheme : String)
  /-- The proxy is no URL. -/
  | proxyUrl (cause : Url.Fault)
  /-- The proxy leads nowhere. -/
  | proxyHost
  /-- The connection string, shown without its password, is none. -/
  | connectionString (shown : String) (cause : Postgres.Fault)
  /-- A cause in words. -/
  | stated (message : String)
deriving DecidableEq

/-- The words for a cause. -/
def Misconfiguration.message : Misconfiguration → String
  | .unknownBackend name =>
      s!"Unknown backend '{name}' (expected splitgraph, seafowl or postgres)"
  | .zeroTimeout => "timeout must be greater than 0"
  | .blankCredential kind => s!"{kind.name} credential has an empty field"
  | .blankEndpoint => "endpoint cannot be empty"
  | .unsendable part => s!"{part.name} contains invalid header characters"
  | .refusedCredential kind => s!"Seafowl does not accept {kind.name} credentials"
  | .endpointUrl cause => s!"Invalid endpoint URL: {cause.message}"
  | .endpointScheme scheme => s!"Endpoint scheme '{scheme}' is not http or https"
  | .proxyUrl cause => s!"Invalid proxy address: {cause.message}"
  | .proxyHost => "Unusable proxy address: builder error"
  | .connectionString shown cause =>
      s!"Invalid Postgres connection string {shown}: {cause.message}"
  | .stated message => message

/-- A mistake of the caller. -/
inductive Fault where
  /-- Options no client can be made from. -/
  | misconfigured (cause : Misconfiguration)
  /-- No plugin has the name. -/
  | pluginNotFound (name : String)
  /-- Two plugins have the name. -/
  | duplicatePlugin (name : String)
  /-- The program is built without the feature. -/
  | unsupported (feature hint : String)
  /-- Reading or writing failed. -/
  | io (context source : String)
  /-- A value could not be written or read. -/
  | serialization (context source : String)
deriving DecidableEq

namespace Fault

/-- The words for a fault. -/
def message : Fault → String
  | .misconfigured cause => s!"Configuration error: {cause.message}"
  | .pluginNotFound name => s!"Plugin not found: {name}"
  | .duplicatePlugin name => s!"Duplicate plugin name: {name}"
  | .unsupported feature hint => s!"Unsupported operation: {feature} not supported ({hint})"
  | .io context _ => s!"I/O operation failed: {context}"
  | .serialization context _ => s!"Serialization failed: {context}"

/-- What is behind a fault, where something else failed first. -/
def source? : Fault → Option String
  | .io _ source => some source
  | .serialization _ source => some source
  | _ => none

end Fault

end SqlGateway
