import SqlGateway.CommandLine.Failure
import SqlGateway.CommandLine.Invocation
import SqlGateway.Log
import SqlGateway.Options

/-!
# From a command line to the options of a client

An API key goes before a token, and needs a secret.  A secret or a token that is asked for
goes before one that is given.  Nothing is asked for unless the command line says so.

The credential is found before the timeout is looked at.
-/

namespace SqlGateway.CommandLine

/-- Where a credential is from. -/
inductive CredentialSource where
  /-- There is none. -/
  | anonymous
  /-- The arguments or the environment. -/
  | arguments
  /-- Someone who was asked. -/
  | prompt
deriving DecidableEq, Repr

/-- The event that tells where a credential is from. -/
def CredentialSource.event (s : CredentialSource) : Event where
  level := .debug
  origin := .commandLine
  message :=
    match s with
    | .anonymous => "No credential supplied, querying anonymously"
    | .arguments => "Using credential from arguments"
    | .prompt => "Using credential from prompt"

/-- A credential, if there is one, and where it is from. -/
structure Login where
  /-- The credential. -/
  credential : Option Credential
  /-- Where it is from. -/
  source : CredentialSource
deriving DecidableEq

namespace Connection

/-- Find the credential. -/
def login (c : Connection) : Asking (Except Failure Login) :=
  match c.apiKey with
  | some key =>
      if c.promptSecret then
        .ask .apiSecret fun answer =>
          match answer with
          | .ok secret => .ok ⟨some (.apiKey key secret), .prompt⟩
          | .error cause => .error (.noAnswer .apiSecret cause)
      else
        match c.apiSecret with
        | some secret => .known (.ok ⟨some (.apiKey key secret), .arguments⟩)
        | none => .known (.error .noSecret)
  | none =>
      if c.promptSecret then
        .ask .token fun answer =>
          match answer with
          | .ok token => .ok ⟨some (.token token), .prompt⟩
          | .error cause => .error (.noAnswer .token cause)
      else
        match c.token with
        | some token => .known (.ok ⟨some (.token token), .arguments⟩)
        | none => .known (.ok ⟨none, .anonymous⟩)

/-- The options for a login. -/
def optionsFor (c : Connection) (l : Login) : Except Failure Options :=
  if c.timeout = 0 then .error .zeroTimeout
  else
    .ok { credential := l.credential, endpoint := c.endpoint, timeout := .seconds c.timeout }

/-- Find the options, and where their credential is from. -/
def options (c : Connection) : Asking (Except Failure (Options × CredentialSource)) :=
  c.login.map fun found => do
    let l ← found
    let o ← c.optionsFor l
    pure (o, l.source)

end Connection

/-- What is asked for when an invocation is run, if anything is.  A list needs no
credential. -/
def Invocation.prompt? (i : Invocation) : Option Prompt :=
  match i.command with
  | .list => none
  | _ => i.connection.options.prompt?

end SqlGateway.CommandLine
