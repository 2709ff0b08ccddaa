import SqlGateway.Text.Numeral
import SqlGateway.Text.Quoted
import SqlGateway.Text.Utf8
import SqlGateway.Url.Fault

/-!
# What can be wrong with a connection string

A connection string is a URL whose parts and parameters say how to reach a server.  A
fault is the first of them that cannot be used.
-/

namespace SqlGateway.Postgres

/-- Why a text is no connection string. -/
inductive Fault where
  /-- It is no URL. -/
  | url (cause : Url.Fault)
  /-- A part of it spells no text. -/
  | text (cause : Utf8.Fault)
  /-- A parameter is no number. -/
  | number (cause : Numeral.Fault)
  /-- A parameter is no network address. -/
  | address
  /-- The mode of encryption is none. -/
  | sslMode (value : String)
deriving DecidableEq

/-- The words for a fault. -/
def Fault.message (f : Fault) : String :=
  "error with configuration: " ++
    match f with
    | .url cause => cause.message
    | .text cause => cause.message
    | .number cause => cause.message
    | .address => "invalid IP address syntax"
    | .sslMode value => s!"error with configuration: unknown value {quote value} for `ssl_mode`"

end SqlGateway.Postgres
