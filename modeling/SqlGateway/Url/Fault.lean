/-!
# What can be wrong with a URL

The reader of URLs repairs most of what it is given.  What it cannot repair has one of
these causes.
-/

namespace SqlGateway.Url

/-- Why a text is no URL. -/
inductive Fault where
  /-- It does not begin with a scheme. -/
  | noScheme
  /-- A host is missing. -/
  | emptyHost
  /-- The port is no number of sixteen bits. -/
  | port
  /-- The host is meant as an address of four bytes and is none. -/
  | ipv4
  /-- The host is meant as an address of eight pieces and is none. -/
  | ipv6
  /-- The host has a character that no host may have. -/
  | hostCharacter
  /-- The host spells a name that no host may have. -/
  | hostName
deriving DecidableEq, Repr

/-- The words for a fault. -/
def Fault.message : Fault → String
  | .noScheme => "relative URL without a base"
  | .emptyHost => "empty host"
  | .port => "invalid port number"
  | .ipv4 => "invalid IPv4 address"
  | .ipv6 => "invalid IPv6 address"
  | .hostCharacter => "invalid domain character"
  | .hostName => "invalid international domain name"

end SqlGateway.Url
