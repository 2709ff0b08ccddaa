import SqlGateway.Url.Address
import SqlGateway.Url.Fault
import SqlGateway.Url.Idna
import SqlGateway.Url.Percent

/-!
# Hosts

A host is a name or an address.

In a special URL, the name is decoded and spelled in ASCII, and a name that ends in a number
is then an address of four bytes.  A name that cannot be spelled is refused, and so is one with
a label that is read as one beyond ASCII and is none.  In any other URL the name stays as it is
written, up to the encoding of controls and of what is not ASCII.  An address of eight pieces
stands between brackets in both.
-/

namespace SqlGateway.Url

/-- Where a URL leads. -/
inductive Host where
  /-- A name, as it is printed. -/
  | name (text : List Char)
  /-- An address of four bytes. -/
  | ipv4 (address : Ipv4)
  /-- An address of eight pieces. -/
  | ipv6 (address : Ipv6)
deriving DecidableEq

namespace Host

/-- A host as it stands in a URL. -/
def text : Host → List Char
  | .name cs => cs
  | .ipv4 a => a.text
  | .ipv6 a => '[' :: a.text ++ [']']

/-- A character that no name has where names are not decoded. -/
def forbiddenVerbatim (c : Char) : Bool :=
  ['\x00', '\t', '\n', '\r', ' ', '#', '/', ':', '<', '>', '?', '@', '[', '\\', ']', '^',
    '|'].contains c

/-- Read an address between brackets, the first of which is behind us. -/
def readBracketed (cs : List Char) : Except Fault Host :=
  if cs.getLast? = some ']' then
    match Ipv6.read? cs.dropLast with
    | some a => .ok (.ipv6 a)
    | none => .error .ipv6
  else .error .ipv6

/-- Read a decoded name. -/
def ofName [Idna] (cs : List Char) : Except Fault Host :=
  match Idna.spell? cs with
  | none => .error .hostName
  | some ascii =>
      if ascii = [] then .error .emptyHost
      else if Ipv4.endsInNumber ascii then
        match Ipv4.read? ascii with
        | some a => .ok (.ipv4 a)
        | none => .error .ipv4
      else .ok (.name ascii)

/-- Read the host of a special URL. -/
def readSpecial [Idna] : List Char → Except Fault Host
  | '[' :: cs => readBracketed cs
  | cs =>
      match Utf8.decode? (decode cs) with
      | some s => ofName s.toList
      | none => .error .hostName

/-- Read the host of any other URL.  It may be empty, which is no host. -/
def readVerbatim : List Char → Except Fault (Option Host)
  | [] => .ok none
  | '[' :: cs => (readBracketed cs).map some
  | cs =>
      if cs.any forbiddenVerbatim then .error .hostCharacter
      else .ok (some (.name (encode .controls cs)))

/-- Read the host of an authority.  Only in a URL of another scheme may it be missing. -/
def read [Idna] (special : Bool) (cs : List Char) : Except Fault (Option Host) :=
  if special then
    if cs = [] then .error .emptyHost else (readSpecial cs).map some
  else readVerbatim cs

end Host

end SqlGateway.Url
