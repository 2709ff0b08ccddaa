import SqlGateway.Text.Blank
import SqlGateway.Url.Path

/-!
# Reading URLs

`Url.read` reads a URL from left to right: the scheme, then what the kind of the scheme
expects, then a query behind `?` and a fragment behind `#`.

Before anything else, controls and spaces at the two ends are dropped, and tabs and line
breaks everywhere.  Only the path of a `file` URL is read with them.

A URL of the web may have any number of slashes and backslashes before its authority.  In
an authority, the last `@` ends the user name and the password.  A URL of another scheme
has an authority only behind two slashes, a path behind one, and a verbatim path
otherwise.
-/

namespace SqlGateway.Url

/-! ## Cleaning -/

/-- A text without the controls and spaces at its two ends. -/
def trimControls (cs : List Char) : List Char := trimBoth (fun c => c ≤ ' ') cs

/-! ## Scheme -/

/-- A character of a scheme. -/
def isSchemeChar (c : Char) : Bool :=
  isLetter c || ('0' ≤ c && c ≤ '9') || c = '+' || c = '-' || c = '.'

/-- Split off the scheme and the colon behind it. -/
def splitScheme (cs : List Char) : Option (List Char × List Char) :=
  match cs.head?.map isLetter, cs.dropWhile isSchemeChar with
  | some true, ':' :: rest => some ((cs.takeWhile isSchemeChar).map Char.toLower, rest)
  | _, _ => none

/-! ## Query and fragment -/

/-- The characters that are encoded in a query. -/
def querySet (special : Bool) : EncodeSet := if special then .specialQuery else .query

/-- The fragment, behind its mark. -/
def readFragment : List Char → Option (List Char)
  | [] => none
  | _ :: f => some (encode .fragment f)

/-- The query and the fragment, each behind its mark. -/
def readQueryAndFragment (special : Bool) : List Char →
    Option (List Char) × Option (List Char)
  | '?' :: rest =>
      (some (encode (querySet special) (rest.takeWhile (· ≠ '#'))),
        readFragment (rest.dropWhile (· ≠ '#')))
  | cs => (none, readFragment cs)

/-- A character that is no part of a path. -/
def endsPath (c : Char) : Bool := c = '?' || c = '#'

/-- A URL of which all but the path is known how to read. -/
def finish (scheme : List Char) (special : Bool) (authority : Option Authority)
    (readPath : List Char → Path) (cs : List Char) : Url :=
  let (query, fragment) := readQueryAndFragment special (cs.dropWhile fun c => !endsPath c)
  ⟨scheme, authority, readPath (cs.takeWhile fun c => !endsPath c), query, fragment⟩

/-! ## Authority -/

/-- A character that ends an authority. -/
def endsAuthority (special : Bool) (c : Char) : Bool :=
  c = '/' || endsPath c || (special && c = '\\')

/-- Split a text at its last `@`. -/
def splitUserinfo (cs : List Char) : Option (List Char × List Char) :=
  if cs.contains '@' then
    let behind := cs.reverse.takeWhile (· ≠ '@')
    some (cs.take (cs.length - behind.length - 1), behind.reverse)
  else none

/-- The user name and the password before the host.  The first colon divides them, and a
password is not empty. -/
def readUserinfo (cs : List Char) : List Char × Option (List Char) :=
  let username := encode .userinfo (cs.takeWhile (· ≠ ':'))
  match cs.dropWhile (· ≠ ':') with
  | _ :: p :: ps => (username, some (encode .userinfo (p :: ps)))
  | _ => (username, none)

/-- The length of a host, which ends at a colon outside brackets. -/
def hostLength (inside : Bool) : List Char → Nat
  | [] => 0
  | c :: cs =>
      if c = ':' && !inside then 0
      else hostLength (c = '[' || (inside && c ≠ ']')) cs + 1

/-- Read a port behind its colon, and what follows it.  In a URL of another scheme a
backslash may end it. -/
def readPort (scheme : List Char) (cs : List Char) : Except Fault (Option UInt16 × List Char) :=
  let isDigit (c : Char) : Bool := '0' ≤ c && c ≤ '9'
  let digits := cs.takeWhile isDigit
  let rest := cs.dropWhile isDigit
  let value := (Numeral.value? 10 digits).getD 0
  if 65536 ≤ value then .error .port
  else
    match rest with
    | [] | '\\' :: _ =>
        let port := UInt16.ofNat value
        let shown := if digits = [] ∨ defaultPort? scheme = some port then none else some port
        .ok (shown, rest)
    | _ => .error .port

/-- Read an authority other than that of a file, and what follows it before the path. -/
def readAuthority [Idna] (scheme : List Char) (special : Bool) (cs : List Char) :
    Except Fault (Authority × List Char) := do
  let (userinfo, place) := (splitUserinfo cs).getD ([], cs)
  let (username, password) := readUserinfo userinfo
  let length := hostLength false place
  let hostText := place.take length
  let portText := place.drop length
  let host ← Host.read special hostText
  if host = none ∧ (portText ≠ [] ∨ username ≠ [] ∨ password ≠ none) then .error .emptyHost
  else
    match portText with
    | ':' :: digits =>
        let (port, rest) ← readPort scheme digits
        pure (⟨username, password, host, port⟩, rest)
    | rest => pure (⟨username, password, host, none⟩, rest)

/-- The path of a special URL behind its authority. -/
def readSpecialPath : List Char → Path
  | '/' :: cs => .segments (readSegments true cs)
  | '\\' :: cs => .segments (readSegments true cs)
  | cs => .segments (readSegments true cs)

/-- The path of a URL of another scheme behind its authority. -/
def readOtherPath : List Char → Path
  | [] => .verbatim []
  | '/' :: cs => .segments (readSegments false cs)
  | cs => .segments (readSegments false cs)

/-- Read what follows the slashes before an authority.  An `@` with nothing around it
belongs to no host. -/
def readBehindSlashes [Idna] (scheme : List Char) (special : Bool) (cs : List Char) :
    Except Fault Url := do
  let text := cs.takeWhile fun c => !endsAuthority special c
  let rest := cs.dropWhile fun c => !endsAuthority special c
  if text = ['@'] ∧ rest ≠ [] then .error .emptyHost
  else
    let (authority, left) ← readAuthority scheme special text
    let readPath := if special then readSpecialPath else readOtherPath
    pure (finish scheme special (some authority) readPath (left ++ rest))

/-! ## Files -/

/-- A slash or a backslash. -/
def isAnySlash (c : Char) : Bool := c = '/' || c = '\\'

/-- What follows a slash, if a text begins with one. -/
def behindSlash? (cs : List Char) : Option (List Char) :=
  match cs.dropWhile isBreak with
  | c :: rest => if isAnySlash c then some rest else none
  | [] => none

/-- A `file` URL by its host and by what follows the slash before its path.  The host is
dropped where the path begins with a drive. -/
def finishFile (scheme : List Char) (host : Option Host) (cs : List Char) : Url :=
  let trail := readFileSegments (cs.takeWhile fun c => !endsPath c)
  finish scheme true (some ⟨[], none, if trail.drive then none else host, none⟩)
    (fun _ => .segments (dropEmpty trail.segments))
    (dropBreaks (cs.dropWhile fun c => !endsPath c))

/-- Read a `file` URL behind the two slashes before its host.  A drive is no host, and
`localhost` is this machine.  Without a host, the slash before the path is one of the path. -/
def readFileHost [Idna] (scheme : List Char) (cs : List Char) : Except Fault Url := do
  let text := dropBreaks (cs.takeWhile fun c => !endsAuthority true c)
  let rest := cs.dropWhile fun c => !endsAuthority true c
  if isDrive text then pure (finishFile scheme none cs)
  else
    let host ← if text = [] then pure none else (Host.readSpecial text).map some
    let here : Host := .name ['l', 'o', 'c', 'a', 'l', 'h', 'o', 's', 't']
    if host = none ∨ host = some here then pure (finishFile scheme none rest)
    else pure (finishFile scheme host ((behindSlash? rest).getD rest))

/-- Read a `file` URL behind its scheme, from a text with its tabs and line breaks. -/
def readFile [Idna] (scheme : List Char) (cs : List Char) : Except Fault Url :=
  match behindSlash? cs with
  | none => .ok (finishFile scheme none cs)
  | some rest =>
      match behindSlash? rest with
      | none => .ok (finishFile scheme none rest)
      | some rest' => readFileHost scheme rest'

/-! ## The whole -/

/-- What follows the scheme of a text, as it is written. -/
def behindColon (cs : List Char) : List Char := (cs.dropWhile (· ≠ ':')).drop 1

/-- Read what follows the scheme.  `cs` is without tabs and line breaks, and `written` is
with them. -/
def readBehindScheme [Idna] (scheme cs written : List Char) : Except Fault Url :=
  match SchemeKind.ofScheme scheme with
  | .file => readFile scheme written
  | .web => readBehindSlashes scheme true (cs.dropWhile isAnySlash)
  | .other =>
      match cs with
      | '/' :: '/' :: rest => readBehindSlashes scheme false rest
      | '/' :: rest =>
          .ok (finish scheme false none
            (fun body => .segments (readSegments false (body.drop 1))) ('/' :: rest))
      | cs => .ok (finish scheme false none (fun body => .verbatim (encode .controls body)) cs)

/-- Read the characters of a URL. -/
def readChars [Idna] (cs : List Char) : Except Fault Url :=
  let written := trimControls cs
  match splitScheme (dropBreaks written) with
  | some (scheme, rest) => readBehindScheme scheme rest (behindColon written)
  | none => .error .noScheme

/-- Read a URL. -/
def read [Idna] (s : String) : Except Fault Url := readChars s.toList

/-- Read a text and show it without its password.  What is no URL is not shown. -/
def redact [Idna] (s : String) : String :=
  match read s with
  | .ok u => u.masked.text
  | .error _ => "<redacted>"

end SqlGateway.Url
