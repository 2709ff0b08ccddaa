import SqlGateway.Url.Basic

/-!
# Reading paths

A path is a list of segments between slashes.  A single dot stands for the place where it
is, and two dots for the place above, with a dot spelled as it is or encoded.  Neither
remains in the path, and nothing lies above the first segment.

A segment that names a drive, a letter and a colon, stays where two dots would remove it,
also with a backslash behind the drive.  In a `file` URL the first segment of a path may
spell the colon as a bar.  It then names a drive of this machine, and the URL has no host.

Tabs and line breaks stand for nothing, with one exception.  In a `file` URL, one of them
behind the drive in the first segment stands for a slash, if a name follows in the segment.
The name is then taken as it is, also if it is made of dots, and the host stays.
-/

namespace SqlGateway.Url

/-- An ASCII letter. -/
def isLetter (c : Char) : Bool := ('a' ≤ c && c ≤ 'z') || ('A' ≤ c && c ≤ 'Z')

/-- A letter, and a colon or a bar. -/
def isDrive : List Char → Bool
  | [c, d] => isLetter c && (d = ':' || d = '|')
  | _ => false

/-- A segment that is a drive, or a drive and more behind a backslash. -/
def beginsWithDrive : List Char → Bool
  | c :: d :: '\\' :: _ => isDrive [c, d]
  | s => isDrive s

/-- A tab or a line break. -/
def isBreak (c : Char) : Bool := c = '\t' || c = '\n' || c = '\r'

/-- A text without tabs and line breaks. -/
def dropBreaks (cs : List Char) : List Char := cs.filter fun c => !isBreak c

/-- The drive at the front of a segment and the name behind it, if a tab or a line break
stands between them. -/
def splitDrive? (s : List Char) : Option (List Char × List Char) :=
  match dropBreaks (s.takeWhile (· ≠ ':')), s.dropWhile (· ≠ ':') with
  | [c], colon :: b :: more =>
      let name := dropBreaks more
      if isLetter c && isBreak b && !name.isEmpty then some ([c, colon], name) else none
  | _, _ => none

/-- Read off the front of a segment what may spell a dot. -/
def afterDot? : List Char → Option (List Char)
  | '.' :: cs => some cs
  | '%' :: '2' :: 'e' :: cs => some cs
  | '%' :: '2' :: 'E' :: cs => some cs
  | _ => none

/-- A segment that spells one dot. -/
def isSingleDot (s : List Char) : Bool := afterDot? s = some []

/-- A segment that spells two dots. -/
def isDoubleDot (s : List Char) : Bool := (afterDot? s).bind afterDot? = some []

/-- The segments above, which keep a drive. -/
def parent (done : List (List Char)) : List (List Char) :=
  match done.getLast? with
  | some s => if beginsWithDrive s then done else done.dropLast
  | none => []

/-- Split a path at its slashes.  In a special URL a backslash is a slash. -/
def splitSlashes (special : Bool) (cs : List Char) : List (List Char) :=
  splitWhere (fun c => c = '/' || (special && c = '\\')) cs

/-- A drive spelled with a colon. -/
def driveName (s : List Char) : List Char := s.take 1 ++ [':']

/-- How far a path is read. -/
structure Trail where
  /-- The segments so far. -/
  segments : List (List Char) := []
  /-- The first of them is a drive of this machine. -/
  drive : Bool := false

/-- Put a segment after those that are done.  A last one that is made of dots leaves an
empty one behind it. -/
def Trail.step (file last : Bool) (t : Trail) (s : List Char) : Trail :=
  let behind : List (List Char) := if last then [[]] else []
  if isDoubleDot s then { t with segments := parent t.segments ++ behind }
  else if isSingleDot s then { t with segments := t.segments ++ behind }
  else if file && t.segments.isEmpty && isDrive s then ⟨[driveName s], true⟩
  else { t with segments := t.segments ++ [s] }

/-- Put the segments of a path, as they are written, after those that are done. -/
def resolve (file : Bool) (t : Trail) : List (List Char) → Trail
  | [] => t
  | s :: rest =>
      match if file && t.segments.isEmpty then splitDrive? s else none with
      | some (drive, name) => resolve file ⟨[drive, encode .path name], false⟩ rest
      | none => resolve file (t.step file rest.isEmpty (encode .path (dropBreaks s))) rest

/-- The segments of a path behind its first slash. -/
def readSegments (special : Bool) (cs : List Char) : List (List Char) :=
  (resolve false {} (splitSlashes special cs)).segments

/-- The segments of a `file` path behind its first slash, with empty ones at the front. -/
def readFileSegments (cs : List Char) : Trail := resolve true {} (splitSlashes true cs)

/-- Segments without empty ones at the front, but at least one. -/
def dropEmpty (segments : List (List Char)) : List (List Char) :=
  match segments.dropWhile (·.isEmpty) with
  | [] => [[]]
  | rest => rest

end SqlGateway.Url
