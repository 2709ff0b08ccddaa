import SqlGateway.Text.Letter
import SqlGateway.Text.Numeral
import SqlGateway.Text.Pattern.Basic

/-!
# Reading a pattern

`isReadable` says whether a text is a pattern.  A `Mode` says where in a pattern the next
character stands, and `Reader.step` reads one character, with a glance at those behind it.

A text is no pattern if one of these things is in it.

* A parenthesis or a bracket without its partner, or a backslash with nothing behind it.
* A mark of repetition with nothing in front of it, or a brace, which would count
  repetitions.
* A range whose last character is before its first.
* A group that looks ahead or behind, a name of a group that is taken, or a letter that is
  no flag.
* What needs the properties of characters: the other case of a letter, a set such as that
  of all digits, or the edge of a word.  Of bytes, these are known.
* What might mean a part of a character: a byte that is not ASCII, every byte, or all bytes
  but some.
* Parts that nest too deep.
-/

namespace SqlGateway.Pattern

/-! ## Meanings -/

/-- What a backslash and the characters behind it mean. -/
inductive Meaning where
  /-- A character. -/
  | character (c : Char)
  /-- One of several characters. -/
  | several
  /-- A place between two characters. -/
  | place

/-- The control character that a letter behind a backslash means. -/
def control? (c : Char) : Option Char :=
  match c with
  | 'a' => some '\x07'
  | 'f' => some '\x0c'
  | 't' => some '\t'
  | 'n' => some '\n'
  | 'r' => some '\r'
  | 'v' => some '\x0b'
  | _ => none

/-- How many digits name a character behind a letter that a backslash precedes. -/
def digitCount? (c : Char) : Option Nat :=
  match c with
  | 'x' => some 2
  | 'u' => some 4
  | 'U' => some 8
  | _ => none

/-- What a character behind a backslash means. -/
def Flags.meaning? (f : Flags) (c : Char) : Option Meaning :=
  if c = 'A' || c = 'z' then some .place
  else if c = 'b' || c = 'B' || c = '<' || c = '>' then
    if f.unicode then none else some .place
  else if c = 'd' || c = 's' || c = 'w' then if f.unicode then none else some .several
  else if c.isAlphanum then (control? c).map .character
  else if c.toNat < 0x80 then some (.character c)
  else none

/-! ## Modes -/

/-- Where the next character stands.  Behind a backslash in a bracket, `low` is the lower end
of a range of which the upper end comes next. -/
inductive Mode where
  /-- Between two items. -/
  | between
  /-- Behind a mark of repetition. -/
  | repeated
  /-- Behind the parenthesis that opens a group. -/
  | opened
  /-- Behind the question mark there. -/
  | asked
  /-- Behind a `P` there, which an angle bracket must follow. -/
  | askedName
  /-- Behind an angle bracket there. -/
  | angle
  /-- In the name of a group, of which the characters so far are given, last first. -/
  | name (read : List Char)
  /-- In the letters of flags, which are given, last first. -/
  | switching (read : List Char)
  /-- Behind a backslash. -/
  | escaped (low : Option Char)
  /-- In the digits that name a character: how many are to come, and the number so far.  A
  `byte` is named by two. -/
  | digits (low : Option Char) (byte : Bool) (left value : Nat)
  /-- Behind the opening bracket of a set.  A caret may come, if there was none yet. -/
  | front (caret : Bool)
  /-- Between two items of a set. -/
  | inside
  /-- At the second half of a sign between operands. -/
  | secondHalf
  /-- Behind an item of a set that may begin a range. -/
  | behind (m : Meaning)
  /-- Behind the dash of a range. -/
  | range (low : Char)

/-- The mode behind a blank or a comment that means nothing. -/
def Mode.behindBlank? : Mode → Option Mode
  | .repeated => some .between
  | .asked | .askedName | .angle | .name _ | .switching _ | .escaped _ | .secondHalf => none
  | m => some m

/-- What is known of a pattern while it is read. -/
structure Reader where
  /-- The innermost group that is open. -/
  group : Group := {}
  /-- The groups around it, innermost first. -/
  outer : List Group := []
  /-- The brackets that are open, innermost first. -/
  brackets : List Bracket := []
  /-- The names of groups. -/
  names : List (List Char) := []
  /-- Where the next character stands. -/
  mode : Mode := .between
  /-- The next character stands in a comment. -/
  comment : Bool := false

namespace Reader

/-- The flags from here on. -/
def flags (r : Reader) : Flags := r.group.flags

/-! ## Items -/

/-- Add an item of a height to the group. -/
def add (r : Reader) (h : Nat) : Reader :=
  { r with group := r.group.add (.part h), mode := .between }

/-- Add an item of a height to a bracket, of which the ones around are given. -/
def addInside (r : Reader) (b : Bracket) (bs : List Bracket) (h : Nat) : Reader :=
  { r with brackets := b.add h :: bs, mode := .inside }

/-- Go on behind something that has a meaning. -/
def meant (r : Reader) (low : Option Char) (m : Meaning) : Option Reader :=
  match r.brackets, low, m with
  | [], _, _ => some (r.add 0)
  | _ :: _, _, .place => none
  | _ :: _, none, m => some { r with mode := .behind m }
  | b :: bs, some l, .character c => if l ≤ c then some (r.addInside b bs 0) else none
  | _ :: _, some _, .several => none

/-- Go on behind something that means a character. -/
def literal (r : Reader) (low : Option Char) (c : Char) : Option Reader :=
  if r.flags.allows (!r.brackets.isEmpty) c then r.meant low (.character c) else none

/-! ## Behind a backslash -/

/-- Read the character behind a backslash. -/
def escape (r : Reader) (low : Option Char) (c : Char) : Option Reader :=
  match digitCount? c with
  | some n => some { r with mode := .digits low (c = 'x') n 0 }
  | none =>
      match r.flags.meaning? c with
      | some (.character c) => r.literal low c
      | some m => r.meant low m
      | none => none

/-- Read a digit of the number that names a character. -/
def digit (r : Reader) (low : Option Char) (byte : Bool) (left value : Nat) (c : Char) :
    Option Reader :=
  match Numeral.digit? 16 c with
  | none => none
  | some d =>
      let value := value * 16 + d
      if 1 < left then some { r with mode := .digits low byte (left - 1) value }
      else if !value.isValidChar || byte && !r.flags.unicode && 0x80 ≤ value then none
      else r.literal low (Char.ofNat value)

/-! ## Groups -/

/-- Open a group. -/
def openGroup (r : Reader) (f : Flags) : Reader :=
  { r with group := { flags := f }, outer := r.group :: r.outer, mode := .between }

/-- Close a group. -/
def closeGroup (r : Reader) : Option Reader :=
  match r.outer with
  | [] => none
  | g :: gs => some ({ r with group := g, outer := gs }.add (r.group.height + 1))

/-- Read a character of the name of a group, or the angle bracket that ends it. -/
def nameGroup (r : Reader) (read : List Char) (c : Char) : Option Reader :=
  if c = '>' then
    if read = [] || r.names.contains read then none
    else some ({ r with names := read :: r.names }.openGroup r.flags)
  else
    let isAllowed :=
      if read = [] then c = '_' || isAlphabetic c
      else c = '_' || c = '.' || c = '[' || c = ']' || isAlphanumeric c
    if isAllowed then some { r with mode := .name (c :: read) } else none

/-- Read a letter of a flag, or what ends the letters.  A colon opens a group with other
flags, and a parenthesis changes those of the group that is open. -/
def switchFlags (r : Reader) (read : List Char) (c : Char) : Option Reader :=
  if c = ':' || c = ')' then
    let flags := r.flags.switch true read.reverse
    if read.head? = some '-' then none
    else if c = ':' then some (r.openGroup flags)
    else if read = [] then none
    else
      some { r with group := { r.group with flags := flags }.add .switch, mode := .between }
  else if read.contains c then none
  else if c = '-' || Flags.letters.contains c then
    some { r with mode := .switching (c :: read) }
  else none

/-- Read a character between two items. -/
def item (r : Reader) (c : Char) : Option Reader :=
  match c with
  | '(' => some { r with mode := .opened }
  | ')' => r.closeGroup
  | '|' => some { r with group := r.group.nextBranch, mode := .between }
  | '[' => some { r with brackets := [{}], mode := .front true }
  | '?' | '*' | '+' => r.group.repeated?.map fun g => { r with group := g, mode := .repeated }
  | '{' => none
  | '\\' => some { r with mode := .escaped none }
  | '.' => if r.flags.unicode then some (r.add 0) else none
  | '^' | '$' => some (r.add 0)
  | c => r.literal none c

/-! ## Sets -/

/-- Close a bracket, of which the ones around are given. -/
def closeBracket (r : Reader) (b : Bracket) : List Bracket → Option Reader
  | [] =>
      if b.complement && !r.flags.unicode then none
      else some ({ r with brackets := [] }.add (b.height + 1))
  | a :: bs =>
      if b.isName then some (r.addInside a bs 0)
      else if b.isNameOfComplement then
        if r.flags.unicode then some (r.addInside a bs 0) else none
      else if b.complement && !r.flags.unicode then none
      else some (r.addInside a bs (b.height + 1))

/-- Read a character between two items of a bracket, of which the ones around are given. -/
def setItem (r : Reader) (b : Bracket) (bs : List Bracket) (c : Char) (behind : List Char) :
    Option Reader :=
  match c with
  | '[' => some { r with brackets := {} :: b :: bs, mode := .front true }
  | ']' => r.closeBracket b bs
  | '\\' => some { r with mode := .escaped none }
  | c =>
      if (c = '&' || c = '-' || c = '~') && behind.head? = some c then
        some { r with brackets := b.nextOperand :: bs, mode := .secondHalf }
      else r.literal none c

/-- Read a character at the front of a bracket.  A dash means itself there, and so does a
closing bracket with nothing before it. -/
def setFront (r : Reader) (caret : Bool) (b : Bracket) (bs : List Bracket) (c : Char)
    (behind : List Char) : Option Reader :=
  if c = '^' && caret then
    some { r with brackets := { b with complement := true } :: bs, mode := .front false }
  else if c = '-' then
    if r.flags.allows true c then
      some { r.addInside b bs 0 with mode := .front false }
    else none
  else if c = ']' && b.items = [] then
    if r.flags.allows true c then some (r.addInside b bs 0) else none
  else r.setItem b bs c behind

/-- Read a character behind an item of a bracket.  A dash there makes a range, unless a
closing bracket or another dash comes next. -/
def setBehind (r : Reader) (m : Meaning) (b : Bracket) (bs : List Bracket) (c : Char)
    (behind : List Char) : Option Reader :=
  let next := r.flags.behindDash? false behind
  if c = '-' && next ≠ some ']' && next ≠ some '-' then
    match m with
    | .character low => some { r with mode := .range low }
    | _ => none
  else (r.addInside b bs 0).setItem (b.add 0) bs c behind

/-- Read a character of a set, of which the bracket and the ones around are given. -/
def stepInside (r : Reader) (b : Bracket) (bs : List Bracket) (c : Char) (behind : List Char) :
    Option Reader :=
  match r.mode with
  | .front caret => r.setFront caret b bs c behind
  | .secondHalf => some { r with mode := .inside }
  | .behind m => r.setBehind m b bs c behind
  | .range low =>
      if c = '\\' then some { r with mode := .escaped (some low) } else r.literal (some low) c
  | _ => r.setItem b bs c behind

/-! ## Characters -/

/-- Read a character by the mode, with those behind it given. -/
def stepByMode (r : Reader) (c : Char) (behind : List Char) : Option Reader :=
  match r.mode with
  | .escaped low => r.escape low c
  | .digits low byte left value => r.digit low byte left value c
  | .repeated => if c = '?' then some { r with mode := .between } else r.item c
  | .opened =>
      if c = '?' then some { r with mode := .asked } else (r.openGroup r.flags).item c
  | .asked =>
      if c = 'P' then some { r with mode := .askedName }
      else if c = '<' then some { r with mode := .angle }
      else r.switchFlags [] c
  | .askedName => if c = '<' then some { r with mode := .name [] } else none
  | .angle => r.nameGroup [] c
  | .name read => r.nameGroup read c
  | .switching read => r.switchFlags read c
  | _ =>
      match r.brackets with
      | [] => r.item c
      | b :: bs => r.stepInside b bs c behind

/-- Note a character in the text of the innermost bracket. -/
def note (r : Reader) (c : Char) : Reader :=
  match r.brackets with
  | [] => r
  | b :: bs => { r with brackets := { b with text := c :: b.text } :: bs }

/-- The reader behind a blank or the sign of a comment, if they mean nothing here. -/
def blank? (r : Reader) (c : Char) : Option Reader :=
  if r.flags.spaced && (isBlank c || c = '#') then
    r.mode.behindBlank?.map fun m => { r with mode := m, comment := c = '#' }
  else none

/-- Read a character, with those behind it given. -/
def step (r : Reader) (c : Char) (behind : List Char) : Option Reader :=
  let r := r.note c
  if r.comment then some { r with comment := c ≠ '\n' }
  else
    match r.blank? c with
    | some r => some r
    | none => r.stepByMode c behind

/-- Read characters. -/
def read (r : Reader) : List Char → Option Reader
  | [] => some r
  | c :: cs =>
      match r.step c cs with
      | some r => r.read cs
      | none => none

/-- The pattern may end here. -/
def isComplete (r : Reader) : Bool :=
  (match r.mode with
    | .between | .repeated => true
    | _ => false) &&
  r.outer.isEmpty && decide (r.group.height ≤ maxHeight)

end Reader

/-- A text is a pattern. -/
def isReadable (cs : List Char) : Bool :=
  match ({} : Reader).read cs with
  | some r => r.isComplete
  | none => false

end SqlGateway.Pattern
