import SqlGateway.Text.Blank

/-!
# The parts of a pattern

A *pattern* is a text that describes other texts.  It is made of items: characters, sets of
characters in brackets, groups in parentheses, marks of repetition, and backslashes that
give a character another meaning.  Bars cut a group, or the whole pattern, into branches.

The `Flags` say what the characters of a pattern mean.  A group has flags of its own, which
begin as those around it.  A `Bracket` and a `Group` are what is known of a set and of a
group while they are read.

The *height* of a part says how deep it nests.  Items that stand alone have no height.  A
part is one higher than the highest of what it is made of, and `together` is the height of
a row of parts, which is a part only if it has two members at least.
-/

namespace SqlGateway.Pattern

/-! ## Flags -/

/-- What the characters of a pattern mean. -/
structure Flags where
  /-- A letter means both its cases. -/
  anyCase : Bool := false
  /-- What a pattern describes is made of characters, and not of bytes. -/
  unicode : Bool := true
  /-- Blanks and comments between the items mean nothing. -/
  spaced : Bool := false

namespace Flags

/-- The letters of flags.  Those that no field stands for make no difference to what can be
read. -/
def letters : List Char := ['i', 'm', 's', 'U', 'u', 'R', 'x']

/-- Switch flags by their letters.  Those behind a minus are switched off. -/
def switch (f : Flags) (on : Bool) : List Char → Flags
  | [] => f
  | c :: cs =>
      if c = '-' then f.switch false cs
      else if c = 'i' then { f with anyCase := on }.switch on cs
      else if c = 'u' then { f with unicode := on }.switch on cs
      else if c = 'x' then { f with spaced := on }.switch on cs
      else f.switch on cs

/-- A character may mean itself.  The other case of a character is not known, and a set of
bytes holds no character of more than one. -/
def allows (f : Flags) (inBracket : Bool) (c : Char) : Bool :=
  if f.unicode then !f.anyCase else !inBracket || c.toNat < 0x80

/-- The character that says what the dash in front of it means.  Where blanks mean nothing
it is the first that is neither a blank nor the first sign of a comment. -/
def behindDash? (f : Flags) (comment : Bool) : List Char → Option Char
  | [] => none
  | c :: cs =>
      if f.spaced && isBlank c then f.behindDash? comment cs
      else if f.spaced && c = '#' && !comment then f.behindDash? true cs
      else some c

end Flags

/-! ## Heights -/

/-- The height of parts in a row. -/
def together : List Nat → Nat
  | [] => 0
  | [h] => h
  | hs => hs.foldl max 0 + 1

/-- The greatest height of a pattern. -/
def maxHeight : Nat := 250

/-! ## Sets in brackets -/

/-- A bracket that is open. -/
structure Bracket where
  /-- The characters that it does not hold are meant. -/
  complement : Bool := false
  /-- The height of the operands in front, if there are any. -/
  operands : Option Nat := none
  /-- The heights of the items of the last operand. -/
  items : List Nat := []
  /-- Its text so far, last character first. -/
  text : List Char := []

namespace Bracket

/-- The height of what is in a bracket.  Each sign between operands makes a part of those in
front of it and the one behind it. -/
def height (b : Bracket) : Nat :=
  match b.operands with
  | none => together b.items
  | some h => max h (together b.items) + 1

/-- Add an item. -/
def add (b : Bracket) (h : Nat) : Bracket := { b with items := h :: b.items }

/-- Begin another operand. -/
def nextOperand (b : Bracket) : Bracket := { b with operands := some b.height, items := [] }

/-- The names of sets. -/
def names : List String :=
  [ "alnum", "alpha", "ascii", "blank", "cntrl", "digit", "graph", "lower", "print", "punct",
    "space", "upper", "word", "xdigit" ]

/-- A bracket, in another, whose text is a name between colons means the set of that
name. -/
def isName (b : Bracket) : Bool :=
  names.any fun name => b.text.reverse = ':' :: (name.toList ++ [':', ']'])

/-- With a caret in front of the name, the characters that the set does not hold are
meant. -/
def isNameOfComplement (b : Bracket) : Bool :=
  names.any fun name => b.text.reverse = ':' :: '^' :: (name.toList ++ [':', ']'])

end Bracket

/-! ## Groups -/

/-- What a branch is made of. -/
inductive Item where
  /-- Letters that switch flags.  They cannot be repeated. -/
  | switch
  /-- A part of a height. -/
  | part (height : Nat)

/-- The height of an item. -/
def Item.height : Item → Nat
  | .switch => 0
  | .part h => h

/-- A group that is open, or the whole pattern. -/
structure Group where
  /-- The flags from here to its end. -/
  flags : Flags := {}
  /-- The heights of its branches that are complete. -/
  branches : List Nat := []
  /-- The items of its last branch, last first. -/
  items : List Item := []

namespace Group

/-- Add an item. -/
def add (g : Group) (i : Item) : Group := { g with items := i :: g.items }

/-- The height of the last branch. -/
def lastBranch (g : Group) : Nat := together (g.items.map Item.height)

/-- Begin another branch. -/
def nextBranch (g : Group) : Group :=
  { g with branches := g.lastBranch :: g.branches, items := [] }

/-- The height of what is in a group. -/
def height (g : Group) : Nat := together (g.lastBranch :: g.branches)

/-- Repeat the last item. -/
def repeated? (g : Group) : Option Group :=
  match g.items with
  | .part h :: is => some { g with items := .part (h + 1) :: is }
  | _ => none

end Group

end SqlGateway.Pattern
