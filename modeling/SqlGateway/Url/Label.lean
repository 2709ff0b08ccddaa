import SqlGateway.Text.Canonical
import SqlGateway.Text.Direction
import SqlGateway.Text.Joining
import SqlGateway.Text.Parts
import SqlGateway.Text.Punycode
import SqlGateway.Url.Label.Table

/-!
# Labels

A name is made of labels with points between them.  A label with `xn--` before it spells
another one, which has characters beyond ASCII.  `Label.spelled?` reads it, and refuses it
unless it is written as such labels are.

* Each of its characters is allowed.
* It is composed.
* It does not begin with a mark, and not with `xn--` itself.
* Its joiners are where they may be.

`Label.allRead` says that a name has only labels that can be read, and that they have one
direction each if one of them makes the name mixed.
-/

namespace SqlGateway.Url.Label

/-- What stands before a label that spells another one. -/
def mark : List Char := ['x', 'n', '-', '-']

/-- The characters that no name has, once it is decoded. -/
def isForbidden (c : Char) : Bool :=
  c ≤ ' ' || c = '\x7f' ||
    ['%', '#', '/', ':', '<', '>', '?', '@', '[', '\\', ']', '^', '|'].contains c

/-- A character that a label may spell. -/
def isAllowed (c : Char) : Bool :=
  if c.toNat < 0x80 then !isForbidden c && !c.isUpper
  else lowRanges.has c || highRanges.has c

/-- A label is written as one that another label spells. -/
def isSpellable (label : List Char) : Bool :=
  label.all isAllowed && Canonical.isComposed label &&
    !label.head?.any markRanges.has && !mark.isPrefixOf label &&
    Joining.allPlaced [] label

/-- The greatest number of characters that are read behind the mark of a label. -/
def longest : Nat := 2000

/-- The label that a label in lower case spells. -/
def spelled? (label : List Char) : Option (List Char) :=
  if mark.isPrefixOf label then
    let code := label.drop mark.length
    if code = [] ∨ code.getLast? = some '-' ∨ longest < code.length then none
    else (Punycode.decode? code).filter isSpellable
  else some label

/-- The labels of a name in lower case can be read, and go together. -/
def allRead (name : List Char) : Bool :=
  match (splitWhere (· = '.') name).mapM spelled? with
  | none => false
  | some labels => !labels.any Direction.isMixing || labels.all Direction.isOneWay

end SqlGateway.Url.Label
