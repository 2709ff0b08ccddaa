import SqlGateway.Url.Label

/-!
# Names beyond ASCII

A decoded name with characters beyond ASCII is not asked for as it is.  It is spelled in ASCII:
its characters are mapped to others, composed, and each label that still has characters beyond
ASCII is written in Punycode.

What is mapped to what is the matter of a library and of its tables.  So the spelling is given
from outside, by an `Idna`.  Everything that reads a URL takes one, and whatever is said of
reading is said for each of them.  A name of ASCII alone needs no tables, and `Idna.spell?`
spells it without them.

Where a URL is shown and read again, more is asked for: that a spelling is a name in ASCII that
spells itself (`LawfulIdna`).  It is what the standard for such names promises, of labels that
are not too long to be read (`Label.longest`).
-/

namespace SqlGateway.Url

/-- A name in ASCII that is spelled as it is: it has no capital letters and no characters that
names do not have, and its labels can be read. -/
structure IsSpelled (name : List Char) : Prop where
  /-- It is in ASCII. -/
  ascii : ∀ c ∈ name, c.toNat < 0x80
  /-- It has only characters that names have. -/
  allowed : ∀ c ∈ name, Label.isForbidden c = false
  /-- It is in lower case. -/
  lower : name.map Char.toLower = name
  /-- Its labels can be read. -/
  readable : Label.allRead name = true

instance (name : List Char) : Decidable (IsSpelled name) :=
  decidable_of_iff
    ((name.all fun c => c.toNat < 0x80) = true ∧ name.any Label.isForbidden = false ∧
      name.map Char.toLower = name ∧ Label.allRead name = true)
    ⟨fun ⟨ascii, allowed, lower, readable⟩ =>
        ⟨fun c mem => of_decide_eq_true (List.all_eq_true.mp ascii c mem),
          fun c mem => Bool.eq_false_iff.mpr (List.any_eq_false.mp allowed c mem), lower, readable⟩,
      fun h =>
        ⟨List.all_eq_true.mpr fun c mem => decide_eq_true (h.ascii c mem),
          List.any_eq_false.mpr fun c mem => Bool.eq_false_iff.mp (h.allowed c mem), h.lower,
          h.readable⟩⟩

/-- How names beyond ASCII are spelled. -/
class Idna where
  /-- The spelling of a decoded name that has characters beyond ASCII, unless it is refused. -/
  toAscii : List Char → Option (List Char)

/-- Names beyond ASCII are spelled by names that spell themselves. -/
class LawfulIdna extends Idna where
  /-- A spelling spells itself. -/
  isSpelled_of_toAscii : ∀ {cs name : List Char}, toAscii cs = some name → IsSpelled name

namespace Idna

/-- The spelling of a decoded name, unless it is refused.  A name of ASCII alone is written in
lower case. -/
def spell? [Idna] (cs : List Char) : Option (List Char) :=
  if cs.all fun c => c.toNat < 0x80 then
    let lower := cs.map Char.toLower
    if cs.any Label.isForbidden || !Label.allRead lower then none else some lower
  else toAscii cs

end Idna

end SqlGateway.Url
