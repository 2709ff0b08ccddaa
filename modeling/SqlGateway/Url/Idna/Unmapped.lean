import SqlGateway.Url.Idna

/-!
# Names whose characters are mapped to themselves

Most names beyond ASCII that are written down are in lower case and composed, and then no table
is needed to spell them.  The instance here spells these.  It refuses any other name, which a
library with its tables may spell.
-/

namespace SqlGateway.Url

namespace Label

/-- The spelling of a label of which every character is mapped to itself. -/
def spell? (label : List Char) : Option (List Char) :=
  if label.all fun c => c.toNat < 0x80 then some label
  else (some (mark ++ Punycode.encode label)).filter fun code => spelled? code = some label

/-- The spelling of a label that has characters beyond ASCII is read as that label. -/
theorem spelled?_of_spell? {label code : List Char} (beyond : ∃ c ∈ label, 0x80 ≤ c.toNat)
    (h : spell? label = some code) : spelled? code = some label := by
  obtain ⟨c, mem, high⟩ := beyond
  have all : label.all (fun c => c.toNat < 0x80) ≠ true := fun ascii =>
    absurd (of_decide_eq_true (List.all_eq_true.mp ascii c mem)) (Nat.not_lt.mpr high)
  rw [spell?, if_neg all] at h
  exact of_decide_eq_true (Option.filter_eq_some_iff.mp h).2

example : spell? "münchen".toList = some "xn--mnchen-3ya".toList := by decide +kernel

end Label

/-- The spelling of names of which every character beyond ASCII is mapped to itself.  A name is
refused where a table would have to map a character of it to others. -/
instance : LawfulIdna where
  toAscii cs :=
    let labels := splitWhere (· = '.') (cs.map Char.toLower)
    ((labels.mapM Label.spell?).map (joinWith ['.'])).filter fun name => decide (IsSpelled name)
  isSpelled_of_toAscii h := of_decide_eq_true (Option.filter_eq_some_iff.mp h).2

end SqlGateway.Url
