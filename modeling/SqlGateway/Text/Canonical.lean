import SqlGateway.Text.Canonical.Table

/-!
# Composed text

A letter with marks can be spelled in more than one way: as one character that is composed
of them, or as the letter with marks behind it.  In a composed text the marks of a letter
stand in the order of their combining classes, and nothing is left that would compose.

`compose` takes a text apart, sorts its marks, and puts it together, and `isComposed` says
that this changes nothing.  The tables know the characters that a label may spell, so other
texts may pass for composed.
-/

namespace SqlGateway.Canonical

/-! ## Two characters for one -/

/-- The syllables of Hangul, and the first of each of the three kinds of their letters.  The
third kind has no letter in the first of its 28 places. -/
def hangul : Nat × Nat × Nat × Nat := (0xAC00, 0x1100, 0x1161, 0x11A7)

/-- The two characters that a syllable of Hangul is composed of. -/
def syllableParts? (n : Nat) : Option (Nat × Nat) :=
  let (first, leads, vowels, trails) := hangul
  if n < first ∨ first + 19 * 588 ≤ n then none
  else
    let i := n - first
    if i % 28 ≠ 0 then some (n - i % 28, trails + i % 28)
    else some (leads + i / 588, vowels + i % 588 / 28)

/-- The syllable of Hangul that two characters compose. -/
def syllable? (a b : Nat) : Option Nat :=
  let (first, leads, vowels, trails) := hangul
  if leads ≤ a ∧ a < leads + 19 ∧ vowels ≤ b ∧ b < vowels + 21 then
    some (first + (a - leads) * 588 + (b - vowels) * 28)
  else if first ≤ a ∧ a < first + 19 * 588 ∧ (a - first) % 28 = 0 ∧ trails < b ∧
      b < trails + 28 then
    some (a + (b - trails))
  else none

/-- The two characters that one is composed of. -/
def parts? (n : Nat) : Option (Nat × Nat) := (composites.lookup n).or (syllableParts? n)

/-- The character that two compose. -/
def composite? (a b : Nat) : Option Nat :=
  ((composites.find? fun c => c.2 = (a, b)).map Prod.fst).or (syllable? a b)

/-- Where at its letter a character stands, or 0 for a letter. -/
def combiningClass (c : Char) : Nat := (combiningClasses.find? c).getD 0

/-! ## Texts -/

/-- Take a character apart, `depth` times. -/
def takeApart : (depth : Nat) → Nat → List Char
  | 0, n => [Char.ofNat n]
  | depth + 1, n =>
      match parts? n with
      | some (a, b) => takeApart depth a ++ [Char.ofNat b]
      | none => [Char.ofNat n]

/-- How often a character can be taken apart. -/
def depth : Nat := 4

/-- Put a character into a text whose marks are sorted, last character first.  It goes before
the marks with a greater class. -/
def sortIn (c : Char) : List Char → List Char
  | [] => [c]
  | d :: ds =>
      if combiningClass c ≠ 0 ∧ combiningClass c < combiningClass d then d :: sortIn c ds
      else c :: d :: ds

/-- A text that is being put together. -/
structure Assembly where
  /-- What is finished, last character first. -/
  done : List Char := []
  /-- The last letter. -/
  letter : Option Char := none
  /-- The marks that stay behind it, last one first. -/
  marks : List Char := []

/-- Put the next character to the last letter, if nothing between them keeps them apart and
they compose. -/
def Assembly.add (s : Assembly) (c : Char) : Assembly :=
  let near :=
    match s.marks with
    | [] => true
    | m :: _ => combiningClass m < combiningClass c
  match s.letter.bind fun l => if near then composite? l.toNat c.toNat else none with
  | some n => { s with letter := some (Char.ofNat n) }
  | none =>
      if combiningClass c = 0 then ⟨s.marks ++ s.letter.toList ++ s.done, some c, []⟩
      else { s with marks := c :: s.marks }

/-- The text of an assembly. -/
def Assembly.text (s : Assembly) : List Char := (s.marks ++ s.letter.toList ++ s.done).reverse

/-- The composed text of a text. -/
def compose (cs : List Char) : List Char :=
  let apart := cs.flatMap fun c => takeApart depth c.toNat
  let sorted := (apart.foldl (fun ds c => sortIn c ds) []).reverse
  (sorted.foldl Assembly.add {}).text

/-- A text is composed. -/
def isComposed (cs : List Char) : Bool := compose cs = cs

end SqlGateway.Canonical
