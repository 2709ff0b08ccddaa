/-!
# Punycode

A text in a small alphabet that stands for one in any characters.  Before the last hyphen
are the characters of the alphabet as they are.  Behind it are numbers, one for each other
character, in the order of their code points.  A number says how many steps there are from
the last such character to this one, where a step goes to the next place of the text, and
from its last place to the first place with the next code point.

A number is written with its least digit first.  A digit below a threshold ends it, and
the thresholds follow the size of the numbers so far, the `bias`.

`decode?` reads the numbers one after another and puts their characters in place.  `encode`
lists the characters in the order in which they are put in place, and writes a number for each.
-/

namespace SqlGateway.Punycode

/-! ## Reading -/

/-- The value of a digit: of a letter from 0, and of a decimal digit from 26. -/
def digit? (c : Char) : Option Nat :=
  if 'a' ≤ c && c ≤ 'z' then some (c.toNat - 97)
  else if 'A' ≤ c && c ≤ 'Z' then some (c.toNat - 65)
  else if '0' ≤ c && c ≤ '9' then some (c.toNat - 22)
  else none

/-- The threshold at a place, which is a multiple of 36. -/
def threshold (place bias : Nat) : Nat :=
  if place ≤ bias then 1 else if bias + 26 ≤ place then 26 else place - bias

/-- The bias after a number, by which the text came to have `count` characters. -/
def adapt (number count : Nat) (first : Bool) : Nat :=
  let halved := if first then number / 700 else number / 2
  shrink (halved + halved / count) 0
where
  /-- Divide by 35 until at most 455 is left. -/
  shrink (n steps : Nat) : Nat :=
    if 455 < n then shrink (n / 35) (steps + 36) else steps + 36 * n / (n + 38)
  termination_by n
  decreasing_by exact Nat.div_lt_self (Nat.lt_of_le_of_lt (Nat.zero_le _) ‹_›) (by decide)

/-- Read a number off the front of a text.  Its digits so far give `sum`, and the next one
counts `weight` times. -/
def number? (bias place weight sum : Nat) :
    (cs : List Char) → Option (Nat × { rest : List Char // rest.length < cs.length })
  | [] => none
  | c :: cs =>
      (digit? c).bind fun d =>
        let t := threshold place bias
        if d < t then some (sum + d * weight, ⟨cs, Nat.lt_succ_self _⟩)
        else
          (number? bias (place + 36) (weight * (36 - t)) (sum + d * weight) cs).map
            fun (n, rest) => (n, ⟨rest.1, Nat.lt_succ_of_lt rest.2⟩)

/-- Put the characters that numbers stand for into a text.  The last one had a code point
`code`, and `place` is the place behind it. -/
def insertAll (code place bias : Nat) (text cs : List Char) : Option (List Char) :=
  match cs with
  | [] => some text
  | c :: cs =>
      match number? bias 36 1 0 (c :: cs) with
      | none => none
      | some (n, ⟨rest, h⟩) =>
          let count := text.length + 1
          let next := code + (place + n) / count
          let here := (place + n) % count
          if next.isValidChar then
            insertAll next (here + 1) (adapt n count (place = 0))
              (text.insertIdx here (Char.ofNat next)) rest
          else none
termination_by cs.length
decreasing_by exact h

/-- The text that a text stands for.  Its own characters are read in lower case. -/
def decode? (cs : List Char) : Option (List Char) :=
  let behind := (cs.reverse.takeWhile (· ≠ '-')).reverse
  if behind.length = cs.length then insertAll 128 0 72 [] cs
  else
    match cs.take (cs.length - behind.length - 1) with
    | [] => none
    | own => insertAll 128 0 72 (own.map Char.toLower) behind

/-! ## Writing -/

/-- The digit of a value. -/
def digit (n : Nat) : Char := Char.ofNat (if n < 26 then n + 97 else n + 22)

theorem threshold_pos (place bias : Nat) : 0 < threshold place bias := by
  rw [threshold]
  split
  · decide
  · split <;> omega

/-- The digits of a number, from a place on. -/
def digits (bias place number : Nat) : List Char :=
  let t := threshold place bias
  if number < t then [digit number]
  else digit (t + (number - t) % (36 - t)) :: digits bias (place + 36) ((number - t) / (36 - t))
termination_by number
decreasing_by
  have pos := threshold_pos place bias
  have le := Nat.div_le_self (number - threshold place bias) (36 - threshold place bias)
  omega

/-- The numbers for characters that are put into a text one after another.  Of each, its code
point and its place in the text so far are given, which has `count` characters.  The last one had
a code point `code`, and `place` is the place behind it. -/
def numbers (code place bias count : Nat) : List (Nat × Nat) → List Char
  | [] => []
  | (next, here) :: rest =>
      let n := (next - code) * (count + 1) + here - place
      digits bias 36 n ++ numbers next (here + 1) (adapt n (count + 1) (place = 0)) (count + 1) rest

/-- The characters of a text beyond the alphabet in the order of their code points, each with its
place among those before it in that order and those of the alphabet. -/
def insertions (cs : List Char) : List (Nat × Nat) :=
  let beyond := cs.zipIdx.filter fun (c, _) => 0x80 ≤ c.toNat
  (beyond.mergeSort fun a b => a.1 ≤ b.1).map fun (c, i) => (c.toNat, (cs.take i).countP (· ≤ c))

/-- A text that stands for a text. -/
def encode (cs : List Char) : List Char :=
  let own := cs.filter fun c => c.toNat < 0x80
  (if own = [] then [] else own ++ ['-']) ++ numbers 128 0 72 own.length (insertions cs)

end SqlGateway.Punycode
