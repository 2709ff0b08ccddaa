/-!
# Numerals

A numeral is a text of digits.  `Numeral.value?` is the number that digits spell in a base.
`Numeral.read` reads a decimal numeral of a number below a bound, and says what is wrong
with a text that is none.
-/

namespace SqlGateway.Numeral

/-- The value of a digit in a base of at most sixteen. -/
def digit? (base : Nat) (c : Char) : Option Nat :=
  let value? :=
    if '0' ≤ c ∧ c ≤ '9' then some (c.toNat - 48)
    else if 'a' ≤ c ∧ c ≤ 'f' then some (c.toNat - 87)
    else if 'A' ≤ c ∧ c ≤ 'F' then some (c.toNat - 55)
    else none
  value?.filter (· < base)

/-- The number that digits spell behind a number, first to last, if they are all digits. -/
def valueFrom? (base : Nat) : (acc : Nat) → List Char → Option Nat
  | acc, [] => some acc
  | acc, c :: cs =>
      match digit? base c with
      | some d => valueFrom? base (acc * base + d) cs
      | none => none

/-- The number that digits spell, if they are all digits.  No digits spell zero. -/
def value? (base : Nat) (cs : List Char) : Option Nat := valueFrom? base 0 cs

/-! ## Numbers below a bound -/

/-- Why a text is no numeral of a number below a bound. -/
inductive Fault where
  /-- It is empty. -/
  | empty
  /-- It has a character that is no digit. -/
  | digit
  /-- The number is too large. -/
  | tooLarge
deriving DecidableEq, Repr

/-- The words for a fault. -/
def Fault.message : Fault → String
  | .empty => "cannot parse integer from empty string"
  | .digit => "invalid digit found in string"
  | .tooLarge => "number too large to fit in target type"

/-- Read digits behind a number below a bound, up to the first that cannot be used. -/
def readFrom (bound : Nat) : (acc : Nat) → List Char → Except Fault Nat
  | acc, [] => .ok acc
  | acc, c :: cs =>
      match digit? 10 c with
      | none => .error .digit
      | some d =>
          if acc * 10 + d < bound then readFrom bound (acc * 10 + d) cs else .error .tooLarge

/-- Read a number below a bound.  A plus sign may stand before it. -/
def read (bound : Nat) : List Char → Except Fault Nat
  | [] => .error .empty
  | '+' :: d :: ds => readFrom bound 0 (d :: ds)
  | cs => readFrom bound 0 cs

end SqlGateway.Numeral
