/-!
# The shortest decimal of a double

A double stands for an interval: the reals that round to it, ends included when its
significand is even.  `shortest` finds the decimal in that interval with the fewest
digits, and among those the one nearest to the double, a tie going to the even digit.

The search tries one digit, then two, up to seventeen.  On the grid of decimals with
a given number of digits the two neighbours of the double are its floor and the point
after it.  If any point of the grid lies in the interval, one of these two does, so
looking at two points is enough.  All arithmetic is on natural numbers.

How digits are laid out as text belongs to the format that prints them.
-/

namespace SqlGateway.Decimal

/-! ## Doubles as integers -/

/-- A finite double without its sign: `significand * 2 ^ exponent`. -/
structure Binary where
  /-- The significand, below `2 ^ 53`. -/
  significand : Nat
  /-- The power of two. -/
  exponent : Int
  /-- The double below is half as far away as the double above. -/
  narrowBelow : Bool
deriving Repr, DecidableEq

/-- The sign bit of a double. -/
def isNegative (bits : UInt64) : Bool := bits >>> 63 = 1

/-- The magnitude of a double, or `none` for an infinity and for what is no number. -/
def Binary.ofBits? (bits : UInt64) : Option Binary :=
  let field := (bits >>> 52 &&& 0x7FF).toNat
  let fraction := (bits &&& 0xFFFFFFFFFFFFF).toNat
  if field = 0x7FF then none
  else if field = 0 then some ⟨fraction, -1074, false⟩
  else some ⟨0x10000000000000 + fraction, (field : Int) - 1075, fraction = 0 && 1 < field⟩

/-- A double and the ends of its interval, as numerators over one denominator. -/
structure Interval where
  /-- The double. -/
  value : Nat
  /-- The lower end. -/
  low : Nat
  /-- The upper end. -/
  high : Nat
  /-- The denominator of all three. -/
  den : Nat
  /-- The ends themselves round to the double. -/
  closed : Bool
deriving Repr, DecidableEq

/-- The interval of reals that round to a double. -/
def Binary.interval (b : Binary) : Interval :=
  let scale := Nat.pow 2 (b.exponent - 2).toNat
  { value := 4 * b.significand * scale
    low := (4 * b.significand - if b.narrowBelow then 1 else 2) * scale
    high := (4 * b.significand + 2) * scale
    den := Nat.pow 2 (2 - b.exponent).toNat
    closed := b.significand % 2 = 0 }

/-! ## Points of a decimal grid -/

/-- A decimal without its sign: `digits * 10 ^ exponent`. -/
structure Digits where
  /-- The digits, as a number. -/
  digits : Nat
  /-- The power of ten. -/
  exponent : Int
deriving Repr, DecidableEq

/-- The power of ten at or below a positive number `num / den`. -/
def magnitude (num den : Nat) : Int :=
  if den ≤ num then ((Nat.toDigits 10 (num / den)).length : Int) - 1
  else below 330 num 1
where
  /-- The first power of ten, counted down from `-j`, that is not above `num / den`. -/
  below : Nat → Nat → Nat → Int
    | 0, _, j => -(j : Int)
    | fuel + 1, n, j => if den ≤ n * 10 then -(j : Int) else below fuel (n * 10) (j + 1)

/-- The numbers of an interval in units of `10 ^ p`: its three numerators and their
denominator. -/
def Interval.inUnits (i : Interval) (p : Int) : Interval :=
  let up := Nat.pow 10 (-p).toNat
  { i with
    value := i.value * up, low := i.low * up, high := i.high * up
    den := i.den * Nat.pow 10 p.toNat }

/-- A whole number of units lies in an interval. -/
def Interval.holds (i : Interval) (n : Nat) : Bool :=
  let x := n * i.den
  if i.closed then i.low ≤ x && x ≤ i.high else i.low < x && x < i.high

/-- The whole number of units in the interval that is nearest to its value. -/
def Interval.nearest? (i : Interval) : Option Nat :=
  let floor := i.value / i.den
  let part := i.value % i.den
  match i.holds floor, i.holds (floor + 1) with
  | false, false => none
  | true, false => some floor
  | false, true => some (floor + 1)
  | true, true =>
      if 2 * part < i.den then some floor
      else if i.den < 2 * part then some (floor + 1)
      else if floor % 2 = 0 then some floor else some (floor + 1)

/-- Digits without trailing zeros. -/
def Digits.strip : (fuel : Nat) → Digits → Digits
  | 0, d => d
  | fuel + 1, d =>
      if d.digits ≠ 0 ∧ d.digits % 10 = 0 then
        Digits.strip fuel ⟨d.digits / 10, d.exponent + 1⟩
      else d

/-- Search the grids with `count`, `count + 1`, … digits for a point of the interval.
`top` is the power of ten of the first digit. -/
def search (i : Interval) (top : Int) : (fuel count : Nat) → Digits
  | 0, count =>
      let p := top - (count : Int) + 1
      ⟨(i.inUnits p).value / (i.inUnits p).den, p⟩
  | fuel + 1, count =>
      let p := top - (count : Int) + 1
      match (i.inUnits p).nearest? with
      | some n => ⟨n, p⟩
      | none => search i top fuel (count + 1)

/-- The shortest decimal that rounds to a double. -/
def Binary.shortest (b : Binary) : Digits :=
  if b.significand = 0 then ⟨0, 0⟩
  else
    let i := b.interval
    (search i (magnitude i.value i.den) 17 1).strip 17

end SqlGateway.Decimal
