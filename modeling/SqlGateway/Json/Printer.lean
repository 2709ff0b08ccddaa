import SqlGateway.Json.Value
import SqlGateway.Decimal.Shortest

/-!
# Printing JSON

Two layouts of one value.  `compact` has no blanks.  `pretty` puts every item and
member on a line of its own, indented by two spaces a level, with one space after a
colon; an empty list or object stays on one line.  Both print members in the order
in which the object lists them.

In a string, the quote, the backslash and the controls below the space are escaped,
the common controls by a letter and the rest by four lower-case hexadecimal digits.
Everything else is written as it is.

A double is printed with the fewest digits that read back as it.  It is positional,
with a digit after the point, from `1e-5` up to `1e16`, and has an exponent with a
sign outside that range.
-/

namespace SqlGateway.Number

/-! ## Numbers -/

/-- Where positional notation ends and how an exponent is written. -/
structure FloatStyle where
  /-- The least place of the point, counted from before the first digit, that is still
  positional. -/
  leastPoint : Int
  /-- The greatest place of the point that is still positional. -/
  greatestPoint : Int
  /-- The mark before an exponent. -/
  mark : Char

/-- Doubles are positional from `1e-5` up to `1e16`. -/
def floatStyle : FloatStyle := ⟨-4, 16, 'e'⟩

/-- Lay out digits as text. -/
def FloatStyle.layout (style : FloatStyle) (d : Decimal.Digits) : List Char :=
  let ds := Nat.toDigits 10 d.digits
  let point := (ds.length : Int) + d.exponent
  if d.digits = 0 then ['0', '.', '0']
  else if 0 ≤ d.exponent ∧ point ≤ style.greatestPoint then
    ds ++ List.replicate d.exponent.toNat '0' ++ ['.', '0']
  else if 0 < point ∧ point ≤ style.greatestPoint then
    ds.take point.toNat ++ '.' :: ds.drop point.toNat
  else if style.leastPoint ≤ point ∧ point ≤ 0 then
    '0' :: '.' :: List.replicate (-point).toNat '0' ++ ds
  else
    let exponent := point - 1
    let sign := if exponent < 0 then '-' else '+'
    let significand :=
      match ds with
      | [] => []
      | [c] => [c]
      | c :: cs => c :: '.' :: cs
    significand ++ style.mark :: sign :: Nat.toDigits 10 exponent.natAbs

/-- The text of a double.  What is no number, or infinite, has no text of its own and is
written as `null`. -/
def floatText (x : Float) : List Char :=
  match Decimal.Binary.ofBits? x.toBits with
  | none => ['n', 'u', 'l', 'l']
  | some b =>
      (if Decimal.isNegative x.toBits then ['-'] else []) ++ floatStyle.layout b.shortest

/-- The text of an integer. -/
def intText (n : Int) : List Char :=
  if n < 0 then '-' :: Nat.toDigits 10 n.natAbs else Nat.toDigits 10 n.natAbs

/-- The text of a number. -/
def text : Number → List Char
  | .integer n => intText n.val
  | .float x => floatText x

end SqlGateway.Number

namespace SqlGateway.Json

/-! ## Strings -/

/-- One of four hexadecimal digits of a control character. -/
def hexDigit (n : Nat) : Char :=
  if n < 10 then Char.ofNat (48 + n) else Char.ofNat (87 + n)

/-- One character as it stands in a string. -/
def escapeChar (c : Char) : List Char :=
  if c = '"' then ['\\', '"']
  else if c = '\\' then ['\\', '\\']
  else if c = '\x08' then ['\\', 'b']
  else if c = '\x0c' then ['\\', 'f']
  else if c = '\n' then ['\\', 'n']
  else if c = '\r' then ['\\', 'r']
  else if c = '\t' then ['\\', 't']
  else if c < ' ' then
    ['\\', 'u', '0', '0', hexDigit (c.toNat / 16), hexDigit (c.toNat % 16)]
  else [c]

/-- A string between its quotes. -/
def quoted (s : String) : List Char := '"' :: s.toList.flatMap escapeChar ++ ['"']

/-! ## The compact layout -/

mutual

/-- A value without blanks. -/
def compactText : Json → List Char
  | .null => ['n', 'u', 'l', 'l']
  | .bool true => ['t', 'r', 'u', 'e']
  | .bool false => ['f', 'a', 'l', 's', 'e']
  | .number n => n.text
  | .string s => quoted s
  | .array [] => ['[', ']']
  | .array (v :: vs) => '[' :: compactText v ++ compactItems vs
  | .object [] => ['{', '}']
  | .object ((k, v) :: ms) => '{' :: quoted k ++ ':' :: compactText v ++ compactMembers ms

/-- The items after the first, and the bracket that closes them. -/
def compactItems : List Json → List Char
  | [] => [']']
  | v :: vs => ',' :: compactText v ++ compactItems vs

/-- The members after the first, and the brace that closes them. -/
def compactMembers : List (String × Json) → List Char
  | [] => ['}']
  | (k, v) :: ms => ',' :: quoted k ++ ':' :: compactText v ++ compactMembers ms

end

/-- A value on one line. -/
def compact (v : Json) : String := .ofList (compactText v)

/-! ## The pretty layout -/

/-- A line break and the indentation of a level. -/
def newline (level : Nat) : List Char := '\n' :: List.replicate (2 * level) ' '

mutual

/-- A value over several lines, the first of which is already indented to `level`. -/
def prettyText (level : Nat) : Json → List Char
  | .array (v :: vs) =>
      '[' :: newline (level + 1) ++ prettyText (level + 1) v ++ prettyItems level vs
  | .object ((k, v) :: ms) =>
      '{' :: newline (level + 1) ++ quoted k ++ ':' :: ' ' :: prettyText (level + 1) v ++
        prettyMembers level ms
  | .array [] => ['[', ']']
  | .object [] => ['{', '}']
  | .null => ['n', 'u', 'l', 'l']
  | .bool true => ['t', 'r', 'u', 'e']
  | .bool false => ['f', 'a', 'l', 's', 'e']
  | .number n => n.text
  | .string s => quoted s

/-- The items after the first, and the bracket that closes them at `level`. -/
def prettyItems (level : Nat) : List Json → List Char
  | [] => newline level ++ [']']
  | v :: vs => ',' :: newline (level + 1) ++ prettyText (level + 1) v ++ prettyItems level vs

/-- The members after the first, and the brace that closes them at `level`. -/
def prettyMembers (level : Nat) : List (String × Json) → List Char
  | [] => newline level ++ ['}']
  | (k, v) :: ms =>
      ',' :: newline (level + 1) ++ quoted k ++ ':' :: ' ' :: prettyText (level + 1) v ++
        prettyMembers level ms

end

/-- A value over several lines. -/
def pretty (v : Json) : String := .ofList (prettyText 0 v)

end SqlGateway.Json
