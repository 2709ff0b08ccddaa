import SqlGateway.Json.Mismatch
import SqlGateway.Text.Utf8

/-!
# Scanning JSON text

The readers of JSON text work on bytes.  A `Scan` takes the bytes in front of it and
gives a value with the bytes behind it, which are fewer: a loop over scans ends because
its input shrinks.  A scan that fails says why and where.  The place is counted from
the end of the text, as the number of bytes that lie behind it, so that a scan need not
know how much was read before it began.

`position` turns such a count into a line and a column.  A column counts the bytes of
its line up to the place.
-/

namespace SqlGateway.Json

/-! ## Failures and their places -/

/-- What is wrong with a text that is not JSON. -/
inductive Malformed where
  | eofInValue
  | eofInList
  | eofInObject
  | eofInString
  | expectedColon
  | expectedListCommaOrEnd
  | expectedObjectCommaOrEnd
  | expectedIdent
  | expectedValue
  | invalidEscape
  | invalidNumber
  | numberOutOfRange
  | invalidCodePoint
  | controlCharacter
  | keyMustBeString
  | loneSurrogate
  | unexpectedEndOfHexEscape
  | trailingComma
  | trailingCharacters
  | recursionLimitExceeded
deriving DecidableEq, Repr

/-- The words for what is wrong with a text. -/
def Malformed.message : Malformed → String
  | .eofInValue => "EOF while parsing a value"
  | .eofInList => "EOF while parsing a list"
  | .eofInObject => "EOF while parsing an object"
  | .eofInString => "EOF while parsing a string"
  | .expectedColon => "expected `:`"
  | .expectedListCommaOrEnd => "expected `,` or `]`"
  | .expectedObjectCommaOrEnd => "expected `,` or `\x7d`"
  | .expectedIdent => "expected ident"
  | .expectedValue => "expected value"
  | .invalidEscape => "invalid escape"
  | .invalidNumber => "invalid number"
  | .numberOutOfRange => "number out of range"
  | .invalidCodePoint => "invalid unicode code point"
  | .controlCharacter => "control character (\\u0000-\\u001F) found while parsing a string"
  | .keyMustBeString => "key must be a string"
  | .loneSurrogate => "lone leading surrogate in hex escape"
  | .unexpectedEndOfHexEscape => "unexpected end of hex escape"
  | .trailingComma => "trailing comma"
  | .trailingCharacters => "trailing characters"
  | .recursionLimitExceeded => "recursion limit exceeded"

/-- Why reading a text failed. -/
inductive Cause where
  /-- The text is not JSON. -/
  | malformed (m : Malformed)
  /-- The text is JSON of another shape than asked for. -/
  | mismatch (m : Mismatch)

/-- The words for why reading failed. -/
def Cause.message : Cause → String
  | .malformed m => m.message
  | .mismatch m => m.message

/-- A failed reading. -/
structure Failure where
  /-- Why it failed. -/
  cause : Cause
  /-- How many bytes lie behind the place where it failed. -/
  left : Nat

/-- A failure in front of `rest`. -/
def Failure.before (m : Malformed) (rest : Bytes) : Failure := ⟨.malformed m, rest.length⟩

/-- A failure at the first byte of `rest`, which counts as read. -/
def Failure.on (m : Malformed) (rest : Bytes) : Failure := ⟨.malformed m, rest.length - 1⟩

/-- The line and the column of the place that has `left` bytes behind it. -/
def position (text : Bytes) (left : Nat) : Nat × Nat :=
  let read := text.take (text.length - left)
  let line := read.reverse.takeWhile (· ≠ 10)
  (1 + read.count 10, line.length)

/-- The words for a failure to read `text`. -/
def Failure.message (f : Failure) (text : Bytes) : String :=
  let (line, column) := position text f.left
  s!"{f.cause.message} at line {line} column {column}"

/-! ## Scans -/

/-- A value read off the front of `bs`, and the bytes behind it. -/
structure Taken (α : Type) (bs : Bytes) where
  /-- The value. -/
  value : α
  /-- The bytes behind it. -/
  rest : Bytes
  /-- At least one byte was read. -/
  shorter : rest.length < bs.length

/-- A reader of something that takes at least one byte. -/
abbrev Scan (α : Type) := (bs : Bytes) → Except Failure (Taken α bs)

/-- The same value, read off a longer front. -/
def Taken.widen {α : Type} {bs cs : Bytes} (t : Taken α bs) (h : bs.length ≤ cs.length) :
    Taken α cs :=
  ⟨t.value, t.rest, Nat.lt_of_lt_of_le t.shorter h⟩

/-- The same value, read off a front that has more bytes before it. -/
def Taken.behind {α : Type} {bs cs : Bytes} (t : Taken α bs) (h : bs.length < cs.length) :
    Taken α cs :=
  t.widen (Nat.le_of_lt h)

/-- The same bytes, read as another value. -/
def Taken.map {α β : Type} {bs : Bytes} (f : α → β) (t : Taken α bs) : Taken β bs :=
  ⟨f t.value, t.rest, t.shorter⟩

/-- Bytes that are left of `bs`. -/
abbrev Rest (bs : Bytes) := { rest : Bytes // rest.length ≤ bs.length }

/-- All bytes are left. -/
def Rest.all (bs : Bytes) : Rest bs := ⟨bs, Nat.le_refl _⟩

/-- What is left of the bytes behind one more byte. -/
def Rest.cons {bs : Bytes} (b : UInt8) (r : Rest bs) : Rest (b :: bs) :=
  ⟨r.1, Nat.le_succ_of_le r.2⟩

/-- A byte that separates and says nothing: space, tab and the two line breaks. -/
def isSpace (b : UInt8) : Bool := b = 32 || b = 9 || b = 10 || b = 13

/-- The bytes from the first that is not a space. -/
def skipSpace : Bytes → Bytes
  | [] => []
  | b :: bs => if isSpace b then skipSpace bs else b :: bs

/-- Skipping space makes a text no longer. -/
theorem skipSpace_length_le (bs : Bytes) : (skipSpace bs).length ≤ bs.length := by
  induction bs with
  | nil => exact Nat.le_refl _
  | cons b bs ih =>
      rw [skipSpace]
      split
      · exact Nat.le_succ_of_le ih
      · exact Nat.le_refl _

/-- What remains after the first byte that is not a space is shorter. -/
theorem length_lt_of_skipSpace {bs rest : Bytes} {b : UInt8} (h : skipSpace bs = b :: rest) :
    rest.length < bs.length := by
  have := skipSpace_length_le bs
  rw [h] at this
  exact this

/-- Read the letters of a word behind its first. -/
def word : (expected : List Char) → (bs : Bytes) → Except Failure (Rest bs)
  | [], bs => .ok (.all bs)
  | _ :: _, [] => .error (.before .eofInValue [])
  | c :: cs, b :: bs =>
      if Char.ofUInt8 b = c then (word cs bs).map (Rest.cons b)
      else .error (.before .expectedIdent bs)

/-- Read the letters of a word behind its first, for the value that the word stands for. -/
def constant {α : Type} {bs rest : Bytes} (letters : List Char) (a : α)
    (h : rest.length < bs.length) : Except Failure (Taken α bs) :=
  match word letters rest with
  | .error e => .error e
  | .ok ⟨rest', h'⟩ => .ok ⟨a, rest', Nat.lt_of_le_of_lt h' h⟩

/-! ## Numbers -/

/-- A decimal digit. -/
def isDigit (b : UInt8) : Bool := 48 ≤ b && b ≤ 57

/-- The value of a decimal digit. -/
def digitValue (b : UInt8) : Nat := b.toNat - 48

/-- The mark of an exponent. -/
def isExponentMark (b : UInt8) : Bool := b = 101 || b = 69

/-- A power of ten as a double. -/
def pow10 (n : Nat) : Float := Float.ofScientific 1 false n

/-- `x` divided by `10 ^ n`, by one division for each factor `10 ^ 308` and one for what
remains. -/
def divPow10 (x : Float) (n : Nat) : Float :=
  if n ≤ 308 then x / pow10 n
  else if x == 0 then x
  else divPow10 (x / pow10 308) (n - 308)
termination_by n

/-- The double nearest to `significand`, times `10 ^ exponent`, or `none` where that is out
of range.  The product is rounded once more. -/
def scale (negative : Bool) (significand : Nat) (exponent : Int) : Option Float :=
  let x := significand.toUInt64.toFloat
  let magnitude :=
    if exponent < 0 then some (divPow10 x exponent.natAbs)
    else if 308 < exponent then (if x == 0 then some x else none)
    else
      let y := x * pow10 exponent.toNat
      if y.isInf then none else some y
  magnitude.map fun y => if negative then -y else y

/-- The value read so far, and the bytes behind it, which are no more than were there. -/
abbrev Tail (α : Type) (bs : Bytes) := Except Failure (α × Rest bs)

/-- A tail of the bytes behind one more byte. -/
def Tail.cons {α : Type} {bs : Bytes} (b : UInt8) : Tail α bs → Tail α (b :: bs)
  | .error e => .error e
  | .ok (a, r) => .ok (a, r.cons b)

/-- A significand that is complete, as a double. -/
def finishFloat (negative : Bool) (significand : Nat) (exponent : Int) (bs : Bytes) :
    Tail Number bs :=
  match scale negative significand exponent with
  | some x => .ok (.float x, .all bs)
  | none => .error (.before .numberOutOfRange bs)

/-- Skip digits and give a value. -/
def skipDigits (value : Number) : (bs : Bytes) → Tail Number bs
  | [] => .ok (value, .all [])
  | b :: bs =>
      if isDigit b then (skipDigits value bs).cons b
      else .ok (value, .all (b :: bs))

/-- A sign and the digits behind it. -/
structure Exponent where
  /-- The exponent is below zero. -/
  negative : Bool
  /-- Its digits so far. -/
  value : Nat

/-- The digits of an exponent after the first.  One that does not fit 32 bits makes the
number zero, or puts it out of range. -/
def exponentDigits (negative : Bool) (significand : Nat) (start : Int) (e : Exponent) :
    (bs : Bytes) → Tail Number bs
  | [] =>
      let power := if e.negative then start - e.value else start + e.value
      finishFloat negative significand power []
  | b :: bs =>
      if isDigit b then
        let value := e.value * 10 + digitValue b
        if 0x80000000 ≤ value then
          if significand ≠ 0 ∧ e.negative = false then .error (.before .numberOutOfRange bs)
          else (skipDigits (.float (if negative then -0.0 else 0.0)) bs).cons b
        else (exponentDigits negative significand start ⟨e.negative, value⟩ bs).cons b
      else
        finishFloat negative significand
          (if e.negative then start - e.value else start + e.value) (b :: bs)

/-- The first digit of an exponent and those after it. -/
def exponentValue (negative : Bool) (significand : Nat) (start : Int) (below : Bool) :
    (bs : Bytes) → Tail Number bs
  | [] => .error (.before .eofInValue [])
  | b :: bs =>
      if isDigit b then
        (exponentDigits negative significand start ⟨below, digitValue b⟩ bs).cons b
      else .error (.before .invalidNumber bs)

/-- An exponent, behind its mark. -/
def exponentPart (negative : Bool) (significand : Nat) (start : Int) :
    (bs : Bytes) → Tail Number bs
  | [] => exponentValue negative significand start false []
  | b :: bs =>
      if b = 43 then (exponentValue negative significand start false bs).cons b
      else if b = 45 then (exponentValue negative significand start true bs).cons b
      else exponentValue negative significand start false (b :: bs)

/-- What may follow the digits of a fraction: an exponent, or nothing of the number. -/
def afterFraction (negative : Bool) (significand : Nat) (exponent : Int) :
    (bs : Bytes) → Tail Number bs
  | [] => finishFloat negative significand exponent []
  | b :: bs =>
      if isExponentMark b then (exponentPart negative significand exponent bs).cons b
      else finishFloat negative significand exponent (b :: bs)

/-- The digits of a fraction that no longer fit the significand: they are read and do not
count. -/
def surplusFraction (negative : Bool) (significand : Nat) (exponent : Int) :
    (bs : Bytes) → Tail Number bs
  | [] => afterFraction negative significand exponent []
  | b :: bs =>
      if isDigit b then (surplusFraction negative significand exponent bs).cons b
      else afterFraction negative significand exponent (b :: bs)

/-- The digits behind a point.  `any` says that one was read. -/
def fractionDigits (negative any : Bool) (significand : Nat) (exponent : Int) :
    (bs : Bytes) → Tail Number bs
  | [] =>
      if any then finishFloat negative significand exponent []
      else .error (.before .eofInValue [])
  | b :: bs =>
      if isDigit b then
        let next := significand * 10 + digitValue b
        if UInt64.size ≤ next then (surplusFraction negative significand exponent bs).cons b
        else (fractionDigits negative true next (exponent - 1) bs).cons b
      else if any then afterFraction negative significand exponent (b :: bs)
      else .error (.on .invalidNumber (b :: bs))

/-- What may follow digits: a fraction, an exponent, or nothing of the number. -/
def afterDigits (negative : Bool) (significand : Nat) (exponent : Int) (whole : Number) :
    (bs : Bytes) → Tail Number bs
  | [] => .ok (whole, .all [])
  | b :: bs =>
      if b = 46 then (fractionDigits negative false significand exponent bs).cons b
      else if isExponentMark b then (exponentPart negative significand exponent bs).cons b
      else .ok (whole, .all (b :: bs))

/-- A whole number.  One that 64 bits do not hold is a double, and so is minus zero. -/
def wholeNumber (negative : Bool) (significand : Nat) : Number :=
  if negative then
    if significand = 0 then .float (-0.0)
    else
      match Integer.ofInt? (-(significand : Int)) with
      | some n => .integer n
      | none => .float (-significand.toUInt64.toFloat)
  else
    match Integer.ofInt? significand with
    | some n => .integer n
    | none => .float significand.toUInt64.toFloat

/-- The digits of a whole number that no longer fit the significand: each is a factor of
ten. -/
def surplusDigits (negative : Bool) (significand : Nat) (exponent : Int) :
    (bs : Bytes) → Tail Number bs
  | [] => finishFloat negative significand exponent []
  | b :: bs =>
      if isDigit b then (surplusDigits negative significand (exponent + 1) bs).cons b
      else if b = 46 then (fractionDigits negative false significand exponent bs).cons b
      else if isExponentMark b then (exponentPart negative significand exponent bs).cons b
      else finishFloat negative significand exponent (b :: bs)

/-- The digits of a whole number after the first. -/
def wholeDigits (negative : Bool) (significand : Nat) : (bs : Bytes) → Tail Number bs
  | [] => afterDigits negative significand 0 (wholeNumber negative significand) []
  | b :: bs =>
      if isDigit b then
        let next := significand * 10 + digitValue b
        if UInt64.size ≤ next then (surplusDigits negative significand 1 bs).cons b
        else (wholeDigits negative next bs).cons b
      else afterDigits negative significand 0 (wholeNumber negative significand) (b :: bs)

/-- A digit comes next. -/
def startsWithDigit : Bytes → Bool
  | [] => false
  | b :: _ => isDigit b

/-- A number behind its sign.  A zero in front stands alone. -/
def unsignedNumber (negative : Bool) : Scan Number
  | [] => .error (.before .eofInValue [])
  | b :: bs =>
      let close : Tail Number bs → Except Failure (Taken Number (b :: bs))
        | .error e => .error e
        | .ok (n, ⟨rest, h⟩) => .ok ⟨n, rest, Nat.lt_succ_of_le h⟩
      if b = 48 then
        if startsWithDigit bs then .error (.on .invalidNumber bs)
        else close (afterDigits negative 0 0 (wholeNumber negative 0) bs)
      else if isDigit b then close (wholeDigits negative (digitValue b) bs)
      else .error (.before .invalidNumber bs)

/-- A number, from its sign or its first digit. -/
def numeral : Scan Number
  | [] => .error (.before .eofInValue [])
  | b :: bs =>
      if b = 45 then
        match unsignedNumber true bs with
        | .error e => .error e
        | .ok t => .ok (t.widen (Nat.le_succ _))
      else unsignedNumber false (b :: bs)

/-! ## Strings -/

/-- The value of a hexadecimal digit. -/
def hexValue? (b : UInt8) : Option Nat :=
  if 48 ≤ b && b ≤ 57 then some (b.toNat - 48)
  else if 97 ≤ b && b ≤ 102 then some (b.toNat - 87)
  else if 65 ≤ b && b ≤ 70 then some (b.toNat - 55)
  else none

/-- Four hexadecimal digits. -/
def hexEscape : Scan Nat
  | a :: b :: c :: d :: rest =>
      match hexValue? a, hexValue? b, hexValue? c, hexValue? d with
      | some a', some b', some c', some d' =>
          .ok ⟨((a' * 16 + b') * 16 + c') * 16 + d', rest,
            Nat.lt_succ_of_lt (Nat.lt_succ_of_lt (Nat.lt_succ_of_lt (Nat.lt_succ_self _)))⟩
      | _, _, _, _ => .error (.before .invalidEscape rest)
  | _ => .error (.before .eofInString [])

/-- A character by its code unit, behind `\\u`.  A unit from `D800` to `DBFF` leads a pair,
whose second half must follow as an escape of its own. -/
def unicodeEscape (bs : Bytes) : Except Failure (Taken Char bs) :=
  match hexEscape bs with
  | .error e => .error e
  | .ok first =>
      if 0xDC00 ≤ first.value ∧ first.value ≤ 0xDFFF then
        .error (.before .loneSurrogate first.rest)
      else if first.value < 0xD800 ∨ 0xDBFF < first.value then
        .ok (first.map Char.ofNat)
      else
        match _h : first.rest with
        | [] => .error (.before .eofInString [])
        | b :: rest =>
            if b = 92 then
              match _h' : rest with
              | [] => .error (.before .eofInString [])
              | u :: rest' =>
                  if u = 117 then
                    match hexEscape rest' with
                    | .error e => .error e
                    | .ok second =>
                        if second.value < 0xDC00 ∨ 0xDFFF < second.value then
                          .error (.before .loneSurrogate second.rest)
                        else
                          let c := (first.value - 0xD800) * 0x400 +
                            (second.value - 0xDC00) + 0x10000
                          have h : (b :: u :: rest').length < bs.length := by
                            rw [← _h]
                            exact first.shorter
                          .ok ⟨Char.ofNat c, second.rest,
                            Nat.lt_trans second.shorter (Nat.lt_of_succ_lt (Nat.lt_of_succ_lt h))⟩
                  else .error (.before .unexpectedEndOfHexEscape rest')
            else .error (.before .unexpectedEndOfHexEscape rest)

/-- The character an escape stands for, behind its backslash. -/
def escape : Scan Char
  | [] => .error (.before .eofInString [])
  | b :: bs =>
      let plain (c : Char) : Except Failure (Taken Char (b :: bs)) :=
        .ok ⟨c, bs, Nat.lt_succ_self _⟩
      match Char.ofUInt8 b with
      | '"' => plain '"'
      | '\\' => plain '\\'
      | '/' => plain '/'
      | 'b' => plain '\x08'
      | 'f' => plain '\x0c'
      | 'n' => plain '\n'
      | 'r' => plain '\r'
      | 't' => plain '\t'
      | 'u' =>
          match unicodeEscape bs with
          | .error e => .error e
          | .ok t => .ok (t.widen (Nat.le_succ _))
      | _ => .error (.before .invalidEscape bs)

/-- A string behind its opening quote.  `read` are its bytes so far, last first. -/
def stringBody (read : Bytes) (bs : Bytes) : Except Failure (Taken String bs) :=
  match bs with
  | [] => .error (.before .eofInString [])
  | b :: rest =>
      if b = 34 then
        match Utf8.decode? read.reverse with
        | some s => .ok ⟨s, rest, Nat.lt_succ_self _⟩
        | none => .error (.before .invalidCodePoint rest)
      else if b = 92 then
        match escape rest with
        | .error e => .error e
        | .ok t =>
            match stringBody ((String.utf8EncodeChar t.value).reverse ++ read) t.rest with
            | .error e => .error e
            | .ok t' => .ok ((t'.behind t.shorter).widen (Nat.le_succ _))
      else if b < 32 then .error (.before .controlCharacter rest)
      else
        match stringBody (b :: read) rest with
        | .error e => .error e
        | .ok t => .ok (t.widen (Nat.le_succ _))
termination_by bs.length
decreasing_by
  · exact Nat.lt_succ_of_lt t.shorter
  · exact Nat.lt_succ_self _

/-! ## Lists and objects -/

/-- The front of the next item of a list, or `none` in front of the bracket that closes it.
`first` says that no item was read yet. -/
def nextItem (first : Bool) (bs : Bytes) : Except Failure (Option (Rest bs)) :=
  match h : skipSpace bs with
  | [] => .error (.before .eofInList [])
  | b :: rest =>
      have hr : rest.length < bs.length := length_lt_of_skipSpace h
      if b = 93 then .ok none
      else if first then .ok (some ⟨b :: rest, hr⟩)
      else if b = 44 then
        match h' : skipSpace rest with
        | [] => .error (.before .eofInValue [])
        | c :: rest' =>
            if c = 93 then .error (.on .trailingComma (c :: rest'))
            else
              .ok (some ⟨c :: rest',
                Nat.le_trans (length_lt_of_skipSpace h') (Nat.le_of_lt hr)⟩)
      else .error (.on .expectedListCommaOrEnd (b :: rest))

/-- The front of the next member of an object, behind the opening quote of its name, or
`none` in front of the brace that closes it. -/
def nextMember (first : Bool) (bs : Bytes) :
    Except Failure (Option { rest : Bytes // rest.length < bs.length }) :=
  match h : skipSpace bs with
  | [] => .error (.before .eofInObject [])
  | b :: rest =>
      have hr : rest.length < bs.length := length_lt_of_skipSpace h
      if b = 125 then .ok none
      else if first then
        if b = 34 then .ok (some ⟨rest, hr⟩) else .error (.on .keyMustBeString (b :: rest))
      else if b = 44 then
        match h' : skipSpace rest with
        | [] => .error (.before .eofInValue [])
        | c :: rest' =>
            if c = 34 then
              .ok (some ⟨rest', Nat.lt_trans (length_lt_of_skipSpace h') hr⟩)
            else if c = 125 then .error (.on .trailingComma (c :: rest'))
            else .error (.on .keyMustBeString (c :: rest'))
      else .error (.on .expectedObjectCommaOrEnd (b :: rest))

/-- The colon between a name and its value. -/
def colon (bs : Bytes) : Except Failure { rest : Bytes // rest.length < bs.length } :=
  match h : skipSpace bs with
  | [] => .error (.before .eofInObject [])
  | b :: rest =>
      if b = 58 then .ok ⟨rest, length_lt_of_skipSpace h⟩
      else .error (.on .expectedColon (b :: rest))

/-- What became of an attempt to close a list or an object: how many bytes are left behind
the attempt, and the bytes behind the bracket if it was there. -/
structure Closing (bs : Bytes) where
  /-- The bytes left behind the attempt. -/
  left : Nat
  /-- The bytes behind the bracket. -/
  result : Except Failure { rest : Bytes // rest.length < bs.length }

/-- Close a list. -/
def closeList (bs : Bytes) : Closing bs :=
  match h : skipSpace bs with
  | [] => ⟨0, .error (.before .eofInList [])⟩
  | b :: rest =>
      if b = 93 then ⟨rest.length, .ok ⟨rest, length_lt_of_skipSpace h⟩⟩
      else if b = 44 then
        let behind := skipSpace rest
        match behind with
        | c :: _ =>
            if c = 93 then ⟨behind.length, .error (.on .trailingComma behind)⟩
            else ⟨behind.length, .error (.on .trailingCharacters behind)⟩
        | [] => ⟨0, .error (.on .trailingCharacters [])⟩
      else ⟨rest.length + 1, .error (.on .trailingCharacters (b :: rest))⟩

/-- Close an object. -/
def closeObject (bs : Bytes) : Closing bs :=
  match h : skipSpace bs with
  | [] => ⟨0, .error (.before .eofInObject [])⟩
  | b :: rest =>
      if b = 125 then ⟨rest.length, .ok ⟨rest, length_lt_of_skipSpace h⟩⟩
      else if b = 44 then ⟨rest.length + 1, .error (.on .trailingComma (b :: rest))⟩
      else ⟨rest.length + 1, .error (.on .trailingCharacters (b :: rest))⟩

/-- The items of a list and its closing bracket, behind the opening one. -/
def items {α : Type} (item : Scan α) (first : Bool) (bs : Bytes) :
    Except Failure (Taken (List α) bs) :=
  match nextItem first bs with
  | .error e => .error e
  | .ok none =>
      match (closeList bs).result with
      | .error e => .error e
      | .ok ⟨rest, h⟩ => .ok ⟨[], rest, h⟩
  | .ok (some ⟨front, hf⟩) =>
      match item front with
      | .error e => .error e
      | .ok t =>
          have : t.rest.length < bs.length := Nat.lt_of_lt_of_le t.shorter hf
          match items item false t.rest with
          | .error e => .error e
          | .ok ts => .ok ⟨t.value :: ts.value, ts.rest, Nat.lt_trans ts.shorter this⟩
termination_by bs.length

/-- The members of an object and its closing brace, behind the opening one. -/
def members {α : Type} (value : Scan α) (first : Bool) (bs : Bytes) :
    Except Failure (Taken (List (String × α)) bs) :=
  match nextMember first bs with
  | .error e => .error e
  | .ok none =>
      match (closeObject bs).result with
      | .error e => .error e
      | .ok ⟨rest, h⟩ => .ok ⟨[], rest, h⟩
  | .ok (some ⟨front, hf⟩) =>
      match stringBody [] front with
      | .error e => .error e
      | .ok key =>
          match colon key.rest with
          | .error e => .error e
          | .ok ⟨afterColon, hc⟩ =>
              match value afterColon with
              | .error e => .error e
              | .ok t =>
                  have : t.rest.length < bs.length := by
                    have := t.shorter
                    have := key.shorter
                    omega
                  match members value false t.rest with
                  | .error e => .error e
                  | .ok ts =>
                      .ok ⟨(key.value, t.value) :: ts.value, ts.rest,
                        Nat.lt_trans ts.shorter this⟩
termination_by bs.length

/-- Nothing but spaces may follow a document. -/
def finish {α : Type} {bs : Bytes} (t : Taken α bs) : Except Failure α :=
  match skipSpace t.rest with
  | [] => .ok t.value
  | rest => .error (.on .trailingCharacters rest)

end SqlGateway.Json
