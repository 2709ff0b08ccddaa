import SqlGateway.Text.Numeral
import SqlGateway.Text.Parts

/-!
# Network addresses

A host may be an address: four bytes, or eight pieces of sixteen bits.

The four bytes are read from up to four numbers with points between them.  Each number
may be decimal, octal or hexadecimal, and the last one fills all the bytes that the
others leave.  `endsInNumber` says which names are meant as such an address.

The eight pieces are read from groups of hexadecimal digits with colons between them.
Two colons in a row stand for the pieces that are missing, at most once, and the last
two pieces may be spelled as four decimal bytes.

An address has one printed form.  The eight pieces are printed in lower case, and two
colons stand for the first of the longest runs of two or more zeros.
-/

namespace SqlGateway.Url

/-! ## Four bytes -/

/-- An address of four bytes. -/
abbrev Ipv4 := UInt32

namespace Ipv4

/-- A number in an address.  It is hexadecimal behind `0x`, octal behind another zero and
decimal otherwise, and a mark alone is zero. -/
def number? : List Char → Option Nat
  | [] => none
  | '0' :: 'x' :: cs => Numeral.value? 16 cs
  | '0' :: 'X' :: cs => Numeral.value? 16 cs
  | '0' :: c :: cs => Numeral.value? 8 (c :: cs)
  | cs => Numeral.value? 10 cs

/-- The parts of a name between its points, without an empty one at the end. -/
def parts (name : List Char) : List (List Char) :=
  let ps := splitWhere (· = '.') name
  if ps.getLast? = some [] then ps.dropLast else ps

/-- The last part of a name is a number, so the name is meant as an address. -/
def endsInNumber (name : List Char) : Bool :=
  match (parts name).getLast? with
  | none => false
  | some p => (!p.isEmpty && p.all fun c => '0' ≤ c && c ≤ '9') || (number? p).isSome

/-- The address that numbers stand for: one byte each, and the last one for all the bytes
that remain. -/
def ofNumbers? : (room : Nat) → List Nat → Option Nat
  | 0, _ => none
  | _ + 1, [] => none
  | room + 1, [n] => if n < Nat.pow 256 (room + 1) then some n else none
  | room + 1, n :: m :: ns =>
      if n < 256 then (ofNumbers? room (m :: ns)).map (n * Nat.pow 256 room + ·) else none

/-- Read an address. -/
def read? (name : List Char) : Option Ipv4 :=
  (((parts name).mapM number?).bind (ofNumbers? 4)).map UInt32.ofNat

/-- A decimal byte without leading zeros. -/
def decimalByte? : List Char → Option Nat
  | [] => none
  | ['0'] => some 0
  | '0' :: _ => none
  | cs => (Numeral.value? 10 cs).filter (· < 256)

/-- Four decimal bytes with points between them. -/
def strictBytes? (cs : List Char) : Option (List Nat) :=
  ((splitWhere (· = '.') cs).mapM decimalByte?).filter (·.length = 4)

/-- Print an address. -/
def text (a : Ipv4) : List Char :=
  joinWith ['.'] ([24, 16, 8, 0].map fun shift => Nat.toDigits 10 ((a.toNat >>> shift) % 256))

end Ipv4

/-! ## Eight pieces -/

/-- An address of eight pieces of sixteen bits. -/
structure Ipv6 where
  /-- The pieces, first to last. -/
  pieces : List UInt16
  /-- There are eight. -/
  eight : pieces.length = 8
deriving DecidableEq

namespace Ipv6

/-- A part of the spelling of an address. -/
inductive Part where
  /-- A piece. -/
  | piece (n : UInt16)
  /-- Two colons, for one piece or more that are zero. -/
  | gap

/-- Up to `most` hexadecimal digits at the front of a text. -/
def hexGroup (most : Nat) (cs : List Char) : List Char :=
  (cs.take most).takeWhile fun c => (Numeral.digit? 16 c).isSome

/-- Two pieces spelled as four decimal bytes. -/
def dotted? (cs : List Char) : Option (List Part) :=
  match Ipv4.strictBytes? cs with
  | some [a, b, c, d] =>
      some [.piece (UInt16.ofNat (a * 256 + b)), .piece (UInt16.ofNat (c * 256 + d))]
  | _ => none

/-- Read the parts of an address.  `room` of the eight pieces are left, and `gapped` says
that a gap is behind us. -/
def parts? : (room : Nat) → (gapped : Bool) → List Char → Option (List Part)
  | _, _, [] => some []
  | 0, _, _ :: _ => none
  | room + 1, gapped, c :: cs =>
      if c = ':' then
        if gapped then none else (parts? room true cs).map (Part.gap :: ·)
      else
        let digits := hexGroup 4 (c :: cs)
        let value := ((Numeral.value? 16 digits).map UInt16.ofNat).getD 0
        match (c :: cs).drop digits.length with
        | [] => some [.piece value]
        | ':' :: d :: rest => (parts? room gapped (d :: rest)).map (Part.piece value :: ·)
        | '.' :: _ => if 2 ≤ room + 1 then dotted? (c :: cs) else none
        | _ => none

/-- The pieces that parts stand for.  `missing` is how many pieces a gap stands for. -/
def expand (missing : Nat) : List Part → List UInt16
  | [] => []
  | .piece n :: ps => n :: expand missing ps
  | .gap :: ps => List.replicate missing 0 ++ expand missing ps

/-- How many of some parts are pieces. -/
def pieceCount : List Part → Nat
  | [] => 0
  | .piece _ :: ps => pieceCount ps + 1
  | .gap :: ps => pieceCount ps

/-- Read an address.  Where it begins with a colon, a second one follows. -/
def read? (cs : List Char) : Option Ipv6 :=
  let parts? :=
    match cs with
    | ':' :: ':' :: rest => (parts? 7 true rest).map (Part.gap :: ·)
    | ':' :: _ => none
    | _ => parts? 8 false cs
  match parts? with
  | none => none
  | some ps =>
      let pieces := expand (8 - pieceCount ps) ps
      if h : pieces.length = 8 then some ⟨pieces, h⟩ else none

/-- How many zeros stand at the front of some pieces. -/
def leadingZeros (ps : List UInt16) : Nat := (ps.takeWhile (· = 0)).length

/-- The first of the longest runs of zeros, as the pieces before it and its length. -/
def longestRun : List UInt16 → Nat × Nat
  | [] => (0, 0)
  | p :: ps =>
      let here := leadingZeros (p :: ps)
      let (start, length) := longestRun ps
      if length ≤ here then (0, here) else (start + 1, length)

/-- Pieces with colons between them. -/
def groups (ps : List UInt16) : List Char :=
  joinWith [':'] (ps.map fun p => Nat.toDigits 16 p.toNat)

/-- Print an address. -/
def text (a : Ipv6) : List Char :=
  let (start, length) := longestRun a.pieces
  if 2 ≤ length then
    groups (a.pieces.take start) ++ [':', ':'] ++ groups (a.pieces.drop (start + length))
  else groups a.pieces

end Ipv6

end SqlGateway.Url
