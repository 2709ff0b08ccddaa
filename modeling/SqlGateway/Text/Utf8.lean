/-!
# UTF-8

Text arrives as bytes: a reply body, a percent-decoded part of a URL, a document to
read.  `next` splits the first character off a list of bytes, and says how many
bytes to give up when they begin none.  Everything else follows from it.

* `decode?` reads bytes that are UTF-8 throughout.
* `lossy` reads any bytes, with `U+FFFD` for each run that is given up.
* `fault?` finds the first place where bytes stop being UTF-8.

A run that is given up is the longest beginning of a character that the bytes hold,
so `E2 82` at the end of the input is one run, and `FF FF` is two.
-/

namespace SqlGateway

/-- Bytes, first to last. -/
abbrev Bytes := List UInt8

namespace Utf8

/-- The bytes of a text. -/
def encode (s : String) : Bytes := s.toList.flatMap String.utf8EncodeChar

/-! ## The first character -/

/-- What stands at the front of some bytes. -/
inductive Next where
  /-- Nothing. -/
  | done
  /-- A character, and the bytes after it. -/
  | char (c : Char) (rest : Bytes)
  /-- `length` bytes that begin no character, and the bytes after them. -/
  | broken (length : Nat) (rest : Bytes)
  /-- `length` bytes that begin a character, where the input ends. -/
  | cut (length : Nat)
deriving Repr, DecidableEq

/-- What the first byte of a longer character asks of the bytes after it. -/
structure Lead where
  /-- How many bytes follow. -/
  need : Nat
  /-- The least second byte. -/
  low : UInt8
  /-- The greatest second byte. -/
  high : UInt8
  /-- The high bits of the character. -/
  bits : Nat

/-- The demands of a first byte at or above `80`, or `none` where it begins no character.
The bounds on the second byte rule out long forms, surrogates and what lies above
`U+10FFFF`. -/
def lead (b : UInt8) : Option Lead :=
  if b < 0xC2 then none
  else if b < 0xE0 then some ⟨1, 0x80, 0xBF, b.toNat - 0xC0⟩
  else if b = 0xE0 then some ⟨2, 0xA0, 0xBF, 0⟩
  else if b = 0xED then some ⟨2, 0x80, 0x9F, 0xD⟩
  else if b < 0xF0 then some ⟨2, 0x80, 0xBF, b.toNat - 0xE0⟩
  else if b = 0xF0 then some ⟨3, 0x90, 0xBF, 0⟩
  else if b < 0xF4 then some ⟨3, 0x80, 0xBF, b.toNat - 0xF0⟩
  else if b = 0xF4 then some ⟨3, 0x80, 0x8F, 4⟩
  else none

/-- Read `need` more bytes of a character whose bits so far are `bits`.  `read` bytes of
it are behind us. -/
def tail : (need : Nat) → (low high : UInt8) → (bits read : Nat) → Bytes → Next
  | 0, _, _, bits, _, bs => .char (Char.ofNat bits) bs
  | _ + 1, _, _, _, read, [] => .cut read
  | need + 1, low, high, bits, read, b :: bs =>
      if low ≤ b ∧ b ≤ high then
        tail need 0x80 0xBF (bits * 64 + b.toNat % 64) (read + 1) bs
      else .broken read (b :: bs)

/-- Split off the first character. -/
def next : Bytes → Next
  | [] => .done
  | b :: bs =>
      if b < 0x80 then .char (Char.ofNat b.toNat) bs
      else
        match lead b with
        | none => .broken 1 bs
        | some l => tail l.need l.low l.high l.bits 1 bs

/-- The bytes `tail` leaves are among those it was given. -/
theorem tail_length_le (need : Nat) (low high : UInt8) (bits read : Nat) (bs : Bytes) :
    (∀ c rest, tail need low high bits read bs = .char c rest → rest.length ≤ bs.length) ∧
      (∀ n rest, tail need low high bits read bs = .broken n rest → rest.length ≤ bs.length) := by
  induction bs generalizing need low high bits read with
  | nil => cases need <;> simp [tail]
  | cons b bs ih =>
      cases need with
      | zero => simp [tail]
      | succ need =>
          by_cases h : low ≤ b ∧ b ≤ high
          · rw [tail, if_pos h]
            have ih := ih need 0x80 0xBF (bits * 64 + b.toNat % 64) (read + 1)
            exact ⟨fun c r hc => Nat.le_succ_of_le (ih.1 c r hc),
              fun n r hn => Nat.le_succ_of_le (ih.2 n r hn)⟩
          · rw [tail, if_neg h]
            simp

/-- A character takes at least one byte. -/
theorem next_char_lt {bs rest : Bytes} {c : Char} (h : next bs = .char c rest) :
    rest.length < bs.length := by
  cases bs with
  | nil => cases h
  | cons b bs =>
      rw [next] at h
      by_cases hb : b < 0x80
      · rw [if_pos hb] at h
        cases h
        exact Nat.lt_succ_self _
      · rw [if_neg hb] at h
        cases hl : lead b with
        | none => simp [hl] at h
        | some l =>
            rw [hl] at h
            exact Nat.lt_succ_of_le ((tail_length_le _ _ _ _ _ _).1 _ _ h)

/-- Bytes that are given up are at least one. -/
theorem next_broken_lt {bs rest : Bytes} {n : Nat} (h : next bs = .broken n rest) :
    rest.length < bs.length := by
  cases bs with
  | nil => cases h
  | cons b bs =>
      rw [next] at h
      by_cases hb : b < 0x80
      · rw [if_pos hb] at h
        cases h
      · rw [if_neg hb] at h
        cases hl : lead b with
        | none =>
            rw [hl] at h
            cases h
            exact Nat.lt_succ_self _
        | some l =>
            rw [hl] at h
            exact Nat.lt_succ_of_le ((tail_length_le _ _ _ _ _ _).2 _ _ h)

/-! ## Whole texts -/

/-- A stretch of bytes: one character, or bytes that are none. -/
inductive Piece where
  /-- A character. -/
  | char (c : Char)
  /-- Bytes in the middle of the input that begin no character. -/
  | broken (length : Nat)
  /-- Bytes at the end of the input that begin a character and do not finish it. -/
  | cut (length : Nat)
deriving Repr, DecidableEq

/-- Split bytes into pieces, first to last. -/
def pieces (bs : Bytes) : List Piece :=
  match _h : next bs with
  | .done => []
  | .char c rest => .char c :: pieces rest
  | .broken n rest => .broken n :: pieces rest
  | .cut n => [.cut n]
termination_by bs.length
decreasing_by
  · exact next_char_lt ‹_›
  · exact next_broken_lt ‹_›

/-- The character of a piece, with `U+FFFD` for bytes that are none. -/
def Piece.lossy : Piece → Char
  | .char c => c
  | _ => '\uFFFD'

/-- The character of a piece, if it is one. -/
def Piece.char? : Piece → Option Char
  | .char c => some c
  | _ => none

/-- Any bytes as text. -/
def lossy (bs : Bytes) : String := .ofList ((pieces bs).map Piece.lossy)

/-- Bytes as text, if they are UTF-8 throughout. -/
def decode? (bs : Bytes) : Option String := ((pieces bs).mapM Piece.char?).map .ofList

/-! ## Where decoding fails -/

/-- The first place where bytes stop being UTF-8. -/
inductive Fault where
  /-- `length` bytes from offset `offset` begin no character. -/
  | invalid (length offset : Nat)
  /-- The bytes from offset `offset` begin a character that the end of the input cuts. -/
  | incomplete (offset : Nat)
deriving Repr, DecidableEq

/-- The text of a fault. -/
def Fault.message : Fault → String
  | .invalid length offset => s!"invalid utf-8 sequence of {length} bytes from index {offset}"
  | .incomplete offset => s!"incomplete utf-8 byte sequence from index {offset}"

/-- The first fault of some pieces, the first of which begins at `offset`. -/
def faultFrom (offset : Nat) : List Piece → Option Fault
  | [] => none
  | .char c :: ps => faultFrom (offset + c.utf8Size) ps
  | .broken n :: _ => some (.invalid n offset)
  | .cut _ :: _ => some (.incomplete offset)

/-- The first fault of some bytes. -/
def fault? (bs : Bytes) : Option Fault := faultFrom 0 (pieces bs)

end Utf8

end SqlGateway
