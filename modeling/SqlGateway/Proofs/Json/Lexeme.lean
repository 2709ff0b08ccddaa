import SqlGateway.Json.Printer
import SqlGateway.Json.Scan
import SqlGateway.Proofs.Text.Numeral
import SqlGateway.Proofs.Text.Utf8

/-!
# Reading back numbers and strings

What is printed for an integer or a string is read back as it, and what follows is left
(`takes_intText`, `takes_quoted`).  Behind an integer there must be something that does not go
on with a number (`Closed`); behind a string there may be anything.

`Takes` says what a scan does: it takes a value off the front of some bytes and leaves the rest.
-/

namespace SqlGateway.Json

open Utf8 (ofChars)

/-- A scan takes a value off the front of some bytes and leaves the rest. -/
def Takes {α : Type} (scan : Scan α) (bs : Bytes) (a : α) (rest : Bytes) : Prop :=
  ∃ h, scan bs = .ok ⟨a, rest, h⟩

/-- What was read so far is a value, and some bytes are left. -/
def Leaves {α : Type} {bs : Bytes} (t : Tail α bs) (a : α) (rest : Bytes) : Prop :=
  ∃ h, t = .ok (a, ⟨rest, h⟩)

theorem Leaves.cons {α : Type} {bs rest : Bytes} {t : Tail α bs} {a : α} (b : UInt8)
    (h : Leaves t a rest) : Leaves (t.cons b) a rest := by
  obtain ⟨short, rfl⟩ := h
  exact ⟨Nat.le_succ_of_le short, rfl⟩

/-! ## Spaces -/

/-- Spaces in front say nothing. -/
theorem skipSpace_append {gap : Bytes} (bs : Bytes) (h : ∀ b ∈ gap, isSpace b = true) :
    skipSpace (gap ++ bs) = skipSpace bs := by
  induction gap with
  | nil => rfl
  | cons b gap ih =>
      obtain ⟨here, later⟩ := List.forall_mem_cons.mp h
      rw [List.cons_append, skipSpace, if_pos here, ih later]

theorem skipSpace_of_not_space {b : UInt8} {bs : Bytes} (h : isSpace b = false) :
    skipSpace (b :: bs) = b :: bs := by
  rw [skipSpace, h]
  rfl

/-! ## Digits -/

/-- What follows does not go on with a number. -/
def Closed : Bytes → Prop
  | [] => True
  | b :: _ => isDigit b = false ∧ b ≠ 46 ∧ isExponentMark b = false

section Digits

variable {negative : Bool} {c : Char} {cs : List Char} {significand : Nat} {rest bs : Bytes}

theorem isDigit_iff {b : UInt8} : isDigit b = true ↔ 48 ≤ b.toNat ∧ b.toNat ≤ 57 := by
  simp [isDigit, UInt8.le_iff_toNat_le]

theorem toNat_of_isDigit (h : c.isDigit = true) : 48 ≤ c.toNat ∧ c.toNat ≤ 57 := by
  simpa [Char.isDigit, UInt32.le_iff_toNat_le] using h

/-- A digit is a byte with the value of the digit. -/
theorem encodeChar_digit (h : c.isDigit = true) :
    ∃ b, String.utf8EncodeChar c = [b] ∧ isDigit b = true ∧ b.toNat = c.toNat ∧
      digitValue b = c.toNat - '0'.toNat := by
  obtain ⟨low, high⟩ := toNat_of_isDigit h
  have value : (UInt8.ofNat c.toNat).toNat = c.toNat := Utf8.toNat_byte (by omega)
  refine ⟨_, Utf8.encodeChar_ascii (by omega), ?_, value, ?_⟩
  · rw [isDigit_iff, value]
    exact ⟨low, high⟩
  · rw [digitValue, value]
    rfl

/-- Nothing follows the digits of a number that is closed. -/
theorem leaves_afterDigits {exponent : Int} {whole : Number} (closed : Closed rest) :
    Leaves (afterDigits negative significand exponent whole rest) whole rest := by
  cases rest with
  | nil => exact ⟨_, rfl⟩
  | cons b rest =>
      obtain ⟨-, point, mark⟩ := closed
      refine ⟨Nat.le_refl _, ?_⟩
      rw [afterDigits, if_neg point, mark]
      rfl

/-- The value of digits only grows with every digit. -/
theorem le_ofDigitChars (cs : List Char) (n : Nat) : n ≤ Nat.ofDigitChars 10 cs n := by
  induction cs generalizing n with
  | nil => simp
  | cons c cs ih =>
      rw [Nat.ofDigitChars_cons]
      exact Nat.le_trans (by omega) (ih _)

/-- Digits that 64 bits hold are read as their value. -/
theorem leaves_wholeDigits (digits : ∀ c ∈ cs, c.isDigit = true)
    (small : Nat.ofDigitChars 10 cs significand < UInt64.size) (closed : Closed rest) :
    Leaves (wholeDigits negative significand (ofChars cs ++ rest))
      (wholeNumber negative (Nat.ofDigitChars 10 cs significand)) rest := by
  induction cs generalizing significand with
  | nil =>
      rw [Nat.ofDigitChars_nil, Utf8.ofChars_nil, List.nil_append]
      cases rest with
      | nil => exact leaves_afterDigits closed
      | cons b rest =>
          rw [wholeDigits, closed.1]
          exact leaves_afterDigits closed
  | cons c cs ih =>
      obtain ⟨here, later⟩ := List.forall_mem_cons.mp digits
      obtain ⟨b, bytes, digit, -, value⟩ := encodeChar_digit here
      rw [Nat.ofDigitChars_cons] at small ⊢
      have fits : ¬ UInt64.size ≤ significand * 10 + digitValue b := by
        have := le_ofDigitChars cs (10 * significand + (c.toNat - '0'.toNat))
        omega
      have next : significand * 10 + digitValue b =
          10 * significand + (c.toNat - '0'.toNat) := by omega
      rw [Utf8.ofChars_cons, bytes, List.append_assoc, List.singleton_append, wholeDigits,
        if_pos digit, if_neg fits, next]
      exact (ih later small).cons b

/-- The digits of a number that 64 bits hold are read as it. -/
theorem takes_toDigits {n : Nat} (small : n < UInt64.size) (closed : Closed rest) :
    Takes (unsignedNumber negative) (ofChars (Nat.toDigits 10 n) ++ rest)
      (wholeNumber negative n) rest := by
  by_cases zero : n = 0
  · subst zero
    have alone : startsWithDigit rest = false := by
      cases rest with
      | nil => rfl
      | cons b rest => exact closed.1
    have nothing : Leaves (afterDigits negative 0 0 (wholeNumber negative 0) rest)
        (wholeNumber negative 0) rest := leaves_afterDigits closed
    obtain ⟨short, after⟩ := nothing
    have bytes : ofChars (Nat.toDigits 10 0) ++ rest = 48 :: rest := rfl
    rw [bytes]
    refine ⟨Nat.lt_succ_of_le short, ?_⟩
    simp only [unsignedNumber, if_pos, alone, after]
    rfl
  · obtain ⟨c, cs, digits, first⟩ := Numeral.exists_toDigits_eq_cons zero
    have allDigits : ∀ c ∈ Nat.toDigits 10 n, c.isDigit = true := fun c hc =>
      Nat.isDigit_of_mem_toDigits (by omega) (by omega) hc
    rw [digits] at allDigits
    obtain ⟨here, later⟩ := List.forall_mem_cons.mp allDigits
    obtain ⟨b, bytes, digit, code, value⟩ := encodeChar_digit here
    have whole : Nat.ofDigitChars 10 cs (digitValue b) = n := by
      have := Nat.ofDigitChars_ten_toDigits (n := n)
      rw [digits, Nat.ofDigitChars_cons] at this
      rw [value, ← this, Nat.mul_zero, Nat.zero_add]
    have noZero : b ≠ 48 := by
      rintro rfl
      exact first (Char.toNat_inj.mp code.symm)
    have others : Leaves (wholeDigits negative (digitValue b) (ofChars cs ++ rest))
        (wholeNumber negative n) rest := by
      rw [← whole] at small ⊢
      exact leaves_wholeDigits later small closed
    obtain ⟨short, after⟩ := others
    rw [digits, Utf8.ofChars_cons, bytes, List.append_assoc, List.singleton_append]
    refine ⟨Nat.lt_succ_of_le short, ?_⟩
    simp only [unsignedNumber, if_neg noZero, if_pos digit, after]

end Digits

/-! ## Integers -/

/-- A number without a sign needs none. -/
theorem takes_numeral_of_unsigned {bs rest : Bytes} {n : Number}
    (h : Takes (unsignedNumber false) bs n rest) : Takes numeral bs n rest := by
  obtain ⟨short, read⟩ := h
  refine ⟨short, ?_⟩
  cases bs with
  | nil => cases short
  | cons b bs =>
      by_cases minus : b = 45
      · subst minus
        cases read
      · rw [numeral, if_neg minus, read]

/-- What is printed for an integer is read back as it. -/
theorem takes_intText (n : Integer) {rest : Bytes} (closed : Closed rest) :
    Takes numeral (ofChars (Number.intText n.val) ++ rest) (.integer n) rest := by
  have lower := n.lower
  have upper := n.upper
  have small : n.val.natAbs < UInt64.size := by
    have : UInt64.size = 0x10000000000000000 := rfl
    omega
  by_cases below : n.val < 0
  · have bytes : ofChars ('-' :: Nat.toDigits 10 n.val.natAbs) ++ rest =
        45 :: (ofChars (Nat.toDigits 10 n.val.natAbs) ++ rest) := rfl
    have whole : wholeNumber true n.val.natAbs = .integer n := by
      have value : -(n.val.natAbs : Int) = n.val := by omega
      rw [wholeNumber, if_pos rfl, if_neg (by omega), value, n.ofInt?_val]
    have digits : Takes (unsignedNumber true) (ofChars (Nat.toDigits 10 n.val.natAbs) ++ rest)
        (.integer n) rest := whole ▸ takes_toDigits small closed
    obtain ⟨short, read⟩ := digits
    rw [Number.intText, if_pos below, bytes]
    refine ⟨Nat.lt_succ_of_lt short, ?_⟩
    simp only [numeral, if_pos, read]
    rfl
  · have whole : wholeNumber false n.val.natAbs = .integer n := by
      have value : (n.val.natAbs : Int) = n.val := by omega
      rw [wholeNumber, if_neg (by simp), value, n.ofInt?_val]
    rw [Number.intText, if_neg below, ← whole]
    exact takes_numeral_of_unsigned (takes_toDigits small closed)

/-! ## Strings -/

/-- A byte that stands for itself inside a string. -/
def Plain (b : UInt8) : Prop := b ≠ 34 ∧ b ≠ 92 ∧ ¬ b < 32

section Strings

variable {read bs rest rest' : Bytes} {c : Char} {s : String}

/-- The closing quote ends a string whose bytes are those of some characters. -/
theorem takes_closingQuote (cs : List Char) (rest : Bytes) :
    Takes (stringBody (ofChars cs).reverse) (34 :: rest) (.ofList cs) rest := by
  refine ⟨Nat.lt_succ_self _, ?_⟩
  rw [stringBody, if_pos rfl, List.reverse_reverse, Utf8.decode?_ofChars]

theorem Takes.plain {b : UInt8} (plain : Plain b) (h : Takes (stringBody (b :: read)) bs s rest) :
    Takes (stringBody read) (b :: bs) s rest := by
  obtain ⟨short, h⟩ := h
  obtain ⟨quote, backslash, control⟩ := plain
  refine ⟨Nat.lt_succ_of_lt short, ?_⟩
  rw [stringBody, if_neg quote, if_neg backslash, if_neg control, h]
  rfl

theorem Takes.plains {front : Bytes} (plain : ∀ b ∈ front, Plain b)
    (h : Takes (stringBody (front.reverse ++ read)) bs s rest) :
    Takes (stringBody read) (front ++ bs) s rest := by
  induction front generalizing read with
  | nil => exact h
  | cons b front ih =>
      obtain ⟨here, later⟩ := List.forall_mem_cons.mp plain
      refine .plain here (ih later ?_)
      rwa [List.reverse_cons, List.append_assoc, List.singleton_append] at h

theorem Takes.escaped (hc : Takes escape bs c rest)
    (h : Takes (stringBody ((String.utf8EncodeChar c).reverse ++ read)) rest s rest') :
    Takes (stringBody read) (92 :: bs) s rest' := by
  obtain ⟨shorter, hc⟩ := hc
  obtain ⟨short, h⟩ := h
  refine ⟨Nat.lt_succ_of_lt (Nat.lt_trans short shorter), ?_⟩
  rw [stringBody, if_neg (by decide), if_pos rfl, hc]
  simp only [h]
  rfl

theorem hexValue_hexDigit : ∀ d < 16,
    String.utf8EncodeChar (hexDigit d) = [UInt8.ofNat (hexDigit d).toNat] ∧
      hexValue? (UInt8.ofNat (hexDigit d).toNat) = some d := by
  decide

theorem Takes.unicode (h : Takes unicodeEscape bs c rest) : Takes escape (117 :: bs) c rest := by
  obtain ⟨short, h⟩ := h
  refine ⟨Nat.lt_succ_of_lt short, ?_⟩
  have mark : Char.ofUInt8 117 = 'u' := rfl
  simp only [escape, mark, h]
  rfl

/-- A control character is read from its code. -/
theorem takes_control (h : c < ' ') (rest : Bytes) :
    Takes escape
      (ofChars ['u', '0', '0', hexDigit (c.toNat / 16), hexDigit (c.toNat % 16)] ++ rest) c
      rest := by
  have small : c.toNat < 32 := h
  obtain ⟨bytes, value⟩ := hexValue_hexDigit (c.toNat / 16) (by omega)
  obtain ⟨bytes', value'⟩ := hexValue_hexDigit (c.toNat % 16) (by omega)
  have zero : hexValue? 48 = some 0 := rfl
  have code : ((0 * 16 + 0) * 16 + c.toNat / 16) * 16 + c.toNat % 16 = c.toNat := by omega
  have unit : Takes unicodeEscape (48 :: 48 :: UInt8.ofNat (hexDigit (c.toNat / 16)).toNat ::
      UInt8.ofNat (hexDigit (c.toNat % 16)).toNat :: rest) c rest := by
    refine ⟨by simp; omega, ?_⟩
    simp only [unicodeEscape, hexEscape, zero, value, value', code]
    rw [if_neg (by omega), if_pos (by omega)]
    simp [Taken.map, Char.ofNat_toNat]
  rw [Utf8.ofChars_cons, Utf8.ofChars_cons, Utf8.ofChars_cons, Utf8.ofChars_cons,
    Utf8.ofChars_cons, bytes, bytes']
  exact unit.unicode

/-- A character stands in a string as itself, or as an escape that is read as it. -/
theorem escapeChar_cases (c : Char) :
    (escapeChar c = [c] ∧ ∀ b ∈ String.utf8EncodeChar c, Plain b) ∨
      ∃ tail, escapeChar c = '\\' :: tail ∧ ∀ rest, Takes escape (ofChars tail ++ rest) c rest := by
  by_cases named : c ∈ ['"', '\\', '\x08', '\x0c', '\n', '\r', '\t']
  · right
    simp only [List.mem_cons, List.not_mem_nil, or_false] at named
    rcases named with rfl | rfl | rfl | rfl | rfl | rfl | rfl <;>
      exact ⟨_, rfl, fun rest => ⟨Nat.lt_succ_self _, rfl⟩⟩
  · simp only [List.mem_cons, List.not_mem_nil, or_false, not_or] at named
    obtain ⟨quote, backslash, b, f, n, r, t⟩ := named
    rw [escapeChar, if_neg quote, if_neg backslash, if_neg b, if_neg f, if_neg n, if_neg r,
      if_neg t]
    by_cases control : c < ' '
    · rw [if_pos control]
      exact Or.inr ⟨_, rfl, takes_control control⟩
    · rw [if_neg control]
      refine Or.inl ⟨rfl, fun b hb => ?_⟩
      have above : ¬ c.toNat < 32 := control
      have quote : c.toNat ≠ 34 := fun h => quote (Char.toNat_inj.mp h)
      have backslash : c.toNat ≠ 92 := fun h => backslash (Char.toNat_inj.mp h)
      have byte := Utf8.toNat_of_mem_encodeChar hb
      refine ⟨?_, ?_, ?_⟩
      · rintro rfl
        simp at byte
        omega
      · rintro rfl
        simp at byte
        omega
      · rw [UInt8.lt_iff_toNat_lt]
        simp
        omega

/-- The characters of a string, as they stand in it, are read as they are. -/
theorem takes_escaped (front cs : List Char) (rest : Bytes) :
    Takes (stringBody (ofChars front).reverse) (ofChars (cs.flatMap escapeChar) ++ 34 :: rest)
      (.ofList (front ++ cs)) rest := by
  induction cs generalizing front with
  | nil => 
      rw [List.append_nil]
      exact takes_closingQuote front rest
  | cons c cs ih =>
      have next := ih (front ++ [c])
      have bytes : (ofChars (front ++ [c])).reverse =
          (String.utf8EncodeChar c).reverse ++ (ofChars front).reverse := by
        simp [Utf8.ofChars_cons]
      rw [List.append_assoc, List.singleton_append, bytes] at next
      rw [List.flatMap_cons, Utf8.ofChars_append, List.append_assoc]
      rcases escapeChar_cases c with ⟨itself, plain⟩ | ⟨tail, escape, read⟩
      · rw [itself, Utf8.ofChars_cons, Utf8.ofChars_nil, List.append_nil]
        exact .plains plain next
      · rw [escape]
        exact .escaped (read _) next

/-- What is printed for a string, behind its opening quote, is read back as it. -/
theorem takes_quoted (s : String) (rest : Bytes) :
    Takes (stringBody []) (ofChars (s.toList.flatMap escapeChar ++ ['"']) ++ rest) s rest := by
  have h := takes_escaped [] s.toList rest
  rw [List.nil_append, String.ofList_toList] at h
  rw [Utf8.ofChars_append, List.append_assoc]
  exact h

end Strings

end SqlGateway.Json
