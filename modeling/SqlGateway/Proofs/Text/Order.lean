import Mathlib.Data.String.Basic
import SqlGateway.Proofs.Text.Utf8

/-!
# The order of encoded texts

Texts are compared character by character, and their encodings byte by byte.  Both
comparisons agree: of two characters the lesser one has the lesser bytes, whatever follows
them (`encodeChar_append_lt`), so a lesser text has lesser bytes (`encode_lt`).

The first byte of a character tells its length, and a longer character has a greater first
byte.  Characters of one length are numbers written with as many digits, of six bits each
but for the first.
-/

namespace SqlGateway.Utf8

/-! ## Bytes -/

theorem cons_lt_of_lt {m n : Nat} {x y : Bytes} (lt : m < n) (small : n < 256) :
    UInt8.ofNat m :: x < UInt8.ofNat n :: y := by
  refine List.cons_lt_cons_iff.mpr (.inl ?_)
  rwa [UInt8.lt_iff_toNat_lt, toNat_byte (by omega), toNat_byte small]

/-- Where the first bytes may be the same, the later ones decide. -/
theorem cons_lt_of_le {m n : Nat} {x y : Bytes} (le : m ≤ n) (small : n < 256)
    (later : m = n → x < y) : UInt8.ofNat m :: x < UInt8.ofNat n :: y := by
  rcases Nat.lt_or_eq_of_le le with lt | same
  · exact cons_lt_of_lt lt small
  · exact List.cons_lt_cons_iff.mpr (.inr ⟨congrArg _ same, later same⟩)

/-! ## Characters -/

/-- The lesser of two characters has the lesser bytes, whatever follows them. -/
theorem encodeChar_append_lt {c d : Char} (lt : c < d) (x y : Bytes) :
    String.utf8EncodeChar c ++ x < String.utf8EncodeChar d ++ y := by
  have less : c.toNat < d.toNat := lt
  have valid : d.toNat < 0xD800 ∨ (0xDFFF < d.toNat ∧ d.toNat < 0x110000) := d.valid
  have code (e : Char) : e.val.toNat = e.toNat := rfl
  rw [String.utf8EncodeChar, String.utf8EncodeChar, code, code]
  generalize c.toNat = v at *
  generalize d.toNat = w at *
  -- By the length of the greater character; the lesser one is shorter or of that length.
  by_cases one : w ≤ 0x7F
  · rw [if_pos one, if_pos (by omega)]
    exact cons_lt_of_lt less (by omega)
  rw [if_neg one]
  by_cases two : w ≤ 0x7FF
  · rw [if_pos two]
    split
    · exact cons_lt_of_lt (by omega) (by omega)
    rw [if_pos (by omega)]
    refine cons_lt_of_le (by omega) (by omega) fun _ => ?_
    exact cons_lt_of_lt (by omega) (by omega)
  rw [if_neg two]
  by_cases three : w ≤ 0xFFFF
  · rw [if_pos three]
    split
    · exact cons_lt_of_lt (by omega) (by omega)
    split
    · exact cons_lt_of_lt (by omega) (by omega)
    rw [if_pos (by omega)]
    refine cons_lt_of_le (by omega) (by omega) fun _ => ?_
    refine cons_lt_of_le (by omega) (by omega) fun _ => ?_
    exact cons_lt_of_lt (by omega) (by omega)
  · rw [if_neg three]
    split
    · exact cons_lt_of_lt (by omega) (by omega)
    split
    · exact cons_lt_of_lt (by omega) (by omega)
    split
    · exact cons_lt_of_lt (by omega) (by omega)
    refine cons_lt_of_le (by omega) (by omega) fun _ => ?_
    refine cons_lt_of_le (by omega) (by omega) fun _ => ?_
    refine cons_lt_of_le (by omega) (by omega) fun _ => ?_
    exact cons_lt_of_lt (by omega) (by omega)

/-! ## Texts -/

theorem ofChars_lt : ∀ {cs ds : List Char}, cs < ds → ofChars cs < ofChars ds
  | [], d :: ds, _ => by
      obtain ⟨b, bs, bytes⟩ : ∃ b bs, String.utf8EncodeChar d = b :: bs := by
        refine List.exists_cons_of_ne_nil (List.ne_nil_of_length_pos ?_)
        rw [String.length_utf8EncodeChar]
        exact d.utf8Size_pos
      rw [ofChars_nil, ofChars_cons, bytes]
      exact .nil
  | c :: cs, d :: ds, lt => by
      rw [ofChars_cons, ofChars_cons]
      rcases List.cons_lt_cons_iff.mp lt with here | ⟨rfl, later⟩
      · exact encodeChar_append_lt here _ _
      · exact List.append_left_lt (ofChars_lt later)

/-- A lesser text has lesser bytes. -/
theorem encode_lt {s t : String} (lt : s < t) : encode s < encode t :=
  ofChars_lt (String.lt_iff_toList_lt.mp lt)

end SqlGateway.Utf8
