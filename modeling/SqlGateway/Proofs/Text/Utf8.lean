import SqlGateway.Text.Utf8

/-!
# Reading back what is encoded

The bytes of a character are read as that character whatever follows them
(`next_encodeChar`).  So the bytes of a text are its characters, one piece each, and the text
is decoded from them (`decode?_ofChars`).

`next_encodeChar` follows the four lengths of a character.  A byte after the first carries six
bits of it (`tail_plain`), and the bounds that `lead` puts on the second byte hold because a
character is no surrogate and needs its length (`bounds_three`, `bounds_four`).
-/

namespace SqlGateway.Utf8

/-! ## One character -/

theorem toNat_byte {n : Nat} (small : n < 256) : (UInt8.ofNat n).toNat = n :=
  UInt8.toNat_ofNat_of_lt' small

/-- A byte within the bounds adds six bits. -/
theorem tail_byte {need : Nat} {low high : UInt8} {bits read n : Nat} {bs : Bytes}
    (small : n < 256) (above : low.toNat ≤ n) (below : n ≤ high.toNat) :
    tail (need + 1) low high bits read (UInt8.ofNat n :: bs) =
      tail need 0x80 0xBF (bits * 64 + n % 64) (read + 1) bs := by
  rw [tail, if_pos, toNat_byte small]
  rw [UInt8.le_iff_toNat_le, UInt8.le_iff_toNat_le, toNat_byte small]
  exact ⟨above, below⟩

theorem next_byte {n : Nat} {bs : Bytes} {l : Lead} (small : n < 256) (long : 0x80 ≤ n)
    (h : lead (UInt8.ofNat n) = some l) :
    next (UInt8.ofNat n :: bs) = tail l.need l.low l.high l.bits 1 bs := by
  rw [next, if_neg, h]
  rw [UInt8.lt_iff_toNat_lt, toNat_byte small]
  exact Nat.not_lt.mpr long

theorem lead_two {b : UInt8} (above : 0xC2 ≤ b.toNat) (below : b.toNat < 0xE0) :
    lead b = some ⟨1, 0x80, 0xBF, b.toNat - 0xC0⟩ := by
  simp [lead, UInt8.lt_iff_toNat_lt]
  omega

theorem lead_three {b : UInt8} (above : 0xE0 ≤ b.toNat) (below : b.toNat < 0xF0) :
    lead b = some ⟨2, if b.toNat = 0xE0 then 0xA0 else 0x80,
      if b.toNat = 0xED then 0x9F else 0xBF, b.toNat - 0xE0⟩ := by
  simp only [lead, UInt8.lt_iff_toNat_lt, ← UInt8.toNat_inj, UInt8.reduceToNat]
  grind

theorem lead_four {b : UInt8} (above : 0xF0 ≤ b.toNat) (below : b.toNat ≤ 0xF4) :
    lead b = some ⟨3, if b.toNat = 0xF0 then 0x90 else 0x80,
      if b.toNat = 0xF4 then 0x8F else 0xBF, b.toNat - 0xF0⟩ := by
  simp only [lead, UInt8.lt_iff_toNat_lt, ← UInt8.toNat_inj, UInt8.reduceToNat]
  grind

/-- A character of three bytes needs them and is no surrogate, so its second byte is within
the bounds that go with the first. -/
theorem bounds_three {v : Nat} (long : 0x7FF < v) (short : v ≤ 0xFFFF)
    (valid : v < 0xD800 ∨ 0xDFFF < v) :
    ∃ low high : UInt8, lead (UInt8.ofNat (v / 4096 % 16 + 224)) = some ⟨2, low, high, v / 4096⟩ ∧
      low.toNat ≤ v / 64 % 64 + 128 ∧ v / 64 % 64 + 128 ≤ high.toNat := by
  have first : (UInt8.ofNat (v / 4096 % 16 + 224)).toNat = v / 4096 + 224 := by
    rw [toNat_byte (by omega)]
    omega
  have bits : v / 4096 + 224 - 224 = v / 4096 := Nat.add_sub_cancel _ _
  refine ⟨_, _, lead_three (by omega) (by omega) |>.trans (by rw [first, bits]), ?_, ?_⟩
  all_goals
    rw [apply_ite UInt8.toNat]
    simp only [UInt8.reduceToNat]
    split <;> omega

/-- A character of four bytes needs them and is at most the last one, so its second byte is
within the bounds that go with the first. -/
theorem bounds_four {v : Nat} (long : 0xFFFF < v) (short : v < 0x110000) :
    ∃ low high : UInt8,
      lead (UInt8.ofNat (v / 262144 % 8 + 240)) = some ⟨3, low, high, v / 262144⟩ ∧
        low.toNat ≤ v / 4096 % 64 + 128 ∧ v / 4096 % 64 + 128 ≤ high.toNat := by
  have first : (UInt8.ofNat (v / 262144 % 8 + 240)).toNat = v / 262144 + 240 := by
    rw [toNat_byte (by omega)]
    omega
  have bits : v / 262144 + 240 - 240 = v / 262144 := Nat.add_sub_cancel _ _
  refine ⟨_, _, lead_four (by omega) (by omega) |>.trans (by rw [first, bits]), ?_, ?_⟩
  all_goals
    rw [apply_ite UInt8.toNat]
    simp only [UInt8.reduceToNat]
    split <;> omega

/-- A byte that no first byte bounds adds six bits. -/
theorem tail_plain {need bits read n : Nat} {bs : Bytes} (small : n < 64) :
    tail (need + 1) 0x80 0xBF bits read (UInt8.ofNat (n + 128) :: bs) =
      tail need 0x80 0xBF (bits * 64 + n) (read + 1) bs := by
  have above : UInt8.toNat 0x80 ≤ n + 128 := Nat.le_add_left 128 n
  have below : n + 128 ≤ UInt8.toNat 0xBF := Nat.add_le_add_right (Nat.le_of_lt_succ small) 128
  have six : (n + 128) % 64 = n := by omega
  rw [tail_byte (by omega) above below, six]

/-- The bytes of a character are read as that character. -/
theorem next_encodeChar (c : Char) (rest : Bytes) :
    next (String.utf8EncodeChar c ++ rest) = .char c rest := by
  have valid : c.toNat < 0xD800 ∨ (0xDFFF < c.toNat ∧ c.toNat < 0x110000) := c.valid
  have whole : Char.ofNat c.toNat = c := Char.ofNat_toNat c
  have code : c.val.toNat = c.toNat := rfl
  rw [String.utf8EncodeChar, code]
  generalize c.toNat = v at *
  by_cases one : v ≤ 0x7F
  · rw [if_pos one, List.singleton_append, next, if_pos, toNat_byte (by omega), whole]
    rw [UInt8.lt_iff_toNat_lt, toNat_byte (by omega)]
    exact Nat.lt_succ_of_le one
  rw [if_neg one]
  by_cases two : v ≤ 0x7FF
  · have first : (UInt8.ofNat (v / 64 % 32 + 192)).toNat = v / 64 + 192 := by
      rw [toNat_byte (by omega)]
      omega
    have bits : (v / 64 + 192 - 192) * 64 + v % 64 = v := by omega
    rw [if_pos two]
    simp only [List.cons_append, List.nil_append]
    rw [next_byte (by omega) (by omega) (lead_two (by omega) (by omega)), first]
    rw [tail_plain (by omega), tail, bits, whole]
  rw [if_neg two]
  by_cases three : v ≤ 0xFFFF
  · obtain ⟨low, high, first, above, below⟩ := bounds_three (by omega) three (by omega)
    have bits : (v / 4096 * 64 + (v / 64 % 64 + 128) % 64) * 64 + v % 64 = v := by omega
    rw [if_pos three]
    simp only [List.cons_append, List.nil_append]
    rw [next_byte (by omega) (by omega) first, tail_byte (by omega) above below]
    rw [tail_plain (by omega), tail, bits, whole]
  · obtain ⟨low, high, first, above, below⟩ := bounds_four (v := v) (by omega) (by omega)
    have bits : ((v / 262144 * 64 + (v / 4096 % 64 + 128) % 64) * 64 + v / 64 % 64) * 64 +
        v % 64 = v := by omega
    rw [if_neg three]
    simp only [List.cons_append, List.nil_append]
    rw [next_byte (by omega) (by omega) first, tail_byte (by omega) above below]
    rw [tail_plain (by omega), tail_plain (by omega), tail, bits, whole]

/-- A character of one byte is that byte. -/
theorem encodeChar_ascii {c : Char} (h : c.toNat < 0x80) :
    String.utf8EncodeChar c = [UInt8.ofNat c.toNat] := by
  have code : c.val.toNat = c.toNat := rfl
  rw [String.utf8EncodeChar, code, if_pos (Nat.le_of_lt_succ h)]

/-- A byte of a character is the character itself, or at or above `80`. -/
theorem toNat_of_mem_encodeChar {c : Char} {b : UInt8} (h : b ∈ String.utf8EncodeChar c) :
    b.toNat = c.toNat ∨ 0x80 ≤ b.toNat := by
  have code : c.val.toNat = c.toNat := rfl
  rw [String.utf8EncodeChar, code] at h
  split at h
  · left
    rw [List.mem_singleton.mp h, toNat_byte (by omega)]
  · right
    split at h
    · simp only [List.mem_cons, List.not_mem_nil, or_false] at h
      rcases h with rfl | rfl <;> rw [toNat_byte (by omega)] <;> omega
    · split at h
      · simp only [List.mem_cons, List.not_mem_nil, or_false] at h
        rcases h with rfl | rfl | rfl <;> rw [toNat_byte (by omega)] <;> omega
      · simp only [List.mem_cons, List.not_mem_nil, or_false] at h
        rcases h with rfl | rfl | rfl | rfl <;> rw [toNat_byte (by omega)] <;> omega

/-! ## Whole texts -/

/-- The bytes of some characters. -/
def ofChars (cs : List Char) : Bytes := cs.flatMap String.utf8EncodeChar

theorem encode_ofList (cs : List Char) : encode (.ofList cs) = ofChars cs := by
  rw [encode, String.toList_ofList, ofChars]

@[simp] theorem ofChars_nil : ofChars [] = [] := rfl

theorem ofChars_cons (c : Char) (cs : List Char) :
    ofChars (c :: cs) = String.utf8EncodeChar c ++ ofChars cs := rfl

@[simp] theorem ofChars_append (cs ds : List Char) :
    ofChars (cs ++ ds) = ofChars cs ++ ofChars ds := List.flatMap_append

/-- The bytes of some characters are those characters, one piece each. -/
theorem pieces_ofChars : ∀ cs : List Char, pieces (ofChars cs) = cs.map Piece.char
  | [] => by
      rw [ofChars_nil, pieces]
      rfl
  | c :: cs => by
      rw [ofChars_cons, pieces]
      split
      next h => cases (next_encodeChar c _).symm.trans h
      next h =>
        cases (next_encodeChar c _).symm.trans h
        rw [pieces_ofChars cs, List.map_cons]
      next h => cases (next_encodeChar c _).symm.trans h
      next h => cases (next_encodeChar c _).symm.trans h

/-- A text is decoded from its bytes. -/
theorem decode?_ofChars (cs : List Char) : decode? (ofChars cs) = some (.ofList cs) := by
  have chars : (cs.map Piece.char).mapM Piece.char? = some cs := by
    induction cs with
    | nil => rfl
    | cons c cs ih => simp [ih, Piece.char?]
  rw [decode?, pieces_ofChars, chars, Option.map_some]

end SqlGateway.Utf8
