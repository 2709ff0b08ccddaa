import SqlGateway.Proofs.Text.Utf8
import SqlGateway.Url.Percent

/-!
# What encoding leaves

An encoded part has no character of its set (`free_encode`), for encoding adds only percent
signs and hexadecimal digits, which every set of this library spares.  A part that is free
of its set is encoded to itself, so an encoded part is read back as it stands.

What the sets hold decides where the reader may stop.  The lemmas on each set say which of
the marks between the parts of a URL a free part cannot have.
-/

namespace SqlGateway.Url

/-- What holds of every ASCII character holds of one. -/
theorem forall_ascii {p : Char → Prop} (all : ∀ n : Fin 128, p (Char.ofNat n)) {c : Char}
    (ascii : c.toNat < 128) : p c := by
  have this := all ⟨c.toNat, ascii⟩
  rwa [Char.ofNat_toNat] at this

/-! ## Encoding -/

/-- No character of a text is in a set. -/
def Free (set : EncodeSet) (cs : List Char) : Prop := ∀ c ∈ cs, set c = false

instance (set : EncodeSet) (cs : List Char) : Decidable (Free set cs) :=
  List.decidableBAll (fun c => set c = false) cs

theorem Free.nil (set : EncodeSet) : Free set [] := List.forall_mem_nil _

/-- The characters that spell a byte. -/
def escapeChars : List Char :=
  ['%', '0', '1', '2', '3', '4', '5', '6', '7', '8', '9', 'A', 'B', 'C', 'D', 'E', 'F']

theorem upperHex_mem {n : Nat} (small : n < 16) : upperHex n ∈ escapeChars := by
  have digits : ∀ n : Fin 16, upperHex n.val ∈ escapeChars := by decide
  exact digits ⟨n, small⟩

theorem mem_escapeChars {b : UInt8} {c : Char} (h : c ∈ encodeByte b) : c ∈ escapeChars := by
  have bound : b.toNat < 256 := b.toNat_lt
  simp only [encodeByte, List.mem_cons, List.not_mem_nil, or_false] at h
  rcases h with rfl | rfl | rfl
  · exact List.mem_cons_self
  · exact upperHex_mem (by omega)
  · exact upperHex_mem (by omega)

/-- Encoding keeps the characters outside the set, and adds those that spell bytes. -/
theorem of_mem_encode {set : EncodeSet} {cs : List Char} {c : Char} (h : c ∈ encode set cs) :
    (c ∈ cs ∧ set c = false) ∨ c ∈ escapeChars := by
  obtain ⟨d, hd, hc⟩ := List.mem_flatMap.mp h
  rw [encodeChar] at hc
  split at hc
  · obtain ⟨b, -, hb⟩ := List.mem_flatMap.mp hc
    exact Or.inr (mem_escapeChars hb)
  · obtain rfl := List.mem_singleton.mp hc
    exact Or.inl ⟨hd, by simp_all⟩

theorem encode_eq_nil {set : EncodeSet} {cs : List Char} : encode set cs = [] ↔ cs = [] := by
  have char : ∀ c, encodeChar set c ≠ [] := by
    intro c
    rw [encodeChar]
    split
    · intro h
      obtain ⟨b, hb⟩ := List.exists_mem_of_ne_nil (String.utf8EncodeChar c)
        String.utf8EncodeChar_ne_nil
      exact List.cons_ne_nil _ _ (List.flatMap_eq_nil_iff.mp h b hb)
    · exact List.cons_ne_nil c []
  cases cs with
  | nil => exact Iff.rfl
  | cons c cs => simp [char c]

/-- An encoded text has no character of the set. -/
theorem free_encode {set : EncodeSet} (spares : Free set escapeChars) (cs : List Char) :
    Free set (encode set cs) := by
  intro c hc
  cases of_mem_encode hc with
  | inl kept => exact kept.2
  | inr added => exact spares c added

/-! ## The sets -/

namespace EncodeSet

variable {c : Char}

theorem spares_controls : Free controls escapeChars := by decide

theorem spares_fragment : Free fragment escapeChars := by decide

theorem spares_query : Free query escapeChars := by decide

theorem spares_specialQuery : Free specialQuery escapeChars := by decide

theorem spares_path : Free path escapeChars := by decide

theorem spares_userinfo : Free userinfo escapeChars := by decide

theorem adding_eq_false {set : EncodeSet} {more : List Char} :
    set.adding more c = false ↔ set c = false ∧ c ∉ more := by
  simp [adding]

/-- A character that is neither a control nor a space stands after the space. -/
theorem lt_of_controls (free : controls c = false) (noSpace : c ≠ ' ') : ' ' < c := by
  have notBelow : ¬ c < ' ' := by
    intro below
    simp [controls, below] at free
  exact Std.lt_of_le_of_ne (Char.not_lt.mp notBelow) noSpace.symm

theorem lt_of_fragment (free : fragment c = false) : ' ' < c := by
  obtain ⟨shown, others⟩ := adding_eq_false.mp free
  exact lt_of_controls shown fun h => others (by simp [h])

theorem lt_of_query (free : query c = false) : ' ' < c ∧ c ≠ '#' := by
  obtain ⟨shown, others⟩ := adding_eq_false.mp free
  exact ⟨lt_of_controls shown fun h => others (by simp [h]), fun h => others (by simp [h])⟩

theorem lt_of_path (free : path c = false) : ' ' < c ∧ c ≠ '?' ∧ c ≠ '#' := by
  obtain ⟨inFragment, others⟩ := adding_eq_false.mp free
  exact ⟨lt_of_fragment inFragment, fun h => others (by simp [h]), fun h => others (by simp [h])⟩

/-- What a user name and a password have none of. -/
theorem lt_of_userinfo (free : userinfo c = false) :
    ' ' < c ∧ c ≠ '/' ∧ c ≠ '?' ∧ c ≠ '#' ∧ c ≠ '\\' ∧ c ≠ ':' ∧ c ≠ '@' := by
  obtain ⟨inPath, others⟩ := adding_eq_false.mp free
  obtain ⟨shown, noQuery, noFragment⟩ := lt_of_path inPath
  simp only [List.mem_cons, not_or] at others
  exact ⟨shown, others.1, noQuery, noFragment, others.2.2.2.2.2.2.1, others.2.1,
    others.2.2.2.2.1⟩

end EncodeSet

/-! ## Decoding -/

/-- Bytes without a percent sign spell themselves. -/
theorem decodeBytes_of_plain : ∀ {bs : Bytes}, 37 ∉ bs → decodeBytes bs = bs
  | [], _ => rfl
  | b :: bs, plain => by
      obtain ⟨here, later⟩ : 37 ≠ b ∧ 37 ∉ bs := by simpa [not_or] using plain
      rw [decodeBytes, decodeBytes_of_plain later]
      rintro _ _ _ rfl
      exact absurd rfl here

/-- A text without a percent sign spells itself. -/
theorem decode_of_plain {cs : List Char} (plain : '%' ∉ cs) :
    decode cs = Utf8.ofChars cs := by
  have noByte : 37 ∉ Utf8.ofChars cs := by
    intro h
    obtain ⟨c, hc, hb⟩ := List.mem_flatMap.mp h
    cases Utf8.toNat_of_mem_encodeChar hb with
    | inl same => exact plain ((Char.toNat_inj.mp same : '%' = c) ▸ hc)
    | inr above => exact absurd above (by decide)
  rw [decode, Utf8.encode_ofList, decodeBytes_of_plain noByte]

end SqlGateway.Url
