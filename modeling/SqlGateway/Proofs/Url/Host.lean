import SqlGateway.Proofs.Url.Address
import SqlGateway.Proofs.Url.Percent
import SqlGateway.Url.Reader

/-!
# Reading back hosts

A host that has been read is settled (`settled_of_read`): its text is read as that host
again, ends where a port may begin, and has none of the marks around a host.

A name of a special URL is spelled in ASCII, so it has no percent sign that could be decoded
once more, and it spells itself (`isSpelled_of_spell?`, `spell?_of_isSpelled`).  A name of any
other URL is encoded, and encoding it once more changes nothing.  Addresses have one printed
form, which is read back.
-/

namespace SqlGateway.Url

/-- A character of an authority is visible, and none of the marks behind an authority. -/
structure IsAuthorityChar (c : Char) : Prop where
  visible : ' ' < c
  noSlash : c ≠ '/'
  noQuery : c ≠ '?'
  noFragment : c ≠ '#'
  noBackslash : c ≠ '\\'

instance (c : Char) : Decidable (IsAuthorityChar c) :=
  decidable_of_iff (' ' < c ∧ c ≠ '/' ∧ c ≠ '?' ∧ c ≠ '#' ∧ c ≠ '\\')
    ⟨fun ⟨h₁, h₂, h₃, h₄, h₅⟩ => ⟨h₁, h₂, h₃, h₄, h₅⟩,
      fun ⟨h₁, h₂, h₃, h₄, h₅⟩ => ⟨h₁, h₂, h₃, h₄, h₅⟩⟩

/-- A character of a host is not the mark before a host either. -/
structure IsHostChar (c : Char) : Prop extends IsAuthorityChar c where
  noAt : c ≠ '@'

instance (c : Char) : Decidable (IsHostChar c) :=
  decidable_of_iff (IsAuthorityChar c ∧ c ≠ '@')
    ⟨fun ⟨h₁, h₂⟩ => ⟨h₁, h₂⟩, fun ⟨h₁, h₂⟩ => ⟨h₁, h₂⟩⟩

/-- Whatever a host is followed by, it is read back from its text. -/
structure Host.Settled [Idna] (special : Bool) (h : Host) : Prop where
  /-- The text is read as the host. -/
  reads : Host.read special h.text = .ok (some h)
  /-- The text has none of the marks around a host. -/
  plain : ∀ c ∈ h.text, IsHostChar c
  /-- The text ends at a colon behind it. -/
  length : ∀ rest, Halts (· ≠ ':') rest → hostLength false (h.text ++ rest) = h.text.length
  /-- The text is not empty. -/
  ne_nil : h.text ≠ []

/-! ## Where a host ends -/

section Length

variable {cs rest : List Char}

theorem hostLength_of_halts (halts : Halts (· ≠ ':') rest) : hostLength false rest = 0 := by
  cases rest with
  | nil => rfl
  | cons c rest =>
      obtain rfl : c = ':' := by simpa using halts c rfl
      rfl

/-- Outside brackets a host goes on up to a colon. -/
theorem hostLength_of_plain (plain : ∀ c ∈ cs, c ≠ ':' ∧ c ≠ '[')
    (halts : Halts (· ≠ ':') rest) : hostLength false (cs ++ rest) = cs.length := by
  induction cs with
  | nil => exact hostLength_of_halts halts
  | cons c cs ih =>
      obtain ⟨⟨noColon, noBracket⟩, later⟩ := List.forall_mem_cons.mp plain
      rw [List.cons_append, hostLength, if_neg (by simp [noColon]), List.length_cons]
      simp [noBracket, ih later]

theorem hostLength_inside (plain : ∀ c ∈ cs, c ≠ ']') (halts : Halts (· ≠ ':') rest) :
    hostLength true (cs ++ ']' :: rest) = cs.length + 1 := by
  induction cs with
  | nil =>
      rw [List.nil_append, hostLength, if_neg (by decide)]
      exact congrArg (· + 1) (hostLength_of_halts halts)
  | cons c cs ih =>
      obtain ⟨here, later⟩ := List.forall_mem_cons.mp plain
      rw [List.cons_append, hostLength, if_neg (by simp), List.length_cons]
      simp [here, ih later]

end Length

namespace Host

/-! ## Addresses of eight pieces -/

theorem isHostChar_of_mem_ipv6 {a : Ipv6} {c : Char} (h : c ∈ a.text) :
    IsHostChar c ∧ c ≠ ']' := by
  have group : ∀ ps, c ∈ Ipv6.groups ps → IsHostChar c ∧ c ≠ ']' := by
    intro ps hc
    cases of_mem_joinWith hc with
    | inl colon =>
        obtain rfl := List.mem_singleton.mp colon
        decide
    | inr part =>
        obtain ⟨s, hs, hc⟩ := part
        obtain ⟨n, -, rfl⟩ := List.mem_map.mp hs
        obtain ⟨d, small, rfl⟩ := Numeral.mem_toDigits (by decide) hc
        have digits : ∀ d : Fin 16, IsHostChar d.val.digitChar ∧ d.val.digitChar ≠ ']' := by
          decide
        exact digits ⟨d, small⟩
  rw [Ipv6.text] at h
  dsimp only at h
  split at h
  · rw [List.append_assoc, List.mem_append, List.mem_append] at h
    rcases h with before | gap | behind
    · exact group _ before
    · obtain rfl : c = ':' := by simpa using gap
      decide
    · exact group _ behind
  · exact group _ h

theorem settled_ipv6 [Idna] (special : Bool) (a : Ipv6) : (Host.ipv6 a).Settled special := by
  have bracketed : readBracketed (a.text ++ [']']) = .ok (.ipv6 a) := by
    rw [readBracketed, if_pos List.getLast?_concat, List.dropLast_concat, Ipv6.read?_text]
  have text : (Host.ipv6 a).text = '[' :: (a.text ++ [']']) := rfl
  have inner : ∀ c ∈ a.text, IsHostChar c ∧ c ≠ ']' := fun c hc => isHostChar_of_mem_ipv6 hc
  constructor
  · rw [text, Host.read]
    cases special with
    | true =>
        rw [if_pos rfl, if_neg (List.cons_ne_nil _ _), readSpecial, bracketed]
        rfl
    | false =>
        rw [if_neg (by decide), readVerbatim, bracketed]
        rfl
  · intro c hc
    rw [text, List.mem_cons, List.mem_append, List.mem_singleton] at hc
    rcases hc with rfl | hc | rfl
    · decide
    · exact (inner c hc).1
    · decide
  · intro rest halts
    have inside := hostLength_inside (fun c hc => (inner c hc).2) halts
    rw [text, List.cons_append, List.append_assoc, List.singleton_append, hostLength,
      if_neg (by decide), List.length_cons, List.length_append]
    exact congrArg (· + 1) inside
  · exact List.cons_ne_nil _ _

/-! ## Names of special URLs -/

/-- A character of a name that is spelled in ASCII. -/
structure IsNameChar (c : Char) : Prop extends IsHostChar c where
  noColon : c ≠ ':'
  noBracket : c ≠ '['
  noPercent : c ≠ '%'
  ascii : c.toNat < 0x80
  allowed : Label.isForbidden c = false
  lower : c.toLower = c

instance (c : Char) : Decidable (IsNameChar c) :=
  decidable_of_iff (IsHostChar c ∧ c ≠ ':' ∧ c ≠ '[' ∧ c ≠ '%' ∧ c.toNat < 0x80 ∧
      Label.isForbidden c = false ∧ c.toLower = c)
    ⟨fun ⟨h₁, h₂, h₃, h₄, h₅, h₆, h₇⟩ => ⟨h₁, h₂, h₃, h₄, h₅, h₆, h₇⟩,
      fun ⟨h₁, h₂, h₃, h₄, h₅, h₆, h₇⟩ => ⟨h₁, h₂, h₃, h₄, h₅, h₆, h₇⟩⟩

/-- What a name may have is ASCII, so there are few characters to look at. -/
theorem isNameChar_toLower {c : Char} (ascii : c.toNat < 0x80) (h : Label.isForbidden c = false) :
    IsNameChar c.toLower := by
  have all : ∀ n : Fin 128, Label.isForbidden (Char.ofNat n) = false →
      IsNameChar (Char.ofNat n).toLower := by decide +kernel
  exact forall_ascii (p := fun c => Label.isForbidden c = false → IsNameChar c.toLower) all ascii h

section Names

variable {cs name : List Char}

theorem map_toLower_of_name (chars : ∀ c ∈ cs, IsNameChar c) : cs.map Char.toLower = cs :=
  (List.map_congr_left fun c hc => (chars c hc).lower).trans (List.map_id' cs)

theorem isSpelled_of_chars (chars : ∀ c ∈ name, IsNameChar c)
    (readable : Label.allRead name = true) : IsSpelled name where
  ascii c hc := (chars c hc).ascii
  allowed c hc := (chars c hc).allowed
  lower := map_toLower_of_name chars
  readable := readable

theorem isNameChar_of_isSpelled (spelled : IsSpelled name) : ∀ c ∈ name, IsNameChar c := by
  intro c hc
  rw [← spelled.lower] at hc
  obtain ⟨d, hd, rfl⟩ := List.mem_map.mp hc
  exact isNameChar_toLower (spelled.ascii d hd) (spelled.allowed d hd)

/-- Whatever a name was, its spelling spells itself. -/
theorem isSpelled_of_spell? [LawfulIdna] (h : Idna.spell? cs = some name) : IsSpelled name := by
  rw [Idna.spell?] at h
  split at h
  next ascii =>
    dsimp only at h
    split at h
    · cases h
    next shown =>
      cases h
      rw [Bool.or_eq_true, not_or, List.any_eq_true, Bool.not_eq_true', Bool.not_eq_false] at shown
      refine isSpelled_of_chars (fun c hc => ?_) shown.2
      obtain ⟨d, hd, rfl⟩ := List.mem_map.mp hc
      exact isNameChar_toLower (of_decide_eq_true (List.all_eq_true.mp ascii d hd))
        (Bool.eq_false_iff.mpr fun forbidden => shown.1 ⟨d, hd, forbidden⟩)
  · exact LawfulIdna.isSpelled_of_toAscii h

variable [Idna]

theorem spell?_of_isSpelled (spelled : IsSpelled name) : Idna.spell? name = some name := by
  have ascii : (name.all fun c => c.toNat < 0x80) = true :=
    List.all_eq_true.mpr fun c hc => decide_eq_true (spelled.ascii c hc)
  have shown : name.any Label.isForbidden = false :=
    List.any_eq_false.mpr fun c hc => by simp [spelled.allowed c hc]
  rw [Idna.spell?, if_pos ascii]
  dsimp only
  rw [spelled.lower, shown, spelled.readable]
  rfl

/-- A name without a percent sign is decoded to itself. -/
theorem readSpecial_of_name (chars : ∀ c ∈ cs, IsNameChar c) : readSpecial cs = ofName cs := by
  have plain : '%' ∉ cs := fun h => (chars _ h).noPercent rfl
  rw [readSpecial.eq_def]
  split
  · exact absurd rfl (chars '[' List.mem_cons_self).noBracket
  · rw [decode_of_plain plain, Utf8.decode?_ofChars]
    exact congrArg ofName String.toList_ofList

/-- A host whose text spells itself is settled if the text is read. -/
theorem settled_of_ofName {h : Host} (spelled : IsSpelled h.text) (read : ofName h.text = .ok h) :
    h.Settled true := by
  have chars := isNameChar_of_isSpelled spelled
  have ne_nil : h.text ≠ [] := by
    intro empty
    rw [empty] at read
    cases read
  constructor
  · rw [Host.read, if_pos rfl, if_neg ne_nil, readSpecial_of_name chars, read]
    rfl
  · exact fun c hc => (chars c hc).toIsHostChar
  · exact fun rest halts =>
      hostLength_of_plain (fun c hc => ⟨(chars c hc).noColon, (chars c hc).noBracket⟩) halts
  · exact ne_nil

/-- What a decoded name is read as. -/
theorem ofName_cases {h : Host} (read : ofName cs = .ok h) :
    ∃ name, Idna.spell? cs = some name ∧ name ≠ [] ∧ ((∃ a, h = .ipv4 a) ∨
      (Ipv4.endsInNumber name = false ∧ h = .name name)) := by
  rw [ofName] at read
  split at read
  · cases read
  next name spelled =>
    split at read
    · cases read
    next ne_nil =>
      refine ⟨name, spelled, ne_nil, ?_⟩
      split at read
      · split at read
        next a _ =>
          cases read
          exact Or.inl ⟨a, rfl⟩
        · cases read
      next noNumber =>
        cases read
        exact Or.inr ⟨by simpa using noNumber, rfl⟩

theorem settled_name (noNumber : Ipv4.endsInNumber name = false) (spelled : IsSpelled name)
    (ne_nil : name ≠ []) : (Host.name name).Settled true := by
  refine settled_of_ofName spelled ?_
  rw [text, ofName, spell?_of_isSpelled spelled]
  simp [ne_nil, noNumber]

end Names

/-! ## Addresses of four bytes -/

theorem isNameChar_of_ipv4 {c : Char} (h : c.isDigit = true ∨ c = '.') : IsNameChar c := by
  rcases h with digit | rfl
  · have digits : ∀ n : Fin 10, IsNameChar (Char.ofNat (48 + n)) := by decide
    have bounds : 48 ≤ c.toNat ∧ c.toNat ≤ 57 := by
      simpa [Char.isDigit, UInt32.le_iff_toNat_le] using digit
    have this := digits ⟨c.toNat - 48, by omega⟩
    have code : 48 + (c.toNat - 48) = c.toNat := by omega
    dsimp only at this
    rwa [code, Char.ofNat_toNat] at this
  · decide

/-- A label of digits spells itself, and does not make its name mixed. -/
theorem spelled?_digits {label : List Char} (digits : ∀ c ∈ label, c.isDigit = true) :
    Label.spelled? label = some label ∧ Direction.isMixing label = false := by
  constructor
  · have noMark : Label.mark.isPrefixOf label = false := by
      cases label with
      | nil => rfl
      | cons c cs =>
          have here := digits c List.mem_cons_self
          rw [Label.mark, List.isPrefixOf, Bool.and_eq_false_iff]
          exact Or.inl (beq_eq_false_iff_ne.mpr (by rintro rfl; cases here))
    rw [Label.spelled?, noMark]
    rfl
  · refine List.any_eq_false.mpr fun c hc => ?_
    rw [Direction.ofChar, if_pos (digits c hc)]
    decide

theorem allRead_ipv4 (a : Ipv4) : Label.allRead a.text = true := by
  have labels : ∀ l ∈ a.bytes.map (Nat.toDigits 10),
      Label.spelled? l = some l ∧ Direction.isMixing l = false := by
    intro l hl
    obtain ⟨n, -, rfl⟩ := List.mem_map.mp hl
    exact spelled?_digits fun c hc => Nat.isDigit_of_mem_toDigits (by decide) (by decide) hc
  have spelled : (a.bytes.map (Nat.toDigits 10)).mapM Label.spelled? =
      some (a.bytes.map (Nat.toDigits 10)) := by
    have each := mapM_map_of_forall (g := id) fun l hl => (labels l hl).1
    rwa [List.map_id] at each
  have unmixed : (a.bytes.map (Nat.toDigits 10)).any Direction.isMixing = false :=
    List.any_eq_false.mpr fun l hl => by simp [(labels l hl).2]
  rw [Label.allRead, Ipv4.splitWhere_text, spelled]
  dsimp only
  rw [unmixed]
  rfl

theorem settled_ipv4 [Idna] (a : Ipv4) : (Host.ipv4 a).Settled true := by
  have spelled : IsSpelled a.text := isSpelled_of_chars
    (fun c hc => isNameChar_of_ipv4 (Ipv4.isDigit_of_mem_text hc)) (allRead_ipv4 a)
  have ne_nil : a.text ≠ [] := by
    intro empty
    have number := Ipv4.endsInNumber_text a
    rw [empty] at number
    cases number
  refine settled_of_ofName spelled ?_
  rw [text, ofName, spell?_of_isSpelled spelled]
  simp [ne_nil, Ipv4.endsInNumber_text, Ipv4.read?_text]

/-! ## Names of other URLs -/

theorem of_forbiddenVerbatim {c : Char} (h : forbiddenVerbatim c = false) :
    c ≠ ':' ∧ c ≠ '[' ∧ (EncodeSet.controls c = false → IsHostChar c) := by
  have ne : ∀ d, forbiddenVerbatim d = true → c ≠ d := by
    rintro d forbidden rfl
    exact absurd (h.symm.trans forbidden) (by decide)
  exact ⟨ne ':' rfl, ne '[' rfl, fun free => ⟨⟨EncodeSet.lt_of_controls free (ne ' ' rfl),
    ne '/' rfl, ne '?' rfl, ne '#' rfl, ne '\\' rfl⟩, ne '@' rfl⟩⟩

/-- An encoded name has the characters of the name that are not encoded, and those that spell
bytes. -/
theorem forbiddenVerbatim_of_mem_encode {cs : List Char} {c : Char}
    (allowed : ∀ d ∈ cs, forbiddenVerbatim d = false) (h : c ∈ encode .controls cs) :
    forbiddenVerbatim c = false := by
  cases of_mem_encode h with
  | inl kept => exact allowed c kept.1
  | inr added =>
      have spared : Free forbiddenVerbatim escapeChars := by decide
      exact spared c added

theorem settled_verbatim [Idna] {cs : List Char} (ne_nil : cs ≠ [])
    (allowed : ∀ c ∈ cs, forbiddenVerbatim c = false) :
    (Host.name (encode .controls cs)).Settled false := by
  have free := free_encode EncodeSet.spares_controls cs
  have again : ∀ c ∈ encode .controls cs, forbiddenVerbatim c = false := fun c hc =>
    forbiddenVerbatim_of_mem_encode allowed hc
  have shown : (encode .controls cs).any forbiddenVerbatim = false :=
    List.any_eq_false.mpr fun c hc => by simp [again c hc]
  have ne_nil : encode .controls cs ≠ [] := fun h => ne_nil (encode_eq_nil.mp h)
  constructor
  · rw [Host.read, if_neg (by decide), text, readVerbatim.eq_def]
    split
    next empty => exact absurd empty ne_nil
    next bracket =>
      have := again '[' (bracket ▸ List.mem_cons_self)
      exact absurd this (by decide)
    · rw [shown, encode_of_free free]
      rfl
  · exact fun c hc => (of_forbiddenVerbatim (again c hc)).2.2 (free c hc)
  · exact fun rest halts => hostLength_of_plain
      (fun c hc => ⟨(of_forbiddenVerbatim (again c hc)).1, (of_forbiddenVerbatim (again c hc)).2.1⟩)
      halts
  · exact ne_nil

/-! ## What has been read -/

theorem settled_of_readBracketed [Idna] {special : Bool} {cs : List Char} {h : Host}
    (read : readBracketed cs = .ok h) : h.Settled special := by
  rw [readBracketed] at read
  split at read
  · split at read
    next a _ =>
      cases read
      exact settled_ipv6 special a
    · cases read
  · cases read

theorem settled_of_ofName_text [LawfulIdna] {cs : List Char} {h : Host} (read : ofName cs = .ok h) :
    h.Settled true := by
  obtain ⟨name, spelled, ne_nil, ⟨a, rfl⟩ | ⟨noNumber, rfl⟩⟩ := ofName_cases read
  · exact settled_ipv4 a
  · exact settled_name noNumber (isSpelled_of_spell? spelled) ne_nil

theorem settled_of_readSpecial [LawfulIdna] {cs : List Char} {h : Host}
    (read : readSpecial cs = .ok h) :
    h.Settled true := by
  rw [readSpecial.eq_def] at read
  split at read
  · exact settled_of_readBracketed read
  · split at read
    · exact settled_of_ofName_text read
    · cases read

theorem settled_of_readVerbatim [Idna] {cs : List Char} {h : Host}
    (read : readVerbatim cs = .ok (some h)) : h.Settled false := by
  rw [readVerbatim.eq_def] at read
  split at read
  · cases read
  next inner =>
    cases bracketed : readBracketed inner with
    | error e => simp [bracketed, Except.map] at read
    | ok a =>
        simp only [bracketed, Except.map, Except.ok.injEq, Option.some.injEq] at read
        exact read ▸ settled_of_readBracketed bracketed
  next ne_nil _ =>
    split at read
    · cases read
    next shown =>
      cases read
      refine settled_verbatim ne_nil fun c hc => ?_
      simpa using fun h => shown (List.any_eq_true.mpr ⟨c, hc, h⟩)

/-- A host that has been read is settled. -/
theorem settled_of_read [LawfulIdna] {special : Bool} {cs : List Char} {h : Host}
    (read : Host.read special cs = .ok (some h)) : h.Settled special := by
  rw [Host.read] at read
  cases special with
  | false => exact settled_of_readVerbatim read
  | true =>
      rw [if_pos rfl] at read
      split at read
      · cases read
      · cases name : readSpecial cs with
        | error e => simp [name, Except.map] at read
        | ok a =>
            simp only [name, Except.map, Except.ok.injEq, Option.some.injEq] at read
            exact read ▸ settled_of_readSpecial name

/-- The host of a special URL is there. -/
theorem ne_none_of_read [Idna] {cs : List Char} {host : Option Host}
    (read : Host.read true cs = .ok host) : host ≠ none := by
  rw [Host.read, if_pos rfl] at read
  split at read
  · cases read
  · cases name : readSpecial cs with
    | error e => simp [name, Except.map] at read
    | ok a =>
        rw [name] at read
        cases read
        exact Option.some_ne_none a

end Host

end SqlGateway.Url
