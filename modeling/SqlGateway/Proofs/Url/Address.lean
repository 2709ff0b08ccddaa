import SqlGateway.Proofs.Text.Numeral
import SqlGateway.Proofs.Text.Parts
import SqlGateway.Url.Address

/-!
# Reading back addresses

The printed form of an address is read as that address (`Ipv4.read?_text`,
`Ipv6.read?_text`).

Four bytes are four numbers, each without a zero before it, so none of them is read in
another base.  Eight pieces are groups of at most four digits, and the two colons stand for
as many pieces as were left out.  What was left out was zero, because `longestRun` finds a
run of zeros.
-/

namespace SqlGateway.Url

/-! ## Four bytes -/

namespace Ipv4

/-- The bytes of an address, first to last. -/
def bytes (a : Ipv4) : List Nat := [24, 16, 8, 0].map fun shift => (a.toNat >>> shift) % 256

theorem text_eq (a : Ipv4) : a.text = joinWith ['.'] (a.bytes.map (Nat.toDigits 10)) := rfl

theorem number?_of_ne {c : Char} (cs : List Char) (h : c ≠ '0') :
    number? (c :: cs) = Numeral.value? 10 (c :: cs) := by
  rw [number?] <;> simp_all

/-- A number without a zero before it is decimal. -/
theorem number?_toDigits (n : Nat) : number? (Nat.toDigits 10 n) = some n := by
  by_cases zero : n = 0
  · subst zero
    rfl
  · have value : Numeral.value? 10 (Nat.toDigits 10 n) = some n :=
      Numeral.value?_toDigits (by decide) (by decide) n
    obtain ⟨c, cs, digits, first⟩ := Numeral.exists_toDigits_eq_cons zero
    rw [digits] at value ⊢
    rw [number?_of_ne cs first, value]

theorem isDigit_of_mem_text {a : Ipv4} {c : Char} (h : c ∈ a.text) :
    c.isDigit = true ∨ c = '.' := by
  rw [text_eq] at h
  cases of_mem_joinWith h with
  | inl point => exact Or.inr (List.mem_singleton.mp point)
  | inr part =>
      obtain ⟨s, hs, hc⟩ := part
      obtain ⟨n, -, rfl⟩ := List.mem_map.mp hs
      exact Or.inl (Nat.isDigit_of_mem_toDigits (by decide) (by decide) hc)

theorem splitWhere_text (a : Ipv4) :
    splitWhere (· = '.') a.text = a.bytes.map (Nat.toDigits 10) := by
  have free : ∀ s ∈ a.bytes.map (Nat.toDigits 10), ∀ c ∈ s, decide (c = '.') = false := by
    intro s hs c hc
    obtain ⟨n, -, rfl⟩ := List.mem_map.mp hs
    have digit := Nat.isDigit_of_mem_toDigits (by decide) (by decide) hc
    exact decide_eq_false (by rintro rfl; cases digit)
  exact splitWhere_joinWith '.' rfl (List.cons_ne_nil _ _) free

theorem parts_text (a : Ipv4) : parts a.text = a.bytes.map (Nat.toDigits 10) := by
  rw [parts, splitWhere_text, if_neg]
  intro h
  exact Nat.toDigits_ne_nil (Option.some.inj h)

theorem ofNumbers?_cons {room n m k : Nat} {ns : List Nat} (byte : n < 256)
    (later : ofNumbers? room (m :: ns) = some k) :
    ofNumbers? (room + 1) (n :: m :: ns) = some (n * Nat.pow 256 room + k) := by
  rw [ofNumbers?, if_pos byte, later]
  rfl

theorem ofNumbers?_bytes (a : Ipv4) : ofNumbers? 4 a.bytes = some a.toNat := by
  have bound : a.toNat < 2 ^ 32 := a.toNat_lt
  have byte (n : Nat) : n % 256 < 256 := Nat.mod_lt n (by decide)
  have last : ofNumbers? 1 [(a.toNat >>> 0) % 256] = some ((a.toNat >>> 0) % 256) :=
    if_pos (byte _)
  have all := ofNumbers?_cons (byte (a.toNat >>> 24)) (ofNumbers?_cons (byte (a.toNat >>> 16))
    (ofNumbers?_cons (byte (a.toNat >>> 8)) last))
  refine all.trans (congrArg some ?_)
  simp only [Nat.shiftRight_eq_div_pow, Nat.pow_eq]
  omega

/-- An address of four bytes is read back from its text. -/
theorem read?_text (a : Ipv4) : read? a.text = some a := by
  have numbers : (a.bytes.map (Nat.toDigits 10)).mapM number? = some a.bytes :=
    mapM_map_of_forall fun n _ => number?_toDigits n
  rw [read?, parts_text, numbers, Option.bind_some, ofNumbers?_bytes, Option.map_some,
    UInt32.ofNat_toNat]

/-- The text of an address is meant as one. -/
theorem endsInNumber_text (a : Ipv4) : endsInNumber a.text = true := by
  have last : (a.bytes.map (Nat.toDigits 10)).getLast? =
      some (Nat.toDigits 10 ((a.toNat >>> 0) % 256)) := rfl
  simp only [endsInNumber, parts_text, last, number?_toDigits, Option.isSome_some, Bool.or_true]

end Ipv4

/-! ## Eight pieces -/

namespace Ipv6

/-- The digits of a piece. -/
def digits (n : UInt16) : List Char := Nat.toDigits 16 n.toNat

/-- A hexadecimal digit. -/
def isHexDigit (c : Char) : Bool := (Numeral.digit? 16 c).isSome

variable {n : UInt16} {ps qs : List UInt16} {rest : List Char}

theorem isHexDigit_of_mem {c : Char} (h : c ∈ digits n) : isHexDigit c = true := by
  obtain ⟨d, small, rfl⟩ := Numeral.mem_toDigits (by decide) h
  rw [isHexDigit, Numeral.digit?_digitChar small (by decide)]
  rfl

theorem exists_digits_eq_cons (n : UInt16) : ∃ c cs, digits n = c :: cs ∧ c ≠ ':' := by
  obtain ⟨c, cs, eq⟩ := List.exists_cons_of_ne_nil (Nat.toDigits_ne_nil (b := 16) (n := n.toNat))
  refine ⟨c, cs, eq, ?_⟩
  rintro rfl
  have hex : isHexDigit ':' = true := isHexDigit_of_mem (eq ▸ List.mem_cons_self)
  cases hex

/-- A group ends where no digit follows, for it has at most four digits. -/
theorem hexGroup_digits (halts : Halts isHexDigit rest) :
    hexGroup 4 (digits n ++ rest) = digits n := by
  have short : (digits n).length ≤ 4 :=
    (Nat.length_toDigits_le_iff (by decide) (by decide)).mpr n.toNat_lt
  have halts : Halts isHexDigit (rest.take (4 - (digits n).length)) := by
    cases rest with
    | nil => rwa [List.take_nil]
    | cons c cs =>
        cases 4 - (digits n).length with
        | zero => exact Halts.nil _
        | succ k => exact Halts.cons (halts c rfl)
  rw [hexGroup, List.take_append, List.take_of_length_le short]
  exact takeWhile_of_halts (fun c hc => isHexDigit_of_mem hc) halts

theorem value_digits (n : UInt16) :
    ((Numeral.value? 16 (digits n)).map UInt16.ofNat).getD 0 = n := by
  have value : Numeral.value? 16 (digits n) = some n.toNat :=
    Numeral.value?_toDigits (by decide) (by decide) n.toNat
  rw [value, Option.map_some, Option.getD_some, UInt16.ofNat_toNat]

/-- A piece at the end of a text. -/
theorem parts?_digits (room : Nat) (gapped : Bool) :
    parts? (room + 1) gapped (digits n) = some [.piece n] := by
  obtain ⟨c, cs, eq, noColon⟩ := exists_digits_eq_cons n
  have group := hexGroup_digits (n := n) (Halts.nil isHexDigit)
  have value := value_digits n
  rw [List.append_nil] at group
  rw [eq] at group value ⊢
  rw [parts?, if_neg noColon]
  simp only [group, value, List.drop_length]

/-- A piece before a colon that does not end the text. -/
theorem parts?_digits_cons (room : Nat) (gapped : Bool) (d : Char) (rest : List Char) :
    parts? (room + 1) gapped (digits n ++ ':' :: d :: rest) =
      (parts? room gapped (d :: rest)).map (.piece n :: ·) := by
  obtain ⟨c, cs, eq, noColon⟩ := exists_digits_eq_cons n
  have group := hexGroup_digits (n := n) (Halts.cons rfl : Halts isHexDigit (':' :: d :: rest))
  have value := value_digits n
  have drop : (digits n ++ ':' :: d :: rest).drop (digits n).length = ':' :: d :: rest :=
    List.drop_left
  rw [eq, List.cons_append] at group drop
  rw [eq] at value
  rw [eq, List.cons_append, parts?, if_neg noColon]
  simp only [group, value, drop]

/-! ### Groups -/

theorem groups_cons_cons (p q : UInt16) (ps : List UInt16) :
    groups (p :: q :: ps) = digits p ++ ':' :: groups (q :: ps) := by
  simp [groups, joinWith, digits]

theorem groups_singleton (p : UInt16) : groups [p] = digits p := rfl

theorem exists_groups_eq_cons (p : UInt16) (ps : List UInt16) :
    ∃ c cs, groups (p :: ps) = c :: cs ∧ c ≠ ':' := by
  obtain ⟨c, cs, eq, noColon⟩ := exists_digits_eq_cons p
  cases ps with
  | nil => exact ⟨c, cs, eq, noColon⟩
  | cons q ps =>
      refine ⟨c, cs ++ ':' :: groups (q :: ps), ?_, noColon⟩
      rw [groups_cons_cons, eq, List.cons_append]

/-- Pieces are read back from their groups. -/
theorem parts?_groups {room : Nat} {gapped : Bool} (fit : ps.length ≤ room) :
    parts? room gapped (groups ps) = some (ps.map .piece) := by
  induction ps generalizing room with
  | nil =>
      have none : groups [] = [] := rfl
      rw [none, parts?]
      rfl
  | cons p ps ih =>
      obtain ⟨room, rfl⟩ : ∃ k, room = k + 1 := ⟨room - 1, by simp at fit; omega⟩
      have later : ps.length ≤ room := by simpa using fit
      cases ps with
      | nil => exact parts?_digits room gapped
      | cons q ps =>
          obtain ⟨c, cs, eq, -⟩ := exists_groups_eq_cons q ps
          rw [groups_cons_cons, eq, parts?_digits_cons, ← eq, ih later]
          rfl

/-- Pieces are read back from their groups with a gap among them. -/
theorem parts?_groups_gap {room : Nat} (some : ps ≠ [])
    (fit : ps.length + (qs.length + 1) ≤ room) :
    parts? room false (groups ps ++ ':' :: ':' :: groups qs) =
      .some (ps.map .piece ++ .gap :: qs.map .piece) := by
  induction ps generalizing room with
  | nil => exact absurd rfl some
  | cons p ps ih =>
      obtain ⟨room, rfl⟩ : ∃ k, room = k + 1 := ⟨room - 1, by simp at fit; omega⟩
      have later : ps.length + (qs.length + 1) ≤ room := by simp at fit; omega
      cases ps with
      | nil =>
          obtain ⟨room, rfl⟩ : ∃ k, room = k + 1 := ⟨room - 1, by simp at later; omega⟩
          have behind : parts? room true (groups qs) = .some (qs.map .piece) :=
            parts?_groups (by simpa using later)
          rw [groups_singleton, parts?_digits_cons, parts?, if_pos rfl, behind]
          rfl
      | cons q ps =>
          obtain ⟨c, cs, eq, -⟩ := exists_groups_eq_cons q ps
          have ih := ih (List.cons_ne_nil q ps) later
          rw [eq, List.cons_append] at ih
          rw [groups_cons_cons, eq, List.append_assoc, List.cons_append, List.cons_append,
            parts?_digits_cons, ih]
          rfl

/-! ### Pieces -/

theorem expand_append (missing : Nat) (parts : List Part) :
    expand missing (ps.map .piece ++ parts) = ps ++ expand missing parts := by
  induction ps with
  | nil => rfl
  | cons p ps ih => rw [List.map_cons, List.cons_append, expand, ih, List.cons_append]

theorem pieceCount_append (parts : List Part) :
    pieceCount (ps.map .piece ++ parts) = ps.length + pieceCount parts := by
  induction ps with
  | nil => exact (Nat.zero_add _).symm
  | cons p ps ih =>
      rw [List.map_cons, List.cons_append, pieceCount, ih, List.length_cons]
      omega

theorem expand_pieces (missing : Nat) : expand missing (ps.map .piece) = ps := by
  have all : expand missing (ps.map .piece ++ []) = ps ++ expand missing [] :=
    expand_append missing []
  rwa [List.append_nil, expand, List.append_nil] at all

theorem pieceCount_pieces : pieceCount (ps.map .piece) = ps.length := by
  have all : pieceCount (ps.map .piece ++ []) = ps.length + pieceCount [] := pieceCount_append []
  rwa [List.append_nil] at all

/-- The longest run lies among the pieces, and all of it is zero. -/
theorem longestRun_zeros (ps : List UInt16) :
    (ps.drop (longestRun ps).1).take (longestRun ps).2 =
      List.replicate (longestRun ps).2 0 := by
  induction ps with
  | nil => rfl
  | cons p ps ih =>
      rw [longestRun]
      dsimp only
      split
      · have front : (p :: ps).take (leadingZeros (p :: ps)) = (p :: ps).takeWhile (· = 0) :=
          (List.prefix_iff_eq_take.mp (List.takeWhile_prefix _)).symm
        rw [List.drop_zero, front]
        exact List.eq_replicate_iff.mpr ⟨rfl, fun a ha => by simpa using of_mem_takeWhile ha⟩
      · rw [List.drop_succ_cons]
        exact ih

/-! ### The whole -/

variable {a : Ipv6} {parts : List Part}

theorem ofPieces {pieces : List UInt16} (same : pieces = a.pieces) :
    (if h : pieces.length = 8 then some (⟨pieces, h⟩ : Ipv6) else none) = some a := by
  subst same
  exact dif_pos a.eight

theorem read?_of_gap (read : parts? 7 true rest = some parts)
    (all : expand (8 - pieceCount parts) (.gap :: parts) = a.pieces) :
    read? (':' :: ':' :: rest) = some a := by
  simp only [read?, read, Option.map_some, pieceCount]
  exact ofPieces all

theorem read?_of_parts {c : Char} {cs : List Char} (noColon : c ≠ ':')
    (read : parts? 8 false (c :: cs) = some parts)
    (all : expand (8 - pieceCount parts) parts = a.pieces) : read? (c :: cs) = some a := by
  rw [read?]
  · simp only [read]
    exact ofPieces all
  · rintro rest ⟨⟩
    exact noColon rfl
  · rintro rest ⟨⟩
    exact noColon rfl

/-- A gap is read as the zeros between the pieces before it and those behind it. -/
theorem read?_groups_gap {zeros : Nat} (some : 0 < zeros)
    (whole : ps ++ (List.replicate zeros 0 ++ qs) = a.pieces) :
    read? (groups ps ++ [':', ':'] ++ groups qs) = .some a := by
  have eight : ps.length + (zeros + qs.length) = 8 := by
    rw [← a.eight, ← whole, List.length_append, List.length_append, List.length_replicate]
  cases ps with
  | nil =>
      have missing : 8 - pieceCount (qs.map .piece) = zeros := by
        rw [pieceCount_pieces]
        simp only [List.length_nil] at eight
        omega
      refine read?_of_gap (parts?_groups (by omega)) ?_
      rw [missing, expand, expand_pieces]
      exact whole
  | cons p ps =>
      obtain ⟨c, cs, eq, noColon⟩ := exists_groups_eq_cons p ps
      have read : parts? 8 false (groups (p :: ps) ++ ':' :: ':' :: groups qs) =
          .some ((p :: ps).map .piece ++ .gap :: qs.map .piece) :=
        parts?_groups_gap (List.cons_ne_nil p ps) (by omega)
      have missing : 8 - pieceCount ((p :: ps).map .piece ++ .gap :: qs.map .piece) = zeros := by
        rw [pieceCount_append, pieceCount, pieceCount_pieces]
        omega
      rw [eq, List.cons_append] at read
      rw [eq, List.append_assoc, List.cons_append]
      refine read?_of_parts noColon read ?_
      rw [missing, expand_append, expand, expand_pieces]
      exact whole

theorem read?_groups (a : Ipv6) : read? (groups a.pieces) = some a := by
  have eight := a.eight
  obtain ⟨p, ps, pieces⟩ : ∃ p ps, a.pieces = p :: ps :=
    List.exists_cons_of_length_pos (by omega)
  obtain ⟨c, cs, eq, noColon⟩ := exists_groups_eq_cons p ps
  have read : parts? 8 false (groups a.pieces) = some (a.pieces.map .piece) :=
    parts?_groups (by omega)
  rw [pieces, eq] at read
  rw [pieces, eq]
  exact read?_of_parts noColon read (by rw [expand_pieces, pieces])

/-- An address of eight pieces is read back from its text. -/
theorem read?_text (a : Ipv6) : read? a.text = some a := by
  have zeros := longestRun_zeros a.pieces
  rw [text]
  generalize longestRun a.pieces = run at zeros
  obtain ⟨start, length⟩ := run
  dsimp only at zeros ⊢
  split
  next long =>
    refine read?_groups_gap (Nat.lt_of_lt_of_le Nat.two_pos long) ?_
    rw [← zeros, ← List.drop_drop, List.take_append_drop, List.take_append_drop]
  next => exact read?_groups a

end Ipv6

end SqlGateway.Url
