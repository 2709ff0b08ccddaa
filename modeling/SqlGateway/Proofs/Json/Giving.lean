import SqlGateway.Proofs.Attempt
import SqlGateway.Proofs.Json.Numeral
import SqlGateway.Proofs.Json.Reading

/-!
# What a scan gives

A scan takes something off the front of some bytes, or fails.  `Gives` says two things about it
at once: what it takes if it takes anything, and when it must take something.  So one statement
serves both those who know that a text was read and those who must show that it is.

A list is read item by item and an object member by member (`gives_items_cons`,
`gives_members_cons`), and which kind of value is read is told by its first byte
(`gives_array`, `gives_object`, `gives_number`, `takes_string`, `takes_word`).
-/

namespace SqlGateway.Json

open Utf8 (ofChars)

/-! ## What a scan gives -/

/-- Whatever a scan takes off some bytes, it leaves the rest and takes such a value, and it takes
something if it must. -/
structure Gives {α : Type} (must : Prop) (scan : Scan α) (bs rest : Bytes) (P : α → Prop) :
    Prop where
  /-- What is taken. -/
  given : ∀ t, scan bs = .ok t → t.rest = rest ∧ P t.value
  /-- Something is taken. -/
  taken : must → ∃ t, scan bs = .ok t

section Gives

variable {α β : Type} {must weaker : Prop} {scan : Scan α} {bs rest : Bytes} {a : α}
  {P : α → Prop}

theorem Takes.gives (h : Takes scan bs a rest) (ha : P a) : Gives must scan bs rest P := by
  obtain ⟨short, h⟩ := h
  constructor
  · intro t ht
    cases h.symm.trans ht
    exact ⟨rfl, ha⟩
  · exact fun _ => ⟨_, h⟩

/-- A scan that stops at a place need not take anything. -/
theorem Stops.gives (h : Stops scan bs rest) : Gives False scan bs rest fun _ => True :=
  ⟨fun t ht => ⟨h t ht, trivial⟩, False.elim⟩

theorem Gives.imp {Q : α → Prop} (h : Gives must scan bs rest P) (imp : ∀ a, P a → Q a) :
    Gives must scan bs rest Q :=
  ⟨fun t ht => (h.given t ht).imp_right (imp _), h.taken⟩

theorem Gives.mono (h : Gives weaker scan bs rest P) (imp : must → weaker) :
    Gives must scan bs rest P :=
  ⟨h.given, fun m => h.taken (imp m)⟩

/-- A scan that does what another one does and puts what that one took in another form. -/
theorem Gives.map {scan' : Scan β} {bs' : Bytes} {f : α → β} {g : Taken α bs → Taken β bs'}
    (h : Gives must scan bs rest P) (same : scan' bs' = (scan bs).map g)
    (left : ∀ t, (g t).rest = t.rest) (value : ∀ t, (g t).value = f t.value) :
    Gives must scan' bs' rest fun b => ∃ a, b = f a ∧ P a := by
  constructor
  · intro t' ht'
    obtain ⟨t, ht, rfl⟩ := exceptMap_eq_ok.mp (same.symm.trans ht')
    obtain ⟨rfl, here⟩ := h.given t ht
    exact ⟨left t, _, value t, here⟩
  · intro m
    obtain ⟨t, ht⟩ := h.taken m
    exact ⟨g t, same.trans (exceptMap_eq_ok.mpr ⟨t, ht, rfl⟩)⟩

end Gives

/-! ## Lists and objects -/

section Brackets

variable {α : Type} {item : Scan α} {first : Bool} {bs rest : Bytes} {b : UInt8}

theorem nextItem_close (h : skipSpace bs = 93 :: rest) : nextItem first bs = .ok none := by
  rw [nextItem]
  split
  next h' => cases h.symm.trans h'
  next h' =>
    cases h.symm.trans h'
    rfl

theorem nextItem_first (h : skipSpace bs = b :: rest) (noBracket : b ≠ 93) :
    ∃ short, nextItem true bs = .ok (some ⟨b :: rest, short⟩) := by
  refine ⟨length_lt_of_skipSpace h, ?_⟩
  rw [nextItem]
  split
  next h' => cases h.symm.trans h'
  next h' =>
    cases h.symm.trans h'
    rw [if_neg noBracket]
    rfl

theorem nextItem_comma (h : skipSpace bs = b :: rest) (noBracket : b ≠ 93) :
    ∃ short, nextItem false (44 :: bs) = .ok (some ⟨b :: rest, short⟩) := by
  refine ⟨Nat.le_succ_of_le (length_lt_of_skipSpace h), ?_⟩
  rw [nextItem]
  split
  next h' => cases h'
  next h' =>
    cases h'
    rw [if_neg (by decide), if_neg (by decide), if_pos rfl]
    split
    next h' => cases h.symm.trans h'
    next h' =>
      cases h.symm.trans h'
      rw [if_neg noBracket]

/-- A list ends at its bracket. -/
theorem takes_items_nil (h : skipSpace bs = 93 :: rest) : Takes (items item first) bs [] rest := by
  refine ⟨length_lt_of_skipSpace h, ?_⟩
  rw [items, nextItem_close h]
  have closed : (closeList bs).result = .ok ⟨rest, length_lt_of_skipSpace h⟩ := by
    rw [closeList]
    split
    next h' => cases h.symm.trans h'
    next h' =>
      cases h.symm.trans h'
      rw [if_pos rfl]
  simp only [closed]

theorem nextMember_close (h : skipSpace bs = 125 :: rest) : nextMember first bs = .ok none := by
  rw [nextMember]
  split
  next h' => cases h.symm.trans h'
  next h' =>
    cases h.symm.trans h'
    rfl

theorem nextMember_first (h : skipSpace bs = 34 :: rest) :
    ∃ short, nextMember true bs = .ok (some ⟨rest, short⟩) := by
  refine ⟨length_lt_of_skipSpace h, ?_⟩
  rw [nextMember]
  split
  next h' => cases h.symm.trans h'
  next h' =>
    cases h.symm.trans h'
    rfl

theorem nextMember_comma (h : skipSpace bs = 34 :: rest) :
    ∃ short, nextMember false (44 :: bs) = .ok (some ⟨rest, short⟩) := by
  refine ⟨Nat.lt_succ_of_lt (length_lt_of_skipSpace h), ?_⟩
  rw [nextMember]
  split
  next h' => cases h'
  next h' =>
    cases h'
    rw [if_neg (by decide), if_neg (by decide), if_pos rfl]
    split
    next h' => cases h.symm.trans h'
    next h' =>
      cases h.symm.trans h'
      rfl

theorem colon_cons (bs : Bytes) : ∃ short, colon (58 :: bs) = .ok ⟨bs, short⟩ :=
  ⟨Nat.lt_succ_self _, rfl⟩

/-- An object ends at its brace. -/
theorem takes_members_nil (h : skipSpace bs = 125 :: rest) :
    Takes (members item first) bs [] rest := by
  refine ⟨length_lt_of_skipSpace h, ?_⟩
  rw [members, nextMember_close h]
  have closed : (closeObject bs).result = .ok ⟨rest, length_lt_of_skipSpace h⟩ := by
    rw [closeObject]
    split
    next h' => cases h.symm.trans h'
    next h' =>
      cases h.symm.trans h'
      rw [if_pos rfl]
  simp only [closed]

end Brackets

section Cons

variable {α : Type} {here later : Prop} {item : Scan α} {first : Bool}
  {bs front rest rest' : Bytes} {P : α → Prop}

/-- An item is followed by the others. -/
theorem gives_items_cons {Q : List α → Prop}
    (next : ∃ short, nextItem first bs = .ok (some ⟨front, short⟩))
    (one : Gives here item front rest P) (others : Gives later (items item false) rest rest' Q) :
    Gives (here ∧ later) (items item first) bs rest' fun as =>
      ∃ a as', as = a :: as' ∧ P a ∧ Q as' := by
  obtain ⟨short, next⟩ := next
  constructor
  · intro ts hts
    rw [items] at hts
    simp only [next] at hts
    cases ht : item front with
    | error e => simp [ht] at hts
    | ok t =>
        simp only [ht] at hts
        obtain ⟨rfl, head⟩ := one.given t ht
        cases hus : items item false t.rest with
        | error e => simp [hus] at hts
        | ok us =>
            simp only [hus] at hts
            cases hts
            obtain ⟨left, tail⟩ := others.given us hus
            exact ⟨left, _, _, rfl, head, tail⟩
  · rintro ⟨h, l⟩
    obtain ⟨t, ht⟩ := one.taken h
    obtain ⟨rfl, -⟩ := one.given t ht
    obtain ⟨us, hus⟩ := others.taken l
    rw [items]
    simp only [next, ht, hus]
    exact ⟨_, rfl⟩

/-- A member is a name, a colon and a value, and is followed by the others. -/
theorem gives_members_cons {name : String} {behind : Bytes} {R : List (String × α) → Prop}
    (next : ∃ short, nextMember first bs = .ok (some ⟨front, short⟩))
    (key : Takes (stringBody []) front name (58 :: behind))
    (one : Gives here item behind rest P) (others : Gives later (members item false) rest rest' R) :
    Gives (here ∧ later) (members item first) bs rest' fun ms =>
      ∃ a ms', ms = (name, a) :: ms' ∧ P a ∧ R ms' := by
  obtain ⟨short, next⟩ := next
  obtain ⟨shorter, key⟩ := key
  obtain ⟨less, colon⟩ := colon_cons behind
  constructor
  · intro ts hts
    rw [members] at hts
    simp only [next, key, colon] at hts
    cases ht : item behind with
    | error e => simp [ht] at hts
    | ok t =>
        simp only [ht] at hts
        obtain ⟨rfl, head⟩ := one.given t ht
        cases hus : members item false t.rest with
        | error e => simp [hus] at hts
        | ok us =>
            simp only [hus] at hts
            cases hts
            obtain ⟨left, tail⟩ := others.given us hus
            exact ⟨left, _, _, rfl, head, tail⟩
  · rintro ⟨h, l⟩
    obtain ⟨t, ht⟩ := one.taken h
    obtain ⟨rfl, -⟩ := one.given t ht
    obtain ⟨us, hus⟩ := others.taken l
    rw [members]
    simp only [next, key, colon, ht, hus]
    exact ⟨_, rfl⟩

end Cons

/-! ## Values by their first byte -/

section FirstByte

variable {must : Prop} {inner : Option (Scan Json)} {item : Scan Json} {bs front rest : Bytes}

/-- What is one level further in is read as values are, and is not read at the last level. -/
theorem value_inner (d : Nat) : ∃ inner, value d = valueWith inner ∧
    (0 < d → inner.isSome) ∧ ∀ item, inner = some item → ∃ d', d = d' + 1 ∧ item = value d' := by
  cases d with
  | zero => exact ⟨none, rfl, nofun, nofun⟩
  | succ d =>
      exact ⟨some (value d), rfl, fun _ => rfl, fun item h => ⟨d, rfl, (Option.some.inj h).symm⟩⟩

/-- Behind a bracket a list is read. -/
theorem valueWith_array (h : skipSpace bs = 91 :: front) : valueWith (some item) bs =
    (items item true front).map fun t => (t.map Json.array).behind (length_lt_of_skipSpace h) := by
  rw [valueWith]
  split
  next h' => cases h.symm.trans h'
  next h' =>
    cases h.symm.trans h'
    have mark : Char.ofUInt8 91 = '[' := rfl
    simp only [mark]
    cases items item true front <;> rfl

/-- Behind a brace an object is read. -/
theorem valueWith_object (h : skipSpace bs = 123 :: front) : valueWith (some item) bs =
    (members item true front).map fun t =>
      (t.map fun ms => Json.object (Members.ofList ms)).behind (length_lt_of_skipSpace h) := by
  rw [valueWith]
  split
  next h' => cases h.symm.trans h'
  next h' =>
    cases h.symm.trans h'
    have mark : Char.ofUInt8 123 = '{' := rfl
    simp only [mark]
    cases members item true front <;> rfl

/-- Nothing is read behind a bracket where no more levels are followed. -/
theorem valueWith_none {b : UInt8} {t : Taken Json bs} (h : skipSpace bs = b :: front)
    (bracket : b = 91 ∨ b = 123) (ht : valueWith none bs = .ok t) : False := by
  rw [valueWith] at ht
  split at ht
  next h' => cases h.symm.trans h'
  next h' =>
    cases h.symm.trans h'
    rcases bracket with rfl | rfl
    · cases ht
    · cases ht

theorem gives_array {Q : List Json → Prop} (h : skipSpace bs = 91 :: front)
    (followed : must → inner.isSome)
    (read : ∀ item, inner = some item → Gives must (items item true) front rest Q) :
    Gives must (valueWith inner) bs rest fun w => ∃ ws, w = .array ws ∧ Q ws := by
  cases inner with
  | none => exact ⟨fun t ht => (valueWith_none h (Or.inl rfl) ht).elim, fun m => nomatch followed m⟩
  | some item => exact (read item rfl).map (valueWith_array h) (fun _ => rfl) (fun _ => rfl)

theorem gives_object {R : Members → Prop} (h : skipSpace bs = 123 :: front)
    (followed : must → inner.isSome)
    (read : ∀ item, inner = some item → Gives must (members item true) front rest R) :
    Gives must (valueWith inner) bs rest fun w => ∃ ns, w = .object (Members.ofList ns) ∧ R ns := by
  cases inner with
  | none => exact ⟨fun t ht => (valueWith_none h (Or.inr rfl) ht).elim, fun m => nomatch followed m⟩
  | some item => exact (read item rfl).map (valueWith_object h) (fun _ => rfl) (fun _ => rfl)

theorem takes_string {s : String} (h : skipSpace bs = 34 :: front)
    (read : Takes (stringBody []) front s rest) : Takes (valueWith inner) bs (.string s) rest := by
  obtain ⟨short, read⟩ := read
  refine ⟨Nat.lt_trans short (length_lt_of_skipSpace h), ?_⟩
  rw [valueWith]
  split
  next h' => cases h.symm.trans h'
  next h' =>
    cases h.symm.trans h'
    have mark : Char.ofUInt8 34 = '"' := rfl
    simp only [mark, read]
    rfl

/-- The words that stand for values. -/
def words : List (Bytes × Json) :=
  [(ofChars ['n', 'u', 'l', 'l'], .null), (ofChars ['t', 'r', 'u', 'e'], .bool true),
    (ofChars ['f', 'a', 'l', 's', 'e'], .bool false)]

/-- A word is read as the value that it stands for. -/
theorem takes_word {word : Bytes} {v : Json} (known : (word, v) ∈ words)
    (h : skipSpace bs = word ++ rest) : Takes (valueWith inner) bs v rest := by
  simp only [words, List.mem_cons, List.not_mem_nil, or_false, Prod.mk.injEq] at known
  have shorter : rest.length < bs.length := by
    have le := skipSpace_length_le bs
    rw [h, List.length_append] at le
    have nonempty : 0 < word.length := by
      rcases known with ⟨rfl, -⟩ | ⟨rfl, -⟩ | ⟨rfl, -⟩ <;> decide
    omega
  refine ⟨shorter, ?_⟩
  rcases known with ⟨rfl, rfl⟩ | ⟨rfl, rfl⟩ | ⟨rfl, rfl⟩
  all_goals
    rw [valueWith]
    split
    next h' => cases h.symm.trans h'
    next h' =>
      cases h.symm.trans h'
      rfl

/-- Behind a sign or a digit a number is read. -/
theorem valueWith_number {b : UInt8} (h : skipSpace bs = b :: front)
    (first : b = 45 ∨ isDigit b = true) : valueWith inner bs =
      (numeral (b :: front)).map fun t => (t.map Json.number).widen (length_lt_of_skipSpace h) := by
  rw [valueWith]
  split
  next h' => cases h.symm.trans h'
  next h' =>
    cases h.symm.trans h'
    have code {c : Char} (hc : Char.ofUInt8 b = c) : b.toNat = c.toNat := congrArg Char.toNat hc
    have range : b.toNat = 45 ∨ (48 ≤ b.toNat ∧ b.toNat ≤ 57) :=
      first.imp (congrArg UInt8.toNat) isDigit_iff.mp
    have begins : (decide (Char.ofUInt8 b = '-') || isDigit b) = true := by
      rcases first with rfl | digit
      · rfl
      · rw [digit, Bool.or_true]
    dsimp only
    -- A byte that begins a number is none of the six that begin another value.
    split
    next hc => exact absurd (code hc) (by simp; omega)
    next hc => exact absurd (code hc) (by simp; omega)
    next hc => exact absurd (code hc) (by simp; omega)
    next hc => exact absurd (code hc) (by simp; omega)
    next hc => exact absurd (code hc) (by simp; omega)
    next hc => exact absurd (code hc) (by simp; omega)
    next =>
      rw [if_pos begins]
      cases numeral (b :: front) <;> rfl

theorem gives_number {b : UInt8} {P : Number → Prop} (h : skipSpace bs = b :: front)
    (first : b = 45 ∨ isDigit b = true) (read : Gives must numeral (b :: front) rest P) :
    Gives must (valueWith inner) bs rest fun w => ∃ n, w = .number n ∧ P n :=
  read.map (valueWith_number h first) (fun _ => rfl) (fun _ => rfl)

end FirstByte

end SqlGateway.Json
