import SqlGateway.Proofs.Json.Lexeme

/-!
# Where a number ends

A number is spelled as digits, a fraction and an exponent behind a sign, of which all but the
digits may be missing (`NumberText`).  What is printed for an integer is a number
(`numberText_intText`), and so is what is printed for a double, unless the double is none and
`null` is printed (`floatText_cases`).

A reader of a number may refuse it, since it may be out of range.  But if it does not, it stops
where the number ends (`stops_numeral`), whatever value it gives.  So the text around a double
can be followed although nothing is known of the double that is read back.
-/

namespace SqlGateway.Json

open Utf8 (ofChars)

/-- If a scan succeeds on some bytes, it leaves the rest. -/
def Stops {α : Type} (scan : Scan α) (bs rest : Bytes) : Prop :=
  ∀ t, scan bs = .ok t → t.rest = rest

/-- If the reading of a number goes on without a failure, some bytes are left. -/
def Ends {α : Type} {bs : Bytes} (t : Tail α bs) (rest : Bytes) : Prop :=
  ∀ a r, t = .ok (a, r) → r.1 = rest

/-! ## Spelling -/

/-- Characters that are digits. -/
def Digits (cs : List Char) : Prop := ∀ c ∈ cs, c.isDigit = true

/-- How an exponent may be spelled: not at all, or by a mark, a sign and digits. -/
inductive ExponentText : List Char → Prop where
  /-- There is none. -/
  | none : ExponentText []
  /-- A mark, a sign and digits. -/
  | some {sign c : Char} {cs : List Char} (signed : sign = '+' ∨ sign = '-')
      (digits : Digits (c :: cs)) : ExponentText ('e' :: sign :: c :: cs)

/-- How a fraction may be spelled: not at all, or by a point and digits. -/
inductive FractionText : List Char → Prop where
  /-- There is none. -/
  | none : FractionText []
  /-- A point and digits. -/
  | some {c : Char} {cs : List Char} (digits : Digits (c :: cs)) : FractionText ('.' :: c :: cs)

/-- How a whole number may be spelled: by a zero alone, or by digits behind another one. -/
inductive WholeText : List Char → Prop where
  /-- A zero alone. -/
  | zero : WholeText ['0']
  /-- Digits, the first of which is no zero. -/
  | digits {c : Char} {cs : List Char} (digits : Digits (c :: cs)) (noZero : c ≠ '0') :
      WholeText (c :: cs)

/-- How a number without a sign may be spelled. -/
inductive UnsignedText : List Char → Prop where
  /-- A whole number, a fraction and an exponent. -/
  | parts {ws fs es : List Char} (whole : WholeText ws) (fraction : FractionText fs)
      (exponent : ExponentText es) : UnsignedText (ws ++ (fs ++ es))

/-- How a number may be spelled. -/
inductive NumberText : List Char → Prop where
  /-- Without a sign. -/
  | unsigned {cs : List Char} (text : UnsignedText cs) : NumberText cs
  /-- Behind a minus sign. -/
  | negative {cs : List Char} (text : UnsignedText cs) : NumberText ('-' :: cs)

/-! ## Reading -/

section Numbers

variable {α : Type} {negative : Bool} {significand : Nat} {exponent start : Int} {cs ds : List Char}
  {bs rest : Bytes} {value whole : Number}

theorem Ends.cons {t : Tail α bs} (b : UInt8) (h : Ends t rest) : Ends (t.cons b) rest := by
  intro a r ht
  cases t with
  | error e => cases ht
  | ok ar =>
      cases ht
      exact h ar.1 ar.2 rfl

theorem ends_all (a : α) (bs : Bytes) : Ends (.ok (a, .all bs) : Tail α bs) bs := by
  intro a' r h
  cases h
  rfl

theorem ends_error {f : Failure} : Ends (.error f : Tail α bs) rest := by
  intro a r h
  cases h

theorem ends_finishFloat : Ends (finishFloat negative significand exponent bs) bs := by
  rw [finishFloat]
  split
  · exact ends_all _ bs
  · exact ends_error

/-- Digits that are skipped end where no digit follows. -/
theorem ends_skipDigits (digits : Digits cs) (stop : startsWithDigit rest = false) :
    Ends (skipDigits value (ofChars cs ++ rest)) rest := by
  induction cs with
  | nil =>
      cases rest with
      | nil => exact ends_all _ _
      | cons b rest =>
          have noDigit : isDigit b = false := stop
          simp only [Utf8.ofChars_nil, List.nil_append, skipDigits, noDigit]
          exact ends_all _ _
  | cons c cs ih =>
      obtain ⟨here, later⟩ := List.forall_mem_cons.mp digits
      obtain ⟨b, bytes, digit, -⟩ := encodeChar_digit here
      rw [Utf8.ofChars_cons, bytes, List.append_assoc, List.singleton_append, skipDigits,
        if_pos digit]
      exact (ih later).cons b

theorem ends_exponentDigits {e : Exponent} (digits : Digits cs)
    (stop : startsWithDigit rest = false) :
    Ends (exponentDigits negative significand start e (ofChars cs ++ rest)) rest := by
  induction cs generalizing e with
  | nil =>
      cases rest with
      | nil => exact ends_finishFloat
      | cons b rest =>
          have noDigit : isDigit b = false := stop
          simp only [Utf8.ofChars_nil, List.nil_append, exponentDigits, noDigit]
          exact ends_finishFloat
  | cons c cs ih =>
      obtain ⟨here, later⟩ := List.forall_mem_cons.mp digits
      obtain ⟨b, bytes, digit, -⟩ := encodeChar_digit here
      rw [Utf8.ofChars_cons, bytes, List.append_assoc, List.singleton_append, exponentDigits,
        if_pos digit]
      dsimp only
      split
      · split
        · exact ends_error
        · exact (ends_skipDigits later stop).cons b
      · exact (ih later).cons b


/-- The digits of an exponent, of which there is one at least. -/
theorem ends_exponentValue {c : Char} {below : Bool} (digits : Digits (c :: cs))
    (stop : startsWithDigit rest = false) :
    Ends (exponentValue negative significand start below (ofChars (c :: cs) ++ rest)) rest := by
  obtain ⟨here, later⟩ := List.forall_mem_cons.mp digits
  obtain ⟨b, bytes, digit, -⟩ := encodeChar_digit here
  rw [Utf8.ofChars_cons, bytes, List.append_assoc, List.singleton_append, exponentValue,
    if_pos digit]
  exact (ends_exponentDigits later stop).cons b

theorem noDigit_of_closed (closed : Closed rest) : startsWithDigit rest = false := by
  cases rest with
  | nil => rfl
  | cons b rest => exact closed.1

theorem ends_exponentPart {sign c : Char} (signed : sign = '+' ∨ sign = '-')
    (digits : Digits (c :: cs)) (stop : startsWithDigit rest = false) :
    Ends (exponentPart negative significand start (ofChars (sign :: c :: cs) ++ rest)) rest := by
  rcases signed with rfl | rfl
  · exact (ends_exponentValue digits stop).cons 43
  · exact (ends_exponentValue digits stop).cons 45

/-- What may follow a fraction is read up to what follows the number. -/
theorem ends_afterFraction {es : List Char} (spelled : ExponentText es) (closed : Closed rest) :
    Ends (afterFraction negative significand exponent (ofChars es ++ rest)) rest := by
  cases spelled with
  | none =>
      cases rest with
      | nil => exact ends_finishFloat
      | cons b rest =>
          simp only [Utf8.ofChars_nil, List.nil_append, afterFraction, closed.2.2]
          exact ends_finishFloat
  | some signed digits =>
      exact (ends_exponentPart signed digits (noDigit_of_closed closed)).cons 101

section Fraction

variable (stop : startsWithDigit bs = false)
  (after : ∀ significand exponent, Ends (afterFraction negative significand exponent bs) rest)

include stop after

theorem ends_surplusFraction (digits : Digits cs) :
    Ends (surplusFraction negative significand exponent (ofChars cs ++ bs)) rest := by
  induction cs with
  | nil =>
      cases bs with
      | nil => exact after _ _
      | cons b bs =>
          have noDigit : isDigit b = false := stop
          simp only [Utf8.ofChars_nil, List.nil_append, surplusFraction, noDigit]
          exact after _ _
  | cons c cs ih =>
      obtain ⟨here, later⟩ := List.forall_mem_cons.mp digits
      obtain ⟨b, bytes, digit, -⟩ := encodeChar_digit here
      rw [Utf8.ofChars_cons, bytes, List.append_assoc, List.singleton_append, surplusFraction,
        if_pos digit]
      exact (ih later).cons b

theorem ends_fractionDigits {any : Bool} (digits : Digits cs) (some : any = true ∨ cs ≠ []) :
    Ends (fractionDigits negative any significand exponent (ofChars cs ++ bs)) rest := by
  induction cs generalizing any significand exponent with
  | nil =>
      have any : any = true := some.resolve_right fun h => h rfl
      subst any
      cases bs with
      | nil => exact after _ _
      | cons b bs =>
          have noDigit : isDigit b = false := stop
          simp only [Utf8.ofChars_nil, List.nil_append, fractionDigits, noDigit]
          exact after _ _
  | cons c cs ih =>
      obtain ⟨here, later⟩ := List.forall_mem_cons.mp digits
      obtain ⟨b, bytes, digit, -⟩ := encodeChar_digit here
      rw [Utf8.ofChars_cons, bytes, List.append_assoc, List.singleton_append, fractionDigits,
        if_pos digit]
      dsimp only
      split
      · exact (ends_surplusFraction stop after later).cons b
      · exact (ih later (Or.inl rfl)).cons b

end Fraction

theorem noDigit_exponent {es : List Char} (spelled : ExponentText es) (closed : Closed rest) :
    startsWithDigit (ofChars es ++ rest) = false := by
  cases spelled with
  | none => exact noDigit_of_closed closed
  | some signed digits => rfl

theorem noDigit_fraction {fs es : List Char} (fraction : FractionText fs)
    (exponent : ExponentText es) (closed : Closed rest) :
    startsWithDigit (ofChars (fs ++ es) ++ rest) = false := by
  cases fraction with
  | none => exact noDigit_exponent exponent closed
  | some digits => rfl

section Whole

variable {fs es : List Char} (fraction : FractionText fs) (tail : ExponentText es)
  (closed : Closed rest)

include fraction tail closed

/-- What may follow the digits of a number is read up to what follows the number. -/
theorem ends_afterDigits :
    Ends (afterDigits negative significand exponent whole (ofChars (fs ++ es) ++ rest)) rest := by
  cases fraction with
  | none =>
      cases tail with
      | none =>
          obtain ⟨short, left⟩ :
              Leaves (afterDigits negative significand exponent whole rest) whole rest :=
            leaves_afterDigits closed
          intro a r h
          cases left.symm.trans h
          rfl
      | some signed digits =>
          exact (ends_exponentPart signed digits (noDigit_of_closed closed)).cons 101
  | some digits =>
      rw [List.cons_append, Utf8.ofChars_cons, Utf8.ofChars_append, List.append_assoc,
        List.append_assoc]
      exact (ends_fractionDigits (noDigit_exponent tail closed)
        (fun _ _ => ends_afterFraction tail closed) digits (Or.inr nofun)).cons 46

theorem ends_surplusDigits (digits : Digits cs) :
    Ends (surplusDigits negative significand exponent
      (ofChars cs ++ (ofChars (fs ++ es) ++ rest))) rest := by
  induction cs generalizing exponent with
  | nil =>
      cases fraction with
      | none =>
          cases tail with
          | none =>
              cases rest with
              | nil => exact ends_finishFloat
              | cons b rest =>
                  simp only [List.nil_append, Utf8.ofChars_nil, surplusDigits, closed.1,
                    if_neg closed.2.1, closed.2.2]
                  exact ends_finishFloat
          | some signed digits =>
              exact (ends_exponentPart signed digits (noDigit_of_closed closed)).cons 101
      | some digits =>
          rw [List.cons_append, Utf8.ofChars_cons, Utf8.ofChars_append, List.append_assoc,
            List.append_assoc]
          exact (ends_fractionDigits (noDigit_exponent tail closed)
            (fun _ _ => ends_afterFraction tail closed) digits (Or.inr nofun)).cons 46
  | cons c cs ih =>
      obtain ⟨here, later⟩ := List.forall_mem_cons.mp digits
      obtain ⟨b, bytes, digit, -⟩ := encodeChar_digit here
      rw [Utf8.ofChars_cons, bytes, List.append_assoc, List.singleton_append, surplusDigits,
        if_pos digit]
      exact (ih later).cons b

theorem ends_wholeDigits (digits : Digits cs) :
    Ends (wholeDigits negative significand
      (ofChars cs ++ (ofChars (fs ++ es) ++ rest))) rest := by
  induction cs generalizing significand with
  | nil =>
      have after : Ends (afterDigits negative significand 0 (wholeNumber negative significand)
          (ofChars (fs ++ es) ++ rest)) rest := ends_afterDigits fraction tail closed
      have stop := noDigit_fraction fraction tail closed
      rw [Utf8.ofChars_nil, List.nil_append]
      generalize ofChars (fs ++ es) ++ rest = bs at after stop
      cases bs with
      | nil => exact after
      | cons b bs =>
          have noDigit : isDigit b = false := stop
          simp only [wholeDigits, noDigit]
          exact after
  | cons c cs ih =>
      obtain ⟨here, later⟩ := List.forall_mem_cons.mp digits
      obtain ⟨b, bytes, digit, -⟩ := encodeChar_digit here
      rw [Utf8.ofChars_cons, bytes, List.append_assoc, List.singleton_append, wholeDigits,
        if_pos digit]
      dsimp only
      split
      · exact (ends_surplusDigits fraction tail closed later).cons b
      · exact (ih later).cons b

end Whole

/-- A number without a sign is read up to what follows it. -/
theorem stops_unsignedNumber (spelled : UnsignedText cs) (closed : Closed rest) :
    Stops (unsignedNumber negative) (ofChars cs ++ rest) rest := by
  cases spelled with
  | @parts ws fs es whole fraction tail =>
      cases whole with
      | zero =>
          have ends : Ends (afterDigits negative 0 0 (wholeNumber negative 0)
              (ofChars (fs ++ es) ++ rest)) rest := ends_afterDigits fraction tail closed
          have alone := noDigit_fraction fraction tail closed
          have bytes : ofChars (['0'] ++ (fs ++ es)) ++ rest =
              48 :: (ofChars (fs ++ es) ++ rest) := rfl
          rw [bytes]
          generalize ofChars (fs ++ es) ++ rest = bs at ends alone
          intro t ht
          cases read : afterDigits negative 0 0 (wholeNumber negative 0) bs with
          | error e => simp [unsignedNumber, alone, read] at ht
          | ok nr =>
              simp only [unsignedNumber, alone, read] at ht
              cases ht
              exact ends nr.1 nr.2 read
      | @digits c cs digits noZero =>
          obtain ⟨here, later⟩ := List.forall_mem_cons.mp digits
          obtain ⟨b, encoded, digit, code, -⟩ := encodeChar_digit here
          have noZero : b ≠ 48 := by
            rintro rfl
            exact noZero (Char.toNat_inj.mp code.symm)
          have ends : Ends (wholeDigits negative (digitValue b)
              (ofChars cs ++ (ofChars (fs ++ es) ++ rest))) rest :=
            ends_wholeDigits fraction tail closed later
          have bytes : ofChars (c :: cs ++ (fs ++ es)) ++ rest =
              b :: (ofChars cs ++ (ofChars (fs ++ es) ++ rest)) := by
            rw [List.cons_append, Utf8.ofChars_cons, encoded, Utf8.ofChars_append]
            simp
          rw [bytes]
          generalize ofChars cs ++ (ofChars (fs ++ es) ++ rest) = bs at ends
          intro t ht
          cases read : wholeDigits negative (digitValue b) bs with
          | error e => simp [unsignedNumber, noZero, digit, read] at ht
          | ok nr =>
              simp only [unsignedNumber, if_neg noZero, if_pos digit, read] at ht
              cases ht
              exact ends nr.1 nr.2 read

theorem digit_of_wholeText (spelled : WholeText cs) :
    ∃ c cs', cs = c :: cs' ∧ c.isDigit = true := by
  cases spelled with
  | zero => exact ⟨_, _, rfl, rfl⟩
  | digits digits noZero => exact ⟨_, _, rfl, digits _ (List.mem_cons_self ..)⟩

/-- A number without a sign begins with a digit. -/
theorem head_unsignedText (spelled : UnsignedText cs) :
    ∃ b bs, ofChars cs = b :: bs ∧ isDigit b = true := by
  cases spelled with
  | parts whole fraction tail =>
      obtain ⟨c, cs', rfl, digit⟩ := digit_of_wholeText whole
      obtain ⟨b, bytes, here, -, -⟩ := encodeChar_digit digit
      exact ⟨b, _, by rw [List.cons_append, Utf8.ofChars_cons, bytes]; rfl, here⟩

/-- A number begins with a sign or a digit. -/
theorem head_numberText (spelled : NumberText cs) :
    ∃ b bs, ofChars cs = b :: bs ∧ (b = 45 ∨ isDigit b = true) := by
  cases spelled with
  | unsigned text =>
      obtain ⟨b, bs, bytes, digit⟩ := head_unsignedText text
      exact ⟨b, bs, bytes, Or.inr digit⟩
  | negative text => exact ⟨45, _, rfl, Or.inl rfl⟩

/-- A number is read up to what follows it. -/
theorem stops_numeral (spelled : NumberText cs) (closed : Closed rest) :
    Stops numeral (ofChars cs ++ rest) rest := by
  cases spelled with
  | unsigned text =>
      have stops : Stops (unsignedNumber false) (ofChars cs ++ rest) rest :=
        stops_unsignedNumber text closed
      obtain ⟨b, bs, bytes, digit⟩ := head_unsignedText text
      have noMinus : b ≠ 45 := by
        rintro rfl
        cases digit
      rw [bytes, List.cons_append] at stops ⊢
      intro t ht
      rw [numeral, if_neg noMinus] at ht
      exact stops t ht
  | @negative cs text =>
      have stops : Stops (unsignedNumber true) (ofChars cs ++ rest) rest :=
        stops_unsignedNumber text closed
      have bytes : ofChars ('-' :: cs) ++ rest = 45 :: (ofChars cs ++ rest) := rfl
      rw [bytes]
      intro t ht
      cases read : unsignedNumber true (ofChars cs ++ rest) with
      | error e => simp [numeral, read] at ht
      | ok t' =>
          simp only [numeral, read] at ht
          cases ht
          exact stops t' read

end Numbers

/-! ## What is printed for a number -/

theorem digits_toDigits (n : Nat) : Digits (Nat.toDigits 10 n) := fun _ h =>
  Nat.isDigit_of_mem_toDigits (by omega) (by omega) h

theorem digits_zeros (n : Nat) : Digits (List.replicate n '0') := fun _ h =>
  List.eq_of_mem_replicate h ▸ rfl

theorem Digits.append {cs ds : List Char} (h : Digits cs) (h' : Digits ds) : Digits (cs ++ ds) :=
  List.forall_mem_append.mpr ⟨h, h'⟩

/-- The digits of a number are a whole number. -/
theorem wholeText_toDigits (n : Nat) : WholeText (Nat.toDigits 10 n) := by
  by_cases zero : n = 0
  · subst zero
    exact .zero
  · have digits := digits_toDigits n
    obtain ⟨c, cs, eq, noZero⟩ := Numeral.exists_toDigits_eq_cons zero
    rw [eq] at digits ⊢
    exact .digits digits noZero

/-- What is printed for an integer is a number. -/
theorem numberText_intText (n : Int) : NumberText (Number.intText n) := by
  have unsigned : UnsignedText (Nat.toDigits 10 n.natAbs) := by
    have parts := UnsignedText.parts (wholeText_toDigits n.natAbs) .none .none
    rwa [List.append_nil, List.append_nil] at parts
  rw [Number.intText]
  split
  · exact .negative unsigned
  · exact .unsigned unsigned

/-- Digits in a fraction. -/
theorem fractionText_of_digits {cs : List Char} (digits : Digits cs) (some : cs ≠ []) :
    FractionText ('.' :: cs) := by
  cases cs with
  | nil => exact absurd rfl some
  | cons c cs => exact .some digits

/-- A mark, a sign and the digits of a number are an exponent. -/
theorem exponentText_marked (e : Int) : ExponentText
    (Number.floatStyle.mark :: (if e < 0 then '-' else '+') :: Nat.toDigits 10 e.natAbs) := by
  have signed : (if e < 0 then '-' else '+') = '+' ∨ (if e < 0 then '-' else '+') = '-' := by
    split
    · exact Or.inr rfl
    · exact Or.inl rfl
  have digits := digits_toDigits e.natAbs
  cases eq : Nat.toDigits 10 e.natAbs with
  | nil => exact absurd eq Nat.toDigits_ne_nil
  | cons c cs => exact .some signed (eq ▸ digits)

section Layout

variable {c : Char} {cs : List Char} (digits : Digits (c :: cs)) (noZero : c ≠ '0')

include digits noZero

/-- A point among digits divides a whole number from a fraction. -/
theorem unsignedText_pointed {k : Nat} (before : 0 < k) (behind : k < (c :: cs).length) :
    UnsignedText ((c :: cs).take k ++ '.' :: (c :: cs).drop k) := by
  obtain ⟨first, others⟩ := List.forall_mem_cons.mp digits
  obtain ⟨k, rfl⟩ := Nat.exists_eq_succ_of_ne_zero (Nat.ne_of_gt before)
  have whole : WholeText ((c :: cs).take (k + 1)) :=
    .digits (List.forall_mem_cons.mpr ⟨first, fun c hc => others c (List.mem_of_mem_take hc)⟩)
      noZero
  have some : (c :: cs).drop (k + 1) ≠ [] := fun h =>
    absurd (List.drop_eq_nil_iff.mp h) (Nat.not_le.mpr behind)
  have fraction : FractionText ('.' :: (c :: cs).drop (k + 1)) :=
    fractionText_of_digits (fun c hc => digits c (List.mem_of_mem_drop hc)) some
  have parts := UnsignedText.parts whole fraction .none
  rwa [List.append_nil] at parts

/-- A point behind the first digit, where others follow it, and an exponent make a number. -/
theorem unsignedText_scientific (e : Int) :
    UnsignedText ((match c :: cs with
      | [] => []
      | [c] => [c]
      | c :: cs => c :: '.' :: cs) ++
        Number.floatStyle.mark :: (if e < 0 then '-' else '+') :: Nat.toDigits 10 e.natAbs) := by
  obtain ⟨first, others⟩ := List.forall_mem_cons.mp digits
  have one : WholeText [c] := .digits (List.forall_mem_singleton.mpr first) noZero
  cases cs with
  | nil => exact .parts one .none (exponentText_marked e)
  | cons c' cs => exact .parts one (.some others) (exponentText_marked e)

end Layout

/-- Digits are laid out as a number. -/
theorem unsignedText_layout (d : Decimal.Digits) :
    UnsignedText (Number.floatStyle.layout d) := by
  have tenth : FractionText ['.', '0'] := fractionText_of_digits (digits_zeros 1) nofun
  rw [Number.FloatStyle.layout]
  dsimp only
  by_cases zero : d.digits = 0
  · rw [if_pos zero]
    exact .parts .zero tenth .none
  have digits := digits_toDigits d.digits
  obtain ⟨c, cs, eq, noZero⟩ := Numeral.exists_toDigits_eq_cons zero
  rw [if_neg zero, eq]
  rw [eq] at digits
  split
  next whole => exact .parts (.digits (digits.append (digits_zeros _)) noZero) tenth .none
  next notWhole =>
    split
    next among => exact unsignedText_pointed digits noZero (by omega) (by omega)
    next notAmong =>
      split
      next small =>
        have fraction := fractionText_of_digits
          ((digits_zeros (-((c :: cs).length + d.exponent)).toNat).append digits) (by simp)
        have parts := UnsignedText.parts .zero fraction .none
        rwa [List.append_nil] at parts
      next large => exact unsignedText_scientific digits noZero _

/-- What is printed for a double is a number, or `null` where the double is none. -/
theorem floatText_cases (x : Float) :
    (Decimal.Binary.ofBits? x.toBits = none ∧ Number.floatText x = ['n', 'u', 'l', 'l']) ∨
      (Decimal.Binary.ofBits? x.toBits ≠ none ∧ NumberText (Number.floatText x)) := by
  rw [Number.floatText]
  cases Decimal.Binary.ofBits? x.toBits with
  | none => exact Or.inl ⟨rfl, rfl⟩
  | some b =>
      refine Or.inr ⟨nofun, ?_⟩
      dsimp only
      split
      · exact .negative (unsignedText_layout _)
      · exact .unsigned (unsignedText_layout _)

end SqlGateway.Json
