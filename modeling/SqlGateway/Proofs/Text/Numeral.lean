import SqlGateway.Text.Numeral

/-!
# Reading back numerals

The digits of a number spell it, in every base that has its digits (`value?_toDigits`).
-/

namespace SqlGateway.Numeral

variable {base n : Nat} {cs ds : List Char}

theorem digit?_digitChar {d : Nat} (small : d < base) (most : base ≤ 16) :
    digit? base d.digitChar = some d := by
  have digits : ∀ d : Fin 16, digit? 16 d.val.digitChar = some d.val := by decide
  have digit := digits ⟨d, by omega⟩
  rw [digit?] at digit ⊢
  obtain ⟨value, -⟩ := Option.filter_eq_some_iff.mp digit
  exact Option.filter_eq_some_iff.mpr ⟨value, by simpa using small⟩

theorem valueFrom?_append (acc : Nat) :
    valueFrom? base acc (cs ++ ds) = (valueFrom? base acc cs).bind (valueFrom? base · ds) := by
  induction cs generalizing acc with
  | nil => rfl
  | cons c cs ih =>
      rw [List.cons_append, valueFrom?, valueFrom?]
      cases digit? base c with
      | none => rfl
      | some d => exact ih _

theorem valueFrom?_digitChar {d : Nat} (acc : Nat) (small : d < base) (most : base ≤ 16) :
    valueFrom? base acc [d.digitChar] = some (acc * base + d) := by
  rw [valueFrom?, digit?_digitChar small most]
  rfl

/-- The digits of a number spell it. -/
theorem value?_toDigits (least : 1 < base) (most : base ≤ 16) (n : Nat) :
    value? base (Nat.toDigits base n) = some n := by
  induction n using Nat.strongRecOn with
  | ind n ih =>
      by_cases one : n < base
      · rw [Nat.toDigits_of_lt_base one, value?, valueFrom?_digitChar 0 one most, Nat.zero_mul,
          Nat.zero_add]
      · have more : base ≤ n := by omega
        have before := ih (n / base) (Nat.div_lt_self (by omega) least)
        have last : n % base < base := Nat.mod_lt n (by omega)
        rw [value?] at before
        rw [Nat.toDigits_of_base_le least more, value?, valueFrom?_append, before,
          Option.bind_some, valueFrom?_digitChar (n / base) last most, Nat.mul_comm,
          Nat.div_add_mod]

/-- The digits of a number other than zero do not begin with a zero. -/
theorem exists_toDigits_eq_cons (h : n ≠ 0) :
    ∃ c cs, Nat.toDigits 10 n = c :: cs ∧ c ≠ '0' := by
  induction n using Nat.strongRecOn with
  | ind n ih =>
      by_cases one : n < 10
      · exact ⟨n.digitChar, [], Nat.toDigits_of_lt_base one, by simpa using h⟩
      · obtain ⟨c, cs, digits, first⟩ := ih (n / 10) (by omega) (by omega)
        refine ⟨c, cs ++ [(n % 10).digitChar], ?_, first⟩
        rw [Nat.toDigits_of_base_le (by omega) (by omega), digits, List.cons_append]

theorem mem_toDigits {c : Char} (least : 1 < base) (h : c ∈ Nat.toDigits base n) :
    ∃ d < base, c = d.digitChar := by
  induction n using Nat.strongRecOn with
  | ind n ih =>
      by_cases one : n < base
      · rw [Nat.toDigits_of_lt_base one, List.mem_singleton] at h
        exact ⟨n, one, h⟩
      · rw [Nat.toDigits_of_base_le least (by omega), List.mem_append] at h
        cases h with
        | inl front => exact ih (n / base) (Nat.div_lt_self (by omega) least) front
        | inr last =>
            exact ⟨n % base, Nat.mod_lt n (by omega), List.mem_singleton.mp last⟩

end SqlGateway.Numeral
