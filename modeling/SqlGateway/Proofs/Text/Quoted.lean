import SqlGateway.Proofs.Text.Numeral
import SqlGateway.Text.Quoted

/-!
# Reading back quoted text

A quoted text tells the text, and where it ends (`quote_append_inj`).  What has been quoted is
therefore not hidden, whatever stands around it.

`unescape` reads one character back.  An escaped character never begins with a quote, so the
closing quote is the first that `unescape` finds.
-/

namespace SqlGateway

/-- The first character of escaped text, and what follows it. -/
def unescape : List Char → Option (Char × List Char)
  | '\\' :: 'u' :: '{' :: cs =>
      (Numeral.value? 16 (cs.takeWhile (· ≠ '}'))).map fun n =>
        (Char.ofNat n, (cs.dropWhile (· ≠ '}')).drop 1)
  | '\\' :: '0' :: cs => some ('\x00', cs)
  | '\\' :: 't' :: cs => some ('\t', cs)
  | '\\' :: 'r' :: cs => some ('\r', cs)
  | '\\' :: 'n' :: cs => some ('\n', cs)
  | '\\' :: c :: cs => some (c, cs)
  | c :: cs => some (c, cs)
  | [] => none

theorem ne_brace_of_mem_hexDigits {n : Nat} {c : Char} (h : c ∈ hexDigits n) : c ≠ '}' := by
  obtain ⟨d, small, rfl⟩ := Numeral.mem_toDigits (by decide) h
  have digits : ∀ d : Fin 16, d.val.digitChar ≠ '}' := by decide
  exact digits ⟨d, small⟩

/-- A character spelled by its number is read back. -/
theorem unescape_number (c : Char) (cs : List Char) :
    unescape ('\\' :: 'u' :: '{' :: (hexDigits c.toNat ++ '}' :: cs)) = some (c, cs) := by
  have digits : ∀ d ∈ hexDigits c.toNat, (decide (d ≠ '}')) = true := fun d mem =>
    decide_eq_true (ne_brace_of_mem_hexDigits mem)
  have value : Numeral.value? 16 (hexDigits c.toNat) = some c.toNat :=
    Numeral.value?_toDigits (by decide) (by decide) c.toNat
  rw [unescape, List.takeWhile_append_of_pos digits, List.dropWhile_append_of_pos digits]
  simp [value, Char.ofNat_toNat]

theorem unescape_plain {c : Char} (plain : c ≠ '\\') (cs : List Char) :
    unescape (c :: cs) = some (c, cs) := by
  rw [unescape.eq_def]
  split <;> simp_all

/-- An escaped character is read back. -/
theorem unescape_escapeQuoted (c : Char) (cs : List Char) :
    unescape (escapeQuoted c ++ cs) = some (c, cs) := by
  by_cases backslash : c = '\\'
  · rw [backslash]
    rfl
  rw [escapeQuoted]
  split
  case isTrue zero => rw [zero]; rfl
  split
  case isTrue tab => rw [tab]; rfl
  split
  case isTrue enter => rw [enter]; rfl
  split
  case isTrue newline => rw [newline]; rfl
  split
  case isTrue mark => rw [mark]; rfl
  split
  case isTrue => simpa using unescape_number c cs
  case isFalse => exact unescape_plain backslash cs

/-- An escaped character does not begin with a quote. -/
theorem escapeQuoted_ne_quote (c : Char) (cs ds : List Char) :
    escapeQuoted c ++ cs ≠ '"' :: ds := by
  intro same
  have read := congrArg unescape same
  rw [unescape_escapeQuoted, unescape_plain (by decide)] at read
  cases read
  cases same

/-- Escaped text up to its closing quote tells the text. -/
theorem eq_of_escaped {s t x y : List Char}
    (same : s.flatMap escapeQuoted ++ '"' :: x = t.flatMap escapeQuoted ++ '"' :: y) :
    s = t ∧ x = y := by
  induction s generalizing t with
  | nil =>
      cases t with
      | nil => exact ⟨rfl, (List.cons.inj same).2⟩
      | cons d t =>
          rw [List.flatMap_cons, List.append_assoc] at same
          exact absurd same.symm (escapeQuoted_ne_quote d _ _)
  | cons c s ih =>
      rw [List.flatMap_cons, List.append_assoc] at same
      cases t with
      | nil => exact absurd same (escapeQuoted_ne_quote c _ _)
      | cons d t =>
          rw [List.flatMap_cons, List.append_assoc] at same
          have read := congrArg unescape same
          rw [unescape_escapeQuoted, unescape_escapeQuoted] at read
          obtain ⟨rfl, rest⟩ := Prod.mk.inj (Option.some.inj read)
          obtain ⟨rfl, rfl⟩ := ih rest
          exact ⟨rfl, rfl⟩

/-- A quoted text tells the text, and where it ends. -/
theorem quote_append_inj {s t x y : String} : quote s ++ x = quote t ++ y ↔ s = t ∧ x = y := by
  refine ⟨fun same => ?_, fun ⟨here, there⟩ => by rw [here, there]⟩
  have chars := congrArg String.toList same
  rw [quote, quote, String.toList_append, String.toList_append, String.toList_ofList,
    String.toList_ofList, List.append_assoc, List.append_assoc] at chars
  obtain ⟨here, there⟩ := eq_of_escaped (List.cons.inj chars).2
  exact ⟨String.toList_inj.mp here, String.toList_inj.mp there⟩

end SqlGateway
