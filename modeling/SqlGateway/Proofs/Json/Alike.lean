import SqlGateway.Proofs.Json.Layout

/-!
# Values alike

A double is printed so that it can be read, but what is read need not be the same double, and
it may even be out of range.  All else about a value is read as it was: `Alike` says that two
values are the same but for their doubles and for the order of members.  Where there are no
doubles, only the value in order is alike to a value (`Alike.eq_sorted`).
-/

namespace SqlGateway.Json

mutual

/-- The second value may be read for the first one: it is the same but for its doubles, and its
members are in order. -/
def Alike : Json → Json → Prop
  | .number (.float x), w =>
      if Decimal.Binary.ofBits? x.toBits = none then w = .null else ∃ n, w = .number n
  | .array vs, w => ∃ ws, w = .array ws ∧ AlikeItems vs ws
  | .object ms, w => ∃ ns, w = .object (Members.ofList ns) ∧ AlikeMembers ms ns
  | v, w => w = v

/-- `Alike` for every item of a list. -/
def AlikeItems : List Json → List Json → Prop
  | [], ws => ws = []
  | v :: vs, ws => ∃ w ws', ws = w :: ws' ∧ Alike v w ∧ AlikeItems vs ws'

/-- `Alike` for the value of every member, under the same name. -/
def AlikeMembers : List (String × Json) → List (String × Json) → Prop
  | [], ns => ns = []
  | (k, v) :: ms, ns => ∃ w ns', ns = (k, w) :: ns' ∧ Alike v w ∧ AlikeMembers ms ns'

end

/-- A value that is printed as `null`: there is none, or it is a double that is no number. -/
def PrintsNull : Json → Prop
  | .null => True
  | .number (.float x) => Decimal.Binary.ofBits? x.toBits = none
  | _ => False

/-- What is read for a value is `null` exactly where `null` is printed. -/
theorem Alike.null_iff {v w : Json} (h : Alike v w) : w = .null ↔ v.PrintsNull := by
  cases v with
  | null =>
      cases h
      simp [PrintsNull]
  | bool b =>
      cases h
      simp [PrintsNull]
  | number n =>
      cases n with
      | integer n =>
          cases h
          simp [PrintsNull]
      | float x =>
          rw [Alike] at h
          split at h
          next none => simpa [PrintsNull, none] using h
          next some =>
            obtain ⟨n, rfl⟩ := h
            simpa [PrintsNull] using some
  | string s =>
      cases h
      simp [PrintsNull]
  | array vs =>
      obtain ⟨ws, rfl, -⟩ := h
      simp [PrintsNull]
  | object ms =>
      obtain ⟨ns, rfl, -⟩ := h
      simp [PrintsNull]

mutual

/-- Only the value in order is alike to a value without doubles. -/
theorem Alike.eq_sorted : ∀ {v w : Json}, v.Integral → Alike v w → w = v.sorted
  | .null, _, _, h | .bool _, _, _, h | .number (.integer _), _, _, h | .string _, _, _, h => h
  | .array _, _, integral, h => by
      obtain ⟨ws, rfl, items⟩ := h
      rw [AlikeItems.eq_sorted integral items, sorted]
  | .object _, _, integral, h => by
      obtain ⟨ns, rfl, members⟩ := h
      rw [AlikeMembers.eq_sorted integral members, sorted]

theorem AlikeItems.eq_sorted : ∀ {vs ws : List Json}, IntegralItems vs → AlikeItems vs ws →
    ws = sortedItems vs
  | [], _, _, h => h
  | _ :: _, _, integral, h => by
      obtain ⟨w, ws, rfl, here, later⟩ := h
      rw [Alike.eq_sorted integral.1 here, AlikeItems.eq_sorted integral.2 later, sortedItems]

theorem AlikeMembers.eq_sorted : ∀ {ms ns : List (String × Json)}, IntegralMembers ms →
    AlikeMembers ms ns → ns = sortedMembers ms
  | [], _, _, h => h
  | _ :: _, _, integral, h => by
      obtain ⟨w, ns, rfl, here, later⟩ := h
      rw [Alike.eq_sorted integral.1 here, AlikeMembers.eq_sorted integral.2 later, sortedMembers]

end

end SqlGateway.Json
