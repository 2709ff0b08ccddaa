import SqlGateway.Json.Printer

/-!
# Layouts of a value

A value is printed on one line or over several.  Both texts are the text of the value in a
`Layout`: what stands in front of an item and behind a colon, which is nothing or blank.  So
what holds of the text in every layout holds of both (`Layout.text_compact`,
`Layout.text_pretty`).

`Integral` and `depth` tell the values whose text is read back: their numbers are integers, and
they have no more levels than a reader follows.

A text is longer than what it holds: than the string it is printed for (`length_lt_quoted`), and
than the text of each of its members (`Layout.length_text_lt_object`).
-/

namespace SqlGateway.Json

/-! ## Numbers and levels -/

mutual

/-- A value whose numbers are integers. -/
def Integral : Json → Prop
  | .number (.float _) => False
  | .array vs => IntegralItems vs
  | .object ms => IntegralMembers ms
  | _ => True

/-- `Integral` for every item of a list. -/
def IntegralItems : List Json → Prop
  | [] => True
  | v :: vs => Integral v ∧ IntegralItems vs

/-- `Integral` for the value of every member. -/
def IntegralMembers : List (String × Json) → Prop
  | [] => True
  | (_, v) :: ms => Integral v ∧ IntegralMembers ms

end

theorem integralItems_iff (vs : List Json) : IntegralItems vs ↔ ∀ v ∈ vs, Integral v := by
  induction vs with
  | nil => simp [IntegralItems]
  | cons v vs ih => simp [IntegralItems, ih]

theorem integralMembers_iff (ms : Members) : IntegralMembers ms ↔ ∀ m ∈ ms, Integral m.2 := by
  induction ms with
  | nil => simp [IntegralMembers]
  | cons m ms ih => simp [IntegralMembers, ih]

mutual

/-- The levels of lists and objects in a value. -/
def depth : Json → Nat
  | .array vs => depthItems vs + 1
  | .object ms => depthMembers ms + 1
  | _ => 0

/-- The greatest `depth` of the items of a list. -/
def depthItems : List Json → Nat
  | [] => 0
  | v :: vs => max (depth v) (depthItems vs)

/-- The greatest `depth` of the values of some members. -/
def depthMembers : List (String × Json) → Nat
  | [] => 0
  | (_, v) :: ms => max (depth v) (depthMembers ms)

end

/-! ## Layouts -/

/-- Characters that say nothing between values. -/
def Blank (cs : List Char) : Prop := ∀ c ∈ cs, c = ' ' ∨ c = '\n'

/-- Where a text of JSON has blanks. -/
structure Layout where
  /-- What stands in front of an item, a member or a closing bracket at a level. -/
  gap : Nat → List Char
  /-- What stands behind a colon. -/
  colon : List Char
  /-- Gaps are blank. -/
  gap_blank : ∀ level, Blank (gap level)
  /-- Behind a colon it is blank. -/
  colon_blank : Blank colon

namespace Layout

mutual

/-- The text of a value at a level. -/
def text (l : Layout) (level : Nat) : Json → List Char
  | .array (v :: vs) => '[' :: l.gap (level + 1) ++ l.text (level + 1) v ++ l.items level vs
  | .object ((k, v) :: ms) =>
      '{' :: l.gap (level + 1) ++ quoted k ++ ':' :: (l.colon ++ l.text (level + 1) v) ++
        l.members level ms
  | .array [] => ['[', ']']
  | .object [] => ['{', '}']
  | .null => ['n', 'u', 'l', 'l']
  | .bool true => ['t', 'r', 'u', 'e']
  | .bool false => ['f', 'a', 'l', 's', 'e']
  | .number n => n.text
  | .string s => quoted s

/-- The items after the first, and the bracket that closes them. -/
def items (l : Layout) (level : Nat) : List Json → List Char
  | [] => l.gap level ++ [']']
  | v :: vs => ',' :: l.gap (level + 1) ++ l.text (level + 1) v ++ l.items level vs

/-- The members after the first, and the brace that closes them. -/
def members (l : Layout) (level : Nat) : List (String × Json) → List Char
  | [] => l.gap level ++ ['}']
  | (k, v) :: ms =>
      ',' :: l.gap (level + 1) ++ quoted k ++ ':' :: (l.colon ++ l.text (level + 1) v) ++
        l.members level ms

end

/-- The layout without blanks. -/
def compact : Layout where
  gap _ := []
  colon := []
  gap_blank _ := nofun
  colon_blank := nofun

/-- The layout with a line for each item and member. -/
def pretty : Layout where
  gap := newline
  colon := [' ']
  gap_blank level c h := by
    rcases List.mem_cons.mp h with rfl | indent
    · exact Or.inr rfl
    · exact Or.inl (List.eq_of_mem_replicate indent)
  colon_blank c h := Or.inl (List.mem_singleton.mp h)

theorem compact_gap (level : Nat) : compact.gap level = [] := rfl

theorem compact_colon : compact.colon = [] := rfl

theorem pretty_gap (level : Nat) : pretty.gap level = newline level := rfl

theorem pretty_colon : pretty.colon = [' '] := rfl

mutual

theorem text_compact (level : Nat) : ∀ v : Json, compact.text level v = compactText v
  | .array (v :: vs) => by
      rw [text, compactText, text_compact, items_compact, compact_gap]
      rfl
  | .object ((k, v) :: ms) => by
      rw [text, compactText, text_compact, members_compact, compact_gap, compact_colon]
      rfl
  | .array [] => rfl
  | .object [] => rfl
  | .null => rfl
  | .bool true => rfl
  | .bool false => rfl
  | .number _ => rfl
  | .string _ => rfl

theorem items_compact (level : Nat) : ∀ vs : List Json, compact.items level vs = compactItems vs
  | [] => rfl
  | v :: vs => by
      rw [items, compactItems, text_compact, items_compact, compact_gap]
      rfl

theorem members_compact (level : Nat) :
    ∀ ms : List (String × Json), compact.members level ms = compactMembers ms
  | [] => rfl
  | (k, v) :: ms => by
      rw [members, compactMembers, text_compact, members_compact, compact_gap, compact_colon]
      rfl

end

mutual

theorem text_pretty (level : Nat) : ∀ v : Json, pretty.text level v = prettyText level v
  | .array (v :: vs) => by
      rw [text, prettyText, text_pretty, items_pretty, pretty_gap]
  | .object ((k, v) :: ms) => by
      rw [text, prettyText, text_pretty, members_pretty, pretty_gap, pretty_colon]
      rfl
  | .array [] => rfl
  | .object [] => rfl
  | .null => rfl
  | .bool true => rfl
  | .bool false => rfl
  | .number _ => rfl
  | .string _ => rfl

theorem items_pretty (level : Nat) :
    ∀ vs : List Json, pretty.items level vs = prettyItems level vs
  | [] => rfl
  | v :: vs => by
      rw [items, prettyItems, text_pretty, items_pretty, pretty_gap]

theorem members_pretty (level : Nat) :
    ∀ ms : List (String × Json), pretty.members level ms = prettyMembers level ms
  | [] => rfl
  | (k, v) :: ms => by
      rw [members, prettyMembers, text_pretty, members_pretty, pretty_gap, pretty_colon]
      rfl

end

/-! ## Lengths -/

section Lengths

variable {ms : Members} {k : String} {v : Json}

theorem length_text_lt_members (l : Layout) (level : Nat) (h : (k, v) ∈ ms) :
    (l.text (level + 1) v).length < (l.members level ms).length := by
  induction ms with
  | nil => cases h
  | cons m ms ih =>
      obtain ⟨n, w⟩ := m
      rw [members]
      simp only [List.length_append, List.length_cons]
      rcases List.mem_cons.mp h with here | later
      · cases here
        omega
      · have rest := ih later
        omega

/-- The text of a member is shorter than that of its object. -/
theorem length_text_lt_object (l : Layout) (level : Nat) (h : (k, v) ∈ ms) :
    (l.text (level + 1) v).length < (l.text level (.object ms)).length := by
  cases ms with
  | nil => cases h
  | cons m ms =>
      obtain ⟨n, w⟩ := m
      rw [text]
      simp only [List.length_append, List.length_cons]
      rcases List.mem_cons.mp h with here | later
      · cases here
        omega
      · have rest := l.length_text_lt_members level later
        omega

end Lengths

end Layout

theorem length_le_escaped (cs : List Char) : cs.length ≤ (cs.flatMap escapeChar).length := by
  induction cs with
  | nil => exact Nat.le_refl 0
  | cons c cs ih =>
      have escape : 1 ≤ (escapeChar c).length := by
        rw [escapeChar]
        repeat' split
        all_goals simp
      rw [List.flatMap_cons, List.length_append, List.length_cons]
      omega

/-- A string is shorter than what is printed for it. -/
theorem length_lt_quoted (s : String) : s.toList.length < (quoted s).length := by
  have escaped := length_le_escaped s.toList
  simp only [quoted, List.length_append, List.length_cons, List.length_nil]
  omega

end SqlGateway.Json
