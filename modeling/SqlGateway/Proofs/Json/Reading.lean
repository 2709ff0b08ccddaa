import SqlGateway.Json.Record
import SqlGateway.Proofs.Json.Order

/-!
# What is read is in order

A reader takes a value off a text in one of a few ways, which `ReadBy` lists.  Its items and
members come from the reader one level further in (`mem_items`, `mem_members`), and an object
is collected from its members.  So every value that is read lists the members of its objects
in strictly increasing order of names (`ordered_of_readBytes`).
-/

namespace SqlGateway.Json

variable {α : Type}

/-! ## Lists and objects -/

/-- Every item of a list was read by the reader of its items. -/
theorem mem_items {item : Scan α} {first : Bool} {bs : Bytes} {ts : Taken (List α) bs} {a : α}
    (h : items item first bs = .ok ts) (ha : a ∈ ts.value) :
    ∃ front, ∃ t, item front = .ok t ∧ t.value = a := by
  induction first, bs using items.induct item with
  | case1 first bs e he | case2 first bs hn e he | case4 first bs front hf hn e he
  | case5 first bs front hf hn t ht _ e he =>
      rw [items] at h
      simp [*] at h
  | case3 first bs hn rest hr hc =>
      rw [items] at h
      simp only [hn, hc, Except.ok.injEq] at h
      subst h
      cases ha
  | case6 first bs front hf hn t ht _ us hus ih =>
      rw [items] at h
      simp only [hn, ht, hus, Except.ok.injEq] at h
      subst h
      rcases List.mem_cons.mp ha with here | later
      · exact ⟨front, t, ht, here.symm⟩
      · exact ih hus later

/-- The value of every member of an object was read by the reader of its values. -/
theorem mem_members {value : Scan α} {first : Bool} {bs : Bytes}
    {ts : Taken (List (String × α)) bs} {m : String × α}
    (h : members value first bs = .ok ts) (hm : m ∈ ts.value) :
    ∃ front, ∃ t, value front = .ok t ∧ t.value = m.2 := by
  induction first, bs using members.induct value with
  | case1 first bs e he | case2 first bs hn e he | case4 first bs front hf hn e he
  | case5 first bs front hf hn key hk e he | case6 first bs front hf hn key hk rest hc hc' e he
  | case7 first bs front hf hn key hk rest hc hc' t ht _ e he =>
      rw [members] at h
      simp [*] at h
  | case3 first bs hn rest hr hc =>
      rw [members] at h
      simp only [hn, hc, Except.ok.injEq] at h
      subst h
      cases hm
  | case8 first bs front hf hn key hk rest hc hc' t ht _ us hus ih =>
      rw [members] at h
      simp only [hn, hk, hc', ht, hus, Except.ok.injEq] at h
      subst h
      rcases List.mem_cons.mp hm with here | later
      · exact ⟨rest, t, ht, here ▸ rfl⟩
      · exact ih hus later

/-! ## Values -/

/-- The ways in which a reader of values comes by a value, where `inner` reads what is one level
further in. -/
inductive ReadBy (inner : Option (Scan Json)) : Json → Prop where
  /-- The value `null`. -/
  | null : ReadBy inner .null
  /-- A truth value. -/
  | bool (b : Bool) : ReadBy inner (.bool b)
  /-- A number. -/
  | number (n : Number) : ReadBy inner (.number n)
  /-- A string. -/
  | string (s : String) : ReadBy inner (.string s)
  /-- A list of values that `inner` read. -/
  | array {item : Scan Json} {vs : List Json} (some : inner = some item)
      (read : ∀ v ∈ vs, ∃ front, ∃ t, item front = .ok t ∧ t.value = v) :
      ReadBy inner (.array vs)
  /-- An object collected from members whose values `inner` read. -/
  | object {item : Scan Json} {ms : Members} (some : inner = some item)
      (read : ∀ m ∈ ms, ∃ front, ∃ t, item front = .ok t ∧ t.value = m.2) :
      ReadBy inner (.object (Members.ofList ms))

/-- A value that a word stands for is read by the letters of the word. -/
theorem value_of_constant {bs rest : Bytes} {letters : List Char} {a : α}
    {hr : rest.length < bs.length} {t : Taken α bs}
    (h : constant letters a hr = .ok t) : t.value = a := by
  rw [constant] at h
  split at h
  · cases h
  · cases h
    rfl

/-- A reader of values comes by each of them in one of the listed ways. -/
theorem valueWith_inv {inner : Option (Scan Json)} {bs : Bytes} {t : Taken Json bs}
    (h : valueWith inner bs = .ok t) : ReadBy inner t.value := by
  rw [valueWith] at h
  split at h
  · cases h
  next b rest hs =>
    dsimp only at h
    split at h
    · exact value_of_constant h ▸ .null
    · exact value_of_constant h ▸ .bool true
    · exact value_of_constant h ▸ .bool false
    · split at h
      · cases h
      · cases h
        exact .string _
    next =>
      cases inner with
      | none => cases h
      | some item =>
          cases hi : items item true rest with
          | error e =>
              simp only [hi, Except.map] at h
              cases h
          | ok vs =>
              simp only [hi, Except.map] at h
              cases h
              exact .array rfl fun v hv => mem_items hi hv
    next =>
      cases inner with
      | none => cases h
      | some item =>
          cases hm : members item true rest with
          | error e =>
              simp only [hm, Except.map] at h
              cases h
          | ok ms =>
              simp only [hm, Except.map] at h
              cases h
              exact .object rfl fun m hm' => mem_members hm hm'
    · split at h
      · split at h
        · cases h
        · cases h
          exact .number _
      · cases h

/-! ## Values in order -/

/-- Where what is one level further in is read in order, so is the value. -/
theorem ReadBy.ordered {inner : Option (Scan Json)} {v : Json} (h : ReadBy inner v)
    (ih : ∀ item, inner = some item → ∀ bs t, item bs = .ok t → t.value.Ordered) : v.Ordered := by
  cases h with
  | null | bool | number | string => trivial
  | array some read =>
      refine (orderedItems_iff _).mpr fun v hv => ?_
      obtain ⟨front, t, ht, rfl⟩ := read v hv
      exact ih _ some front t ht
  | @object item ms some read =>
      refine ⟨Members.increasing_ofList ms, (orderedMembers_iff _).mpr fun m hm => ?_⟩
      obtain ⟨front, t, ht, hv⟩ := read m (Members.subset_ofList ms hm)
      exact hv ▸ ih _ some front t ht

/-- A value that a reader takes off a text is in order. -/
theorem value_ordered : ∀ (depth : Nat) {bs : Bytes} {t : Taken Json bs},
    value depth bs = .ok t → t.value.Ordered
  | 0, _, _, h => by
      refine (valueWith_inv h).ordered fun item hi => ?_
      cases hi
  | depth + 1, _, _, h => by
      refine (valueWith_inv h).ordered fun item hi bs t ht => ?_
      cases hi
      exact value_ordered depth ht

theorem runScan_inv {scan : Scan α} {text : Bytes} {a : α} (h : runScan scan text = .ok a) :
    ∃ t, scan text = .ok t ∧ t.value = a := by
  rw [runScan] at h
  cases ht : scan text with
  | error e => simp [ht, Except.bind] at h
  | ok t =>
      refine ⟨t, rfl, ?_⟩
      simp only [ht, Except.bind, finish] at h
      split at h
      next b hb =>
        cases h
        split at hb
        · cases hb
          rfl
        · cases hb
      · cases h

/-- A document that is read is in order. -/
theorem ordered_of_readBytes {text : Bytes} {v : Json} (h : readBytes text = .ok v) :
    v.Ordered := by
  obtain ⟨t, ht, rfl⟩ := runScan_inv h
  exact value_ordered depthLimit ht

end SqlGateway.Json
