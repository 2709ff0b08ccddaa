import Mathlib.Data.List.Induction
import SqlGateway.Proofs.CommandLine.Reading

/-!
# What items say together

What items say of a setting is a list of values, and of a switch a number of times (`values`,
`times`).  Items may be said together on a level if they say nothing twice and nothing that
cannot be read (`Acceptable`), and then they give what the lists and numbers tell, whatever
their order (`foldlM_add_eq_ok_iff`).
-/

namespace SqlGateway.CommandLine

/-! ## What items say -/

/-- The value that an item gives to a setting, if it gives it one. -/
def Item.value? (s : Setting) : Item → Option String
  | .setting t text => if t = s then some text else none
  | _ => none

/-- The text of an operand. -/
def Item.operand? : Item → Option String
  | .operand text => some text
  | _ => none

/-- The values that items give to a setting. -/
def values (s : Setting) (items : List Item) : List String := items.filterMap (Item.value? s)

/-- How many times items turn a switch on. -/
def times (o : Switch) (items : List Item) : Nat := items.count (.switch o)

/-- The operands among items. -/
def operands (items : List Item) : List String := items.filterMap Item.operand?

/-- A text that can be read as a value of a setting. -/
def Setting.Admits : Setting → String → Prop
  | .backend, text => ∃ b, Backend.read text = .ok b
  | .timeout, text => ∃ n, Numeral.read UInt64.size text.toList = .ok n
  | _, _ => True

/-- Items that may be said together on a level. -/
structure Acceptable (items : List Item) : Prop where
  /-- A setting is given once. -/
  values_le : ∀ s, (values s items).length ≤ 1
  /-- Every value can be read. -/
  admits : ∀ s, ∀ text ∈ values s items, s.Admits text
  /-- A switch is turned on once, if not to tell more. -/
  times_le : ∀ o, o ≠ .verbose → times o items ≤ 1
  /-- No explanation is asked for, and no version. -/
  runs : times .help items = 0 ∧ times .version items = 0
  /-- There is one operand at most. -/
  operands_le : (operands items).length ≤ 1

/-- An item that may be said behind others. -/
def Item.Fits (items : List Item) : Item → Prop
  | .setting s text => values s items = [] ∧ s.Admits text
  | .switch .verbose => True
  | .switch .help => False
  | .switch .version => False
  | .switch o => times o items = 0
  | .operand _ => operands items = []

/-- What acceptable items give, whatever their order. -/
def Given.ofItems (items : List Item) : Given where
  backend := (values .backend items).head?.bind fun text => (Backend.read text).toOption
  endpoint := (values .endpoint items).head?
  apiKey := (values .apiKey items).head?
  apiSecret := (values .apiSecret items).head?
  token := (values .token items).head?
  timeout := (values .timeout items).head?.bind fun text =>
    (Numeral.read UInt64.size text.toList).toOption
  source := (values .source items).head?
  destination := (values .destination items).head?
  verbose := min 255 (times .verbose items)
  quiet := decide (0 < times .quiet items)
  promptSecret := decide (0 < times .promptSecret items)
  operand := (operands items).head?

variable {s : Setting} {x : Item} {items : List Item} {g : Given} {text : String}

/-! ### Items one behind another -/

@[simp] theorem values_append (s : Setting) (left right : List Item) :
    values s (left ++ right) = values s left ++ values s right := List.filterMap_append

@[simp] theorem times_append (o : Switch) (left right : List Item) :
    times o (left ++ right) = times o left + times o right := List.count_append

@[simp] theorem operands_append (left right : List Item) :
    operands (left ++ right) = operands left ++ operands right := List.filterMap_append

@[simp] theorem values_setting (s t : Setting) (text : String) :
    values s [.setting t text] = if t = s then [text] else [] := by
  by_cases same : t = s <;> simp [values, Item.value?, same]

@[simp] theorem values_switch (s : Setting) (o : Switch) : values s [.switch o] = [] := rfl

@[simp] theorem values_operand (s : Setting) (text : String) : values s [.operand text] = [] := rfl

@[simp] theorem times_setting (o : Switch) (s : Setting) (text : String) :
    times o [.setting s text] = 0 := by
  simp [times]

@[simp] theorem times_switch (o p : Switch) : times o [.switch p] = if p = o then 1 else 0 := by
  by_cases same : p = o <;> simp [times, same]

@[simp] theorem times_operand (o : Switch) (text : String) : times o [.operand text] = 0 := by
  simp [times]

@[simp] theorem operands_setting (s : Setting) (text : String) :
    operands [.setting s text] = [] := rfl

@[simp] theorem operands_switch (o : Switch) : operands [.switch o] = [] := rfl

@[simp] theorem operands_operand (text : String) : operands [.operand text] = [text] := rfl

/-- The items before the last of acceptable ones are acceptable. -/
theorem Acceptable.of_concat (acceptable : Acceptable (items ++ [x])) : Acceptable items where
  values_le s := by
    have le := acceptable.values_le s
    rw [values_append, List.length_append] at le
    omega
  admits s text mem := acceptable.admits s text (by simp [mem])
  times_le o other := by
    have le := acceptable.times_le o other
    rw [times_append] at le
    omega
  runs := by
    have runs := acceptable.runs
    rw [times_append, times_append] at runs
    omega
  operands_le := by
    have le := acceptable.operands_le
    rw [operands_append, List.length_append] at le
    omega

/-- The last of acceptable items fits behind the others. -/
theorem Acceptable.fits (acceptable : Acceptable (items ++ [x])) : x.Fits items := by
  cases x with
  | setting t text =>
      have le := acceptable.values_le t
      refine ⟨?_, acceptable.admits t text (by simp)⟩
      simpa using le
  | operand text =>
      have le := acceptable.operands_le
      simpa [Item.Fits] using le
  | switch p =>
      have runs := acceptable.runs
      have le := acceptable.times_le p
      cases p <;> simp_all [Item.Fits]

/-- An item that fits may be said behind acceptable ones. -/
theorem Acceptable.concat (acceptable : Acceptable items) (fits : x.Fits items) :
    Acceptable (items ++ [x]) := by
  obtain ⟨values_le, admits, times_le, runs, operands_le⟩ := acceptable
  cases x with
  | setting t text =>
      obtain ⟨free, readable⟩ := fits
      refine ⟨fun s => ?_, fun s text' mem => ?_, by simpa using times_le, by simpa using runs,
        by simpa using operands_le⟩
      · by_cases same : t = s
        · simp [← same, free]
        · simpa [same] using values_le s
      · by_cases same : t = s
        · obtain rfl : text' = text := by simpa [← same, free] using mem
          exact same ▸ readable
        · exact admits s text' (by simpa [same] using mem)
  | operand text =>
      have free : operands items = [] := fits
      exact ⟨by simpa using values_le, by simpa using admits, by simpa using times_le,
        by simpa using runs, by simp [free]⟩
  | switch p =>
      refine ⟨by simpa using values_le, by simpa using admits, fun o other => ?_, ?_,
        by simpa using operands_le⟩
      · have le := times_le o other
        cases p <;> cases o <;> simp_all [Item.Fits]
      · cases p <;> simp_all [Item.Fits]

theorem acceptable_concat_iff :
    Acceptable (items ++ [x]) ↔ Acceptable items ∧ x.Fits items :=
  ⟨fun acceptable => ⟨acceptable.of_concat, acceptable.fits⟩,
    fun ⟨acceptable, fits⟩ => acceptable.concat fits⟩

/-! ### Adding an item -/

theorem fill_eq_ok_iff {α : Type} {old new : Option α} {value : Except String α} :
    Given.fill s old value = .ok new ↔ old = none ∧ ∃ a, value = .ok a ∧ new = some a := by
  cases old <;> cases value <;> simp [Given.fill, eq_comm]

/-- Where the first text is read, there is no value only if there is no text. -/
theorem eq_nil_of_bind_toOption {α ε : Type} {read : String → Except ε α} {texts : List String}
    (readable : ∀ text ∈ texts, ∃ a, read text = .ok a)
    (none : (texts.head?.bind fun text => (read text).toOption) = none) : texts = [] := by
  cases texts with
  | nil => rfl
  | cons text texts =>
      obtain ⟨a, eq⟩ := readable text List.mem_cons_self
      simp [eq, Except.toOption] at none

theorem set_ofItems (free : values s items = []) (admits : s.Admits text) :
    (Given.ofItems items).set s text = .ok (.ofItems (items ++ [.setting s text])) := by
  cases s with
  | backend =>
      obtain ⟨b, read⟩ := admits
      simp [Given.set, Given.ofItems, Given.fill, free, read, Except.map, Except.toOption]
  | timeout =>
      obtain ⟨n, read⟩ := admits
      simp [Given.set, Given.ofItems, Given.fill, free, read, Except.map, Except.toOption]
  | endpoint | apiKey | apiSecret | token | source | destination =>
      simp [Given.set, Given.ofItems, Given.fill, free, Except.map]

theorem of_set_ofItems (acceptable : Acceptable items)
    (set : (Given.ofItems items).set s text = .ok g) : values s items = [] ∧ s.Admits text := by
  cases s with
  | backend | timeout =>
      obtain ⟨_, filled, -⟩ := exceptMap_eq_ok.mp set
      obtain ⟨lacks, a, read, -⟩ := fill_eq_ok_iff.mp filled
      exact ⟨eq_nil_of_bind_toOption (acceptable.admits _) lacks, a, mapError_eq_ok.mp read⟩
  | endpoint | apiKey | apiSecret | token | source | destination =>
      obtain ⟨_, filled, -⟩ := exceptMap_eq_ok.mp set
      obtain ⟨lacks, -⟩ := fill_eq_ok_iff.mp filled
      exact ⟨List.head?_eq_none_iff.mp lacks, trivial⟩

theorem ofItems_verbose : Given.ofItems (items ++ [.switch .verbose]) =
    { Given.ofItems items with verbose := min 255 ((Given.ofItems items).verbose + 1) } := by
  have verbose : min 255 (times .verbose items + 1) =
      min 255 (min 255 (times .verbose items) + 1) := by omega
  simp [Given.ofItems, verbose]

theorem ofItems_quiet : Given.ofItems (items ++ [.switch .quiet]) =
    { Given.ofItems items with quiet := true } := by
  simp [Given.ofItems]

theorem ofItems_promptSecret : Given.ofItems (items ++ [.switch .promptSecret]) =
    { Given.ofItems items with promptSecret := true } := by
  simp [Given.ofItems]

/-- An item may be added to acceptable ones exactly if it fits behind them. -/
theorem add_ofItems_eq_ok_iff (acceptable : Acceptable items) :
    (Given.ofItems items).add x = .ok g ↔ x.Fits items ∧ g = .ofItems (items ++ [x]) := by
  cases x with
  | setting s text =>
      constructor
      · intro set
        obtain ⟨free, admits⟩ := of_set_ofItems acceptable set
        exact ⟨⟨free, admits⟩, Except.ok.inj (set.symm.trans (set_ofItems free admits))⟩
      · rintro ⟨⟨free, admits⟩, rfl⟩
        exact set_ofItems free admits
  | operand text =>
      cases free : operands items with
      | nil => simp [Given.add, Given.ofItems, Item.Fits, free, eq_comm]
      | cons _ _ => simp [Given.add, Given.ofItems, Item.Fits, free]
  | switch o =>
      cases o with
      | help | version =>
          constructor
          · rintro ⟨⟩
          · exact fun fits => fits.1.elim
      | verbose => simp [Given.add, Given.turnOn, ofItems_verbose, Item.Fits, @eq_comm _ g]
      | quiet =>
          rw [Given.add, Given.turnOn, ofItems_quiet]
          by_cases free : times .quiet items = 0
          · simp [Given.ofItems, Item.Fits, free, @eq_comm _ g]
          · simp [Given.ofItems, Item.Fits, free, Nat.pos_of_ne_zero free]
      | promptSecret =>
          rw [Given.add, Given.turnOn, ofItems_promptSecret]
          by_cases free : times .promptSecret items = 0
          · simp [Given.ofItems, Item.Fits, free, @eq_comm _ g]
          · simp [Given.ofItems, Item.Fits, free, Nat.pos_of_ne_zero free]

/-- Items may be said together exactly if they are acceptable. -/
theorem foldlM_add_eq_ok_iff :
    items.foldlM Given.add {} = .ok g ↔ Acceptable items ∧ g = .ofItems items := by
  -- What is given tells only what the items before the last one say, so the last one is taken
  -- off first.
  induction items using List.reverseRecOn generalizing g with
  | nil =>
      constructor
      · rintro ⟨⟩
        exact ⟨⟨by simp [values], by simp [values], by simp [times], by simp [times],
          by simp [operands]⟩, rfl⟩
      · rintro ⟨-, rfl⟩
        rfl
  | append_singleton items x ih =>
      rw [List.foldlM_append, bind_eq_ok, acceptable_concat_iff]
      constructor
      · rintro ⟨g₀, before, last⟩
        obtain ⟨acceptable, rfl⟩ := ih.mp before
        obtain ⟨g₁, added, same⟩ := bind_eq_ok.mp last
        cases same
        obtain ⟨fits, rfl⟩ := (add_ofItems_eq_ok_iff acceptable).mp added
        exact ⟨⟨acceptable, fits⟩, rfl⟩
      · rintro ⟨⟨acceptable, fits⟩, rfl⟩
        have added := (add_ofItems_eq_ok_iff acceptable).mpr ⟨fits, rfl⟩
        exact ⟨_, ih.mpr ⟨acceptable, rfl⟩, bind_eq_ok.mpr ⟨_, added, rfl⟩⟩

end SqlGateway.CommandLine
