import Mathlib.Algebra.Group.Int.Defs
import Mathlib.Data.List.Forall2
import SqlGateway.Proofs.Json.Record

/-!
# What values say

A decoder takes some values and refuses the others.  A `Meaning` says the same without a
decoder: it relates a value to what the value says.  `Decoder.Reads` ties the two, for values in
order: the decoder takes exactly the values that say something, and gives what they say.

Scalars, lists, and values that may be `null` are read in this sense (`reads_text`,
`Decoder.Reads.list`, `Decoder.Reads.nullable` and others).

The members of a record come from an object, or from a list of their values in the order of the
declaration.  `Offers` puts both in one form, so a record is decoded from a value exactly if the
value offers members from which it is looked up (`RecordShape.decoder_eq_ok_iff`).  A member says
something (`Has`), or it may be absent and stands for a default (`HasOr`).  If only the values
that are taken matter, and not what they say, a member must be there (`Needs`) or may be
(`Allows`).
-/

namespace SqlGateway.Json

variable {α σ : Type}

/-- A relation between a value and what it says. -/
abbrev Meaning (α : Type) := Json → α → Prop

/-- The value is an integer of that range. -/
def IsIntegerWithin (low high : Int) (v : Json) : Prop :=
  ∃ n : Integer, v = .int n ∧ low ≤ n.val ∧ n.val ≤ high

namespace Meaning

/-- A string says itself. -/
def text : Meaning String := fun v s => v = .string s

/-- A truth value says itself. -/
def flag : Meaning Bool := fun v b => v = .bool b

/-- An integer says itself. -/
def integer : Meaning Int := fun v n => ∃ i : Integer, v = .int i ∧ i.val = n

/-- An integer says the signed word that is equal to it. -/
def int64 : Meaning Int64 := fun v n => integer v n.toInt

/-- An integer says the unsigned word that is equal to it. -/
def uint64 : Meaning UInt64 := fun v n => integer v n.toNat

/-- An object says its members. -/
def members : Meaning Members := fun v ms => v = .object ms

/-- Any value says itself. -/
def any : Meaning Json := fun v w => v = w

/-- Nothing is said by `null`, and something by other values. -/
def nullable (m : Meaning α) : Meaning (Option α) := fun v o =>
  (v = .null ∧ o = none) ∨ ∃ a, o = some a ∧ m v a

/-- A list says what its items say, in order. -/
def list (m : Meaning α) : Meaning (List α) := fun v as =>
  ∃ vs, v = .array vs ∧ List.Forall₂ m vs as

/-- The value says something. -/
def Fits (m : Meaning α) (v : Json) : Prop := ∃ a, m v a

variable {m : Meaning α} {v : Json}

theorem fits_int64 : int64.Fits v ↔ v.IsIntegerWithin (-2 ^ 63) (2 ^ 63 - 1) := by
  constructor
  · rintro ⟨n, i, rfl, same⟩
    have lower := n.le_toInt
    have upper := n.toInt_lt
    exact ⟨i, rfl, by omega, by omega⟩
  · rintro ⟨i, rfl, lower, upper⟩
    exact ⟨.ofInt i.val, i, rfl, (Int64.toInt_ofInt_of_le lower (by omega)).symm⟩

theorem fits_uint64 : uint64.Fits v ↔ v.IsIntegerWithin 0 (2 ^ 64 - 1) := by
  constructor
  · rintro ⟨n, i, rfl, same⟩
    have upper := n.toNat_lt
    exact ⟨i, rfl, by omega, by omega⟩
  · rintro ⟨i, rfl, lower, upper⟩
    have small : i.val.toNat < 2 ^ 64 := by omega
    refine ⟨.ofNat i.val.toNat, i, rfl, ?_⟩
    rw [UInt64.toNat_ofNat_of_lt' small, Int.toNat_of_nonneg lower]

theorem fits_nullable : m.nullable.Fits v ↔ v = .null ∨ m.Fits v := by
  constructor
  · rintro ⟨o, ⟨null, -⟩ | ⟨a, -, said⟩⟩
    · exact Or.inl null
    · exact Or.inr ⟨a, said⟩
  · rintro (null | ⟨a, said⟩)
    · exact ⟨none, Or.inl ⟨null, rfl⟩⟩
    · exact ⟨some a, Or.inr ⟨a, rfl, said⟩⟩

/-- Items say something together if each does. -/
theorem exists_items_iff {vs : List Json} :
    (∃ as, List.Forall₂ m vs as) ↔ ∀ w ∈ vs, m.Fits w := by
  induction vs with
  | nil => simp
  | cons v vs ih =>
      rw [List.forall_mem_cons, ← ih]
      constructor
      · rintro ⟨as, items⟩
        cases items with
        | cons here later => exact ⟨⟨_, here⟩, _, later⟩
      · rintro ⟨⟨a, here⟩, as, later⟩
        exact ⟨a :: as, .cons here later⟩

theorem fits_list : m.list.Fits v ↔ ∃ vs, v = .array vs ∧ ∀ w ∈ vs, m.Fits w := by
  constructor
  · rintro ⟨as, vs, rfl, items⟩
    exact ⟨vs, rfl, exists_items_iff.mp ⟨as, items⟩⟩
  · rintro ⟨vs, rfl, fit⟩
    obtain ⟨as, items⟩ := exists_items_iff.mpr fit
    exact ⟨as, vs, rfl, items⟩

end Meaning

/-! ## Decoders -/

/-- A decoder takes exactly the values in order that say something, and gives what they say. -/
def Decoder.Reads (d : Decoder α) (m : Meaning α) : Prop :=
  ∀ ⦃v : Json⦄, v.Ordered → ∀ a, d.ofJson v = .ok a ↔ m v a

section Reads

variable {d : Decoder α} {m : Meaning α}

/-- What is read says one thing at most. -/
theorem Decoder.Reads.unique {v : Json} {a b : α} (reads : d.Reads m) (ordered : v.Ordered)
    (here : m v a) (there : m v b) : a = b :=
  Except.ok.inj (((reads ordered a).mpr here).symm.trans ((reads ordered b).mpr there))

theorem reads_text : Decoder.string.Reads .text := by
  intro v _ s
  cases v <;> simp [Decoder.string, Meaning.text]

theorem reads_flag : Decoder.bool.Reads .flag := fun _ _ _ => Decoder.bool_eq_ok

theorem reads_members : Decoder.object.Reads .members := by
  intro v _ ms
  cases v <;> simp [Decoder.object, Meaning.members]

/-- An integer is decoded if it fits. -/
theorem Decoder.integer_eq_ok {expected : String} {fit : Int → Option α} {v : Json} {a : α} :
    (Decoder.integer expected fit).ofJson v = .ok a ↔
      ∃ i : Integer, v = .int i ∧ fit i.val = some a := by
  constructor
  · intro h
    match v, h with
    | .number (.integer i), h =>
        refine ⟨i, rfl, ?_⟩
        simp only [Decoder.integer, Decoder.number] at h
        split at h
        next found =>
          cases h
          exact found
        next => cases h
  · rintro ⟨i, rfl, fits⟩
    exact Decoder.integer_int fits

theorem reads_int64 : Decoder.int64.Reads .int64 := by
  intro v _ n
  rw [Decoder.int64, Decoder.integer_eq_ok]
  refine exists_congr fun i => and_congr_right fun _ => ?_
  have lower := n.le_toInt
  have upper := n.toInt_lt
  constructor
  · intro h
    split at h
    next fits =>
      cases h
      exact (Int64.toInt_ofInt_of_le fits.1 (by omega)).symm
    next => cases h
  · intro same
    rw [if_pos (by omega), same, Int64.ofInt_toInt]

theorem reads_uint64 : Decoder.uint64.Reads .uint64 := by
  intro v _ n
  rw [Decoder.uint64, Decoder.integer_eq_ok]
  refine exists_congr fun i => and_congr_right fun _ => ?_
  have upper := n.toNat_lt
  constructor
  · intro h
    split at h
    next fits =>
      cases h
      have small : i.val.toNat < 2 ^ 64 := by omega
      rw [UInt64.toNat_ofNat_of_lt' small, Int.toNat_of_nonneg fits.1]
    next => cases h
  · intro same
    rw [if_pos (by omega), same, Int.toNat_natCast, UInt64.ofNat_toNat]

theorem Decoder.Reads.nullable (reads : d.Reads m) (notNull : ∀ a, ¬ m .null a) :
    d.option.Reads m.nullable := by
  intro v ordered o
  by_cases null : v = .null
  · subst null
    simp [Decoder.option, Meaning.nullable, notNull, eq_comm]
  · rw [Decoder.option_of_ne_null null, exceptMap_eq_ok]
    simp [Meaning.nullable, null, reads ordered, and_comm, eq_comm]

/-- Items are decoded one by one. -/
theorem Decoder.itemsOfJson_eq_ok : ∀ {vs : List Json} {as : List α},
    itemsOfJson d vs = .ok as ↔ List.Forall₂ (fun v a => d.ofJson v = .ok a) vs as
  | [], as => by
      rw [itemsOfJson, List.forall₂_nil_left_iff]
      simp [eq_comm]
  | v :: vs, as => by
      rw [List.forall₂_cons_left_iff]
      cases decoded : d.ofJson v with
      | error e => simp [itemsOfJson, decoded]
      | ok a =>
          simp only [itemsOfJson, decoded, exceptMap_eq_ok, itemsOfJson_eq_ok, Except.ok.injEq]
          constructor
          · rintro ⟨rest, items, rfl⟩
            exact ⟨a, rest, rfl, items, rfl⟩
          · rintro ⟨b, rest, rfl, items, rfl⟩
            exact ⟨rest, items, rfl⟩

theorem Decoder.Reads.list (reads : d.Reads m) : (Decoder.list d).Reads m.list := by
  intro v ordered as
  cases v with
  | array vs =>
      have each : ∀ w ∈ vs, w.Ordered := (orderedItems_iff vs).mp ordered
      have items : itemsOfJson d vs = .ok as ↔ List.Forall₂ m vs as := by
        rw [Decoder.itemsOfJson_eq_ok]
        constructor
        · intro h
          refine List.Forall₂.imp ?_ ((List.forall₂_and_left _ _).mpr ⟨each, h⟩)
          exact fun w a ⟨ordered, decoded⟩ => (reads ordered a).mp decoded
        · intro h
          refine List.Forall₂.imp ?_ ((List.forall₂_and_left _ _).mpr ⟨each, h⟩)
          exact fun w a ⟨ordered, said⟩ => (reads ordered a).mpr said
      simpa [Decoder.list, Meaning.list] using items
  | _ => simp [Decoder.list, Meaning.list]

end Reads

/-! ## Records -/

/-- The members that a value offers a record with those names: the members of an object, or the
items of a list, which are named in order.  The list has at least so many items and no more
than there are names. -/
inductive Offers (names : List String) (least : Nat) : Json → Members → Prop where
  /-- The members of an object. -/
  | object {ms : Members} : Offers names least (.object ms) ms
  /-- The items of a list. -/
  | array {vs : List Json} (enough : least ≤ vs.length) (fits : vs.length ≤ names.length) :
      Offers names least (.array vs) (names.zip vs)

/-- The member of a name is there and says `a`. -/
def Has (ms : Members) (name : String) (m : Meaning α) (a : α) : Prop :=
  ∃ v, Members.get? ms name = some v ∧ m v a

/-- The member of a name says `a`, or it is absent and `a` is the default. -/
def HasOr (default : α) (ms : Members) (name : String) (m : Meaning α) (a : α) : Prop :=
  Has ms name m a ∨ (Members.get? ms name = none ∧ a = default)

/-- The member of a name is there and is such a value. -/
def Needs (ms : Members) (name : String) (P : Json → Prop) : Prop :=
  ∃ v, Members.get? ms name = some v ∧ P v

/-- The member of a name is such a value, or it is absent. -/
def Allows (ms : Members) (name : String) (P : Json → Prop) : Prop :=
  ∀ v, Members.get? ms name = some v → P v

section Records

variable {names : List String} {least : Nat} {ms : Members} {name k : String} {m : Meaning α}
  {v : Json} {vs : List Json}

theorem exists_has_iff : (∃ a, Has ms name m a) ↔ Needs ms name m.Fits := by
  constructor
  · rintro ⟨a, v, found, said⟩
    exact ⟨v, found, a, said⟩
  · rintro ⟨v, found, a, said⟩
    exact ⟨a, v, found, said⟩

theorem exists_hasOr_iff {default : α} :
    (∃ a, HasOr default ms name m a) ↔ Allows ms name m.Fits := by
  cases found : Members.get? ms name with
  | none => simp [HasOr, Has, Allows, found]
  | some v => simp [HasOr, Has, Allows, found, Meaning.Fits]

/-- An item of a list is there if the list is long enough. -/
theorem idxOf_lt_of_get?_zip : ∀ {names : List String} {vs : List Json},
    Members.get? (names.zip vs) k = some v → names.idxOf k < vs.length
  | [], _, h => by cases h
  | _ :: _, [], h => by cases h
  | n :: names, w :: vs, h => by
      rw [List.zip_cons_cons, Members.get?] at h
      by_cases here : n = k
      · simp [here]
      · rw [if_neg here] at h
        rw [List.idxOf_cons_ne _ here, List.length_cons]
        exact Nat.succ_lt_succ (idxOf_lt_of_get?_zip h)

/-- The values of the members are in order. -/
theorem Offers.ordered (offers : Offers names least v ms) (ordered : v.Ordered) :
    ∀ m ∈ ms, m.2.Ordered := by
  cases offers with
  | object => exact (orderedMembers_iff _).mp ordered.2
  | array enough fits =>
      intro m hm
      exact (orderedItems_iff _).mp ordered m.2 (List.of_mem_zip hm).2

/-- A value that is found among members in order is in order. -/
theorem ordered_of_get? (ordered : ∀ m ∈ ms, m.2.Ordered) (found : Members.get? ms k = some v) :
    v.Ordered := by
  induction ms with
  | nil => cases found
  | cons entry ms ih =>
      obtain ⟨here, later⟩ := List.forall_mem_cons.mp ordered
      rw [Members.get?] at found
      split at found
      · cases found
        exact here
      · exact ih later found

/-- What is looked up has every member that must be there. -/
theorem exists_get?_of_lookUp {described : List (Member σ)} {n : Member σ} {s s' : σ}
    (looked : lookUp ms described s = .ok s') (mem : n ∈ described) (required : n.required = true) :
    ∃ v, Members.get? ms n.name = some v := by
  induction described generalizing s with
  | nil => cases mem
  | cons m described ih =>
      rcases List.mem_cons.mp mem with rfl | later
      · rcases lookUp_cons_eq_ok.mp looked with ⟨-, optional, -⟩ | ⟨v, -, found, -⟩
        · rw [required] at optional
          cases optional
        · exact ⟨v, found⟩
      · rcases lookUp_cons_eq_ok.mp looked with ⟨-, -, rest⟩ | ⟨v, f, -, -, rest⟩
        · exact ih rest later
        · exact ih rest later

/-- Where no member is described the record stays as it is. -/
theorem lookUp_no_members {s s' : σ} : lookUp ms [] s = .ok s' ↔ s = s' := by
  rw [lookUp, Except.ok.injEq]

/-- A member that must be there is looked up if it says something. -/
theorem lookUp_needed {d : Decoder α} {set : α → σ → σ} {described : List (Member σ)} {s s' : σ}
    (reads : d.Reads m) (ordered : ∀ m ∈ ms, m.2.Ordered) :
    lookUp ms (.needed name d set :: described) s = .ok s' ↔
      ∃ a, Has ms name m a ∧ lookUp ms described (set a s) = .ok s' := by
  simp only [lookUp_cons_eq_ok, Member.needed, Bool.true_eq_false, false_and, and_false, false_or]
  constructor
  · rintro ⟨v, f, found, decoded, rest⟩
    obtain ⟨a, taken, rfl⟩ := exceptMap_eq_ok.mp decoded
    exact ⟨a, ⟨v, found, (reads (ordered_of_get? ordered found) a).mp taken⟩, rest⟩
  · rintro ⟨a, ⟨v, found, said⟩, rest⟩
    have decoded := (reads (ordered_of_get? ordered found) a).mpr said
    exact ⟨v, set a, found, exceptMap_eq_ok.mpr ⟨a, decoded, rfl⟩, rest⟩

/-- A member that may be absent is looked up if it says something or is absent.  The record
starts out with its default. -/
theorem lookUp_optional {d : Decoder α} {set : α → σ → σ} {described : List (Member σ)}
    {s s' : σ} (default : α) (reads : d.Reads m) (ordered : ∀ m ∈ ms, m.2.Ordered)
    (unset : set default s = s) :
    lookUp ms (.optional name d set :: described) s = .ok s' ↔
      ∃ a, HasOr default ms name m a ∧ lookUp ms described (set a s) = .ok s' := by
  simp only [lookUp_cons_eq_ok, Member.optional, true_and]
  constructor
  · rintro (⟨absent, rest⟩ | ⟨v, f, found, decoded, rest⟩)
    · exact ⟨default, Or.inr ⟨absent, rfl⟩, unset.symm ▸ rest⟩
    · obtain ⟨a, taken, rfl⟩ := exceptMap_eq_ok.mp decoded
      exact ⟨a, Or.inl ⟨v, found, (reads (ordered_of_get? ordered found) a).mp taken⟩, rest⟩
  · rintro ⟨a, ⟨v, found, said⟩ | ⟨absent, rfl⟩, rest⟩
    · have decoded := (reads (ordered_of_get? ordered found) a).mpr said
      exact Or.inr ⟨v, set a, found, exceptMap_eq_ok.mpr ⟨a, decoded, rfl⟩, rest⟩
    · exact Or.inl ⟨absent, unset ▸ rest⟩

end Records

namespace RecordShape

variable {r : RecordShape σ} {described : List (Member σ)} {v : Json} {vs : List Json} {s s' : σ}

/-- The items of a list are read as if they were looked up by the names of the members. -/
theorem ofItems_eq_ok_iff {length index : Nat} (nodup : (described.map (·.name)).Nodup) :
    r.ofItems length index s described vs = .ok s' ↔
      vs.length ≤ described.length ∧
        lookUp ((described.map (·.name)).zip vs) described s = .ok s' := by
  induction described generalizing index s vs with
  | nil => cases vs <;> simp [ofItems, lookUp]
  | cons m described ih =>
      obtain ⟨new, nodup⟩ := List.nodup_cons.mp nodup
      cases vs with
      | nil =>
          simp only [ofItems, List.zip_nil_right, lookUp_nil, List.forall_mem_cons]
          cases required : m.required with
          | true => simp
          | false => simp [ih nodup, lookUp_nil]
      | cons v vs =>
          have others : ∀ n ∈ described, n.name ≠ m.name := fun n hn same =>
            new (List.mem_map.mpr ⟨n, hn, same⟩)
          simp only [ofItems_cons_eq_ok, ih nodup, List.map_cons, List.zip_cons_cons,
            lookUp_cons_eq_ok, Members.get?, if_true, lookUp_cons_of_notMem others,
            List.length_cons, Nat.add_le_add_iff_right, reduceCtorEq, false_and, false_or,
            Option.some.injEq, exists_and_left, exists_eq_left']
          constructor
          · rintro ⟨f, decoded, fits, rest⟩
            exact ⟨fits, f, decoded, rest⟩
          · rintro ⟨fits, f, decoded, rest⟩
            exact ⟨f, decoded, fits, rest⟩

/-- A record is decoded from the members that a value offers.  A list is long enough if it has the
last member that must be there. -/
theorem decoder_eq_ok_iff (names : List String) (least : Nat) (separated : r.Separated)
    (lenient : r.strict = false) (named : r.members.map (·.name) = names)
    (needed : ∃ m ∈ r.members, m.required = true ∧ least ≤ names.idxOf m.name + 1)
    (ordered : v.Ordered) :
    r.decoder.ofJson v = .ok s ↔
      ∃ ms, Offers names least v ms ∧ lookUp ms r.members r.blank = .ok s := by
  subst named
  cases v with
  | object ms =>
      rw [decode_object_iff separated lenient ordered.1.nodup]
      constructor
      · intro h
        exact ⟨ms, .object, h⟩
      · rintro ⟨_, ⟨⟩, h⟩
        exact h
  | array vs =>
      have decoded : r.decoder.ofJson (.array vs) = .ok s ↔ _ := ofItems_eq_ok_iff separated.nodup
      rw [decoded]
      constructor
      · rintro ⟨fits, looked⟩
        obtain ⟨m, described, required, last⟩ := needed
        obtain ⟨w, found⟩ := exists_get?_of_lookUp looked described required
        have enough : least ≤ vs.length := last.trans (idxOf_lt_of_get?_zip found)
        exact ⟨_, .array enough (by rwa [List.length_map]), looked⟩
      · rintro ⟨ms, offers, looked⟩
        cases offers with
        | array enough fits => exact ⟨by rwa [List.length_map] at fits, looked⟩
  | _ =>
      constructor
      · nofun
      · rintro ⟨_, ⟨⟩, _⟩

end RecordShape

end SqlGateway.Json
