import Mathlib.Data.List.Nodup
import Mathlib.Data.String.Basic
import SqlGateway.Json.Value

/-!
# Members in order

`Members.insert` keeps members in increasing order of names (`Increasing.insert`), and the
members that `Members.ofList` collects are in that order (`increasing_ofList`) and among those
that were there (`subset_ofList`).  Where no name repeats, collecting loses nothing: the result
is a permutation of what was there (`perm_ofList`), every name is looked up as before
(`get?_ofList`), and members already in order stay as they are (`ofList_eq_self`).

So `Json.sorted` gives a value in order (`ordered_sorted`) and leaves one alone that is in order
already (`sorted_eq_self`).
-/

namespace SqlGateway

namespace Members

variable {ms ns : Members} {name k : String} {value v : Json}

/-! ## Names -/

/-- The names of members, first to last. -/
def names (ms : Members) : List String := ms.map Prod.fst

@[simp] theorem names_nil : names [] = [] := rfl

@[simp] theorem names_cons (m : String × Json) (ms : Members) :
    names (m :: ms) = m.1 :: names ms := rfl

@[simp] theorem names_append (ms ns : Members) : names (ms ++ ns) = names ms ++ names ns :=
  List.map_append

theorem mem_names_of_mem (h : (k, v) ∈ ms) : k ∈ names ms := List.mem_map_of_mem h

theorem increasing_cons_iff :
    Increasing ((k, v) :: ms) ↔ (∀ n ∈ names ms, k < n) ∧ Increasing ms :=
  List.pairwise_cons

theorem Increasing.nodup (h : Increasing ms) : (names ms).Nodup :=
  List.Pairwise.imp ne_of_lt h

/-! ## Insertion -/

theorem mem_of_mem_insert : ∀ {ms : Members}, ∀ m ∈ insert name value ms,
    m = (name, value) ∨ m ∈ ms
  | [], m, h => Or.inl (List.mem_singleton.mp h)
  | (k, v) :: ms, m, h => by
      rw [insert] at h
      split at h
      · exact List.mem_cons.mp h
      · split at h
        · exact (List.mem_cons.mp h).imp_right (List.mem_cons_of_mem _)
        · rcases List.mem_cons.mp h with first | rest
          · exact Or.inr (first ▸ List.mem_cons_self ..)
          · exact (mem_of_mem_insert m rest).imp_right (List.mem_cons_of_mem _)

theorem names_insert_subset {n : String} (h : n ∈ names (insert name value ms)) :
    n = name ∨ n ∈ names ms := by
  obtain ⟨m, hm, rfl⟩ := List.mem_map.mp h
  rcases mem_of_mem_insert m hm with rfl | old
  · exact Or.inl rfl
  · exact Or.inr (List.mem_map_of_mem old)

/-- Insertion keeps members in increasing order of names. -/
theorem Increasing.insert : ∀ {ms : Members}, Increasing ms → Increasing (ms.insert name value)
  | [], _ => List.pairwise_singleton _ _
  | (k, v) :: ms, h => by
      obtain ⟨least, rest⟩ := increasing_cons_iff.mp h
      rw [Members.insert]
      split
      next before =>
        refine increasing_cons_iff.mpr ⟨?_, h⟩
        intro n hn
        rcases List.mem_cons.mp hn with first | later
        · exact first ▸ before
        · exact before.trans (least n later)
      next notBefore =>
        split
        next same =>
          subst same
          exact increasing_cons_iff.mpr ⟨least, rest⟩
        next other =>
          refine increasing_cons_iff.mpr ⟨?_, rest.insert⟩
          intro n hn
          rcases names_insert_subset hn with new | old
          · exact new ▸ lt_of_le_of_ne (not_lt.mp notBefore) (Ne.symm other)
          · exact least n old

/-- A member with a new name is added and nothing else changes. -/
theorem perm_insert : ∀ {ms : Members}, name ∉ names ms →
    (ms.insert name value).Perm ((name, value) :: ms)
  | [], _ => .refl _
  | (k, v) :: ms, new => by
      rw [names_cons, List.mem_cons, not_or] at new
      rw [Members.insert]
      split
      · exact .refl _
      · rw [if_neg new.1]
        exact ((perm_insert new.2).cons _).trans (.swap _ _ _)

/-- A member whose name is greater than all others comes last. -/
theorem insert_last : ∀ {ms : Members}, (∀ n ∈ names ms, n < name) →
    ms.insert name value = ms ++ [(name, value)]
  | [], _ => rfl
  | (k, v) :: ms, h => by
      have first : k < name := h k (List.mem_cons_self ..)
      rw [Members.insert, if_neg (not_lt_of_gt first), if_neg (ne_of_gt first), List.cons_append,
        insert_last fun n hn => h n (List.mem_cons_of_mem _ hn)]

/-! ## Collecting members -/

theorem increasing_foldl_insert (ms : Members) {acc : Members} (h : Increasing acc) :
    Increasing (ms.foldl (fun acc m => acc.insert m.1 m.2) acc) := by
  induction ms generalizing acc with
  | nil => exact h
  | cons m ms ih => exact ih h.insert

theorem increasing_ofList (ms : Members) : Increasing (ofList ms) :=
  increasing_foldl_insert ms .nil

theorem perm_foldl_insert (ms acc : Members) (h : (names (acc ++ ms)).Nodup) :
    (ms.foldl (fun acc m => acc.insert m.1 m.2) acc).Perm (acc ++ ms) := by
  induction ms generalizing acc with
  | nil => simp
  | cons m ms ih =>
      have inserted : (acc.insert m.1 m.2 ++ ms).Perm (acc ++ m :: ms) := by
        have new : m.1 ∉ names acc := by
          intro hm
          rw [names_append] at h
          exact (List.nodup_append.mp h).2.2 _ hm _ (List.mem_cons_self ..) rfl
        exact ((perm_insert new).append_right ms).trans List.perm_middle.symm
      exact (ih _ ((inserted.map Prod.fst).nodup_iff.mpr h)).trans inserted

theorem mem_foldl_insert (ms : Members) {acc : Members} {m : String × Json}
    (h : m ∈ ms.foldl (fun acc m => acc.insert m.1 m.2) acc) : m ∈ acc ∨ m ∈ ms := by
  induction ms generalizing acc with
  | nil => exact Or.inl h
  | cons n ms ih =>
      rcases ih h with inserted | later
      · exact (mem_of_mem_insert m inserted).elim
          (fun new => Or.inr (List.mem_cons.mpr (Or.inl new))) Or.inl
      · exact Or.inr (List.mem_cons_of_mem _ later)

/-- Nothing is collected but what was there. -/
theorem subset_ofList (ms : Members) : ofList ms ⊆ ms := fun _ h =>
  (mem_foldl_insert ms h).resolve_left (List.not_mem_nil)

/-- Where no name repeats, every member is collected. -/
theorem perm_ofList (h : (names ms).Nodup) : (ofList ms).Perm ms := perm_foldl_insert ms [] h

theorem foldl_insert_eq_append (ms acc : Members) (h : Increasing (acc ++ ms)) :
    ms.foldl (fun acc m => acc.insert m.1 m.2) acc = acc ++ ms := by
  induction ms generalizing acc with
  | nil => simp
  | cons m ms ih =>
      have last : acc.insert m.1 m.2 = acc ++ [m] := by
        refine insert_last fun n hn => ?_
        have h : (names acc ++ m.1 :: names ms).Pairwise (· < ·) := by
          simpa [Increasing, names] using h
        exact (List.pairwise_append.mp h).2.2 n hn _ (List.mem_cons_self ..)
      rw [List.foldl_cons, last, ih _ (by simpa using h)]
      simp

/-- Members in order stay as they are. -/
theorem ofList_eq_self (h : Increasing ms) : ofList ms = ms := foldl_insert_eq_append ms [] h

/-! ## Looking up names -/

theorem get?_eq_none_iff : get? ms k = none ↔ k ∉ names ms := by
  induction ms with
  | nil => simp [get?]
  | cons m ms ih =>
      by_cases h : m.1 = k
      · simp [get?, h]
      · simp [get?, h, ih, Ne.symm h]

/-- Where no name repeats, looking up a name finds its member. -/
theorem get?_eq_some_iff (h : (names ms).Nodup) : get? ms k = some v ↔ (k, v) ∈ ms := by
  induction ms with
  | nil => simp [get?]
  | cons m ms ih =>
      obtain ⟨new, rest⟩ := List.nodup_cons.mp h
      by_cases hk : m.1 = k
      · subst hk
        have absent : (m.1, v) ∉ ms := fun hm => new (mem_names_of_mem hm)
        simp [get?, absent, Prod.ext_iff, eq_comm]
      · have other : (k, v) ≠ m := fun he => hk (he ▸ rfl)
        simp [get?, hk, other, ih rest]

/-- Where no name repeats, a name has one value. -/
theorem eq_of_mem {w : Json} (h : (names ms).Nodup) (hv : (k, v) ∈ ms) (hw : (k, w) ∈ ms) :
    v = w := by
  rw [← get?_eq_some_iff h] at hv hw
  exact Option.some.inj (hv.symm.trans hw)

theorem get?_perm (h : (names ms).Nodup) (p : ms.Perm ns) (k : String) :
    get? ms k = get? ns k := by
  have h' : (names ns).Nodup := (p.map Prod.fst).nodup_iff.mp h
  ext v
  rw [get?_eq_some_iff h, get?_eq_some_iff h', p.mem_iff]

theorem get?_ofList (h : (names ms).Nodup) (k : String) : get? (ofList ms) k = get? ms k :=
  get?_perm ((increasing_ofList ms).nodup) (perm_ofList h) k

end Members

/-! ## Values in order -/

namespace Json

theorem sortedMembers_eq_map (ms : Members) :
    sortedMembers ms = ms.map fun m => (m.1, sorted m.2) := by
  induction ms with
  | nil => rfl
  | cons m ms ih => rw [sortedMembers, ih, List.map_cons]

theorem orderedItems_iff (vs : List Json) : OrderedItems vs ↔ ∀ v ∈ vs, Ordered v := by
  induction vs with
  | nil => simp [OrderedItems]
  | cons v vs ih => simp [OrderedItems, ih]

theorem orderedMembers_iff (ms : Members) : OrderedMembers ms ↔ ∀ m ∈ ms, Ordered m.2 := by
  induction ms with
  | nil => simp [OrderedMembers]
  | cons m ms ih => simp [OrderedMembers, ih]

/-- A member whose value is in order keeps an object in order. -/
theorem ordered_insert {ms : Members} {name : String} {value : Json}
    (ordered : (object ms).Ordered) (value_ordered : value.Ordered) :
    (object (ms.insert name value)).Ordered := by
  refine ⟨ordered.1.insert, (orderedMembers_iff _).mpr fun m hm => ?_⟩
  rcases Members.mem_of_mem_insert m hm with rfl | old
  · exact value_ordered
  · exact (orderedMembers_iff _).mp ordered.2 m old

theorem get?_sortedMembers (ms : Members) (k : String) :
    Members.get? (sortedMembers ms) k = (Members.get? ms k).map sorted := by
  induction ms with
  | nil => rfl
  | cons m ms ih =>
      by_cases h : m.1 = k
      · simp [sortedMembers, Members.get?, h]
      · simp [sortedMembers, Members.get?, h, ih]

/-- A name is looked up in an object in order as it was, and its value is in order. -/
theorem get?_ofList_sortedMembers {ms : Members} (h : (Members.names ms).Nodup) (k : String) :
    Members.get? (Members.ofList (sortedMembers ms)) k = (Members.get? ms k).map sorted := by
  have names : Members.names (sortedMembers ms) = Members.names ms := by
    rw [sortedMembers_eq_map]
    simp [Members.names]
  rw [Members.get?_ofList (names ▸ h), get?_sortedMembers]

mutual

/-- A value in order is its own sorted form. -/
theorem sorted_eq_self : ∀ {v : Json}, v.Ordered → v.sorted = v
  | .null, _ => rfl
  | .bool _, _ => rfl
  | .number _, _ => rfl
  | .string _, _ => rfl
  | .array vs, h => by rw [sorted, sortedItems_eq_self h]
  | .object ms, h => by rw [sorted, sortedMembers_eq_self h.2, Members.ofList_eq_self h.1]

theorem sortedItems_eq_self : ∀ {vs : List Json}, OrderedItems vs → sortedItems vs = vs
  | [], _ => rfl
  | v :: vs, h => by rw [sortedItems, sorted_eq_self h.1, sortedItems_eq_self h.2]

theorem sortedMembers_eq_self :
    ∀ {ms : List (String × Json)}, OrderedMembers ms → sortedMembers ms = ms
  | [], _ => rfl
  | (k, v) :: ms, h => by rw [sortedMembers, sorted_eq_self h.1, sortedMembers_eq_self h.2]

end

mutual

/-- The sorted form of a value is in order. -/
theorem ordered_sorted : ∀ v : Json, v.sorted.Ordered
  | .null => trivial
  | .bool _ => trivial
  | .number _ => trivial
  | .string _ => trivial
  | .array vs => ordered_sortedItems vs
  | .object ms => by
      refine ⟨Members.increasing_ofList _, (orderedMembers_iff _).mpr fun m hm => ?_⟩
      exact (orderedMembers_iff _).mp (ordered_sortedMembers ms) m (Members.subset_ofList _ hm)

theorem ordered_sortedItems : ∀ vs : List Json, OrderedItems (sortedItems vs)
  | [] => trivial
  | v :: vs => ⟨ordered_sorted v, ordered_sortedItems vs⟩

theorem ordered_sortedMembers : ∀ ms : List (String × Json), OrderedMembers (sortedMembers ms)
  | [] => trivial
  | (_, v) :: ms => ⟨ordered_sorted v, ordered_sortedMembers ms⟩

end

end Json

end SqlGateway
