import SqlGateway.Text.Parts

/-!
# Finding the parts again

Parts without separators are found again where they have been joined
(`splitWhere_joinWith`), and the parts of a split have none (`of_mem_splitWhere`).

A scan over a text that goes on to an element at which it stops takes what stands before
that element (`takeWhile_of_halts`, `dropWhile_of_halts`).
-/

namespace SqlGateway

variable {α : Type} {p : α → Bool} {as bs : List α}

/-! ## Scans -/

/-- A scan for elements that satisfy `p` takes nothing. -/
def Halts (p : α → Bool) (as : List α) : Prop := ∀ a ∈ as.head?, p a = false

theorem Halts.nil (p : α → Bool) : Halts p [] := nofun

theorem Halts.cons {a : α} (h : p a = false) : Halts p (a :: as) := by
  intro b hb
  cases hb
  exact h

theorem halts_of_forall (h : ∀ a ∈ as, p a = false) : Halts p as := fun a ha =>
  h a (List.mem_of_mem_head? ha)

theorem Halts.takeWhile (h : Halts p as) : as.takeWhile p = [] := by
  cases as with
  | nil => rfl
  | cons a as => rw [List.takeWhile_cons_of_neg]; simp [h a rfl]

theorem Halts.dropWhile (h : Halts p as) : as.dropWhile p = as := by
  cases as with
  | nil => rfl
  | cons a as => rw [List.dropWhile_cons_of_neg]; simp [h a rfl]

theorem takeWhile_of_halts (here : ∀ a ∈ as, p a = true) (halts : Halts p bs) :
    (as ++ bs).takeWhile p = as := by
  rw [List.takeWhile_append_of_pos here, halts.takeWhile, List.append_nil]

theorem dropWhile_of_halts (here : ∀ a ∈ as, p a = true) (halts : Halts p bs) :
    (as ++ bs).dropWhile p = bs := by
  rw [List.dropWhile_append_of_pos here, halts.dropWhile]

theorem of_mem_takeWhile {a : α} (h : a ∈ as.takeWhile p) : p a = true :=
  List.all_eq_true.mp List.all_takeWhile a h

/-! ## Splits -/

theorem of_mem_joinWith {sep : List α} {a : α} : ∀ {parts : List (List α)},
    a ∈ joinWith sep parts → a ∈ sep ∨ ∃ s ∈ parts, a ∈ s
  | [s], h => Or.inr ⟨s, List.mem_singleton_self s, h⟩
  | s :: t :: ss, h => by
      rw [joinWith, List.mem_append, List.mem_append] at h
      rcases h with (here | between) | later
      · exact Or.inr ⟨s, List.mem_cons_self, here⟩
      · exact Or.inl between
      · cases of_mem_joinWith later with
        | inl between => exact Or.inl between
        | inr part =>
            obtain ⟨u, hu, ha⟩ := part
            exact Or.inr ⟨u, List.mem_cons_of_mem s hu, ha⟩

theorem splitWhere_of_forall (h : ∀ a ∈ as, p a = false) : splitWhere p as = [as] := by
  induction as with
  | nil => rfl
  | cons a as ih =>
      obtain ⟨here, later⟩ := List.forall_mem_cons.mp h
      rw [splitWhere, if_neg (by simp [here]), ih later]

/-- A separator ends the first part. -/
theorem splitWhere_append_cons {sep : α} (h : ∀ a ∈ as, p a = false) (ends : p sep = true) :
    splitWhere p (as ++ sep :: bs) = as :: splitWhere p bs := by
  induction as with
  | nil => rw [List.nil_append, splitWhere, if_pos ends]
  | cons a as ih =>
      obtain ⟨here, later⟩ := List.forall_mem_cons.mp h
      rw [List.cons_append, splitWhere, if_neg (by simp [here]), ih later]

/-- Parts without separators are found again where they have been joined. -/
theorem splitWhere_joinWith (sep : α) (ends : p sep = true) :
    ∀ {parts : List (List α)}, parts ≠ [] → (∀ s ∈ parts, ∀ a ∈ s, p a = false) →
      splitWhere p (joinWith [sep] parts) = parts
  | [s], _, free => splitWhere_of_forall (free s (List.mem_singleton_self s))
  | s :: t :: ss, _, free => by
      obtain ⟨here, later⟩ := List.forall_mem_cons.mp free
      rw [joinWith, List.append_assoc, List.singleton_append, splitWhere_append_cons here ends,
        splitWhere_joinWith sep ends (List.cons_ne_nil t ss) later]

/-- The parts of a split have no separators. -/
theorem of_mem_splitWhere {s : List α} (h : s ∈ splitWhere p as) :
    ∀ a ∈ s, a ∈ as ∧ p a = false := by
  induction as generalizing s with
  | nil =>
      rw [splitWhere, List.mem_singleton] at h
      subst h
      exact List.forall_mem_nil _
  | cons b bs ih =>
      have later : ∀ s ∈ splitWhere p bs, ∀ a ∈ s, a ∈ b :: bs ∧ p a = false := fun s hs a ha =>
        ⟨List.mem_cons_of_mem b (ih hs a ha).1, (ih hs a ha).2⟩
      rw [splitWhere] at h
      split at h
      · obtain rfl | h := List.mem_cons.mp h
        · exact List.forall_mem_nil _
        · exact later s h
      · rename_i ends
        cases split : splitWhere p bs with
        | nil => exact absurd split (splitWhere_ne_nil p bs)
        | cons t ts =>
            rw [split] at h later
            obtain rfl | h := List.mem_cons.mp h
            · intro a ha
              obtain rfl | ha := List.mem_cons.mp ha
              · exact ⟨List.mem_cons_self, by simpa using ends⟩
              · exact later t List.mem_cons_self a ha
            · exact later s (List.mem_cons_of_mem t h)

/-! ## Parts that are read one by one -/

/-- What is written part by part is read part by part. -/
theorem mapM_map_of_forall {β : Type} {f : β → Option α} {g : α → β}
    (h : ∀ a ∈ as, f (g a) = some a) : (as.map g).mapM f = some as := by
  induction as with
  | nil => rfl
  | cons a as ih =>
      obtain ⟨here, later⟩ := List.forall_mem_cons.mp h
      simp [here, ih later]

end SqlGateway
