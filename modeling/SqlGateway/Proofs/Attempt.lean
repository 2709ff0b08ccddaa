/-!
# Attempts

An attempt ends with a value or fails.  Attempts are made one after another, and their values
and failures are mapped; these lemmas say what the parts of such an attempt ended with.
-/

namespace SqlGateway

variable {α β ε φ : Type}

theorem exceptMap_eq_ok {f : α → β} {x : Except ε α} {b : β} :
    x.map f = .ok b ↔ ∃ a, x = .ok a ∧ f a = b := by
  cases x <;> simp [Except.map]

theorem bind_eq_ok {x : Except ε α} {f : α → Except ε β} {b : β} :
    x >>= f = .ok b ↔ ∃ a, x = .ok a ∧ f a = .ok b := by
  cases x <;> simp [bind, Except.bind]

theorem bind_eq_error {x : Except ε α} {f : α → Except ε β} {fault : ε} :
    x >>= f = .error fault ↔ x = .error fault ∨ ∃ a, x = .ok a ∧ f a = .error fault := by
  cases x <;> simp [bind, Except.bind]

theorem mapM_some (f : α → Except ε β) (a : α) : (some a).mapM f = (f a).map some := rfl

@[simp] theorem mapError_ok (f : ε → φ) (a : α) :
    (Except.ok a : Except ε α).mapError f = .ok a := rfl

@[simp] theorem mapError_error (f : ε → φ) (e : ε) :
    (Except.error e : Except ε α).mapError f = .error (f e) := rfl

theorem mapError_eq_ok {x : Except ε α} {f : ε → φ} {a : α} :
    x.mapError f = .ok a ↔ x = .ok a := by
  cases x <;> simp

theorem mapError_eq_error {x : Except ε α} {f : ε → φ} {fault : φ} :
    x.mapError f = .error fault ↔ ∃ cause, fault = f cause ∧ x = .error cause := by
  cases x with
  | ok _ => simp
  | error e => simp [eq_comm]

end SqlGateway
