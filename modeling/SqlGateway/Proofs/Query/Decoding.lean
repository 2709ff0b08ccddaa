import SqlGateway.Query.Result
import SqlGateway.Proofs.Json.Record

/-!
# Decoding columns, results and errors

The members of a column, those of a result and those of an error are separate
(`Field.shape_separated`, `Result.shape_separated`, `Error.shape_separated`), so all are decoded
from an object by looking their members up.

The flag of a result is what the body gives for it, which a body can do in two ways: by the
member `success` of an object, or by the first item of a list (`Result.success_iff`).
-/

namespace SqlGateway.Query

open Json (Member RecordShape)

/-! ## Separate members -/

theorem Field.shape_separated : Field.shape.Separated where
  nodup := by decide
  commute := by
    simp only [Field.shape, Member.needed, Member.optional, List.pairwise_cons,
      List.forall_mem_cons, List.not_mem_nil, false_implies, implies_true, List.Pairwise.nil,
      and_true]
    and_intros <;> exact Member.commutes_of_set (by intros; rfl)

theorem Error.shape_separated : Error.shape.Separated where
  nodup := by decide
  commute := by
    simp only [Error.shape, Member.needed, Member.optional, List.pairwise_cons,
      List.forall_mem_cons, List.not_mem_nil, false_implies, implies_true, List.Pairwise.nil,
      and_true]
    and_intros <;> exact Member.commutes_of_set (by intros; rfl)

namespace Result

variable {ρ : Type}

theorem shape_separated (row : Json.Decoder ρ) : (shape row).Separated where
  nodup := by simp [shape, Member.needed, Member.optional]
  commute := by
    simp only [shape, Member.needed, Member.optional, List.pairwise_cons,
      List.forall_mem_cons, List.not_mem_nil, false_implies, implies_true, List.Pairwise.nil,
      and_true]
    and_intros <;> exact Member.commutes_of_set (by intros; rfl)

/-! ## The flag -/

/-- No member but the first, which is `success`, sets the flag. -/
theorem keeps_success (row : Json.Decoder ρ) :
    ∀ m ∈ (shape row).members.tail, m.Keeps Result.success := by
  simp only [shape, Member.needed, Member.optional, List.tail_cons, List.forall_mem_cons,
    List.not_mem_nil, false_implies, implies_true, and_true]
  and_intros <;> exact Member.keeps_of_set (by intros; rfl)

/-- The flag of a result is false exactly where the member `success` of an object, or the first
item of a list, is. -/
theorem success_iff {row : Json.Decoder ρ} {v : Json} {r : Result ρ} (ordered : v.Ordered)
    (h : (shape row).decoder.ofJson v = .ok r) :
    r.success = false ↔
      (∃ ms, v = .object ms ∧ ("success", .bool false) ∈ ms) ∨
        ∃ vs, v = .array (.bool false :: vs) := by
  cases v with
  | object ms =>
      have nodup := ordered.1.nodup
      have looked := (RecordShape.decode_object_iff (shape_separated row) rfl nodup).mp h
      rcases Json.lookUp_cons_eq_ok.mp looked with ⟨absent, -, rest⟩ | ⟨w, f, found, hf, rest⟩
      · have kept : r.success = true := Json.lookUp_keeps (keeps_success row) rest
        have none : ("success", .bool false) ∉ ms := fun member =>
          Members.get?_eq_none_iff.mp absent (Members.mem_names_of_mem member)
        simp [kept, none]
      · obtain ⟨b, hb, rfl⟩ := exceptMap_eq_ok.mp hf
        cases Json.Decoder.bool_eq_ok.mp hb
        have kept : r.success = b := Json.lookUp_keeps (keeps_success row) rest
        have found : Members.get? ms "success" = some (.bool b) := found
        have flag : ("success", .bool false) ∈ ms ↔ b = false := by
          rw [← Members.get?_eq_some_iff nodup, found]
          simp
        simp [kept, flag]
  | array vs =>
      cases vs with
      | nil =>
          have kept : r.success = true := RecordShape.ofItems_keeps (keeps_success row) h
          simp [kept]
      | cons w vs =>
          obtain ⟨f, hf, rest⟩ := RecordShape.ofItems_cons_eq_ok.mp h
          obtain ⟨b, hb, rfl⟩ := exceptMap_eq_ok.mp hf
          cases Json.Decoder.bool_eq_ok.mp hb
          have kept : r.success = b := RecordShape.ofItems_keeps (keeps_success row) rest
          simp [kept]
  | _ => cases h

end Result

end SqlGateway.Query
