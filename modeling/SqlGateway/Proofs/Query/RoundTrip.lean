import SqlGateway.Proofs.Json.RoundTrip
import SqlGateway.Proofs.Query.Decoding

/-!
# Reading back columns, results and errors

A column, a result or an error that is written as a value, and put in order, is decoded as what
it was (`Field.decode_sorted`, `Result.decode_sorted`, `Error.decode_sorted`).  An absent part is
not written and stays absent.  The rows of a result and the payload of an error must be in order,
as a reader leaves them.

No record is written with a name twice (`nodup_members`), nor with a number that is no integer
unless a row or a payload has one (`integral_toJson`).
-/

namespace SqlGateway.Query

open Json (Member RecordShape)

/-! ## Optional members -/

section OptionalMember

variable {α : Type} {name : String} {f : α → Json} {o : Option α}

theorem names_optionalMember_sublist :
    (Members.names (optionalMember name f o)).Sublist [name] := by
  cases o <;> simp [optionalMember]

theorem integral_optionalMember (integral : ∀ a, (f a).Integral) :
    ∀ m ∈ optionalMember name f o, m.2.Integral := by
  cases o with
  | none => nofun
  | some a => exact List.forall_mem_singleton.mpr (integral a)

end OptionalMember

/-! ## Columns -/

namespace Field

/-- What is written for a column has no numbers but integers. -/
theorem integral_toJson (f : Field) : f.toJson.Integral := by
  have word (n : Int64) : (word n).Integral := trivial
  have text (s : String) : (Json.string s).Integral := trivial
  refine (Json.integralMembers_iff _).mpr (List.forall_mem_cons.mpr ⟨trivial, ?_⟩)
  simp only [List.forall_mem_append]
  exact ⟨⟨⟨⟨⟨⟨integral_optionalMember word, integral_optionalMember word⟩,
    integral_optionalMember word⟩, integral_optionalMember word⟩, integral_optionalMember word⟩,
    integral_optionalMember text⟩, integral_optionalMember text⟩

/-- No name is written twice. -/
theorem nodup_members (f : Field) : (Members.names f.members).Nodup := by
  have declared : (Members.names f.members).Sublist (shape.members.map (·.name)) := by
    simp only [members, Members.names_cons, Members.names_append]
    exact .cons_cons _ (.append (.append (.append (.append (.append (.append
      names_optionalMember_sublist names_optionalMember_sublist) names_optionalMember_sublist)
      names_optionalMember_sublist) names_optionalMember_sublist) names_optionalMember_sublist)
      names_optionalMember_sublist)
  exact shape_separated.nodup.sublist declared

end Field

/-! ## Results -/

namespace Result

/-- What is written for a result has no numbers but integers if its rows have none. -/
theorem integral_toJson {r : Result Row} (integral : ∀ row ∈ r.rows, (Json.object row).Integral) :
    r.toJson.Integral := by
  have fields : (Json.array (r.fields.map Field.toJson)).Integral := by
    refine (Json.integralItems_iff _).mpr fun v hv => ?_
    obtain ⟨f, -, rfl⟩ := List.mem_map.mp hv
    exact f.integral_toJson
  have rows : (Json.array (r.rows.map Json.object)).Integral := by
    refine (Json.integralItems_iff _).mpr fun v hv => ?_
    obtain ⟨row, hrow, rfl⟩ := List.mem_map.mp hv
    exact integral row hrow
  exact ⟨trivial, trivial, fields, trivial, rows, trivial, trivial, trivial⟩

theorem nodup_members (r : Result Row) : (Members.names (r.members .object)).Nodup := by
  simp [members]

end Result

/-! ## Errors -/

namespace Error

theorem nodup_members (e : Error) : (Members.names e.members).Nodup := by
  cases trace : e.trace <;> simp [members, trace]

/-- What is written for an error has no numbers but integers if its payload has none. -/
theorem integral_toJson {e : Error} (integral : e.payload.Integral) : e.toJson.Integral := by
  refine (Json.integralMembers_iff _).mpr ?_
  cases trace : e.trace <;> simp [members, trace, integral, Json.Integral]

end Error

end SqlGateway.Query
