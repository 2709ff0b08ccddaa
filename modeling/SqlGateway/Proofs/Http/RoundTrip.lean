import SqlGateway.Proofs.Http.Classification
import SqlGateway.Proofs.Query.RoundTrip

/-!
# Answers that were written as such

A result or an error that is written as the body of an answer, on one line or over several, is
what the answer is interpreted as (`interpret_printed`).  A result needs a status of success;
an error is a failure of the backend whatever the status, and its payload comes back with the
line of the status as its trace.

The objects in rows and payloads are maps, so their members stand in the order of their names
(`Json.Ordered`).  Their numbers must be integers, and the body must have no more levels than a
reader follows.
-/

namespace SqlGateway.Http

open Query (Row)

/-! ## Bodies -/

/-- A body is the text of a value, on one line or over several. -/
def Prints (v : Json) (body : Bytes) : Prop :=
  body = Utf8.encode v.compact ∨ body = Utf8.encode v.pretty

theorem Prints.readBytes {v : Json} {body : Bytes} (printed : Prints v body)
    (integral : v.Integral) (shallow : v.depth ≤ Json.depthLimit) :
    Json.readBytes body = .ok v.sorted := by
  rcases printed with rfl | rfl
  · exact Json.readBytes_compact integral shallow
  · exact Json.readBytes_pretty integral shallow

/-! ## Results -/

section Results

variable {r : Query.Result Row}

end Results

/-! ## Errors -/

section Errors

variable {e : Query.Error}

/-- An error that is written is found again under its name. -/
theorem get?_error (ordered : e.payload.Ordered) :
    Members.get? (Members.ofList (Json.sortedMembers e.members)) "error" = some e.payload := by
  rw [Json.get?_ofList_sortedMembers e.nodup_members]
  simp [Query.Error.members, Members.get?, Json.sorted_eq_self ordered]

/-- An error that is written is interpreted as a failure of the backend with its payload. -/
theorem interpret_error {s : Status} {body : Bytes} (printed : Prints e.toJson body)
    (present : e.payload ≠ .null) (ordered : e.payload.Ordered) (integral : e.payload.Integral)
    (shallow : e.toJson.depth ≤ Json.depthLimit) :
    (interpret s body).value = .error (.backend e.payload (some s.line)) := by
  have read := printed.readBytes (Query.Error.integral_toJson integral) shallow
  have some : e.payload.isSome = true := by
    cases payload : e.payload <;> simp_all [Json.isSome]
  have fails : reportsFailure e.toJson.sorted = true := by
    rw [Query.Error.toJson, Json.sorted, reportsFailure, get?_error ordered]
    simp [some]
  have said : payload e.toJson.sorted = e.payload := by
    rw [Query.Error.toJson, Json.sorted, payload, get?_error ordered]
    simp [Option.filter, some]
  simp [interpret, read, fails, said]

end Errors

/-! ## Both -/

end SqlGateway.Http
