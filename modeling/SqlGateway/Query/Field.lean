import SqlGateway.Json.Record

/-!
# Columns

A backend describes each column of a result by a `Field`.  Only the name of a column is
always there.
-/

namespace SqlGateway.Query

/-- What a backend says of a column. -/
structure Field where
  /-- The name of the column. -/
  name : String
  /-- The table it comes from. -/
  tableId : Option Int64 := none
  /-- Its number in that table. -/
  columnId : Option Int64 := none
  /-- The type of its values. -/
  dataTypeId : Option Int64 := none
  /-- The size of that type. -/
  dataTypeSize : Option Int64 := none
  /-- What modifies that type. -/
  dataTypeModifier : Option Int64 := none
  /-- How values are sent. -/
  format : Option String := none
  /-- The type for people. -/
  formattedType : Option String := none
deriving DecidableEq

/-- A member that is written only where it has a value. -/
def optionalMember {α : Type} (name : String) (f : α → Json) : Option α → Members
  | none => []
  | some a => [(name, f a)]

namespace Field

/-- A word as a value. -/
def word (n : Int64) : Json := .int (.ofInt64 n)

/-- The members of a column, without those that are absent. -/
def members (f : Field) : Members :=
  ("name", .string f.name) ::
    (optionalMember "tableID" word f.tableId ++
      optionalMember "columnID" word f.columnId ++
      optionalMember "dataTypeID" word f.dataTypeId ++
      optionalMember "dataTypeSize" word f.dataTypeSize ++
      optionalMember "dataTypeModifier" word f.dataTypeModifier ++
      optionalMember "format" Json.string f.format ++
      optionalMember "formattedType" Json.string f.formattedType)

/-- A column as a value. -/
def toJson (f : Field) : Json := .object f.members

/-- The shape of a column. -/
def shape : Json.RecordShape Field where
  name := "Field"
  blank := { name := "" }
  members :=
    let word := Json.Decoder.option .int64
    let text := Json.Decoder.option .string
    [.needed "name" .string fun v f => { f with name := v },
      .optional "tableID" word fun v f => { f with tableId := v },
      .optional "columnID" word fun v f => { f with columnId := v },
      .optional "dataTypeID" word fun v f => { f with dataTypeId := v },
      .optional "dataTypeSize" word fun v f => { f with dataTypeSize := v },
      .optional "dataTypeModifier" word fun v f => { f with dataTypeModifier := v },
      .optional "format" text fun v f => { f with format := v },
      .optional "formattedType" text fun v f => { f with formattedType := v }]

/-- The decoder of a column. -/
def decoder : Json.Decoder Field := shape.decoder

end Field

end SqlGateway.Query
