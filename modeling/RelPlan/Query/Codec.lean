import RelPlan.Predicate.Codec
import RelPlan.Query.Basic

/-!
# Queries in JSON
-/

namespace RelPlan

instance : ToJson SelectList where
  toJson
    | .all => .string "Wildcard"
    | .columns columns => .variant "Columns" (toJson columns)

instance : ToJson Access where
  toJson access :=
    .object
      [("pushed_selection", toJson access.selection),
       ("pushed_projection", toJson access.projection)]

instance : ToJson Join where
  toJson join :=
    .object
      [("table", .string join.table), ("condition", toJson join.condition),
       ("access", toJson join.access)]

instance : ToJson Query where
  toJson query :=
    .object
      [("select", toJson query.select), ("from_table", .string query.source.table),
       ("from_access", toJson query.source.access), ("joins", toJson query.joins),
       ("where_clause", toJson query.filter)]

/-- The columns that are asked for, from their JSON form. -/
def SelectList.decode : Json.Decoder SelectList := fun depth value => do
  let (name, content) ← Json.alternative value
  match name with
  | "Wildcard" => Json.alone .all depth name content
  | "Columns" => (Json.inside (Json.list ColumnRef.decode) depth name content).map .columns
  | _ => .error (.ofCause (.unknownVariant name))

/-- An access from its JSON form. -/
def Access.decode : Json.Decoder Access
  | 0, _ => .error (.ofCause .tooDeep)
  | depth + 1, value => do
    let fields ← Json.recordFields ["pushed_selection", "pushed_projection"] value
    let selection ← Conjunction.decode depth (← Json.required fields "pushed_selection")
    let projection ← Json.nameSet depth (← Json.required fields "pushed_projection")
    return ⟨selection, projection⟩

/-- A join from its JSON form. -/
def Join.decode : Json.Decoder Join
  | 0, _ => .error (.ofCause .tooDeep)
  | depth + 1, value => do
    let fields ← Json.recordFields ["table", "condition", "access"] value
    let table ← Json.text (← Json.required fields "table")
    let condition ← Conjunction.decode depth (← Json.required fields "condition")
    let access ← Access.decode depth (← Json.required fields "access")
    return { table, condition, access }

/-- A query from its JSON form. -/
def Query.decode : Json.Decoder Query
  | 0, _ => .error (.ofCause .tooDeep)
  | depth + 1, value => do
    let fields ←
      Json.recordFields ["select", "from_table", "from_access", "joins", "where_clause"] value
    let select ← SelectList.decode depth (← Json.required fields "select")
    let table ← Json.text (← Json.required fields "from_table")
    let access ← Access.decode depth (← Json.required fields "from_access")
    let joins ← Json.list Join.decode depth (← Json.required fields "joins")
    let filter ← Conjunction.decode depth (← Json.required fields "where_clause")
    return { select, joins, filter, source := ⟨table, access⟩ }

/-- The query of a JSON text. -/
def Query.ofJson (text : String) : Except Json.Fault Query := Json.decode Query.decode text

end RelPlan
