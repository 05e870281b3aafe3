import RelPlan.Catalog.Error
import RelPlan.Catalog.Identifier
import RelPlan.Json.Decode
import RelPlan.Text.Upper

/-!
# Schemas

A schema reserves words and may list the tables there are. Without tables it is open: any
table and any column is accepted. A table that is listed without columns has every column.
-/

namespace RelPlan

/-- The words that no column may be called, and the tables with their columns. -/
structure Schema where
  reserved : NameSet
  tables : NameMap NameSet
deriving DecidableEq

namespace Schema

/-- The words that are reserved unless a schema says otherwise. -/
def standardWords : List String :=
  ["SELECT", "FROM", "WHERE", "JOIN", "INNER", "LEFT", "RIGHT", "ON", "AS", "AND", "OR", "NOT",
   "INSERT", "UPDATE", "DELETE", "CREATE", "DROP", "TABLE", "VALUES", "INTO", "GROUP", "BY",
   "HAVING", "ORDER"]

/-- The open schema with the standard reserved words. -/
def standard : Schema := ⟨.ofList standardWords, ∅⟩

instance : Inhabited Schema := ⟨standard⟩

/-- The names of a set in upper case. -/
def upperNames (names : NameSet) : NameSet := .ofList (names.toList.map Text.upper)

/-- The schema with one table more, its name and columns in upper case. -/
def addTable (schema : Schema) (table : String) (columns : List String) : Schema :=
  { schema with
    tables := schema.tables.insert (Text.upper table) (.ofList (columns.map Text.upper)) }

/-- Whether the tables are listed. -/
def isClosed (schema : Schema) : Bool := !schema.tables.isEmpty

/-- Whether the word is reserved, in any letter case. -/
def isReserved (schema : Schema) (word : String) : Bool :=
  schema.reserved.contains (Text.upper word)

/-- Whether there is such a table. -/
def hasTable (schema : Schema) (table : String) : Bool :=
  !schema.isClosed || schema.tables.contains table

/-- Whether the table has such a column. -/
def hasColumn (schema : Schema) (table column : String) : Bool :=
  !schema.isClosed ||
    match schema.tables.get? table with
    | some columns => columns.isEmpty || columns.contains column
    | none => false

/-- Whether the table lists the column. -/
def lists (schema : Schema) (table column : String) : Bool :=
  match schema.tables.get? table with
  | some columns => columns.contains column
  | none => false

/-- The tables among some candidates that list the column. -/
def tablesListing (schema : Schema) (column : String) (candidates : List String) : List String :=
  candidates.filter (schema.lists · column)

/-- The tables with their names and columns in upper case, one after another; of two tables
that then have one name the later one counts. -/
def upperTables (tables : List (String × NameSet)) : Except ConfigError (NameMap NameSet) :=
  tables.foldlM (fun done (table, columns) =>
    if isIdentifier (Text.upper table) then
      .ok (done.insert (Text.upper table) (upperNames columns))
    else .error (.badTableName (Text.upper table))) ∅

/-- The schema in upper case, as queries are read. -/
def normalize (schema : Schema) : Except ConfigError Schema := do
  let tables ← upperTables schema.tables.toList
  return ⟨upperNames schema.reserved, tables⟩

/-- A schema as it is written; a part that is missing is as in the standard schema. -/
def decode : Json.Decoder Schema
  | 0, _ => .error (.ofCause .tooDeep)
  | depth + 1, value => do
    let fields ← Json.recordFields ["reserved_words", "tables"] value
    let reserved ← match fields.lookup "reserved_words" with
      | some words => Json.nameSet depth words
      | none => .ok standard.reserved
    let tables ← match fields.lookup "tables" with
      | some tables => Json.nameMap Json.nameSet depth tables
      | none => .ok standard.tables
    return ⟨reserved, tables⟩

/-- The schema of a JSON text that was found at a path. -/
def ofJson (path text : String) : Except ConfigError Schema :=
  match Json.decode decode text with
  | .ok schema => schema.normalize
  | .error fault => .error (.json path fault)

/-- A schema is open exactly when it lists no tables. -/
theorem isClosed_eq_false_iff {schema : Schema} :
    schema.isClosed = false ↔ schema.tables.toList = [] := by
  simp [isClosed, NameMap.isEmpty]

/-- A schema that does not list its tables has every table. -/
theorem hasTable_of_not_isClosed {schema : Schema} (h : schema.isClosed = false)
    (table : String) : schema.hasTable table = true := by
  simp [hasTable, h]

/-- A schema that does not list its tables has every column in every table. -/
theorem hasColumn_of_not_isClosed {schema : Schema} (h : schema.isClosed = false)
    (table column : String) : schema.hasColumn table column = true := by
  simp [hasColumn, h]

end Schema

end RelPlan
