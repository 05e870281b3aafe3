import RelPlan.Catalog.Schema
import RelPlan.Optimizer.Basic

/-!
# Pushing projections down

Every access is restricted to the columns of its table that the rest of the query reads. If
some column may belong to any table, nothing is restricted.
-/

namespace RelPlan

namespace Query

/-- The columns that are read once the tables have been accessed. -/
def references (query : Query) : List ColumnRef :=
  query.select.named ++ query.filter.columns ++ query.source.access.selection.columns ++
    query.joins.flatMap fun join =>
      Conjunction.columns join.condition ++ join.access.selection.columns

/-- Whether a table of the query may own a column whose table is not said: it is the only table,
or it lists the column. -/
def owns (schema : Option Schema) (query : Query) (table column : String) : Bool :=
  query.joins.isEmpty || (schema.map (·.lists table column)).getD false

/-- The tables that may own a column whose table is not said. -/
def owners (schema : Option Schema) (query : Query) (column : String) : List String :=
  query.tables.filter (query.owns schema · column)

/-- Whether the column is one of those of a table of the query. -/
def attributes (schema : Option Schema) (query : Query) (table : String) (column : ColumnRef) :
    Bool :=
  match column.table with
  | some owner => owner == table
  | none => query.owns schema table column.name

/-- The first column of which no table can be said to own it. -/
def unresolved? (schema : Option Schema) (query : Query) : Option ColumnRef :=
  query.references.find? fun column =>
    column.table.isNone && (query.owners schema column.name).isEmpty

/-- The columns of a table that are read. -/
def required (schema : Option Schema) (query : Query) (table : String) : NameSet :=
  .ofList ((query.references.filter (query.attributes schema table)).map (·.name))

/-- Every access restricted to the columns that are read. -/
def restrict (schema : Option Schema) (query : Query) : Query :=
  { query with
    source.access.projection := query.required schema query.source.table
    joins := query.joins.map fun join =>
      { join with access.projection := query.required schema join.table } }

/-- The columns that are read of each table of which some are. -/
def columnNotes (schema : Option Schema) (query : Query) : List Note :=
  query.tables.filterMap fun table =>
    let columns := query.required schema table
    if columns.isEmpty then none else some (.columnsRead table columns)

/-- Pushes projections down; the schema says which tables own columns. -/
def pushProjections (schema : Option Schema) (query : Query) : Revision :=
  if query.select.isAll then (Revision.unchanged query).note .nothingToProject
  else
    match query.unresolved? schema with
    | some column => (Revision.unchanged query).warn (.unresolvedColumn column.name)
    | none => ⟨query.restrict schema, [], query.columnNotes schema⟩

/-- A column is required of a table exactly if it is read and attributed to the table. -/
theorem mem_required {schema : Option Schema} {query : Query} {table name : String} :
    name ∈ query.required schema table ↔
      ∃ column ∈ query.references,
        query.attributes schema table column = true ∧ column.name = name := by
  simp [required, and_assoc]

end Query

end RelPlan
