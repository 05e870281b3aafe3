import RelPlan.Predicate.Basic

/-!
# Queries

A query selects columns from a table and the tables joined to it one after another, under a
condition. Each table is accessed with a filter and a list of columns that the optimizer may push
down to it; a query as it is written has none of that.
-/

namespace RelPlan

/-- The columns that a query asks for. -/
inductive SelectList where
  | all
  | columns (refs : List ColumnRef)
deriving DecidableEq

namespace SelectList

/-- The columns that are asked for by name. -/
def named : SelectList → List ColumnRef
  | all => []
  | columns refs => refs

/-- Whether every column is asked for. -/
def isAll : SelectList → Bool
  | all => true
  | columns _ => false

end SelectList

/-- What is done to the rows of a table before they are joined: a filter, and the columns that
are kept. No columns means that nothing is left out. -/
structure Access where
  selection : Conjunction
  projection : NameSet
deriving DecidableEq

namespace Access

/-- Access to all rows with all their columns. -/
def plain : Access := ⟨[], ∅⟩

instance : Inhabited Access := ⟨plain⟩

/-- Whether nothing is done to the rows. -/
def isPlain (access : Access) : Bool := access.selection.isEmpty && access.projection.isEmpty

end Access

/-- A table and how it is accessed. -/
structure Source where
  table : String
  access : Access
deriving DecidableEq, Inhabited

/-- A table that is joined, and the condition of the join. -/
structure Join extends Source where
  condition : Conjunction
deriving DecidableEq, Inhabited

namespace Join

/-- The join of a table to which nothing is done before. -/
def ofTable (table : String) (condition : Conjunction) : Join :=
  { table, condition, access := .plain }

/-- Whether the join has a condition; without one it is a product. -/
def hasCondition (join : Join) : Bool := !join.condition.isEmpty

end Join

/-- A query: the columns, the first table, the joins in order, and the condition on the rows
that they give. -/
structure Query where
  select : SelectList
  source : Source
  joins : List Join
  filter : Conjunction
deriving DecidableEq

namespace Query

/-- A query as it is written, with plain access to the first table. -/
def ofTable (select : SelectList) (table : String) (joins : List Join) (filter : Conjunction) :
    Query :=
  { select, joins, filter, source := ⟨table, .plain⟩ }

instance : Inhabited Query := ⟨ofTable .all "" [] []⟩

/-- The first table and the joined ones in order, with their accesses. -/
def sources (query : Query) : List Source := query.source :: query.joins.map (·.toSource)

/-- The names of the tables in order. -/
def tables (query : Query) : List String := query.sources.map (·.table)

/-- Whether there is a condition on the rows. -/
def hasFilter (query : Query) : Bool := !query.filter.isEmpty

/-- The access to a table; the first one counts if the table occurs more than once. -/
def accessOf? (query : Query) (table : String) : Option Access :=
  (query.sources.find? (·.table == table)).map (·.access)

@[simp] theorem tables_ofTable (select : SelectList) (table : String) (joins : List Join)
    (filter : Conjunction) :
    (ofTable select table joins filter).tables = table :: joins.map (·.table) := by
  simp [tables, sources, ofTable, Function.comp_def]

end Query

end RelPlan
