import RelPlan.Predicate.Printer
import RelPlan.Query.Basic

/-!
# Plans

A plan is an expression of relational algebra. The plan of a query is built in three stages:
the joins of its tables from left to right, the condition on top of them, and the columns that
are asked for on top of that.
-/

namespace RelPlan

/-- An expression of relational algebra. -/
inductive Plan where
  | relation (table : String)
  | selection (condition : Conjunction) (input : Plan)
  | projection (columns : List String) (input : Plan)
  | join (left right : Plan) (condition : Conjunction)
  | product (left right : Plan)

instance : Inhabited Plan := ⟨.relation ""⟩

namespace Plan

/-- The sign of a join. -/
def joinSign : String := "⋈"

/-- The sign of a product. -/
def productSign : String := "×"

/-- The sign of a selection. -/
def selectionSign : String := "σ"

/-- The sign of a projection. -/
def projectionSign : String := "π"

/-- A text in braces after an underscore, as it is put under a sign. -/
def subscript (text : String) : String := "_\x7b" ++ text ++ "\x7d"

/-- The plan on one line. -/
def text : Plan → String
  | relation table => table
  | selection condition input =>
    selectionSign ++ subscript condition.text ++ "(" ++ input.text ++ ")"
  | projection columns input =>
    projectionSign ++ subscript (Text.joinWith ", " columns) ++ "(" ++ input.text ++ ")"
  | join left right condition =>
    "(" ++ left.text ++ " " ++ joinSign ++ subscript condition.text ++ " " ++ right.text ++ ")"
  | product left right => "(" ++ left.text ++ " " ++ productSign ++ " " ++ right.text ++ ")"

/-- A selection, unless there is no condition. -/
def filtered (condition : Conjunction) (input : Plan) : Plan :=
  if condition.isEmpty then input else selection condition input

/-- A projection on the names of a set, unless it is empty. -/
def restricted (columns : NameSet) (input : Plan) : Plan :=
  if columns.isEmpty then input else projection columns.toList input

/-- A table as it is accessed: filtered first and restricted to columns then. -/
def ofSource (source : Source) : Plan :=
  restricted source.access.projection
    (filtered source.access.selection (relation source.table))

/-- What is there already with one more table joined to it. -/
def addJoin (left : Plan) (join : Join) : Plan :=
  if join.hasCondition then .join left (ofSource join.toSource) join.condition
  else product left (ofSource join.toSource)

/-- The tables of a query, joined from left to right. -/
def joined (query : Query) : Plan := query.joins.foldl addJoin (ofSource query.source)

/-- The rows of a query before columns are chosen. -/
def selected (query : Query) : Plan := filtered query.filter (joined query)

/-- The plan of a query. -/
def ofQuery (query : Query) : Plan :=
  match query.select with
  | .all => selected query
  | .columns columns => projection (columns.map (·.text)) (selected query)

end Plan

/-- The plan of a query on one line. -/
def Query.algebra (query : Query) : String := (Plan.ofQuery query).text

end RelPlan
