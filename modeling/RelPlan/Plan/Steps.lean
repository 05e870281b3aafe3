import RelPlan.Json.Basic
import RelPlan.Plan.Basic
import RelPlan.Query.Printer

/-!
# Steps of a plan

The order in which a query is carried out, one operation after another, and numbers that sum
a query up.
-/

namespace RelPlan

/-- The kinds of operations. -/
inductive StepKind where
  | scan
  | select
  | join
  | product
  | project
deriving DecidableEq

/-- The name of the operation. -/
def StepKind.name : StepKind → String
  | scan => "SCAN"
  | select => "SELECT"
  | join => "JOIN"
  | product => "PRODUCT"
  | project => "PROJECT"

/-- An operation and what it does in words. -/
structure Step where
  kind : StepKind
  description : String
deriving DecidableEq

namespace Step

/-- The steps of a table's access: it is scanned, filtered and restricted to columns. -/
def ofSource (source : Source) : List Step :=
  let scan : Step := ⟨.scan, "Table: " ++ source.table⟩
  let select :=
    if source.access.selection.isEmpty then []
    else
      [⟨.select,
        "Early filter on " ++ source.table ++ ": " ++ Conjunction.text source.access.selection⟩]
  let project :=
    if source.access.projection.isEmpty then []
    else
      [⟨.project,
        "Early projection on " ++ source.table ++ ": " ++
          Text.joinWith ", " source.access.projection.toList⟩]
  scan :: select ++ project

/-- The steps of a join: the access to its table, and the join or product itself. -/
def ofJoin (join : Join) : List Step :=
  ofSource join.toSource ++
    [if join.hasCondition then
      ⟨.join, "Join with " ++ join.table ++ ": " ++ Conjunction.text join.condition⟩
    else ⟨.product, "Cartesian product with " ++ join.table⟩]

/-- The step of the condition of a query, if it has one. -/
def ofFilter (query : Query) : List Step :=
  if query.hasFilter then [⟨.select, "Filter: " ++ Conjunction.text query.filter⟩] else []

/-- The step of the columns of a query. -/
def ofSelect (query : Query) : Step :=
  ⟨.project,
    match query.select with
    | .all => "Projection: * (all columns)"
    | .columns columns => "Projection: " ++ (SelectList.columns columns).text⟩

/-- The steps of a query in order. -/
def ofQuery (query : Query) : List Step :=
  ofSource query.source ++ query.joins.flatMap ofJoin ++ ofFilter query ++ [ofSelect query]

end Step

/-- Numbers that sum a query up. -/
structure Summary where
  tables : Nat
  joins : Nat
  hasFilter : Bool
  width : Nat
  selectsAll : Bool
  pushedSelections : Nat
  pushedProjections : Nat
deriving DecidableEq

/-- The numbers of a query. -/
def Summary.ofQuery (query : Query) : Summary where
  tables := 1 + query.joins.length
  joins := query.joins.length
  hasFilter := query.hasFilter
  width := query.select.named.length
  selectsAll := query.select.isAll
  pushedSelections := query.sources.countP (!·.access.selection.isEmpty)
  pushedProjections := query.sources.countP (!·.access.projection.isEmpty)

instance : ToJson Summary where
  toJson summary :=
    .object
      [("table_count", toJson summary.tables), ("join_count", toJson summary.joins),
       ("has_filter", toJson summary.hasFilter), ("projection_width", toJson summary.width),
       ("select_all", toJson summary.selectsAll),
       ("pushed_selections", toJson summary.pushedSelections),
       ("pushed_projections", toJson summary.pushedProjections)]

end RelPlan
