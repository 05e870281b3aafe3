import RelPlan.Predicate.Printer
import RelPlan.Query.Basic

/-!
# Printed queries

A query is printed on one line. What is done at the access to a table is not part of it.
-/

namespace RelPlan

/-- The columns that are asked for, or a star. -/
def SelectList.text : SelectList → String
  | all => "*"
  | columns refs => Text.joinWith ", " (refs.map (·.text))

/-- A join after the text before it; a product has no condition. -/
def Join.text (join : Join) : String :=
  " INNER JOIN " ++ join.table ++ if join.hasCondition then " ON " ++ join.condition.text else ""

/-- The joins one after another. -/
def Join.texts : List Join → String
  | [] => ""
  | join :: joins => join.text ++ Join.texts joins

/-- The query as it is written. -/
def Query.text (query : Query) : String :=
  "SELECT " ++ query.select.text ++ " FROM " ++ query.source.table ++ Join.texts query.joins ++
    (if query.hasFilter then " WHERE " ++ query.filter.text else "") ++ ";"

end RelPlan
