import RelPlan.Plan.Basic

/-!
# Stages of a plan

The expressions that are reached while the plan of a query is built, each with its name.
-/

namespace RelPlan

/-- A step in building a plan. -/
inductive Stage where
  | join
  | selection
  | projection
  | final
deriving DecidableEq

namespace Stage

/-- The stages in the order in which they are reached. -/
def all : List Stage := [join, selection, projection, final]

/-- The stage's name. -/
def name : Stage → String
  | join => "join"
  | selection => "selection"
  | projection => "projection"
  | final => "final"

/-- The plan of a query as far as it is built at a stage. -/
def plan (query : Query) : Stage → Plan
  | join => Plan.joined query
  | selection => Plan.selected query
  | projection => Plan.ofQuery query
  | final => Plan.ofQuery query

end Stage

/-- The names of the stages of a query with the expressions that are reached. -/
def Query.stages (query : Query) : List (String × String) :=
  Stage.all.map fun stage => (stage.name, (stage.plan query).text)

end RelPlan
