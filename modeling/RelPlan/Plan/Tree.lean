import RelPlan.Plan.Basic

/-!
# Drawn plans

A plan is drawn as a tree with one line for each node, the root first. Branches to the left of
a node lead to it from the nodes above.
-/

namespace RelPlan

namespace Plan

/-- What is written at a node. -/
def label : Plan → String
  | relation table => table
  | selection condition _ => selectionSign ++ " " ++ condition.text
  | projection columns _ => projectionSign ++ " " ++ Text.joinWith ", " columns
  | join _ _ condition => joinSign ++ " " ++ condition.text
  | product _ _ => productSign

/-- The branch to a node with a sibling below it. -/
def middleBranch : String := "├── "

/-- The branch to the last child of a node. -/
def lastBranch : String := "└── "

/-- What stands left of the nodes under a node with a sibling below it. -/
def middleMargin : String := "│   "

/-- What stands left of the nodes under the last child of a node. -/
def lastMargin : String := "    "

/-- The lines of the nodes under a node, each after the given margin and its branches. -/
def linesBelow (margin : String) : Plan → List String
  | relation _ => []
  | selection _ input | projection _ input =>
    (margin ++ lastBranch ++ input.label) :: input.linesBelow (margin ++ lastMargin)
  | join left right _ | product left right =>
    (margin ++ middleBranch ++ left.label) :: left.linesBelow (margin ++ middleMargin) ++
      (margin ++ lastBranch ++ right.label) :: right.linesBelow (margin ++ lastMargin)

/-- The lines of a drawn plan. -/
def treeLines (plan : Plan) : List String := plan.label :: plan.linesBelow ""

/-- The drawn plan; every line ends with a line break. -/
def tree (plan : Plan) : String := plan.treeLines.foldr (fun line rest => line ++ "\n" ++ rest) ""

end Plan

/-- The drawn plan of a query. -/
def Query.tree (query : Query) : String := (Plan.ofQuery query).tree

end RelPlan
