import RelPlan.Optimizer.Cartesian
import RelPlan.Optimizer.Order
import RelPlan.Optimizer.Projection
import RelPlan.Optimizer.Selection
import RelPlan.Text.Blank

/-!
# Heuristics

The ways to revise a query, by name, and what they know about tables.
-/

namespace RelPlan

/-- A way to revise a query. -/
inductive Heuristic where
  | selectionPushdown
  | projectionPushdown
  | cartesianAvoidance
  | joinReordering
deriving DecidableEq

namespace Heuristic

/-- The order in which the heuristics are applied unless another one is asked for. -/
def standardOrder : List Heuristic :=
  [selectionPushdown, projectionPushdown, cartesianAvoidance, joinReordering]

/-- The name of the heuristic. -/
def name : Heuristic → String
  | selectionPushdown => "selection_pushdown"
  | projectionPushdown => "projection_pushdown"
  | cartesianAvoidance => "cartesian_avoidance"
  | joinReordering => "join_reordering"

/-- The heuristic of a name or a short name. -/
def ofExactName? : String → Option Heuristic
  | "selection_pushdown" | "selection" => some selectionPushdown
  | "projection_pushdown" | "projection" => some projectionPushdown
  | "cartesian_avoidance" | "cartesian" => some cartesianAvoidance
  | "join_reordering" | "reorder" => some joinReordering
  | _ => none

/-- The heuristic of a name in any letter case, in which hyphens stand for underscores. No
character beyond ASCII has a lower-case form that occurs in a name. -/
def ofName? (text : String) : Option Heuristic :=
  ofExactName? <| String.ofList <| (Text.trimChars text.toList).map fun c =>
    if c = '-' then '_' else c.toLower

/-- What is said about a name that no heuristic has. -/
def unknownMessage (text : String) : String := "unknown heuristic '" ++ text ++ "'"

@[simp] theorem ofExactName?_name (heuristic : Heuristic) :
    ofExactName? heuristic.name = some heuristic := by
  cases heuristic <;> rfl

end Heuristic

/-- What heuristics know about tables. -/
structure Knowledge where
  schema : Option Schema
  statistics : Option Statistics
deriving DecidableEq

/-- No knowledge about tables. -/
def Knowledge.none : Knowledge := ⟨.none, .none⟩

instance : Inhabited Knowledge := ⟨.none⟩

/-- Applies a heuristic to a query. -/
def Heuristic.apply (knowledge : Knowledge) (query : Query) : Heuristic → Revision
  | selectionPushdown => query.pushSelections
  | projectionPushdown => query.pushProjections knowledge.schema
  | cartesianAvoidance => query.avoidProducts
  | joinReordering => query.orderJoins knowledge.statistics

end RelPlan
