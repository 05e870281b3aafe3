import RelPlan.Optimizer.Basic
import RelPlan.Optimizer.Cost

/-!
# Ordering joins

The joins with the highest scores come first; among equal scores those of which fewer rows are
read, if that is known, and otherwise those that were first before.
-/

namespace RelPlan

namespace Query

/-- The joins, each with its position and its estimate. -/
def ranked (stats : Option Statistics) (query : Query) : List ((Join × Nat) × Estimate) :=
  query.joins.zipIdx.map fun entry => (entry, query.estimate stats entry.1)

/-- The joins with their positions in the order of their estimates. -/
def ordered (stats : Option Statistics) (query : Query) : List (Join × Nat) :=
  ((query.ranked stats).mergeSort fun first second => first.2.le second.2).map (·.1)

/-- The names of the joined tables with the scores of the joins. -/
def scores (query : Query) : List (String × Nat) :=
  query.joins.map fun join => (join.table, query.score join)

/-- What is said about the order of joins, if it changes. -/
def reorderNotes (query : Query) (order : List (Join × Nat)) : List Note :=
  if order.map (·.2) = List.range query.joins.length then []
  else [.joinOrder (query.joins.map (·.table)) (order.map (·.1.table))]

/-- Orders the joins of a query. -/
def orderJoins (stats : Option Statistics) (query : Query) : Revision :=
  if query.joins.length < 2 then .unchanged query
  else
    let order := query.ordered stats
    ⟨{ query with joins := order.map (·.1) }, [],
      .joinScores query.scores :: query.reorderNotes order⟩

/-- Ordering only changes the order of the joins. -/
theorem ordered_perm (stats : Option Statistics) (query : Query) :
    (query.ordered stats).Perm query.joins.zipIdx := by
  have h := (List.mergeSort_perm (query.ranked stats) fun first second =>
    first.2.le second.2).map (·.1)
  simpa [ordered, ranked, Function.comp_def] using h

end Query

end RelPlan
