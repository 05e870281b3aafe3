import RelPlan.Catalog.Statistics
import RelPlan.Query.Basic

/-!
# Costs of joins

How much a join is expected to narrow the rows down: a score from the filters, columns and
conditions that belong to it, and the rows that are read of its table if statistics tell.
-/

namespace RelPlan

/-- What is expected of a join. -/
structure Estimate where
  score : Nat
  rows : Option Float

namespace Query

/-- The points for each predicate in the filter of an access. -/
def selectionWeight : UInt32 := 5

/-- The columns of a join's table that the condition of the query, the filter of the first
table and the condition of the join are about. -/
def mentions (query : Query) (join : Join) : Nat :=
  (query.filter.columns ++ query.source.access.selection.columns ++
    Conjunction.columns join.condition).countP (·.belongsTo join.table)

/-- The score of a join: the higher, the fewer rows are expected. It is counted in a word of 32
bits. -/
def score (query : Query) (join : Join) : Nat :=
  let filters := UInt32.ofNat join.access.selection.length
  let columns := UInt32.ofNat join.access.projection.size
  let mentions := UInt32.ofNat (query.mentions join)
  let equality := if Conjunction.hasEquality join.condition then 1 else 0
  (filters * selectionWeight + columns + mentions + equality).toNat

/-- The estimate for a join. -/
def estimate (stats : Option Statistics) (query : Query) (join : Join) : Estimate where
  score := query.score join
  rows := stats.map (·.rowsAfterFilters join.table join.access.selection.length)

end Query

/-- The place of a floating-point number in the order of all of them, in which every bit
pattern has a place of its own: negative numbers downwards, then the others upwards. -/
def orderKey (x : Float) : Int :=
  let bits := x.toBits.toNat
  if bits < 0x8000000000000000 then bits else 0x7FFFFFFFFFFFFFFF - bits

namespace Estimate

/-- Whether one number of rows does not come after another; an unknown number has no place. -/
def rowsLE : Option Float → Option Float → Bool
  | some first, some second => orderKey first ≤ orderKey second
  | _, _ => true

/-- Whether a join with the first estimate may come before one with the second: its score is
higher, or the scores are equal and its rows are not more. -/
def le (first second : Estimate) : Bool :=
  second.score < first.score ||
    (first.score == second.score && rowsLE first.rows second.rows)

end Estimate

end RelPlan
