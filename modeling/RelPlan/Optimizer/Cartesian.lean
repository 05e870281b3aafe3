import RelPlan.Optimizer.Basic

/-!
# Avoiding cartesian products

Every equality between columns of two tables moves from the condition of the query to a join
of one of the two. Then the joins that have a condition come before the products.
-/

namespace RelPlan

namespace Join

/-- Whether the join is of one of two tables. -/
def isOfEither (first second : String) (join : Join) : Bool :=
  join.table == first || join.table == second

/-- The other of two tables. -/
def other (first second : String) (join : Join) : String :=
  if join.table = first then second else first

/-- Whether the condition of the join is about the table. -/
def mentions (join : Join) (table : String) : Bool :=
  join.condition.any fun predicate => predicate.tables.contains table

end Join

namespace Query

/-- The first join of one of two tables whose condition is about the other one. -/
def linkedJoin? (query : Query) (first second : String) : Option Nat :=
  query.joins.findIdx? fun join =>
    join.isOfEither first second && join.mentions (join.other first second)

/-- The first join of one of two tables before which the other one is there. -/
def availableJoin? (query : Query) (first second : String) : Option Nat :=
  (query.joins.zipIdx.find? fun (join, index) =>
    join.isOfEither first second &&
      (query.source.table == join.other first second ||
        (query.joins.take index).any (·.table == join.other first second))).map (·.2)

/-- The first join of one of two tables. -/
def firstJoin? (query : Query) (first second : String) : Option Nat :=
  query.joins.findIdx? (·.isOfEither first second)

/-- The join that an equality between two tables moves to. -/
def chooseJoin? (query : Query) (first second : String) : Option Nat :=
  query.linkedJoin? first second <|> query.availableJoin? first second <|>
    query.firstJoin? first second

/-- The query with one more predicate in the condition of a join, unless an equivalent one is
there. -/
def pushCondition (query : Query) (index : Nat) (predicate : Predicate) : Query :=
  { query with
    joins := query.joins.modify index fun join =>
      { join with condition := Conjunction.pushUnique join.condition predicate } }

/-- What is said about an equality that moves to a join. -/
def conditionNote (predicate : Predicate) (join : Join) : Note :=
  if Conjunction.covers join.condition predicate then .conditionDropped predicate join.table
  else .conditionMoved predicate join.table

/-- Moves one conjunct to the join it belongs to, or keeps it. -/
def moveConjunct (revision : Revision) (predicate : Predicate) : Revision :=
  match predicate.joinedTables? with
  | none => revision.keep predicate
  | some (first, second) =>
    match revision.query.chooseJoin? first second with
    | none => (revision.warn (.noMatchingJoin predicate)).keep predicate
    | some index =>
      let notes := (revision.query.joins[index]?.map (conditionNote predicate)).toList
      { revision with
        query := revision.query.pushCondition index predicate
        notes := revision.notes ++ notes }

/-- The joins with a condition, in order, and then those without one. -/
def productsLast (joins : List Join) : List Join :=
  joins.filter (·.hasCondition) ++ joins.filter (!·.hasCondition)

/-- The query with its products after its other joins. -/
def orderProducts (query : Query) : Query := { query with joins := productsLast query.joins }

/-- What is said about a query whose products are put last. -/
def orderNotes (query : Query) : List Note :=
  let before := query.joins.map (·.table)
  let after := (productsLast query.joins).map (·.table)
  if before = after then [] else [.productsLast before after]

/-- Avoids cartesian products. -/
def avoidProducts (query : Query) : Revision :=
  if query.joins.isEmpty then .unchanged query
  else
    let moved := query.filter.foldl moveConjunct (.unchanged { query with filter := [] })
    ⟨moved.query.orderProducts, moved.warnings, moved.notes ++ moved.query.orderNotes⟩

/-- Putting products last only changes the order of joins. -/
theorem productsLast_perm (joins : List Join) : (productsLast joins).Perm joins :=
  List.filter_append_perm _ joins

end Query

end RelPlan
