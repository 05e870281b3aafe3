import RelPlan.Optimizer.Basic

/-!
# Pushing selections down

Every conjunct of the condition that is about exactly one table of the query moves to the
access to that table, so its rows are filtered before they are joined.
-/

namespace RelPlan

namespace Access

/-- The access with one more predicate in its filter, unless an equivalent one is there. -/
def push (access : Access) (predicate : Predicate) : Access :=
  { access with selection := access.selection.pushUnique predicate }

end Access

namespace Join

/-- Changes the access of the first of some joins whose table has the given name. -/
def modifyAccess (table : String) (change : Access → Access) : List Join → List Join
  | [] => []
  | join :: joins =>
    if join.table = table then { join with access := change join.access } :: joins
    else join :: modifyAccess table change joins

end Join

namespace Query

/-- Changes the first access to a table. -/
def modifyAccess (table : String) (change : Access → Access) (query : Query) : Query :=
  if query.source.table = table then
    { query with source.access := change query.source.access }
  else { query with joins := Join.modifyAccess table change query.joins }

/-- Moves one conjunct to the access it belongs to, or keeps it. -/
def pushConjunct (joined : Bool) (revision : Revision) (predicate : Predicate) : Revision :=
  match predicate.onlyTable? with
  | none => revision.keep predicate
  | some table =>
    match revision.query.accessOf? table with
    | none => (revision.warn (.unknownTable table predicate)).keep predicate
    | some access =>
      let moved := { revision with query := revision.query.modifyAccess table (·.push predicate) }
      if access.selection.covers predicate then moved
      else moved.note (.filterPushed table predicate joined)

/-- Pushes selections down. -/
def pushSelections (query : Query) : Revision :=
  query.filter.foldl (pushConjunct !query.joins.isEmpty) (.unchanged { query with filter := [] })

end Query

end RelPlan
