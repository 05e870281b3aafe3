import RelPlan.Predicate.Printer
import RelPlan.Query.Codec

/-!
# Revised queries

A heuristic gives a query that means the same, warnings about what had to stay as it was, and
notes about what was moved.
-/

namespace RelPlan

/-- Why a part of a query stays as it is. -/
inductive Warning where
  | unknownTable (table : String) (predicate : Predicate)
  | unresolvedColumn (column : String)
  | noMatchingJoin (predicate : Predicate)
deriving DecidableEq

namespace Warning

/-- The warning in words. -/
def message : Warning → String
  | unknownTable table predicate =>
    "predicate '" ++ predicate.text ++ "' references table " ++ table ++
      ", which is not part of the query"
  | unresolvedColumn column =>
    "column " ++ column ++ " cannot be attributed to a table; projection push-down skipped"
  | noMatchingJoin predicate =>
    "no join involves the tables of '" ++ predicate.text ++ "'; it stays in WHERE"

end Warning

instance : ToJson Warning where
  toJson
    | .unknownTable table predicate =>
      .variant "UnknownTable"
        (.object [("table", .string table), ("predicate", .string predicate.text)])
    | .unresolvedColumn column =>
      .variant "UnresolvedColumn" (.object [("column", .string column)])
    | .noMatchingJoin predicate =>
      .variant "NoMatchingJoin" (.object [("predicate", .string predicate.text)])

/-- What a heuristic did. -/
inductive Note where
  | filterPushed (table : String) (predicate : Predicate) (joined : Bool)
  | nothingToProject
  | columnsRead (table : String) (columns : NameSet)
  | conditionMoved (predicate : Predicate) (table : String)
  | conditionDropped (predicate : Predicate) (table : String)
  | productsLast (before after : List String)
  | joinScores (scores : List (String × Nat))
  | joinOrder (before after : List String)
deriving DecidableEq

namespace Note

/-- Names with commas between them. -/
def listed (names : List String) : String := Text.joinWith ", " names

/-- A change in the order of some names. -/
def change (before after : List String) : String := listed before ++ " -> " ++ listed after

/-- The note in words. -/
def text : Note → String
  | filterPushed table predicate true =>
    "filter applied on " ++ table ++ " before the join: " ++ predicate.text
  | filterPushed table predicate false =>
    "filter applied while scanning " ++ table ++ ": " ++ predicate.text
  | nothingToProject => "SELECT * needs every column; nothing to push down"
  | columnsRead table columns => "columns read from " ++ table ++ ": " ++ listed columns.toList
  | conditionMoved predicate table =>
    "condition " ++ predicate.text ++ " moved from WHERE into the join with " ++ table
  | conditionDropped predicate table =>
    "condition " ++ predicate.text ++ " already joins " ++ table ++ "; dropped from WHERE"
  | productsLast before after => "cartesian products moved last: " ++ change before after
  | joinScores scores =>
    "join scores: " ++ listed (scores.map fun (table, score) => table ++ "=" ++ toString score)
  | joinOrder before after => "join order: " ++ change before after

end Note

/-- A revised query, with the warnings and the notes about it. -/
structure Revision where
  query : Query
  warnings : List Warning
  notes : List Note
deriving DecidableEq

namespace Revision

/-- A query as it was, with nothing to say about it. -/
def unchanged (query : Query) : Revision := ⟨query, [], []⟩

/-- The revision with one warning more. -/
def warn (revision : Revision) (warning : Warning) : Revision :=
  { revision with warnings := revision.warnings ++ [warning] }

/-- The revision with one note more. -/
def note (revision : Revision) (note : Note) : Revision :=
  { revision with notes := revision.notes ++ [note] }

/-- The revision with one predicate more in the condition of the query. -/
def keep (revision : Revision) (predicate : Predicate) : Revision :=
  { revision with query.filter := revision.query.filter ++ [predicate] }

end Revision

end RelPlan
