import RelPlan.Predicate.Printer

/-!
# Errors in queries

Why a text is not accepted as a query. The first rule that it breaks is reported.
-/

namespace RelPlan

/-- What is wrong with a column. -/
inductive ColumnFault where
  | starAmongOthers
  | reserved
  | blankInside
  | notOnePair
  | notIdentifier
  | unknown
  | ofNoTable
deriving DecidableEq

/-- What is wrong with a table. -/
inductive TableFault where
  | notIdentifier
  | unknown
deriving DecidableEq

/-- What is wrong with a join. -/
inductive JoinFault where
  | malformed
  | badTable (name : String)
  | badName (name : String)
  | unknownColumn (column : ColumnRef)
deriving DecidableEq

/-- Why a query is refused. -/
inductive QueryError where
  | missingTerminator
  | missingSelect
  | malformed
  | column (name : String) (fault : ColumnFault)
  | table (name : String) (fault : TableFault)
  | join (clause : String) (fault : JoinFault)
  | emptyWhere
deriving DecidableEq

/-- The fault in words. -/
def ColumnFault.message : ColumnFault → String
  | starAmongOthers => "'*' cannot be combined with other columns"
  | reserved => "reserved word"
  | blankInside => "unexpected whitespace inside the column name"
  | notOnePair => "expected exactly one TABLE.COLUMN pair"
  | notIdentifier => "not a valid identifier"
  | unknown => "unknown column"
  | ofNoTable => "column does not belong to any table in the query"

/-- The fault in words. -/
def TableFault.message : TableFault → String
  | notIdentifier => "not a valid identifier"
  | unknown => "unknown table"

/-- The fault in words. -/
def JoinFault.message : JoinFault → String
  | malformed => "expected INNER JOIN <table> ON <table>.<column> = <table>.<column>"
  | badTable name => "'" ++ name ++ "' is not a valid table name"
  | badName name => "'" ++ name ++ "' is not a valid identifier"
  | unknownColumn column => "unknown column " ++ column.text

/-- The error in words. -/
def QueryError.message : QueryError → String
  | missingTerminator => "Missing ';' statement terminator at the end of the query"
  | missingSelect => "Query must start with SELECT"
  | malformed =>
    "Syntax error: query does not match SELECT ... FROM ... [INNER JOIN ... ON ...] [WHERE ...]"
  | column name fault => "Invalid column '" ++ name ++ "': " ++ fault.message
  | table name fault => "Invalid table '" ++ name ++ "': " ++ fault.message
  | join clause fault => "Invalid INNER JOIN '" ++ clause ++ "': " ++ fault.message
  | emptyWhere => "WHERE condition is empty"

end RelPlan
