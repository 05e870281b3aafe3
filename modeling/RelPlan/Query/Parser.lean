import RelPlan.Catalog.Schema
import RelPlan.Log
import RelPlan.Predicate.Condition
import RelPlan.Query.Basic
import RelPlan.Query.Clause
import RelPlan.Query.Error

/-!
# Reading queries

A text becomes a query in three steps: its clauses are found, they are checked against the
schema one after another and make up a query, and the columns of the query are checked against
the schema. The text is raised to upper case first, so strings in it are upper case as well.
-/

namespace RelPlan

namespace Query

open Text

section

variable [WordClass]

/-- Why a text is not laid out as a query. -/
def diagnose (text : List Char) : QueryError :=
  if Clause.hasDanglingWhere text then .emptyWhere
  else
    match Clause.malformedJoin? text with
    | some clause => .join (String.ofList clause) .malformed
    | none => .malformed

/-- Whether the text begins with the word `SELECT` and white space. -/
def opensWithSelect (text : List Char) : Bool :=
  Clause.selectWord.isPrefixOf text &&
    ((text.drop Clause.selectWord.length).head?.map isBlank).getD false

/-- The text without the semicolons at its end. -/
def dropTerminators (text : List Char) : List Char :=
  (text.reverse.dropWhile (· == ';')).reverse

/-- The clauses of a text in upper case without white space around it. -/
def outline (text : List Char) : Except QueryError Clause.Outline :=
  if text.getLast? ≠ some ';' then .error .missingTerminator
  else if !opensWithSelect text then .error .missingSelect
  else
    let body := trimChars (dropTerminators text)
    match Clause.outline? body with
    | some outline => .ok outline
    | none => .error (diagnose body)

/-! ## Columns, tables and joins -/

/-- A column that is asked for by name. -/
def readColumn (schema : Schema) (entry : List Char) : Except QueryError ColumnRef :=
  let refuse (fault : ColumnFault) : Except QueryError ColumnRef :=
    .error (.column (String.ofList entry) fault)
  if schema.isReserved (String.ofList entry) then refuse .reserved
  else if entry.any isBlank then refuse .blankInside
  else if entry.contains '.' then
    match splitAt '.' entry with
    | [table, name] =>
      if isIdentifierChars table && isIdentifierChars name then
        if schema.isReserved (String.ofList name) then refuse .reserved
        else .ok (.qualified (String.ofList table) (String.ofList name))
      else refuse .notOnePair
    | _ => refuse .notOnePair
  else if isIdentifierChars entry then .ok (.bare (String.ofList entry))
  else refuse .notIdentifier

/-- The columns between commas, or a star alone. -/
def readSelect (schema : Schema) (text : List Char) : Except QueryError SelectList :=
  let entries := (splitAt ',' text).map trimChars
  if entries = [['*']] then .ok .all
  else if entries.contains ['*'] then .error (.column "*" .starAmongOthers)
  else (entries.mapM (readColumn schema)).map .columns

/-- A table that the schema has. -/
def checkTable (schema : Schema) (table : String) : Except QueryError Unit :=
  if !isIdentifier table then .error (.table table .notIdentifier)
  else if !schema.hasTable table then .error (.table table .unknown)
  else .ok ()

/-- The first name that is no identifier. -/
def badName? (names : List (List Char)) : Option (List Char) :=
  names.find? (!isIdentifierChars ·)

/-- The first column that its table does not have. -/
def unknownColumn? (schema : Schema) (columns : List ColumnRef) : Option ColumnRef :=
  columns.find? fun column => !schema.hasColumn (column.table.getD "") column.name

/-- The join that a clause describes. -/
def readJoin (schema : Schema) (clause : List Char) (words : Clause.JoinWords) :
    Except QueryError Join :=
  let refuse (fault : JoinFault) : Except QueryError Join :=
    .error (.join (String.ofList clause) fault)
  let table := String.ofList words.table
  let left := ColumnRef.qualified (String.ofList words.leftTable) (String.ofList words.leftColumn)
  let right :=
    ColumnRef.qualified (String.ofList words.rightTable) (String.ofList words.rightColumn)
  if !isIdentifier table then refuse (.badTable table)
  else
    match badName? [words.leftTable, words.leftColumn, words.rightTable, words.rightColumn] with
    | some name => refuse (.badName (String.ofList name))
    | none =>
      if !schema.hasTable table then .error (.table table .unknown)
      else
        match unknownColumn? schema [left, right] with
        | some column => refuse (.unknownColumn column)
        | none => .ok (.ofTable table [.compare ⟨.column left, .eq, .column right⟩])

/-- The joins that a text describes. -/
def readJoins (schema : Schema) (text : List Char) : Except QueryError (List Join) :=
  (Clause.joinsIn text).mapM fun (clause, words) => readJoin schema clause words

/-- The condition of a query, which must not be blank. -/
def readFilter : Option (List Char) → Except QueryError Conjunction
  | none => .ok []
  | some text =>
    if (trimChars text).isEmpty then .error .emptyWhere
    else .ok (Condition.ofChars (trimChars text))

/-- The query that some clauses describe. -/
def ofOutline (schema : Schema) (outline : Clause.Outline) : Except QueryError Query := do
  let select ← readSelect schema outline.select
  let table := String.ofList outline.table
  checkTable schema table
  let joins ← readJoins schema outline.joins
  let filter ← readFilter outline.filter
  return .ofTable select table joins filter

/-! ## References -/

/-- The columns in the order in which they are checked: those that are asked for, and those of
the condition. -/
def checkedColumns (query : Query) : List ColumnRef :=
  query.select.named ++ query.filter.columns

/-- What is wrong with a column of a query. An open schema has nothing against it. -/
def columnFault? (schema : Schema) (tables : List String) (column : ColumnRef) :
    Option ColumnFault :=
  if !schema.isClosed then none
  else
    match column.table with
    | some table => if schema.hasColumn table column.name then none else some .unknown
    | none => if tables.any (schema.hasColumn · column.name) then none else some .ofNoTable

/-- The first of some columns with which something is wrong. -/
def checkColumns (schema : Schema) (tables : List String) : List ColumnRef → Except QueryError Unit
  | [] => .ok ()
  | column :: columns =>
    match columnFault? schema tables column with
    | some fault => .error (.column column.text fault)
    | none => checkColumns schema tables columns

/-- Checks the columns of a query. -/
def checkReferences (schema : Schema) (query : Query) : Except QueryError Unit :=
  checkColumns schema query.tables query.checkedColumns

/-- The text in which the clauses of a query are looked for. -/
def canonical (text : String) : List Char := upperChars (trimChars text.toList)

/-- The query that a text in upper case without white space around it describes. -/
def ofCanonical (schema : Schema) (text : List Char) : Except QueryError Query := do
  let outline ← outline text
  let query ← ofOutline schema outline
  checkReferences schema query
  return query

/-- The query that a text describes. -/
def ofText (schema : Schema) (text : String) : Except QueryError Query :=
  ofCanonical schema (canonical text)

/-! ## What is reported -/

/-- A condition is reported if it does not follow the grammar as a whole. -/
def conditionRecords (outline : Clause.Outline) : List Log.Record :=
  match outline.filter with
  | none => []
  | some text =>
    let text := String.ofList (trimChars text)
    match Condition.fault? text with
    | some fault =>
      [⟨.debug, .condition,
        "Predicate '" ++ text ++ "' kept partially opaque: " ++ fault.message⟩]
    | none => []

/-- The columns that are looked at: all up to the first with which something is wrong. -/
def visitedColumns (schema : Schema) (tables : List String) : List ColumnRef → List ColumnRef
  | [] => []
  | column :: columns =>
    match columnFault? schema tables column with
    | some _ => [column]
    | none => column :: visitedColumns schema tables columns

/-- A column of a table that is not in the query is reported. -/
def columnRecord? (tables : List String) (column : ColumnRef) : Option Log.Record :=
  match column.table with
  | some table =>
    if tables.contains table then none
    else
      some ⟨.warn, .query,
        "Column " ++ column.text ++ " references table " ++ table ++
          " which is not part of the query"⟩
  | none => none

/-- What is reported of a query before its verdict. -/
def detailRecords (schema : Schema) (text : List Char) : List Log.Record :=
  match outline text with
  | .error _ => []
  | .ok outline =>
    match ofOutline schema outline with
    | .error _ => []
    | .ok query =>
      conditionRecords outline ++
        (visitedColumns schema query.tables query.checkedColumns).filterMap
          (columnRecord? query.tables)

/-- Whether a text is accepted is reported. -/
def verdictRecord : Except QueryError Query → Log.Record
  | .ok query =>
    ⟨.debug, .query,
      "Query is syntactically valid: FROM " ++ query.source.table ++ " with " ++
        toString query.joins.length ++ " join(s)"⟩
  | .error error => ⟨.warn, .query, "Rejected query: " ++ error.message⟩

/-- What is reported while a text is read. -/
def records (schema : Schema) (text : String) : List Log.Record :=
  detailRecords schema (canonical text) ++ [verdictRecord (ofText schema text)]

end

end Query

end RelPlan
