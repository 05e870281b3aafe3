import RelPlan.Catalog.Error
import RelPlan.Json.Decode
import RelPlan.Text.Upper

/-!
# Statistics

Row counts of tables, and the estimate of how many rows are left after filters of which each
keeps one row in ten.
-/

namespace RelPlan

/-- The row counts that are known, and the one that is assumed of every other table. -/
structure Statistics where
  tableRows : NameMap UInt64
  defaultRows : UInt64
deriving DecidableEq

namespace Statistics

/-- No row counts, and a thousand rows assumed. -/
def standard : Statistics := ⟨∅, 1000⟩

instance : Inhabited Statistics := ⟨standard⟩

/-- The statistics with the row count of one table more, its name in upper case. -/
def addTable (stats : Statistics) (table : String) (rows : UInt64) : Statistics :=
  { stats with tableRows := stats.tableRows.insert (Text.upper table) rows }

/-- The row count of a table. -/
def rowsOf (stats : Statistics) (table : String) : UInt64 :=
  (stats.tableRows.get? table).getD stats.defaultRows

/-- The part of the rows that a filter keeps. -/
def selectivity : Float := 0.1

/-- The factor `acc` times a power, by squaring the base and halving the exponent. The order
of the multiplications fixes how the product is rounded. -/
def powerBy (acc base : Float) (exponent : Nat) : Float :=
  let acc := if exponent % 2 = 1 then acc * base else acc
  if 2 ≤ exponent then powerBy acc (base * base) (exponent / 2) else acc
termination_by exponent

/-- The largest number of filters that counts. -/
def maxFilters : Nat := 0x7FFFFFFF

/-- How many rows of a table are left after some filters. -/
def rowsAfterFilters (stats : Statistics) (table : String) (filters : Nat) : Float :=
  (stats.rowsOf table).toFloat * powerBy 1 selectivity (min filters maxFilters)

/-- Statistics as they are written; a part that is missing is as in the standard ones. -/
def decode : Json.Decoder Statistics
  | 0, _ => .error (.ofCause .tooDeep)
  | depth + 1, value => do
    let fields ← Json.recordFields ["table_rows", "default_rows"] value
    let tableRows ← match fields.lookup "table_rows" with
      | some rows => Json.nameMap (fun _ => Json.word) depth rows
      | none => .ok standard.tableRows
    let defaultRows ← match fields.lookup "default_rows" with
      | some rows => Json.word rows
      | none => .ok standard.defaultRows
    return ⟨tableRows, defaultRows⟩

/-- The statistics with the names in upper case; of two tables that then have one name the
later one counts. A table without a count must not be assumed empty. -/
def normalize (stats : Statistics) : Except ConfigError Statistics :=
  if stats.defaultRows = 0 then .error .noDefaultRows
  else
    .ok ⟨.ofList (stats.tableRows.toList.map fun entry => (Text.upper entry.1, entry.2)),
      stats.defaultRows⟩

/-- The statistics of a JSON text that was found at a path. -/
def ofJson (path text : String) : Except ConfigError Statistics :=
  match Json.decode decode text with
  | .ok stats => stats.normalize
  | .error fault => .error (.json path fault)

end Statistics

end RelPlan
