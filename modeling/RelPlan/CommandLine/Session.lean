import RelPlan.Query.Parser
import RelPlan.Optimizer.Pipeline
import RelPlan.CommandLine.Arguments
import RelPlan.CommandLine.Files

/-!
# Sessions

What is loaded before a command is carried out: the schema that queries are read against and
the heuristics that they are optimized with.
-/

namespace RelPlan

/-- What commands work with. -/
structure Session where
  schema : Schema
  optimizer : Optimizer
  verbose : Bool

/-- Why a command fails. -/
inductive Failure where
  | schema (path : String) (error : ConfigError)
  | statistics (path : String) (error : ConfigError)
  | query (error : QueryError)
deriving DecidableEq

namespace Failure

/-- The failure in words. -/
def message : Failure → String
  | schema path _ => "Failed to load schema from " ++ path
  | statistics path _ => "Failed to load statistics from " ++ path
  | query error => error.message

/-- The causes of a configuration error, the nearest one first. -/
def configCauses (error : ConfigError) : List String := error.message :: error.source?.toList

/-- The causes of the failure, the nearest one first. -/
def causes : Failure → List String
  | schema _ error => configCauses error
  | statistics _ error => configCauses error
  | query _ => []

/-- A text whose lines after the first are moved in. -/
def hanging (margin : String) (text : String) : String :=
  Text.joinWith ("\n" ++ margin) ((Text.splitAt '\n' text.toList).map String.ofList)

/-- The causes on lines of their own, with numbers if there is more than one. -/
def causeLines : List String → List String
  | [] => []
  | [cause] => ["    " ++ hanging "    " cause]
  | causes =>
    causes.zipIdx.map fun (cause, index) =>
      let number := toString index
      String.ofList (List.replicate (5 - number.length) ' ') ++ number ++ ": " ++
        hanging "       " cause

/-- What is printed of the failure. -/
def report (failure : Failure) : String :=
  let causes := causeLines failure.causes
  let shown := if causes.isEmpty then [] else ["", "Caused by:"] ++ causes
  Text.joinWith "\n" (("Error: " ++ failure.message) :: shown) ++ "\n"

end Failure

/-- The schema of a file, by its path and what reading it gives. -/
def Schema.ofFile (path : String) : Except FileFailure String → Except ConfigError Schema
  | .ok text => Schema.ofJson path text
  | .error failure => .error (.file path failure)

/-- The statistics of a file, by its path and what reading it gives. -/
def Statistics.ofFile (path : String) : Except FileFailure String → Except ConfigError Statistics
  | .ok text => Statistics.ofJson path text
  | .error failure => .error (.file path failure)

namespace Session

section Loading

variable {m : Type → Type} [Monad m] (read : String → m (Except FileFailure String))

/-- The schema that the options name, or the standard one. -/
def loadSchema : Option String → ExceptT Failure m Schema
  | some path => ExceptT.mk do
    return (Schema.ofFile path (← read path)).mapError (.schema path)
  | none => return .standard

/-- The statistics that the options name. -/
def loadStatistics : Option String → ExceptT Failure m (Option Statistics)
  | some path => ExceptT.mk do
    return ((Statistics.ofFile path (← read path)).map some).mapError (.statistics path)
  | none => return none

/-- Loads what the options name, by a way to read files: first the schema, then the
statistics. -/
def load (options : Options) : ExceptT Failure m Session := do
  let schema ← loadSchema read options.schema
  let statistics ← loadStatistics read options.stats
  return {
    schema
    optimizer := ⟨options.heuristics.getD Heuristic.standardOrder, ⟨some schema, statistics⟩⟩
    verbose := options.verbose }

variable {read}

/-- Loading reads no files but those that the options name. -/
theorem load_congr {other : String → m (Except FileFailure String)} {options : Options}
    (h : ∀ path ∈ options.paths, read path = other path) :
    load read options = load other options := by
  rw [Options.paths, List.forall_mem_append] at h
  have hschema : loadSchema read options.schema = loadSchema other options.schema := by
    cases hpath : options.schema with
    | none => rfl
    | some path => rw [loadSchema, loadSchema, h.1 path (by simp [hpath])]
  have hstats : loadStatistics read options.stats = loadStatistics other options.stats := by
    cases hpath : options.stats with
    | none => rfl
    | some path => rw [loadStatistics, loadStatistics, h.2 path (by simp [hpath])]
  rw [load, load, hschema, hstats]

end Loading

/-- The lines of the records that are shown. -/
def logLines (session : Session) (records : List Log.Record) : String :=
  (records.filter (·.level.isShown session.verbose)).foldr
    (fun record rest => record.line ++ rest) ""

end Session

end RelPlan
