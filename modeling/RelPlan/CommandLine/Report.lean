import RelPlan.Json.Printer
import RelPlan.Plan.Stage
import RelPlan.Plan.Steps
import RelPlan.Plan.Tree
import RelPlan.Optimizer.Pipeline

/-!
# Reports

The texts that commands print: conversions, optimizations and explanations of queries, and the
help of the shell.
-/

namespace RelPlan

namespace Report

/-- Lines of text, each with a line break behind it. -/
def unlines (lines : List String) : String :=
  lines.foldr (fun line rest => line ++ "\n" ++ rest) ""

/-- A text filled up with blanks to the given number of characters. -/
def padTo (width : Nat) (text : String) : String :=
  text ++ String.ofList (List.replicate (width - text.length) ' ')

/-- A query as an expression of relational algebra. -/
def conversion (query : Query) : String := unlines [query.algebra]

/-- The stages of a query, each on its line. -/
def stages (query : Query) : String :=
  unlines (query.stages.map fun (name, text) => padTo 11 (name ++ ":") ++ " " ++ text)

/-- The stages of a query as JSON. -/
def stagesJson (query : Query) : String :=
  unlines [(Json.object (query.stages.map fun (name, text) => (name, .string text))).print]

/-- What a heuristic did, and what it gave. -/
def step (step : AppliedStep) : List String :=
  ["", "[" ++ step.heuristic.name ++ "]"] ++
    step.revision.notes.map (fun note => "  - " ++ note.text) ++
    step.revision.warnings.map (fun warning => "  ! " ++ warning.message) ++
    ["  " ++ step.revision.query.algebra]

/-- How a query was optimized. -/
def optimization (optimized : Optimized) : String :=
  unlines <|
    ["Original:  " ++ optimized.given.algebra] ++ optimized.steps.flatMap step ++
      ["", "Optimized: " ++ optimized.query.algebra]

/-- How a query was optimized as JSON. -/
def optimizationJson (optimized : Optimized) : String := unlines [(toJson optimized).print]

/-- The steps of a query with their numbers. -/
def numberedSteps (query : Query) : List String :=
  (Step.ofQuery query).zipIdx.map fun (step, index) =>
    "  " ++ toString (index + 1) ++ ". " ++ step.kind.name ++ " - " ++ step.description

/-- The plan of a query, the order in which it is carried out, and its numbers. -/
def explanation (query : Query) : String :=
  unlines <|
    ["Plan:"] ++ (Text.lines query.tree).map ("  " ++ ·) ++ ["", "Execution order:"] ++
      numberedSteps query ++ ["", "Statistics:", (toJson (Summary.ofQuery query)).print]

/-- The help of the shell. -/
def help : String :=
  unlines
    ["Enter a query to see its relational algebra before and after optimization.",
     "",
     "Supported queries:",
     "  SELECT <columns | *> FROM <table>",
     "    [INNER JOIN <table> ON <table>.<column> = <table>.<column>]...",
     "    [WHERE <condition>];",
     "",
     "Other commands:",
     "  help                          - Display this help message",
     "  exit                          - Exit the shell"]

end Report

end RelPlan
