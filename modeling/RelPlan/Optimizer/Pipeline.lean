import RelPlan.Log
import RelPlan.Optimizer.Heuristic

/-!
# Optimizing

Heuristics are applied one after another, each to the query that the one before it gave, and
what every one of them did is kept.
-/

namespace RelPlan

/-- The heuristics to apply in order, and what they know about tables. -/
structure Optimizer where
  heuristics : List Heuristic
  knowledge : Knowledge
deriving DecidableEq

/-- The standard heuristics without any knowledge. -/
def Optimizer.standard : Optimizer := ⟨Heuristic.standardOrder, .none⟩

instance : Inhabited Optimizer := ⟨.standard⟩

/-- A heuristic that was applied, and what it gave. -/
structure AppliedStep where
  heuristic : Heuristic
  revision : Revision
deriving DecidableEq

/-- A query, and the heuristics that were applied to it. -/
structure Optimized where
  given : Query
  steps : List AppliedStep
deriving DecidableEq

namespace Optimizer

/-- Applies some heuristics one after another. -/
def applyAll (knowledge : Knowledge) (query : Query) : List Heuristic → List AppliedStep
  | [] => []
  | heuristic :: heuristics =>
    let revision := heuristic.apply knowledge query
    ⟨heuristic, revision⟩ :: applyAll knowledge revision.query heuristics

/-- Optimizes a query. -/
def optimize (optimizer : Optimizer) (query : Query) : Optimized :=
  ⟨query, applyAll optimizer.knowledge query optimizer.heuristics⟩

end Optimizer

namespace Optimized

/-- The query after the last heuristic. -/
def query (optimized : Optimized) : Query :=
  (optimized.steps.getLast?.map (·.revision.query)).getD optimized.given

/-- The warnings of all heuristics in order. -/
def warnings (optimized : Optimized) : List Warning :=
  optimized.steps.flatMap (·.revision.warnings)

/-- Whether the query is another one after the heuristics. -/
def changed (optimized : Optimized) : Bool := optimized.given ≠ optimized.query

end Optimized

instance : ToJson AppliedStep where
  toJson step :=
    .object
      [("heuristic", .string step.heuristic.name), ("model", toJson step.revision.query),
       ("warnings", toJson step.revision.warnings),
       ("notes", .ofStrings (step.revision.notes.map (·.text)))]

instance : ToJson Optimized where
  toJson optimized :=
    .object
      [("original", toJson optimized.given), ("model", toJson optimized.query),
       ("steps", toJson optimized.steps)]

namespace AppliedStep

/-- What is reported of a heuristic: its warnings and then its notes. -/
def records (step : AppliedStep) : List Log.Record :=
  let named (text : String) : String := step.heuristic.name ++ ": " ++ text
  step.revision.warnings.map (fun warning => ⟨.warn, .optimizer, named warning.message⟩) ++
    step.revision.notes.map fun note => ⟨.debug, .optimizer, named note.text⟩

end AppliedStep

/-- What is reported while a query is optimized. -/
def Optimized.records (optimized : Optimized) : List Log.Record :=
  optimized.steps.flatMap (·.records) ++
    [⟨.info, .optimizer,
      "Optimized query with " ++ toString optimized.steps.length ++ " heuristic(s)"⟩]

end RelPlan
