import RelPlan.Catalog.Error
import RelPlan.Catalog.Identifier
import RelPlan.Catalog.Schema
import RelPlan.Catalog.Statistics
import RelPlan.CommandLine.Arguments
import RelPlan.CommandLine.Files
import RelPlan.CommandLine.Report
import RelPlan.CommandLine.Run
import RelPlan.CommandLine.Session
import RelPlan.Json.Basic
import RelPlan.Json.Decode
import RelPlan.Json.Fault
import RelPlan.Json.Printer
import RelPlan.Json.Reader
import RelPlan.Log
import RelPlan.Main
import RelPlan.NameMap
import RelPlan.NameSet
import RelPlan.Optimizer.Basic
import RelPlan.Optimizer.Cartesian
import RelPlan.Optimizer.Cost
import RelPlan.Optimizer.Heuristic
import RelPlan.Optimizer.Order
import RelPlan.Optimizer.Pipeline
import RelPlan.Optimizer.Projection
import RelPlan.Optimizer.Selection
import RelPlan.Plan.Basic
import RelPlan.Plan.Stage
import RelPlan.Plan.Steps
import RelPlan.Plan.Tree
import RelPlan.Predicate.Basic
import RelPlan.Predicate.Codec
import RelPlan.Predicate.Condition
import RelPlan.Predicate.Lexer
import RelPlan.Predicate.Parser
import RelPlan.Predicate.Printer
import RelPlan.Predicate.Token
import RelPlan.Query.Basic
import RelPlan.Query.Clause
import RelPlan.Query.Codec
import RelPlan.Query.Error
import RelPlan.Query.Parser
import RelPlan.Query.Printer
import RelPlan.Text.Alphabetic
import RelPlan.Text.Backspace
import RelPlan.Text.Blank
import RelPlan.Text.Bytes
import RelPlan.Text.CodeRange
import RelPlan.Text.Grapheme.Cluster
import RelPlan.Text.Grapheme.Kind
import RelPlan.Text.Numeric
import RelPlan.Text.Plain
import RelPlan.Text.Quoted
import RelPlan.Text.Reader
import RelPlan.Text.Split
import RelPlan.Text.Upper
import RelPlan.Text.Visible
import RelPlan.Text.Word
import RelPlan.Proofs.Catalog.Collision
import RelPlan.Proofs.Except
import RelPlan.Proofs.Json.Layout
import RelPlan.Proofs.Json.Printing
import RelPlan.Proofs.Json.Strings
import RelPlan.Proofs.Optimizer.Choice
import RelPlan.Proofs.Optimizer.Commutation
import RelPlan.Proofs.Optimizer.Conservation
import RelPlan.Proofs.Optimizer.Equalities
import RelPlan.Proofs.Optimizer.Filters
import RelPlan.Proofs.Optimizer.Idempotence
import RelPlan.Proofs.Optimizer.JoinOrder
import RelPlan.Proofs.Optimizer.Meaning
import RelPlan.Proofs.Optimizer.Moves
import RelPlan.Proofs.Optimizer.Owners
import RelPlan.Proofs.Optimizer.Placement
import RelPlan.Proofs.Optimizer.Products
import RelPlan.Proofs.Optimizer.Projections
import RelPlan.Proofs.Optimizer.Ranking
import RelPlan.Proofs.Optimizer.Scoping
import RelPlan.Proofs.Optimizer.Selections
import RelPlan.Proofs.Optimizer.Undoing
import RelPlan.Proofs.Plan.Drawing
import RelPlan.Proofs.Plan.Rows
import RelPlan.Proofs.Plan.Steps
import RelPlan.Proofs.Predicate.Columns
import RelPlan.Proofs.Predicate.Completeness
import RelPlan.Proofs.Predicate.Content
import RelPlan.Proofs.Predicate.Coverage
import RelPlan.Proofs.Predicate.Cutting
import RelPlan.Proofs.Predicate.Derivation
import RelPlan.Proofs.Predicate.EqualSigns
import RelPlan.Proofs.Predicate.Equivalence
import RelPlan.Proofs.Predicate.Grammar
import RelPlan.Proofs.Predicate.Lexing
import RelPlan.Proofs.Predicate.Names
import RelPlan.Proofs.Predicate.NormalForm
import RelPlan.Proofs.Predicate.Precedence
import RelPlan.Proofs.Predicate.Printing
import RelPlan.Proofs.Predicate.Pushing
import RelPlan.Proofs.Predicate.RoundTrip
import RelPlan.Proofs.Predicate.Runs
import RelPlan.Proofs.Predicate.Segments
import RelPlan.Proofs.Predicate.Separation
import RelPlan.Proofs.Predicate.Shape
import RelPlan.Proofs.Query.Acceptance
import RelPlan.Proofs.Query.Clauses
import RelPlan.Proofs.Query.Codec
import RelPlan.Proofs.Query.Identifiers
import RelPlan.Proofs.Query.JoinStarts
import RelPlan.Proofs.Query.JoinTiling
import RelPlan.Proofs.Query.Layout
import RelPlan.Proofs.Query.Malformed
import RelPlan.Proofs.Query.Parts
import RelPlan.Proofs.Query.Reading
import RelPlan.Proofs.Query.Restriction
import RelPlan.Proofs.Query.RoundTrip
import RelPlan.Proofs.Query.WellFormed
import RelPlan.Proofs.Query.Written
import RelPlan.Proofs.Text.Blank
import RelPlan.Proofs.Text.Cuts
import RelPlan.Proofs.Text.Reader
import RelPlan.Proofs.Text.Upper
