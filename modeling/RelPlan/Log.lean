import RelPlan.Text.Plain

/-!
# Log records

What the program reports about its work, apart from its results.
-/

namespace RelPlan

namespace Log

/-- How important a record is. -/
inductive Level where
  | debug
  | info
  | warn
deriving DecidableEq

/-- The level's name. -/
def Level.name : Level → String
  | debug => "DEBUG"
  | info => "INFO"
  | warn => "WARN"

/-- The part of the program that a record comes from. -/
inductive Origin where
  | condition
  | query
  | optimizer
deriving DecidableEq

/-- The name of the part in a log. -/
def Origin.name : Origin → String
  | condition => "relopt::query::parser::predicate"
  | query => "relopt::query::parser::parser"
  | optimizer => "relopt::query::planner::optimizer"

/-- A record: how important it is, where it comes from, and what it says. -/
structure Record where
  level : Level
  origin : Origin
  message : String
deriving DecidableEq

/-- Whether records of the level are shown. -/
def Level.isShown (verbose : Bool) : Level → Bool
  | warn => true
  | debug | info => verbose

/-- A name filled up with blanks to five characters. -/
def padded (name : String) : String :=
  name ++ String.ofList (List.replicate (5 - name.length) ' ')

/-- A message whose lines after the first are moved in by four blanks. -/
def indented (message : String) : String :=
  String.ofList <| message.toList.flatMap fun c =>
    if c = '\n' then ['\n', ' ', ' ', ' ', ' '] else [c]

/-- The record as plain text with a line break at its end. A string that the message opens and
does not close hides the line break. -/
def Record.line (record : Record) : String :=
  Text.plain <|
    "[" ++ padded record.level.name ++ " " ++ record.origin.name ++ "] " ++
      indented record.message ++ "\n"

end Log

end RelPlan
