import RelPlan.CommandLine.Report
import RelPlan.CommandLine.Session
import RelPlan.Text.Backspace

/-!
# Carrying out commands

What a command prints and with which code it ends, as a function of its arguments, of the
files and of what is typed.
-/

namespace RelPlan

/-- What a command prints, and the code it ends with. -/
structure Outcome where
  code : Nat
  output : String
  log : String
deriving DecidableEq

/-- What the shell prints for a line, and whether it goes on. -/
structure Reply where
  output : String
  log : String
  goesOn : Bool
deriving DecidableEq

namespace Shell

/-- What the shell prints first. -/
def greeting : String :=
  Report.unlines ["Welcome to relopt. Type 'help' for assistance or 'exit' to quit."]

/-- What the shell prints when nothing more is typed. -/
def farewell : String := Report.unlines ["CTRL-D"]

/-- The answer to a query. -/
def answer (session : Session) (text : String) : Reply :=
  let records := Query.records session.schema text
  match Query.ofText session.schema text with
  | .ok query =>
    let optimized := session.optimizer.optimize query
    ⟨Report.optimization optimized, session.logLines (records ++ optimized.records), true⟩
  | .error error =>
    ⟨Report.unlines ["Error: " ++ error.message], session.logLines records, true⟩

/-- The answer to a line as it is typed. Words of the shell may be in any letter case. -/
def reply (session : Session) (line : String) : Reply :=
  let text := Text.trim (String.ofList (Text.erased line.toList))
  let word := String.ofList (text.toList.map Char.toLower)
  if text.isEmpty then ⟨"", "", true⟩
  else if word = "exit" ∨ word = "quit" then ⟨Report.unlines ["Goodbye!"], "", false⟩
  else if word = "help" then ⟨Report.help, "", true⟩
  else answer session text

/-- The answers to some lines up to the one that ends the shell. -/
def replies (session : Session) : List String → List Reply
  | [] => [⟨farewell, "", false⟩]
  | line :: lines =>
    let first := reply session line
    if first.goesOn then first :: replies session lines else [first]

/-- Several texts as one. -/
def together (texts : List String) : String := texts.foldr (· ++ ·) ""

/-- All that the shell prints for what is typed. -/
def run (session : Session) (input : String) : Outcome :=
  let answers := replies session (Text.lines input)
  ⟨0, greeting ++ together (answers.map (·.output)), together (answers.map (·.log))⟩

end Shell

namespace Session

/-- What a command prints for a query that may not be accepted. -/
def withQuery (session : Session) (text : String) (print : Query → String × List Log.Record) :
    Outcome :=
  let records := Query.records session.schema text
  match Query.ofText session.schema text with
  | .ok query => ⟨0, (print query).1, session.logLines (records ++ (print query).2)⟩
  | .error error => ⟨1, "", session.logLines records ++ (Failure.query error).report⟩

/-- Carries out a command. -/
def run (session : Session) (input : String) : Command → Outcome
  | .shell => Shell.run session input
  | .convert text steps json =>
    session.withQuery text fun query =>
      (if json then Report.stagesJson query
        else if steps then Report.stages query
        else Report.conversion query, [])
  | .optimize text json explain =>
    session.withQuery text fun query =>
      let optimized := session.optimizer.optimize query
      let report :=
        if json then Report.optimizationJson optimized else Report.optimization optimized
      (report ++ (if explain then "\n" ++ Report.explanation optimized.query else ""),
        optimized.records)
  | .explain text => session.withQuery text fun query => (Report.explanation query, [])

end Session

namespace CommandLine

/-- How the program is called. -/
def usage : String :=
  Report.unlines
    ["relopt - SQL queries as relational algebra, before and after optimization",
     "",
     "Usage: relopt [OPTIONS] [COMMAND]",
     "",
     "Commands:",
     "  shell                                 Start an interactive shell",
     "  convert [--steps] [--json] <QUERY>    Print a query as relational algebra",
     "  optimize [--json] [--explain] <QUERY> Optimize a query",
     "  explain <QUERY>                       Show plan, execution steps and statistics",
     "  help                                  Print this message",
     "",
     "Options:",
     "  -s, --schema <SCHEMA>          Schema descriptor (JSON)",
     "      --stats <STATS>            Per-table row estimates (JSON)",
     "      --heuristics <HEURISTICS>  Heuristics to run, comma separated, in order",
     "  -v, --verbose                  Log more than warnings",
     "  -h, --help                     Print help",
     "  -V, --version                  Print version"]

/-- The name of the program with its version. -/
def version : String := Report.unlines ["relopt 0.1.0"]

/-- What is printed instead of carrying out a command. -/
def refuse : Arguments.Refusal → Outcome
  | .usage error => ⟨2, "", Report.unlines ["error: " ++ error.message]⟩
  | .help => ⟨0, usage, ""⟩
  | .version => ⟨0, version, ""⟩

/-- Carries out what the arguments ask for. The command finds typed what the files leave. -/
def run (files : Files) (input : String) (arguments : List String) : Outcome :=
  match Invocation.ofArguments arguments with
  | .error refusal => refuse refusal
  | .ok invocation =>
    match (Session.load files invocation.options).run.run input with
    | (.error failure, _) => ⟨1, "", failure.report⟩
    | (.ok session, rest) => session.run rest invocation.command

/-- What a command prints depends on no files but those that its options name. -/
theorem run_congr {files others : Files} {arguments : List String}
    (h : ∀ invocation, Invocation.ofArguments arguments = .ok invocation →
      ∀ path ∈ invocation.options.paths, files path = others path) (input : String) :
    run files input arguments = run others input arguments := by
  unfold run
  split
  · rfl
  · next invocation harguments => rw [Session.load_congr (h invocation harguments)]

/-- A file that no option names makes no difference. -/
example :
    run (WorkingDirectory.ofFiles [("t.json", "")]).read "" ["-s", "s.json", "shell"] =
      run (WorkingDirectory.ofFiles []).read "" ["-s", "s.json", "shell"] := by
  decide +kernel

end CommandLine

end RelPlan
