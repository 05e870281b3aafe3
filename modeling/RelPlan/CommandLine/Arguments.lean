import RelPlan.Optimizer.Heuristic
import RelPlan.Text.Split

/-!
# Arguments of the command line

A command with options before and behind it. Options that concern every command may stand in
either place; behind the command they count more. Everything after a double hyphen is a word.
-/

namespace RelPlan

namespace Arguments

/-- The names of the commands. -/
inductive CommandName where
  | shell
  | convert
  | optimize
  | explain
deriving DecidableEq

/-- An option that is there or not. -/
inductive Flag where
  | verbose
  | steps
  | json
  | explain
deriving DecidableEq

/-- An option with a value. -/
inductive Setting where
  | schema
  | stats
  | heuristics
deriving DecidableEq

/-- Why the arguments make no sense. -/
inductive UsageError where
  | unknownOption (name : String)
  | unknownCommand (name : String)
  | surplusWord (word : String)
  | missingQuery
  | missingValue (setting : Setting)
  | valueOfFlag (name : String)
  | repeatedFlag (flag : Flag)
  | repeatedSetting (setting : Setting)
  | emptyValue (setting : Setting)
  | unknownHeuristic (name : String)
deriving DecidableEq

/-- Why no command is carried out. -/
inductive Refusal where
  | usage (error : UsageError)
  | help
  | version
deriving DecidableEq

/-- What the options before or behind the command say. -/
structure Given where
  schema : Option String := none
  stats : Option String := none
  heuristics : Option (List Heuristic) := none
  flags : List Flag := []
  query : Option String := none
deriving DecidableEq, Inhabited

/-- Where an argument stands: before the command, or behind it. -/
abbrev Scope := Option CommandName

/-! ## Names -/

/-- The command of a name. -/
def CommandName.ofName? : String → Option CommandName
  | "shell" => some shell
  | "convert" => some convert
  | "optimize" => some optimize
  | "explain" => some explain
  | _ => none

/-- The flag of a name, if it can be given in the scope. -/
def Flag.ofName? (scope : Scope) : String → Option Flag
  | "verbose" => some verbose
  | "steps" => if scope = some .convert then some steps else none
  | "json" => if scope = some .convert ∨ scope = some .optimize then some json else none
  | "explain" => if scope = some .optimize then some explain else none
  | _ => none

/-- The setting of a name. -/
def Setting.ofName? : String → Option Setting
  | "schema" => some schema
  | "stats" => some stats
  | "heuristics" => some heuristics
  | _ => none

/-- How the setting is written. -/
def Setting.text : Setting → String
  | schema => "--schema"
  | stats => "--stats"
  | heuristics => "--heuristics"

/-- How the flag is written. -/
def Flag.text : Flag → String
  | verbose => "--verbose"
  | steps => "--steps"
  | json => "--json"
  | explain => "--explain"

/-- The error in words. -/
def UsageError.message : UsageError → String
  | unknownOption name => "unexpected argument '" ++ name ++ "' found"
  | unknownCommand name => "unrecognized subcommand '" ++ name ++ "'"
  | surplusWord word => "unexpected argument '" ++ word ++ "' found"
  | missingQuery => "the following required arguments were not provided: <QUERY>"
  | missingValue setting => "a value is required for '" ++ setting.text ++ "' but none was supplied"
  | valueOfFlag name => "unexpected value for '" ++ name ++ "' found; no more were expected"
  | repeatedFlag flag => "the argument '" ++ flag.text ++ "' cannot be used multiple times"
  | repeatedSetting setting =>
    "the argument '" ++ setting.text ++ "' cannot be used multiple times"
  | emptyValue setting => "a value is required for '" ++ setting.text ++ "' but none was supplied"
  | unknownHeuristic name =>
    "invalid value '" ++ name ++ "' for '--heuristics': " ++ Heuristic.unknownMessage name

/-! ## One argument -/

/-- What a part of an argument says. -/
inductive Item where
  | flag (flag : Flag)
  | setting (setting : Setting) (value : Option String)
  | word (text : String)
  | escape
  /-- That no command is carried out, unless a part before it is wrong. -/
  | refusal (refusal : Refusal)
deriving DecidableEq

/-- A part that makes no sense. -/
def Item.wrong (error : UsageError) : Item := .refusal (.usage error)

/-- The text before the first equals sign, and the text behind it if there is one. -/
def splitValue : List Char → List Char × Option (List Char)
  | [] => ([], none)
  | '=' :: value => ([], some value)
  | c :: cs => (c :: (splitValue cs).1, (splitValue cs).2)

/-- An argument after two hyphens. -/
def readLong (scope : Scope) (text : List Char) : Item :=
  let name := String.ofList (splitValue text).1
  let value := (splitValue text).2.map String.ofList
  let written := "--" ++ String.ofList text
  match Setting.ofName? name, Flag.ofName? scope name with
  | some setting, _ => .setting setting value
  | none, some flag => if value.isSome then .wrong (.valueOfFlag written) else .flag flag
  | none, none =>
    if value.isSome then .wrong (.unknownOption written)
    else if name = "help" then .refusal .help
    else if name = "version" ∧ scope = none then .refusal .version
    else .wrong (.unknownOption written)

/-- Letters after one hyphen. A letter with a value takes up all that follows it. -/
def readShort (scope : Scope) : List Char → List Item
  | [] => []
  | 'v' :: rest => .flag .verbose :: readShort scope rest
  | 's' :: [] => [.setting .schema none]
  | 's' :: '=' :: value => [.setting .schema (some (String.ofList value))]
  | 's' :: value => [.setting .schema (some (String.ofList value))]
  | 'h' :: _ => [.refusal .help]
  | c :: _ =>
    if c = 'V' ∧ scope = none then [.refusal .version]
    else [.wrong (.unknownOption (String.ofList ['-', c]))]

/-- What an argument says, part by part. A single hyphen is a word. -/
def readArgument (scope : Scope) (text : String) : List Item :=
  match text.toList with
  | ['-', '-'] => [.escape]
  | '-' :: '-' :: rest => [readLong scope rest]
  | '-' :: c :: rest => readShort scope (c :: rest)
  | _ => [.word text]

/-- Whether the argument is a word and not an option. -/
def isWord (text : String) : Bool :=
  match text.toList with
  | '-' :: _ :: _ => false
  | _ => true

/-! ## What the arguments say together -/

/-- A refusal because of a usage error. -/
def refuse {α : Type} (error : UsageError) : Except Refusal α := .error (.usage error)

/-- The heuristics of a list with commas. -/
def readHeuristics (value : String) : Except Refusal (List Heuristic) :=
  (Text.splitAt ',' value.toList).mapM fun name =>
    match Heuristic.ofName? (String.ofList name) with
    | some heuristic => .ok heuristic
    | none => refuse (.unknownHeuristic (String.ofList name))

/-- One flag more, which must not be there yet. -/
def Given.addFlag (given : Given) (flag : Flag) : Except Refusal Given :=
  if flag ∈ given.flags then refuse (.repeatedFlag flag)
  else .ok { given with flags := flag :: given.flags }

/-- The value of a setting. Only heuristics may be set more than once. -/
def Given.set (given : Given) (setting : Setting) (value : String) : Except Refusal Given :=
  match setting with
  | .schema =>
    if given.schema.isSome then refuse (.repeatedSetting .schema)
    else if value.isEmpty then refuse (.emptyValue .schema)
    else .ok { given with schema := some value }
  | .stats =>
    if given.stats.isSome then refuse (.repeatedSetting .stats)
    else if value.isEmpty then refuse (.emptyValue .stats)
    else .ok { given with stats := some value }
  | .heuristics =>
    (readHeuristics value).map fun heuristics =>
      { given with heuristics := some (given.heuristics.getD [] ++ heuristics) }

/-- Adds the parts of an argument one after another, up to a setting whose value is yet to come.
The first part that cannot be added decides what is refused. -/
def addItems (given : Given) : List Item → Except Refusal (Given × Option Setting)
  | [] => .ok (given, none)
  | .flag flag :: items => do addItems (← given.addFlag flag) items
  | .setting setting (some value) :: items => do addItems (← given.set setting value) items
  | .setting setting none :: _ => .ok (given, some setting)
  | .refusal refusal :: _ => .error refusal
  | .word _ :: items | .escape :: items => addItems given items

/-- Whether help is given for the words after `help`: at most the name of one command. -/
def readHelp : List String → Refusal
  | [] => .help
  | name :: rest =>
    if name ≠ "help" ∧ CommandName.ofName? name = none then .usage (.unknownCommand name)
    else
      match rest with
      | [] => .help
      | other :: _ => .usage (.unknownCommand other)

/-- What the arguments up to a command say, and the command with the arguments behind it. -/
def readBefore (given : Given) :
    List String → Except Refusal (Given × Option (CommandName × List String))
  | [] => .ok (given, none)
  | text :: rest => do
    match readArgument none text with
    | [.word name] =>
      if name = "help" then .error (readHelp rest)
      else
        match CommandName.ofName? name with
        | some command => return (given, some (command, rest))
        | none => refuse (.unknownCommand name)
    | [.escape] =>
      match rest with
      | [] => return (given, none)
      | word :: _ => refuse (.surplusWord word)
    | items =>
      match ← addItems given items with
      | (given, none) => readBefore given rest
      | (given, some setting) =>
        match rest with
        | value :: rest =>
          if isWord value then readBefore (← given.set setting value) rest
          else refuse (.missingValue setting)
        | [] => refuse (.missingValue setting)

/-- One word more behind a command, which takes one query or, if it is the shell, no word. -/
def Given.addWord (given : Given) (command : CommandName) (word : String) :
    Except Refusal Given :=
  if command = .shell ∨ given.query ≠ none then refuse (.surplusWord word)
  else .ok { given with query := some word }

/-- What the arguments behind a command say. -/
def readBehind (command : CommandName) (given : Given) : List String → Except Refusal Given
  | [] => .ok given
  | text :: rest => do
    match readArgument (some command) text with
    | [.escape] => rest.foldlM (·.addWord command) given
    | [.word word] => readBehind command (← given.addWord command word) rest
    | items =>
      match ← addItems given items with
      | (given, none) => readBehind command given rest
      | (given, some setting) =>
        match rest with
        | value :: rest =>
          if isWord value then readBehind command (← given.set setting value) rest
          else refuse (.missingValue setting)
        | [] => refuse (.missingValue setting)

end Arguments

/-- What the program is asked to do. -/
inductive Command where
  | shell
  | convert (query : String) (steps json : Bool)
  | optimize (query : String) (json explain : Bool)
  | explain (query : String)
deriving DecidableEq

/-- What concerns every command: files, heuristics, and how much is reported. -/
structure Options where
  schema : Option String
  stats : Option String
  heuristics : Option (List Heuristic)
  verbose : Bool
deriving DecidableEq

/-- The paths of the files that the options name. -/
def Options.paths (options : Options) : List String :=
  options.schema.toList ++ options.stats.toList

/-- A command with its options. -/
structure Invocation where
  options : Options
  command : Command
deriving DecidableEq

namespace Arguments

/-- The options before a command and behind it together. -/
def Given.options (before behind : Given) : Options where
  schema := behind.schema <|> before.schema
  stats := behind.stats <|> before.stats
  heuristics := behind.heuristics <|> before.heuristics
  verbose := before.flags.contains .verbose || behind.flags.contains .verbose

/-- The query behind a command, which must be there. -/
def Given.requireQuery (given : Given) : Except Refusal String :=
  match given.query with
  | some query => .ok query
  | none => refuse .missingQuery

/-- The command of a name with what is given behind it. -/
def Given.command (given : Given) : CommandName → Except Refusal Command
  | .shell => .ok .shell
  | .convert => do
    return .convert (← given.requireQuery) (given.flags.contains .steps)
      (given.flags.contains .json)
  | .optimize => do
    return .optimize (← given.requireQuery) (given.flags.contains .json)
      (given.flags.contains .explain)
  | .explain => do return .explain (← given.requireQuery)

end Arguments

/-- The command that some arguments ask for; without any it is the shell. -/
def Invocation.ofArguments (arguments : List String) : Except Arguments.Refusal Invocation := do
  match ← Arguments.readBefore {} arguments with
  | (before, none) => return ⟨before.options {}, .shell⟩
  | (before, some (name, rest)) =>
    let behind ← Arguments.readBehind name {} rest
    return ⟨before.options behind, ← behind.command name⟩

end RelPlan
