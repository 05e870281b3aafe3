import RelPlan.CommandLine.Run

/-!
# The program

Reads files and what is typed, and prints what the command line gives.
-/

namespace RelPlan

namespace Program

/-- Whether a system error has the given number, which may be recorded with either sign. -/
def hasNumber (number code : UInt32) : Bool := code == number || code == -number

/-- Why a file yields no text, by the error of the system. -/
def failureOf : IO.Error → FileFailure
  | .permissionDenied _ _ _ => .denied
  | .hardwareFault _ _ => .inputOutput
  | .noSuchThing _ _ _ => .noDevice
  | .inappropriateType _ code _ => if hasNumber 21 code then .isDirectory else .notDirectory
  | .invalidArgument _ code _ =>
    if hasNumber 36 code then .nameTooLong
    else if hasNumber 40 code then .tooManyLinks
    else .invalid
  | _ => .missing

/-- The text of a file, or why there is none. -/
def readFile (path : String) : IO (Except FileFailure String) := do
  try
    let bytes ← IO.FS.readBinFile path
    match String.fromUTF8? bytes with
    | some text => return .ok text
    | none => return .error .notText
  catch error => return .error (failureOf error)

/-- Answers one line after another until the shell ends. -/
partial def converse (session : Session) : IO Unit := do
  let line ← (← IO.getStdin).getLine
  if line.isEmpty then IO.print Shell.farewell
  else
    let reply := Shell.reply session line
    IO.eprint reply.log
    IO.print reply.output
    (← IO.getStdout).flush
    if reply.goesOn then converse session

/-- Prints an outcome. -/
def finish (outcome : Outcome) : IO UInt32 := do
  IO.eprint outcome.log
  IO.print outcome.output
  return UInt32.ofNat outcome.code

/-- Carries out a command. -/
def carryOut (invocation : Invocation) : IO UInt32 := do
  match ← (Session.load readFile invocation.options).run with
  | .error failure => finish ⟨1, "", failure.report⟩
  | .ok session =>
    match invocation.command with
    | .shell =>
      IO.print Shell.greeting
      converse session
      return 0
    | command => finish (session.run "" command)

end Program

end RelPlan

/-- The program with its arguments. -/
def main (arguments : List String) : IO UInt32 :=
  match RelPlan.Invocation.ofArguments arguments with
  | .error refusal => RelPlan.Program.finish (RelPlan.CommandLine.refuse refusal)
  | .ok invocation => RelPlan.Program.carryOut invocation
