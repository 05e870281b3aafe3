import RelPlan.Text.Bytes

/-!
# What can be wrong with a JSON text

A text fails to be JSON at some place, or its value is not of the shape that is asked for.
-/

namespace RelPlan.Json

/-- Why a JSON text is refused. -/
inductive Cause where
  | endInArray
  | endInObject
  | endInString
  | endBeforeValue
  | noValue
  | noWord
  | noColon
  | noCommaInArray
  | noCommaInObject
  | badEscape
  | badNumber
  | controlCharacter
  | keyNotString
  | trailingComma
  | trailingCharacters
  | tooDeep
  | missingField (name : String)
  | repeatedField (name : String)
  | unknownVariant (name : String)
  | wrongShape (wanted : String)
  | wrongLength (wanted : String)
deriving DecidableEq, Inhabited

/-- The cause in words. -/
def Cause.message : Cause → String
  | endInArray => "EOF while parsing a list"
  | endInObject => "EOF while parsing an object"
  | endInString => "EOF while parsing a string"
  | endBeforeValue => "EOF while parsing a value"
  | noValue => "expected value"
  | noWord => "expected ident"
  | noColon => "expected `:`"
  | noCommaInArray => "expected `,` or `]`"
  | noCommaInObject => "expected `,` or `\x7d`"
  | badEscape => "invalid escape"
  | badNumber => "invalid number"
  | controlCharacter => "control character (\\u0000-\\u001F) found while parsing a string"
  | keyNotString => "key must be a string"
  | trailingComma => "trailing comma"
  | trailingCharacters => "trailing characters"
  | tooDeep => "recursion limit exceeded"
  | missingField name => "missing field `" ++ name ++ "`"
  | repeatedField name => "duplicate field `" ++ name ++ "`"
  | unknownVariant name => "unknown variant `" ++ name ++ "`"
  | wrongShape wanted => "invalid type, expected " ++ wanted
  | wrongLength wanted => "invalid length, expected " ++ wanted

/-- A cause, with the line and column at which the text stops being JSON if it does. -/
structure Fault where
  cause : Cause
  place : Option (Nat × Nat)
deriving DecidableEq, Inhabited

/-- The fault in words. -/
def Fault.message (fault : Fault) : String :=
  match fault.place with
  | some (line, column) =>
    fault.cause.message ++ " at line " ++ toString line ++ " column " ++ toString column
  | none => fault.cause.message

/-- A value of the wrong shape. -/
def Fault.ofCause (cause : Cause) : Fault := ⟨cause, none⟩

/-- The line and the column, in bytes, of the last of the given characters. -/
def placeAfter (read : List Char) : Nat × Nat :=
  (1 + read.count '\n', Text.byteLength (read.reverse.takeWhile (· ≠ '\n')))

end RelPlan.Json
