import RelPlan.Json.Basic

/-!
# Printed JSON

Every item and field stands on a line of its own, two blanks deeper than its container; a
container without members is written without a line break.
-/

namespace RelPlan.Json

/-- The digit for a number below sixteen, in lower case. -/
def hexDigit (n : Nat) : Char := Nat.digitChar n

/-- How a character is written in a string. -/
def escapeChar (c : Char) : List Char :=
  match c with
  | '"' => ['\\', '"']
  | '\\' => ['\\', '\\']
  | '\x08' => ['\\', 'b']
  | '\x0c' => ['\\', 'f']
  | '\n' => ['\\', 'n']
  | '\r' => ['\\', 'r']
  | '\t' => ['\\', 't']
  | c =>
    if c.toNat < 0x20 then ['\\', 'u', '0', '0', hexDigit (c.toNat / 16), hexDigit (c.toNat % 16)]
    else [c]

/-- A string between its quotes. -/
def printString (s : String) : List Char := '"' :: s.toList.flatMap escapeChar ++ ['"']

/-- A line break and the blanks before a line at the given depth. -/
def newLine (depth : Nat) : List Char := '\n' :: List.replicate (2 * depth) ' '

/-- Members between two brackets, each on a line one step deeper than the brackets. -/
def block (opening closing : Char) (depth : Nat) : List (List Char) → List Char
  | [] => [opening, closing]
  | members =>
    opening :: [','].intercalate (members.map (newLine (depth + 1) ++ ·)) ++
      newLine depth ++ [closing]

mutual

/-- The characters of a value whose container stands at the given depth. -/
def printChars (depth : Nat) : Json → List Char
  | .null => ['n', 'u', 'l', 'l']
  | .bool value => if value then ['t', 'r', 'u', 'e'] else ['f', 'a', 'l', 's', 'e']
  | .number spelling => spelling.toList
  | .string text => printString text
  | .array items => block '[' ']' depth (printItems (depth + 1) items)
  | .object fields => block '\x7b' '\x7d' depth (printFields (depth + 1) fields)
  | .unreadable => ['n', 'u', 'l', 'l']

/-- The items of an array at the given depth. -/
def printItems (depth : Nat) : List Json → List (List Char)
  | [] => []
  | item :: items => printChars depth item :: printItems depth items

/-- The fields of an object at the given depth. -/
def printFields (depth : Nat) : List (String × Json) → List (List Char)
  | [] => []
  | field :: fields => printField depth field :: printFields depth fields

/-- A field at the given depth: its name, a colon, a blank and its value. -/
def printField (depth : Nat) : String × Json → List Char
  | (name, value) => printString name ++ ':' :: ' ' :: printChars depth value

end

/-- The printed value. -/
def print (value : Json) : String := String.ofList (printChars 0 value)

end RelPlan.Json
