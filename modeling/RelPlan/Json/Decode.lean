import RelPlan.Json.Fault
import RelPlan.Json.Reader
import RelPlan.NameMap

/-!
# From JSON to typed values

A record is an object with a field for each of its parts, which may have other fields besides,
or an array of the parts in order. One of several alternatives is an object whose only field
names it, or, for an alternative without parts, its name alone. Every array and object that is
looked into counts against a limit on nesting.
-/

namespace RelPlan.Json

/-- The number of arrays and objects that may lie inside each other. -/
def maxDepth : Nat := 127

/-- A value with the number of arrays and objects that may still be entered. -/
abbrev Decoder (α : Type) := Nat → Json → Except Fault α

/-- A value that is not what is wanted. -/
def wrongShape {α : Type} (wanted : String) : Except Fault α :=
  .error (.ofCause (.wrongShape wanted))

/-- The first name that comes again later in the list. -/
def firstRepeated? : List String → Option String
  | [] => none
  | name :: names => if names.contains name then some name else firstRepeated? names

/-- The known parts of a record by name. -/
def recordFields (names : List String) : Json → Except Fault (List (String × Json))
  | .object fields =>
    let known := fields.filter fun field => names.contains field.1
    match firstRepeated? (known.map (·.1)) with
    | some name => .error (.ofCause (.repeatedField name))
    | none => .ok known
  | .array items =>
    if items.length ≤ names.length then .ok (names.zip items)
    else .error (.ofCause (.wrongLength (toString names.length ++ " elements")))
  | _ => wrongShape "a record"

/-- A part that must be there. -/
def required (fields : List (String × Json)) (name : String) : Except Fault Json :=
  match fields.lookup name with
  | some value => .ok value
  | none => .error (.ofCause (.missingField name))

/-- The name of an alternative, and what belongs to it if it is not the name alone. -/
def alternative : Json → Except Fault (String × Option Json)
  | .string name => .ok (name, none)
  | .object [(name, value)] => .ok (name, some value)
  | _ => wrongShape "an alternative"

/-- A text. -/
def text : Json → Except Fault String
  | .string text => .ok text
  | _ => wrongShape "a string"

/-- A text or null. -/
def text? : Json → Except Fault (Option String)
  | .string text => .ok (some text)
  | .null => .ok none
  | _ => wrongShape "a string or null"

/-- A truth value. -/
def truth : Json → Except Fault Bool
  | .bool value => .ok value
  | _ => wrongShape "a boolean"

/-- A natural number below 2⁶⁴, spelled with digits only. -/
def word : Json → Except Fault UInt64
  | .number spelling =>
    let digits := spelling.toList
    let value := digits.foldl (fun n digit => 10 * n + (digit.toNat - '0'.toNat)) 0
    if digits.all Char.isDigit && value < UInt64.size then .ok (UInt64.ofNat value)
    else wrongShape "u64"
  | _ => wrongShape "u64"

/-- The items of an array. -/
def list {α : Type} (item : Decoder α) : Decoder (List α)
  | 0, _ => .error (.ofCause .tooDeep)
  | depth + 1, .array items => items.mapM (item depth)
  | _ + 1, _ => wrongShape "a sequence"

/-- A set of names, in any order. -/
def nameSet : Decoder NameSet := fun depth value =>
  (list (fun _ => text) depth value).map NameSet.ofList

/-- A map from names; of two entries with one name the later one counts. -/
def nameMap {α : Type} (item : Decoder α) : Decoder (NameMap α)
  | 0, _ => .error (.ofCause .tooDeep)
  | depth + 1, .object fields => do
    let entries ← fields.mapM fun field => do
      let value ← item depth field.2
      return (field.1, value)
    return NameMap.ofList entries
  | _ + 1, _ => wrongShape "a map"

/-- The value of a JSON text. -/
def decode {α : Type} (decoder : Decoder α) (text : String) : Except Fault α := do
  let value ← read text
  decoder maxDepth value

end RelPlan.Json
