import RelPlan.Json.Decode
import RelPlan.Predicate.Basic

/-!
# Predicates in JSON

Each alternative is an object with one field, or a string if nothing belongs to it.
-/

namespace RelPlan

instance : ToJson ColumnRef where
  toJson column := .object [("table", .ofOption column.table), ("name", .string column.name)]

instance : ToJson Literal where
  toJson
    | .number spelling => .variant "Number" (.string spelling)
    | .string value => .variant "String" (.string value)
    | .null => .string "Null"

instance : ToJson Operand where
  toJson
    | .column ref => .variant "Column" (toJson ref)
    | .literal value => .variant "Literal" (toJson value)

/-- The name of a comparison. -/
def CompareOp.name : CompareOp → String
  | eq => "Eq"
  | notEq => "NotEq"
  | less => "Lt"
  | lessEq => "LtEq"
  | greater => "Gt"
  | greaterEq => "GtEq"
  | like => "Like"

instance : ToJson CompareOp := ⟨fun op => .string op.name⟩

instance : ToJson Comparison where
  toJson comparison :=
    .object
      [("left", toJson comparison.left), ("op", toJson comparison.op),
       ("right", toJson comparison.right)]

namespace Predicate

mutual

/-- The JSON form of a predicate. -/
def encode : Predicate → Json
  | compare comparison => .variant "Comparison" (toJson comparison)
  | isNull operand negated =>
    .variant "IsNull" (.object [("operand", toJson operand), ("negated", toJson negated)])
  | or items => .variant "Or" (.array (encodeItems items))
  | and items => .variant "And" (.array (encodeItems items))
  | not inner => .variant "Not" inner.encode
  | verbatim text columns =>
    .variant "Opaque" (.object [("text", .string text), ("columns", toJson columns)])

/-- The JSON forms of some predicates. -/
def encodeItems : List Predicate → List Json
  | [] => []
  | item :: items => item.encode :: encodeItems items

end

instance : ToJson Predicate := ⟨encode⟩

end Predicate

/-- A column from its JSON form, in which the table may be missing. -/
def ColumnRef.decode : Json.Decoder ColumnRef
  | 0, _ => .error (.ofCause .tooDeep)
  | _ + 1, value => do
    let fields ← Json.recordFields ["table", "name"] value
    let table ← match fields.lookup "table" with
      | some table => Json.text? table
      | none => .ok none
    let name ← Json.text (← Json.required fields "name")
    return ⟨table, name⟩

/-- Goes on into what belongs to an alternative. -/
def Json.inside {α : Type} (decoder : Json.Decoder α) (depth : Nat) (name : String) :
    Option Json → Except Json.Fault α
  | some value =>
    match depth with
    | 0 => .error (.ofCause .tooDeep)
    | depth + 1 => decoder depth value
  | none => .error (.ofCause (.unknownVariant name))

/-- An alternative to which nothing belongs. -/
def Json.alone {α : Type} (result : α) (depth : Nat) (name : String) :
    Option Json → Except Json.Fault α
  | none => .ok result
  | some .null => if depth = 0 then .error (.ofCause .tooDeep) else .ok result
  | some _ => .error (.ofCause (.unknownVariant name))

/-- A constant from its JSON form. -/
def Literal.decode : Json.Decoder Literal := fun depth value => do
  let (name, content) ← Json.alternative value
  match name with
  | "Number" => Json.inside (fun _ value => (Json.text value).map .number) depth name content
  | "String" => Json.inside (fun _ value => (Json.text value).map .string) depth name content
  | "Null" => Json.alone .null depth name content
  | _ => .error (.ofCause (.unknownVariant name))

/-- An operand from its JSON form. -/
def Operand.decode : Json.Decoder Operand := fun depth value => do
  let (name, content) ← Json.alternative value
  match name with
  | "Column" => (Json.inside ColumnRef.decode depth name content).map .column
  | "Literal" => (Json.inside Literal.decode depth name content).map .literal
  | _ => .error (.ofCause (.unknownVariant name))

/-- The comparison of a name. -/
def CompareOp.ofName? : String → Option CompareOp
  | "Eq" => some eq
  | "NotEq" => some notEq
  | "Lt" => some less
  | "LtEq" => some lessEq
  | "Gt" => some greater
  | "GtEq" => some greaterEq
  | "Like" => some like
  | _ => none

@[simp] theorem CompareOp.ofName?_name (op : CompareOp) : ofName? op.name = some op := by
  cases op <;> rfl

/-- How two operands are compared, from its JSON form. -/
def CompareOp.decode : Json.Decoder CompareOp := fun depth value => do
  let (name, content) ← Json.alternative value
  match ofName? name with
  | some op => Json.alone op depth name content
  | none => .error (.ofCause (.unknownVariant name))

/-- A comparison from its JSON form. -/
def Comparison.decode : Json.Decoder Comparison
  | 0, _ => .error (.ofCause .tooDeep)
  | depth + 1, value => do
    let fields ← Json.recordFields ["left", "op", "right"] value
    let left ← Operand.decode depth (← Json.required fields "left")
    let op ← CompareOp.decode depth (← Json.required fields "op")
    let right ← Operand.decode depth (← Json.required fields "right")
    return ⟨left, op, right⟩

namespace Predicate

/-- A test for null from its JSON form. -/
def decodeIsNull : Json.Decoder Predicate
  | 0, _ => .error (.ofCause .tooDeep)
  | depth + 1, value => do
    let fields ← Json.recordFields ["operand", "negated"] value
    let operand ← Operand.decode depth (← Json.required fields "operand")
    let negated ← Json.truth (← Json.required fields "negated")
    return .isNull operand negated

/-- Text that is kept verbatim, from its JSON form. -/
def decodeVerbatim : Json.Decoder Predicate
  | 0, _ => .error (.ofCause .tooDeep)
  | depth + 1, value => do
    let fields ← Json.recordFields ["text", "columns"] value
    let text ← Json.text (← Json.required fields "text")
    let columns ← Json.list ColumnRef.decode depth (← Json.required fields "columns")
    return .verbatim text columns

/-- A predicate from its JSON form. -/
def decode : Json.Decoder Predicate
  | 0, _ => .error (.ofCause .tooDeep)
  | depth + 1, .object [(name, content)] =>
    match name with
    | "Comparison" => (Comparison.decode depth content).map .compare
    | "IsNull" => decodeIsNull depth content
    | "Or" =>
      match depth, content with
      | depth + 1, .array items => (items.mapM (decode depth)).map .or
      | _, _ => Json.wrongShape "a sequence"
    | "And" =>
      match depth, content with
      | depth + 1, .array items => (items.mapM (decode depth)).map .and
      | _, _ => Json.wrongShape "a sequence"
    | "Not" => (decode depth content).map .not
    | "Opaque" => decodeVerbatim depth content
    | _ => .error (.ofCause (.unknownVariant name))
  | _ + 1, _ => Json.wrongShape "a predicate"

end Predicate

/-- A conjunction from its JSON form, an array. -/
def Conjunction.decode : Json.Decoder Conjunction := Json.list Predicate.decode

end RelPlan
