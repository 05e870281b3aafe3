import RelPlan.NameSet

/-!
# JSON values

The values that configuration files and reports are written in. Objects keep their fields in
order, and numbers keep their spelling.
-/

namespace RelPlan

/-- A JSON value. -/
inductive Json where
  | null
  | bool (value : Bool)
  | number (spelling : String)
  | string (text : String)
  | array (items : List Json)
  | object (fields : List (String × Json))
  /-- A value that can be passed over but not used: a string, or an object with a field name,
  that escapes half of a surrogate pair and so is no text. -/
  | unreadable

instance : Inhabited Json := ⟨.null⟩

namespace Json

/-- A natural number. -/
def ofNat (n : Nat) : Json := .number (toString n)

/-- A text, or null in its absence. -/
def ofOption : Option String → Json
  | some text => .string text
  | none => .null

/-- The array of some texts. -/
def ofStrings (texts : List String) : Json := .array (texts.map .string)

/-- An object with one field, which names the alternative that its value belongs to. -/
def variant (name : String) (value : Json) : Json := .object [(name, value)]

end Json

/-- Types whose values have a JSON form. -/
class ToJson (α : Type) where
  toJson : α → Json

export ToJson (toJson)

instance : ToJson String := ⟨.string⟩
instance : ToJson Bool := ⟨.bool⟩
instance : ToJson Nat := ⟨.ofNat⟩
instance : ToJson NameSet := ⟨fun set => .ofStrings set.toList⟩
instance {α : Type} [ToJson α] : ToJson (List α) := ⟨fun items => .array (items.map toJson)⟩

end RelPlan
