import RelPlan.Text.Numeric

/-!
# Identifiers

The names that tables and columns may have.
-/

namespace RelPlan

/-- A letter or an underscore, and then letters, numerals and underscores. -/
def isIdentifierChars : List Char → Bool
  | [] => false
  | first :: rest =>
    Text.isNameStart first && rest.all fun c => Text.isAlphanumeric c || c == '_'

/-- Whether the text may name a table or a column. -/
def isIdentifier (name : String) : Bool := isIdentifierChars name.toList

end RelPlan
