import RelPlan.Predicate.Basic
import RelPlan.Text.Split

/-!
# Printed predicates

A disjunction or conjunction inside another is put in parentheses, and so is whatever stands
under a negation and is not a simple predicate.
-/

namespace RelPlan

/-- The column's name, after its table and a dot if that is known. -/
def ColumnRef.text (column : ColumnRef) : String :=
  match column.table with
  | some table => table ++ "." ++ column.name
  | none => column.name

/-- A string between single quotes, with every quote in it written twice. -/
def quoteChars (cs : List Char) : List Char :=
  '\'' :: cs.flatMap (fun c => if c = '\'' then ['\'', '\''] else [c]) ++ ['\'']

/-- The constant as it stands in a condition. -/
def Literal.text : Literal → String
  | number spelling => spelling
  | string value => String.ofList (quoteChars value.toList)
  | null => "NULL"

/-- The operand as it stands in a condition. -/
def Operand.text : Operand → String
  | column ref => ref.text
  | literal value => value.text

/-- The sign or word of a comparison. -/
def CompareOp.text : CompareOp → String
  | eq => "="
  | notEq => "<>"
  | less => "<"
  | lessEq => "<="
  | greater => ">"
  | greaterEq => ">="
  | like => "LIKE"

/-- The comparison, with blanks around its sign. -/
def Comparison.text (comparison : Comparison) : String :=
  comparison.left.text ++ " " ++ comparison.op.text ++ " " ++ comparison.right.text

namespace Predicate

/-- Whether the predicate is a disjunction or a conjunction. -/
def isCompound : Predicate → Bool
  | or _ | and _ => true
  | _ => false

/-- Whether the predicate has no predicates inside. -/
def isSimple : Predicate → Bool
  | compare _ | isNull _ _ | verbatim _ _ => true
  | _ => false

/-- A text in parentheses. -/
def parenthesized (text : String) : String := "(" ++ text ++ ")"

mutual

/-- The predicate as it stands in a condition. -/
def text : Predicate → String
  | compare comparison => comparison.text
  | isNull operand negated => operand.text ++ if negated then " IS NOT NULL" else " IS NULL"
  | or items => Text.joinWith " OR " (itemTexts items)
  | and items => Text.joinWith " AND " (itemTexts items)
  | not inner => if inner.isSimple then "NOT " ++ inner.text else "NOT " ++ parenthesized inner.text
  | verbatim text _ => text

/-- The predicates as they stand beside each other. -/
def itemTexts : List Predicate → List String
  | [] => []
  | item :: items =>
    (if item.isCompound then parenthesized item.text else item.text) :: itemTexts items

end

end Predicate

/-- The conjunction as it stands in a query; a single conjunct needs no parentheses. -/
def Conjunction.text : Conjunction → String
  | [predicate] => predicate.text
  | predicates => Text.joinWith " AND " (Predicate.itemTexts predicates)

end RelPlan
