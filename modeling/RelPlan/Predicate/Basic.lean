import RelPlan.NameSet

/-!
# Predicates

What a condition says about a row: comparisons of columns and literals, tests for null, and
their combinations. Text that is not understood is kept verbatim with the columns in it, so a
condition is never lost. A conjunction is a list of predicates that all have to hold.
-/

namespace RelPlan

/-- A column, perhaps with the table it belongs to. -/
structure ColumnRef where
  table : Option String
  name : String
deriving DecidableEq, Inhabited

namespace ColumnRef

/-- A column of a table. -/
def qualified (table name : String) : ColumnRef := ⟨some table, name⟩

/-- A column whose table is not said. -/
def bare (name : String) : ColumnRef := ⟨none, name⟩

/-- Whether the column is said to belong to the table. -/
def belongsTo (column : ColumnRef) (table : String) : Bool := column.table == some table

end ColumnRef

/-- A constant. A number keeps its spelling. -/
inductive Literal where
  | number (spelling : String)
  | string (value : String)
  | null
deriving DecidableEq

/-- One side of a comparison. -/
inductive Operand where
  | column (ref : ColumnRef)
  | literal (value : Literal)
deriving DecidableEq

namespace Operand

/-- The column, if the operand is one. -/
def column? : Operand → Option ColumnRef
  | column ref => some ref
  | literal _ => none

end Operand

/-- How two operands are compared. -/
inductive CompareOp where
  | eq
  | notEq
  | less
  | lessEq
  | greater
  | greaterEq
  | like
deriving DecidableEq

/-- Whether a comparison means the same with its sides exchanged. -/
def CompareOp.isSymmetric : CompareOp → Bool
  | eq | notEq => true
  | _ => false

/-- A comparison of two operands. -/
structure Comparison where
  left : Operand
  op : CompareOp
  right : Operand
deriving DecidableEq

namespace Comparison

/-- The columns of a comparison, from left to right. -/
def columns (comparison : Comparison) : List ColumnRef :=
  comparison.left.column?.toList ++ comparison.right.column?.toList

/-- The comparison with its sides exchanged. -/
def swap (comparison : Comparison) : Comparison :=
  ⟨comparison.right, comparison.op, comparison.left⟩

/-- The two columns of an equality between columns of different tables. -/
def equiJoin? (comparison : Comparison) : Option (ColumnRef × ColumnRef) :=
  match comparison.op, comparison.left, comparison.right with
  | .eq, .column left, .column right =>
    match left.table, right.table with
    | some leftTable, some rightTable =>
      if leftTable ≠ rightTable then some (left, right) else none
    | _, _ => none
  | _, _, _ => none

/-- Whether two comparisons are the same up to the order of the sides of a symmetric one. -/
def equivalent (first second : Comparison) : Bool :=
  first = second || (first.op.isSymmetric && first.swap = second)

@[simp] theorem swap_swap (comparison : Comparison) : comparison.swap.swap = comparison :=
  rfl

end Comparison

/-- A condition on a row. -/
inductive Predicate where
  | compare (comparison : Comparison)
  | isNull (operand : Operand) (negated : Bool)
  | or (items : List Predicate)
  | and (items : List Predicate)
  | not (inner : Predicate)
  /-- Text that is not understood, with the columns in it. -/
  | verbatim (text : String) (columns : List ColumnRef)

instance : Inhabited Predicate := ⟨.and []⟩

namespace Predicate

/-! ## Equality -/

mutual

/-- Whether two predicates are the same tree. -/
def same : Predicate → Predicate → Bool
  | compare first, compare second => first = second
  | isNull first m, isNull second n => first = second && m == n
  | or firsts, or seconds => sameItems firsts seconds
  | and firsts, and seconds => sameItems firsts seconds
  | not first, not second => same first second
  | verbatim first firsts, verbatim second seconds => first = second && firsts = seconds
  | _, _ => false

/-- Whether two lists hold the same trees in the same order. -/
def sameItems : List Predicate → List Predicate → Bool
  | [], [] => true
  | first :: firsts, second :: seconds => same first second && sameItems firsts seconds
  | _, _ => false

end

mutual

/-- Predicates that compare as the same are equal. -/
theorem eq_of_same : ∀ {first second : Predicate}, same first second = true → first = second
  | compare _, second, h => by cases second <;> simp_all [same]
  | isNull _ _, second, h => by cases second <;> simp_all [same]
  | or _, second, h => by
    cases second <;> simp only [same, Bool.false_eq_true] at h
    rw [eq_of_sameItems h]
  | and _, second, h => by
    cases second <;> simp only [same, Bool.false_eq_true] at h
    rw [eq_of_sameItems h]
  | not _, second, h => by
    cases second <;> simp only [same, Bool.false_eq_true] at h
    rw [eq_of_same h]
  | verbatim _ _, second, h => by cases second <;> simp_all [same]

/-- Lists of predicates that compare as the same are equal. -/
theorem eq_of_sameItems :
    ∀ {firsts seconds : List Predicate}, sameItems firsts seconds = true → firsts = seconds
  | [], seconds, h => by cases seconds <;> simp_all [sameItems]
  | _ :: _, seconds, h => by
    cases seconds with
    | nil => simp [sameItems] at h
    | cons second seconds =>
      simp only [sameItems, Bool.and_eq_true] at h
      rw [eq_of_same h.1, eq_of_sameItems h.2]

end

mutual

/-- Every predicate compares as the same as itself. -/
theorem same_self : ∀ predicate : Predicate, same predicate predicate = true
  | compare _ => by simp [same]
  | isNull _ _ => by simp [same]
  | or items => by simpa [same] using sameItems_self items
  | and items => by simpa [same] using sameItems_self items
  | not inner => by simpa [same] using same_self inner
  | verbatim _ _ => by simp [same]

/-- Every list of predicates compares as the same as itself. -/
theorem sameItems_self : ∀ items : List Predicate, sameItems items items = true
  | [] => by simp [sameItems]
  | item :: items => by simp [sameItems, same_self item, sameItems_self items]

end

/-- The test for the same tree decides equality. -/
theorem same_iff {first second : Predicate} : same first second = true ↔ first = second :=
  ⟨eq_of_same, fun h => h ▸ same_self first⟩

instance : DecidableEq Predicate := fun _ _ => decidable_of_iff _ same_iff

/-! ## Columns and tables -/

mutual

/-- The columns of a predicate in the order in which they appear. -/
def columns : Predicate → List ColumnRef
  | compare comparison => comparison.columns
  | isNull operand _ => operand.column?.toList
  | or items => itemColumns items
  | and items => itemColumns items
  | not inner => inner.columns
  | verbatim _ columns => columns

/-- The columns of some predicates in order. -/
def itemColumns : List Predicate → List ColumnRef
  | [] => []
  | item :: items => item.columns ++ itemColumns items

end

/-- The columns of a list of predicates are those of each of them. -/
theorem itemColumns_eq_flatMap (items : List Predicate) :
    itemColumns items = items.flatMap columns := by
  induction items with
  | nil => rfl
  | cons item items ih => simp [itemColumns, ih]

/-- The tables that the columns of a predicate are said to belong to. -/
def tables (predicate : Predicate) : NameSet := .ofList (predicate.columns.filterMap (·.table))

/-- The tables of a predicate are those that its columns name. -/
theorem mem_tables {predicate : Predicate} {table : String} :
    table ∈ predicate.tables ↔ ∃ column ∈ predicate.columns, column.table = some table := by
  simp [tables]

/-- The table of a predicate whose columns are said to belong to exactly one. -/
def onlyTable? (predicate : Predicate) : Option String :=
  match predicate.tables.toList with
  | [table] => some table
  | _ => none

/-! ## Equalities -/

mutual

/-- Whether there is an equality in the predicate, or an equality sign in text kept verbatim. -/
def hasEquality : Predicate → Bool
  | compare comparison => comparison.op = .eq
  | isNull _ _ => false
  | or items => anyEquality items
  | and items => anyEquality items
  | not inner => inner.hasEquality
  | verbatim text _ => text.toList.contains '='

/-- Whether there is an equality in some of the predicates. -/
def anyEquality : List Predicate → Bool
  | [] => false
  | item :: items => item.hasEquality || anyEquality items

end

/-- The tables of an equality between columns of two different tables. -/
def joinedTables? : Predicate → Option (String × String)
  | compare comparison => do
    let (left, right) ← comparison.equiJoin?
    return (← left.table, ← right.table)
  | _ => none

/-- Whether two predicates are the same up to the order of the sides of a symmetric comparison. -/
def equivalent (first second : Predicate) : Bool :=
  match first, second with
  | compare first, compare second => first.equivalent second
  | first, second => first = second

@[simp] theorem equivalent_self (predicate : Predicate) :
    predicate.equivalent predicate = true := by
  cases predicate <;> simp [equivalent, Comparison.equivalent]

/-! ## Parts of a conjunction -/

mutual

/-- The predicates that a predicate is the conjunction of. -/
def conjuncts : Predicate → List Predicate
  | and items => itemConjuncts items
  | compare comparison => [compare comparison]
  | isNull operand negated => [isNull operand negated]
  | or items => [or items]
  | not inner => [not inner]
  | verbatim text columns => [verbatim text columns]

/-- The predicates that some predicates are the conjunction of. -/
def itemConjuncts : List Predicate → List Predicate
  | [] => []
  | item :: items => item.conjuncts ++ itemConjuncts items

end

end Predicate

/-- Predicates that all have to hold. The empty list holds of every row. -/
abbrev Conjunction := List Predicate

namespace Conjunction

/-- Whether an equivalent predicate is among the conjuncts. -/
def covers (conjunction : Conjunction) (predicate : Predicate) : Bool :=
  conjunction.any (·.equivalent predicate)

/-- The conjunction with one predicate more, unless an equivalent one is there, and whether it was
added. -/
def push (conjunction : Conjunction) (predicate : Predicate) : Conjunction × Bool :=
  if conjunction.covers predicate then (conjunction, false) else (conjunction ++ [predicate], true)

/-- The conjunction with one predicate more, unless an equivalent one is there. -/
def pushUnique (conjunction : Conjunction) (predicate : Predicate) : Conjunction :=
  (conjunction.push predicate).1

/-- The columns of the conjuncts in order. -/
def columns (conjunction : Conjunction) : List ColumnRef := conjunction.flatMap Predicate.columns

/-- Whether there is an equality in some conjunct. -/
def hasEquality (conjunction : Conjunction) : Bool := conjunction.any Predicate.hasEquality

/-- A predicate that is there already is not pushed. -/
theorem pushUnique_of_covers {conjunction : Conjunction} {predicate : Predicate}
    (h : conjunction.covers predicate = true) :
    conjunction.pushUnique predicate = conjunction := by
  simp [pushUnique, push, h]

/-- A predicate that is not there yet is pushed at the end. -/
theorem pushUnique_of_not_covers {conjunction : Conjunction} {predicate : Predicate}
    (h : conjunction.covers predicate = false) :
    conjunction.pushUnique predicate = conjunction ++ [predicate] := by
  simp [pushUnique, push, h]

/-- A predicate is added exactly if it is not covered. -/
theorem push_eq (conjunction : Conjunction) (predicate : Predicate) :
    conjunction.push predicate =
      (conjunction.pushUnique predicate, !conjunction.covers predicate) := by
  cases h : conjunction.covers predicate <;> simp [pushUnique, push, h]

/-- After it is pushed a predicate is covered. -/
theorem covers_pushUnique (conjunction : Conjunction) (predicate : Predicate) :
    (conjunction.pushUnique predicate).covers predicate = true := by
  cases h : conjunction.covers predicate
  · simp [pushUnique_of_not_covers h, covers]
  · rw [pushUnique_of_covers h, h]

end Conjunction

end RelPlan
