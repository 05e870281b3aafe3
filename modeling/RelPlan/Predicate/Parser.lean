import RelPlan.Predicate.Basic
import RelPlan.Predicate.Token

/-!
# The grammar of predicates

Disjunctions of conjunctions of negated or parenthesized or simple predicates, read from
tokens. A list of one item is the item itself, parentheses leave no trace, and `NOT LIKE` is
the negation of a comparison. Each step leaves fewer tokens than it was given.
-/

namespace RelPlan

namespace Parser

/-- What a predicate needs at some place. -/
inductive Wanted where
  | kind (kind : TokenKind)
  | operator
  | operand
  | columnName
  | digits
  | finish
deriving DecidableEq

/-- What is needed, in words. -/
def Wanted.text : Wanted → String
  | kind wanted => wanted.text
  | operator => "comparison operator"
  | operand => "operand"
  | columnName => "column name after '.'"
  | digits => "number after '-'"
  | finish => "end of predicate"

/-- Why tokens are no predicate. -/
inductive Fault where
  | unexpected (wanted : Wanted) (found : Option Token)
  | functionCall (name : String)
deriving DecidableEq

/-- The fault in words. -/
def Fault.message : Fault → String
  | unexpected wanted (some token) => "expected " ++ wanted.text ++ ", found " ++ token.text
  | unexpected wanted none => "expected " ++ wanted.text ++ ", found end of input"
  | functionCall name => "function call " ++ name ++ " is not supported"

/-- What is read off the front of some tokens, and the fewer tokens that are left. -/
abbrev Reading (α : Type) (ts : List Token) : Type :=
  Except Fault { read : α × List Token // read.2.length < ts.length }

/-- What is read off the front of some tokens, perhaps none of them, and those left. -/
abbrev MaybeReading (α : Type) (ts : List Token) : Type :=
  Except Fault { read : α × List Token // read.2.length ≤ ts.length }

/-- A value that was read, and the fewer tokens that are left. -/
def Reading.done {α : Type} {ts : List Token} (value : α) (rest : List Token)
    (fewer : rest.length < ts.length) : Reading α ts :=
  .ok ⟨(value, rest), fewer⟩

/-- A value that was read, and the tokens that are left. -/
def MaybeReading.done {α : Type} {ts : List Token} (value : α) (rest : List Token)
    (fewer : rest.length ≤ ts.length) : MaybeReading α ts :=
  .ok ⟨(value, rest), fewer⟩

/-- The tokens do not go on as they should. -/
def unexpected {α : Type} (wanted : Wanted) (ts : List Token) : Except Fault α :=
  .error (.unexpected wanted ts.head?)

/-- The kind of the first token. -/
def kind? (ts : List Token) : Option TokenKind := ts.head?.map (·.kind)

/-- A token of the given kind. -/
def readKind (kind : TokenKind) (ts : List Token) : Reading Unit ts :=
  match ts with
  | [] => unexpected (.kind kind) []
  | t :: rest =>
    if t.kind = kind then .done () rest (Nat.lt_succ_self _)
    else unexpected (.kind kind) (t :: rest)

/-- What follows the dot after a table. -/
def readColumn (table : String) (ts : List Token) : Reading Operand ts :=
  match ts with
  | [] => unexpected .columnName []
  | t :: rest =>
    match t.kind with
    | .name name => .done (.column (.qualified table name)) rest (Nat.lt_succ_self _)
    | _ => unexpected .columnName (t :: rest)

/-- What follows a minus sign. -/
def readNegative (ts : List Token) : Reading Operand ts :=
  match ts with
  | [] => unexpected .digits []
  | t :: rest =>
    match t.kind with
    | .number spelling => .done (.literal (.number ("-" ++ spelling))) rest (Nat.lt_succ_self _)
    | _ => unexpected .digits (t :: rest)

/-- A column or a constant. -/
def readOperand (ts : List Token) : Reading Operand ts :=
  match ts with
  | [] => unexpected .operand []
  | t :: rest =>
    match t.kind with
    | .name name =>
      match rest with
      | u :: more =>
        match u.kind with
        | .symbol .dot => do
          let column ← readColumn name more
          Reading.done column.1.1 column.1.2
            (Nat.lt_succ_of_lt (Nat.lt_succ_of_lt column.2))
        | .symbol .leftParen => .error (.functionCall name)
        | _ => .done (.column (.bare name)) (u :: more) (Nat.lt_succ_self _)
      | [] => .done (.column (.bare name)) [] (Nat.lt_succ_self _)
    | .number spelling => .done (.literal (.number spelling)) rest (Nat.lt_succ_self _)
    | .symbol .minus => do
      let operand ← readNegative rest
      Reading.done operand.1.1 operand.1.2 (Nat.lt_succ_of_lt operand.2)
    | .string value => .done (.literal (.string value)) rest (Nat.lt_succ_self _)
    | .keyword .null => .done (.literal .null) rest (Nat.lt_succ_self _)
    | _ => unexpected .operand (t :: rest)

/-- The comparison that a token stands for. -/
def compareOp? : TokenKind → Option CompareOp
  | .symbol .equals => some .eq
  | .symbol .notEqual => some .notEq
  | .symbol .less => some .less
  | .symbol .lessEqual => some .lessEq
  | .symbol .greater => some .greater
  | .symbol .greaterEqual => some .greaterEq
  | .keyword .like => some .like
  | _ => none

/-- What follows `IS` after an operand. -/
def readNullTest (operand : Operand) (ts : List Token) : Reading Predicate ts :=
  match ts with
  | [] => unexpected (.kind (.keyword .null)) []
  | t :: rest =>
    if t.kind = .keyword .not then do
      let null ← readKind (.keyword .null) rest
      Reading.done (.isNull operand true) null.1.2 (Nat.lt_succ_of_lt null.2)
    else do
      let null ← readKind (.keyword .null) (t :: rest)
      Reading.done (.isNull operand false) null.1.2 null.2

/-- What follows `NOT` after an operand. -/
def readNotLike (left : Operand) (ts : List Token) : Reading Predicate ts := do
  let like ← readKind (.keyword .like) ts
  let right ← readOperand like.1.2
  Reading.done (.not (.compare ⟨left, .like, right.1.1⟩)) right.1.2 (Nat.lt_trans right.2 like.2)

/-- What follows the first operand of a simple predicate. -/
def readRelation (left : Operand) (ts : List Token) : Reading Predicate ts :=
  match ts with
  | [] => unexpected .operator []
  | t :: rest =>
    match compareOp? t.kind with
    | some op => do
      let right ← readOperand rest
      Reading.done (.compare ⟨left, op, right.1.1⟩) right.1.2 (Nat.lt_succ_of_lt right.2)
    | none =>
      match t.kind with
      | .keyword .is => do
        let test ← readNullTest left rest
        Reading.done test.1.1 test.1.2 (Nat.lt_succ_of_lt test.2)
      | .keyword .not => do
        let comparison ← readNotLike left rest
        Reading.done comparison.1.1 comparison.1.2 (Nat.lt_succ_of_lt comparison.2)
      | _ => unexpected .operator (t :: rest)

/-- A comparison or a test for null. -/
def readSimple (ts : List Token) : Reading Predicate ts := do
  let left ← readOperand ts
  let relation ← readRelation left.1.1 left.1.2
  Reading.done relation.1.1 relation.1.2 (Nat.lt_trans relation.2 left.2)

/-- The disjunction of a list with at least one item. -/
def disjunction (first : Predicate) : List Predicate → Predicate
  | [] => first
  | others => .or (first :: others)

/-- The conjunction of a list with at least one item. -/
def conjunction (first : Predicate) : List Predicate → Predicate
  | [] => first
  | others => .and (first :: others)

mutual

/-- Conjunctions with `OR` between them. -/
def readOr (ts : List Token) : Reading Predicate ts := do
  let first ← readAnd ts
  have hfirst := first.2
  let others ← readOrTail first.1.2
  Reading.done (disjunction first.1.1 others.1.1) others.1.2 (Nat.lt_of_le_of_lt others.2 hfirst)
termination_by 5 * ts.length + 4
decreasing_by all_goals omega

/-- The conjunctions that follow the first, each after an `OR`. -/
def readOrTail (ts : List Token) : MaybeReading (List Predicate) ts :=
  match ts with
  | [] => .done [] [] (Nat.le_refl _)
  | t :: rest =>
    if t.kind = .keyword .or then do
      let first ← readAnd rest
      have hfirst := first.2
      let others ← readOrTail first.1.2
      MaybeReading.done (first.1.1 :: others.1.1) others.1.2
        (by have := others.2; simp only [List.length_cons]; omega)
    else .done [] (t :: rest) (Nat.le_refl _)
termination_by 5 * ts.length + 3
decreasing_by all_goals simp only [List.length_cons]; omega

/-- Negated, parenthesized and simple predicates with `AND` between them. -/
def readAnd (ts : List Token) : Reading Predicate ts := do
  let first ← readUnary ts
  have hfirst := first.2
  let others ← readAndTail first.1.2
  Reading.done (conjunction first.1.1 others.1.1) others.1.2 (Nat.lt_of_le_of_lt others.2 hfirst)
termination_by 5 * ts.length + 2
decreasing_by all_goals omega

/-- The predicates that follow the first, each after an `AND`. -/
def readAndTail (ts : List Token) : MaybeReading (List Predicate) ts :=
  match ts with
  | [] => .done [] [] (Nat.le_refl _)
  | t :: rest =>
    if t.kind = .keyword .and then do
      let first ← readUnary rest
      have hfirst := first.2
      let others ← readAndTail first.1.2
      MaybeReading.done (first.1.1 :: others.1.1) others.1.2
        (by have := others.2; simp only [List.length_cons]; omega)
    else .done [] (t :: rest) (Nat.le_refl _)
termination_by 5 * ts.length + 1
decreasing_by all_goals simp only [List.length_cons]; omega

/-- A negated, parenthesized or simple predicate. -/
def readUnary (ts : List Token) : Reading Predicate ts :=
  match ts with
  | [] => readSimple []
  | t :: rest =>
    if t.kind = .keyword .not then do
      let inner ← readUnary rest
      Reading.done (.not inner.1.1) inner.1.2 (Nat.lt_succ_of_lt inner.2)
    else if t.kind = .symbol .leftParen then do
      let inner ← readOr rest
      let closing ← readKind (.symbol .rightParen) inner.1.2
      Reading.done inner.1.1 closing.1.2 (Nat.lt_succ_of_lt (Nat.lt_trans closing.2 inner.2))
    else readSimple (t :: rest)
termination_by 5 * ts.length
decreasing_by all_goals simp only [List.length_cons]; omega

end

end Parser

/-- The predicate that some tokens up to their end make up. -/
def Predicate.ofTokens (ts : List Token) : Except Parser.Fault Predicate := do
  let predicate ← Parser.readOr ts
  if Parser.kind? predicate.1.2 = some .finish then return predicate.1.1
  else Parser.unexpected .finish predicate.1.2

end RelPlan
