import RelPlan.Text.Bytes
import RelPlan.Text.Reader
import RelPlan.Text.Split

/-!
# Clauses of queries

How a query is laid out: the words `SELECT`, `FROM`, `INNER JOIN`, `ON` and `WHERE` with white
space between them and what stands between them. A join clause is read with its text, which is
what is taken off the text in front (`append_of_run_joinClause`), so clauses are read one after
another until none is left. Also the searches that find out what is wrong with a text that is
not laid out in this way.
-/

namespace RelPlan

namespace Clause

open Text

/-- The words of a join clause: the joined table and the two columns that are equated, each
with its table. -/
structure JoinWords where
  table : List Char
  leftTable : List Char
  leftColumn : List Char
  rightTable : List Char
  rightColumn : List Char
deriving DecidableEq

/-- The clauses of a query from the word `FROM` on. -/
structure Source where
  table : List Char
  joins : List Char
  filter : Option (List Char)
deriving DecidableEq

/-- The clauses of a query. -/
structure Outline extends Source where
  select : List Char
deriving DecidableEq

/-- The word that opens a query. -/
def selectWord : List Char := "SELECT".toList

/-- The word before the first table. -/
def fromWord : List Char := "FROM".toList

/-- The first word of a join clause. -/
def innerWord : List Char := "INNER".toList

/-- The second word of a join clause. -/
def joinWord : List Char := "JOIN".toList

/-- The word before the condition of a join. -/
def onWord : List Char := "ON".toList

/-- The word before the condition of a query. -/
def whereWord : List Char := "WHERE".toList

section

variable [WordClass]

/-- A table and a column with a dot between them. -/
def pair : Reader (List Char × List Char) := do
  let table ← Reader.word
  Reader.literal ['.']
  let column ← Reader.word
  return (table, column)

/-- The words of a join clause before its table, with their text. -/
def joinOpening : Reader (List Char) := do
  Reader.literal innerWord
  let gap ← Reader.gap
  Reader.literal joinWord
  let gapBehind ← Reader.gap
  return innerWord ++ gap ++ joinWord ++ gapBehind

/-- The table of a join clause and the word behind it, with their text. -/
def joinTable : Reader (List Char × List Char) := do
  let table ← Reader.word
  let gap ← Reader.gap
  Reader.literal onWord
  let gapBehind ← Reader.gap
  return (table ++ gap ++ onWord ++ gapBehind, table)

/-- The sign between the two columns of a join clause, with its text. -/
def equalsSign : Reader (List Char) := do
  let blanks ← Reader.blanks
  Reader.literal ['=']
  let blanksBehind ← Reader.blanks
  return blanks ++ ['='] ++ blanksBehind

/-- A join clause with its text. -/
def joinClause : Reader (List Char × JoinWords) := do
  let opening ← joinOpening
  let (head, table) ← joinTable
  let left ← pair
  let sign ← equalsSign
  let right ← pair
  let text := opening ++ head ++ left.1 ++ ['.'] ++ left.2 ++ sign ++ right.1 ++ ['.'] ++ right.2
  return (text, ⟨table, left.1, left.2, right.1, right.2⟩)

/-- A table, a dot and a column are what is taken off the text. -/
theorem append_of_run_pair {cs rest : List Char} {words : List Char × List Char}
    (h : pair.run cs = some (words, rest)) : words.1 ++ ['.'] ++ words.2 ++ rest = cs := by
  simp only [pair, Reader.run_bind_eq_some_iff, Reader.run_pure_eq_some_iff] at h
  obtain ⟨_, _, htable, _, _, hdot, _, _, hcolumn, rfl, rfl⟩ := h
  rw [← Reader.append_of_run_some htable, ← Reader.append_of_run_literal hdot,
    ← Reader.append_of_run_some hcolumn]
  simp only [List.append_assoc]

omit [WordClass] in
/-- The words before the table are what is taken off the text. -/
theorem append_of_run_joinOpening {cs rest text : List Char}
    (h : joinOpening.run cs = some (text, rest)) : text ++ rest = cs := by
  simp only [joinOpening, Reader.run_bind_eq_some_iff, Reader.run_pure_eq_some_iff] at h
  obtain ⟨_, _, hinner, _, _, hgap, _, _, hjoin, _, _, hbehind, rfl, rfl⟩ := h
  rw [← Reader.append_of_run_literal hinner, ← Reader.append_of_run_some hgap,
    ← Reader.append_of_run_literal hjoin, ← Reader.append_of_run_some hbehind]
  simp only [List.append_assoc]

/-- The table and the word behind it are what is taken off the text. -/
theorem append_of_run_joinTable {cs rest text table : List Char}
    (h : joinTable.run cs = some ((text, table), rest)) : text ++ rest = cs := by
  simp only [joinTable, Reader.run_bind_eq_some_iff, Reader.run_pure_eq_some_iff,
    Prod.mk.injEq] at h
  obtain ⟨_, _, htable, _, _, hgap, _, _, hon, _, _, hbehind, ⟨rfl, -⟩, rfl⟩ := h
  rw [← Reader.append_of_run_some htable, ← Reader.append_of_run_some hgap,
    ← Reader.append_of_run_literal hon, ← Reader.append_of_run_some hbehind]
  simp only [List.append_assoc]

omit [WordClass] in
/-- The sign and its white space are what is taken off the text. -/
theorem append_of_run_equalsSign {cs rest text : List Char}
    (h : equalsSign.run cs = some (text, rest)) : text ++ rest = cs := by
  simp only [equalsSign, Reader.run_bind_eq_some_iff, Reader.run_pure_eq_some_iff] at h
  obtain ⟨_, _, hblanks, _, _, hsign, _, _, hbehind, rfl, rfl⟩ := h
  rw [← Reader.append_of_run_many hblanks, ← Reader.append_of_run_literal hsign,
    ← Reader.append_of_run_many hbehind]
  simp only [List.append_assoc]

/-- The text of a join clause is what is taken off the text. -/
theorem append_of_run_joinClause {cs rest text : List Char} {words : JoinWords}
    (h : joinClause.run cs = some ((text, words), rest)) : text ++ rest = cs := by
  simp only [joinClause, Reader.run_bind_eq_some_iff, Reader.run_pure_eq_some_iff, Prod.exists,
    Prod.mk.injEq] at h
  obtain ⟨_, _, hopening, _, _, _, htable, _, _, _, hleft, _, _, hsign, _, _, _, hright,
    ⟨rfl, -⟩, rfl⟩ := h
  rw [← append_of_run_joinOpening hopening, ← append_of_run_joinTable htable,
    ← append_of_run_pair hleft, ← append_of_run_equalsSign hsign, ← append_of_run_pair hright]
  simp only [List.append_assoc]

/-- A join clause and the white space before it. -/
def nextJoin : Reader (List Char) := do
  let gap ← Reader.gap
  let (text, _) ← joinClause
  return gap ++ text

/-- A join clause takes at least one character off a text. -/
theorem shortens_nextJoin : nextJoin.Shortens := by
  intro cs value rest h
  simp only [nextJoin, Reader.run_bind_eq_some_iff, Reader.run_pure_eq_some_iff, Prod.exists] at h
  obtain ⟨gap, _, hgap, _, _, _, hclause, _, rfl⟩ := h
  have hpos := List.length_pos_iff.mpr (Reader.ne_nil_of_run_some hgap)
  rw [← Reader.append_of_run_some hgap, ← append_of_run_joinClause hclause]
  simp only [List.length_append]
  omega

/-- The join clauses of a query, each after white space. -/
def joinClauses : Reader (List Char) := do
  let clauses ← Reader.repeated nextJoin shortens_nextJoin
  return clauses.flatten

/-- The condition behind the white space after its word: all that is left but a semicolon at
the end. It has at least one character, be it that semicolon or the last of several white-space
characters behind which nothing is left. -/
def conditionText (gap : List Char) : Reader (List Char) := fun cs =>
  match cs with
  | [] => if 2 ≤ gap.length then gap.getLast?.map ([·], []) else none
  | [c] => some ([c], [])
  | cs => if cs.getLast? = some ';' then some (cs.dropLast, [';']) else some (cs, [])

/-- The condition of a query after white space and its word. -/
def whereClause : Reader (List Char) := do
  let _ ← Reader.gap
  Reader.literal whereWord
  let gap ← Reader.gap
  conditionText gap

/-- The clauses of a query from the word `FROM` on, perhaps with a semicolon at the end. -/
def source : Reader Source := do
  Reader.literal fromWord
  let _ ← Reader.gap
  let table ← Reader.word
  let joins ← joinClauses
  let filter ← optional whereClause
  let _ ← optional (Reader.literal [';'])
  Reader.finish
  return ⟨table, joins, filter⟩

/-- Whether the character may stand in the list of columns. -/
def isSelectChar (c : Char) : Bool := isWord c || c == '.' || isBlank c || c == ',' || c == '*'

/-- Words may stand in the list of columns. -/
theorem isSelectChar_of_isWord {c : Char} (h : isWord c = true) : isSelectChar c = true := by
  simp [isSelectChar, h]

/-- White space may stand in the list of columns. -/
theorem isSelectChar_of_isBlank {c : Char} (h : isBlank c = true) : isSelectChar c = true := by
  simp [isSelectChar, h]

/-- No ASCII character may stand in the list of columns that is neither part of words nor white
space, a dot, a comma or a star. -/
theorem isSelectChar_eq_false {c : Char}
    (hword : (isBeyondAscii c || (c.isAlphanum || c == '_')) = false)
    (hother : (c == '.' || isBlank c || c == ',' || c == '*') = false) :
    isSelectChar c = false := by
  simp only [isSelectChar, isWord_eq_false hword, Bool.false_or, hother]

/-- The list of columns that a text begins with and the clauses behind it. If they can begin at
several places the last one is taken; one white-space character before them belongs neither to
them nor to the list. -/
def splitSelect : List Char → Option (List Char × Source)
  | [] => none
  | c :: cs =>
    if isSelectChar c then
      match splitSelect cs with
      | some (select, source) => some (c :: select, source)
      | none => if isBlank c then (source.run cs).map fun way => ([], way.1) else none
    else none

/-- The list of columns of a query that has nothing but white space before the word `FROM`: the
last character but one, if there is something before it. -/
def blankSelect? (gap : List Char) : Option (List Char) :=
  match gap.reverse with
  | _ :: c :: _ :: _ => some [c]
  | _ => none

/-- The clauses of a text that is laid out as a query, perhaps with a semicolon at its end. -/
def outline? (text : List Char) : Option Outline := do
  let (gap, rest) ← (do Reader.literal selectWord; Reader.gap : Reader (List Char)).run text
  match splitSelect rest with
  | some (select, source) => return ⟨source, select⟩
  | none =>
    let (source, _) ← source.run rest
    return ⟨source, ← blankSelect? gap⟩

/-- The join clauses in a text from left to right, each with its text. The next one is looked
for behind the last one; `skipped` characters belong to the last one still. -/
def findJoins (skipped : Nat) : List Char → List (List Char × JoinWords)
  | [] => []
  | c :: cs =>
    match skipped with
    | skipped + 1 => findJoins skipped cs
    | 0 =>
      match joinClause.run (c :: cs) with
      | some ((text, words), _) => (text, words) :: findJoins (text.length - 1) cs
      | none => findJoins 0 cs

/-- The join clauses in a text from left to right, each with its text. -/
def joinsIn (text : List Char) : List (List Char × JoinWords) := findJoins 0 text

/-! ## Searches in malformed queries -/

/-- The words that open a join clause, by the white space between them. -/
def joinKeyword : Reader (List Char) := do
  Reader.literal innerWord
  let gap ← Reader.gap
  Reader.literal joinWord
  Reader.wordEnd
  return gap

/-- The positions at which the words that open a join clause begin and end. -/
def findKeywords (inWord : Bool) (offset : Nat) : List Char → List (Nat × Nat)
  | [] => []
  | c :: cs =>
    let others := findKeywords (isWord c) (offset + c.utf8Size) cs
    if inWord then others
    else
      match joinKeyword.run (c :: cs) with
      | some (gap, _) => (offset, offset + byteLength (innerWord ++ gap ++ joinWord)) :: others
      | none => others

/-- The positions at which the words that open a join clause begin and end. -/
def joinKeywords (text : List Char) : List (Nat × Nat) := findKeywords false 0 text

/-- A join clause before another one, or before a condition, or at the end. -/
def joinInPlace : Reader Unit := do
  let _ ← joinClause
  (do let _ ← Reader.gap; discard joinKeyword) <|>
    (do let _ ← Reader.gap; Reader.literal whereWord; Reader.wordEnd) <|>
    (do let _ ← Reader.blanks; Reader.finish)

/-- The word before a condition with nothing behind it. -/
def whereAtEnd : Reader Unit := do
  Reader.literal whereWord
  let _ ← Reader.blanks
  Reader.finish

/-- Whether the text ends with the word before a condition. -/
def hasDanglingWhere : List Char → Bool
  | [] => false
  | c :: cs => (isBlank c && whereAtEnd.accepts cs) || hasDanglingWhere cs

/-- The first join clause that is malformed, of those that begin at the given positions: it
ends where the next one begins or before the word `WHERE` between two blanks. Positions
increase, and the text begins at `offset`. -/
def findMalformed (offset : Nat) (text : List Char) : List (Nat × Nat) → Option (List Char)
  | [] => none
  | (start, _) :: others =>
    let text := dropBytes (start - offset) text
    if joinInPlace.accepts text then findMalformed start text others
    else
      let clause :=
        match others with
        | [] => text
        | (next, _) :: _ => takeBytes (next - start) text
      some (trimChars (before ([' '] ++ whereWord ++ [' ']) clause))

/-- The first malformed join clause in a text. -/
def malformedJoin? (text : List Char) : Option (List Char) :=
  findMalformed 0 text (joinKeywords text)

end

end Clause

end RelPlan
