import RelPlan.Predicate.Lexer
import RelPlan.Predicate.Parser

/-!
# Reading conditions

Every text is a conjunction. One that does not follow the grammar of predicates as a whole is
split at the `AND`s outside parentheses, and each segment that does not follow it either is
kept verbatim with the columns in it.
-/

namespace RelPlan

namespace Condition

/-- The `AND`s between the parts of a condition: those outside all parentheses, except the
one that belongs to a range. With fewer tokens than 32 bits can count the number of open
parentheses may as well be a word (`separators_eq_separatorsInWord`). -/
def separators (depth : Int) (inRange : Bool) : List Token → List Token
  | [] => []
  | t :: ts =>
    match t.kind with
    | .symbol .leftParen => separators (depth + 1) inRange ts
    | .symbol .rightParen => separators (depth - 1) inRange ts
    | .keyword .between => separators depth (inRange || depth = 0) ts
    | .keyword .and =>
      if depth = 0 then
        if inRange then separators depth false ts else t :: separators depth false ts
      else separators depth inRange ts
    | _ => separators depth inRange ts

/-- The parts of a text between separators; the text begins at the given position. -/
def partsFrom (start : Nat) (text : List Char) : List Token → List (List Char)
  | [] => [text]
  | t :: ts =>
    let stop := t.offset + Text.byteLength t.literal.toList
    Text.takeBytes (t.offset - start) text :: partsFrom stop (Text.dropBytes (stop - start) text) ts

/-- The parts of a condition between its separators, without those that are blank. -/
def segments (text : List Char) (ts : List Token) : List (List Char) :=
  ((partsFrom 0 text (separators 0 false ts)).map Text.trimChars).filter (!·.isEmpty)

/-- The columns among some tokens: names with a table before them, and single names that no
parenthesis follows. -/
def scanColumns : List TokenKind → List ColumnRef
  | [] => []
  | .name table :: .symbol .dot :: .name column :: rest =>
    .qualified table column :: scanColumns rest
  | .name _ :: .symbol .leftParen :: rest => scanColumns rest
  | .name column :: rest => .bare column :: scanColumns rest
  | _ :: rest => scanColumns rest

/-- The predicate of a segment, which is kept verbatim if it follows no grammar. -/
def ofSegment (segment : List Char) : Predicate :=
  let ts := Lexer.tokens segment
  match Predicate.ofTokens ts with
  | .ok predicate => predicate
  | .error _ => .verbatim (String.ofList segment) (scanColumns (ts.map (·.kind)))

/-- The conjunction that a text without white space around it stands for. -/
def ofChars (text : List Char) : Conjunction :=
  if text.isEmpty then []
  else
    let ts := Lexer.tokens text
    match Predicate.ofTokens ts with
    | .ok predicate => predicate.conjuncts
    | .error _ => (segments text ts).flatMap fun segment => (ofSegment segment).conjuncts

/-- Why a text is not a predicate as a whole, if it is neither one nor blank. -/
def fault? (text : String) : Option Parser.Fault :=
  let cs := Text.trimChars text.toList
  if cs.isEmpty then none
  else
    match Predicate.ofTokens (Lexer.tokens cs) with
    | .ok _ => none
    | .error fault => some fault

end Condition

/-- The conjunction that a text stands for. -/
def Conjunction.ofText (text : String) : Conjunction :=
  Condition.ofChars (Text.trimChars text.toList)

end RelPlan
