import RelPlan.Predicate.Printer
import RelPlan.Predicate.Token
import RelPlan.Text.Alphabetic
import RelPlan.Text.Blank
import RelPlan.Text.Bytes
import RelPlan.Text.Upper

/-!
# Reading tokens

A condition is cut into tokens from the left, each as long as it can be, with white space
between them. Every text can be cut: a character that begins no token is a token of its own,
and a quote that is never closed takes up all the rest.
-/

namespace RelPlan

namespace Symbol

/-- The sign that a character is on its own. -/
def ofChar? : Char → Option Symbol
  | '=' => some equals
  | '<' => some less
  | '>' => some greater
  | '+' => some plus
  | '-' => some minus
  | '*' => some star
  | '/' => some slash
  | ',' => some comma
  | '(' => some leftParen
  | ')' => some rightParen
  | '.' => some dot
  | _ => none

/-- The sign that two characters are together. -/
def ofChars? : Char → Char → Option Symbol
  | '<', '=' => some lessEqual
  | '<', '>' => some notEqual
  | '>', '=' => some greaterEqual
  | '!', '=' => some notEqual
  | _, _ => none

end Symbol

namespace Lexer

/-- Whether the character may go on a name in a condition. -/
def isNamePart (c : Char) : Bool := Text.isNameStart c || c.isDigit

/-- A token read off the front of a text: what it is, the characters that it takes up, and what
is left. -/
structure Lexeme where
  kind : TokenKind
  taken : List Char
  rest : List Char

/-- How the token is written. A string that is never closed is written as its quote alone. -/
def Lexeme.literal (read : Lexeme) : List Char :=
  match read.kind with
  | .openString => ['\'']
  | _ => read.taken

/-- What a word is: a keyword in any letter case, or else a name. -/
def wordKind (word : List Char) : TokenKind :=
  match Keyword.ofUpper? (String.ofList (Text.upperChars word)) with
  | some keyword => .keyword keyword
  | none => .name (String.ofList word)

/-- The text up to the closing quote, in which two quotes stand for one, and what is left. -/
def readQuoted : List Char → Option (List Char × List Char)
  | [] => none
  | '\'' :: '\'' :: rest => (readQuoted rest).map fun (value, after) => ('\'' :: value, after)
  | '\'' :: rest => some ([], rest)
  | c :: rest => (readQuoted rest).map fun (value, after) => (c :: value, after)

/-- The digits after the first of a number, with at most one point among them, and what is
left. -/
def readDigits (cs : List Char) : List Char × List Char :=
  match cs.dropWhile Char.isDigit with
  | '.' :: rest =>
    (cs.takeWhile Char.isDigit ++ '.' :: rest.takeWhile Char.isDigit,
      rest.dropWhile Char.isDigit)
  | rest => (cs.takeWhile Char.isDigit, rest)

/-- A token that begins with a character that is neither part of a sign nor a quote. -/
def readPlain (c : Char) (rest : List Char) : Lexeme :=
  if Text.isNameStart c then
    let word := c :: rest.takeWhile isNamePart
    ⟨wordKind word, word, rest.dropWhile isNamePart⟩
  else if c.isDigit then
    let spelling := c :: (readDigits rest).1
    ⟨.number (String.ofList spelling), spelling, (readDigits rest).2⟩
  else ⟨.stray c, [c], rest⟩

/-- A string after its opening quote. -/
def readString (rest : List Char) : Lexeme :=
  match readQuoted rest with
  | some (value, after) => ⟨.string (String.ofList value), quoteChars value, after⟩
  | none => ⟨.openString, '\'' :: rest, []⟩

/-- A sign of one character, or another token. -/
def readShort (c : Char) (rest : List Char) : Lexeme :=
  if c = '\'' then readString rest
  else
    match Symbol.ofChar? c with
    | some sign => ⟨.symbol sign, [c], rest⟩
    | none => readPlain c rest

/-- The token that begins with a character which is not blank. -/
def lexeme (c : Char) (rest : List Char) : Lexeme :=
  match rest with
  | [] => readShort c []
  | d :: after =>
    match Symbol.ofChars? c d with
    | some sign => ⟨.symbol sign, [c, d], after⟩
    | none => readShort c (d :: after)

/-- A closed string takes up its value in quotes. -/
theorem quoteChars_append_of_readQuoted {cs value rest : List Char}
    (h : readQuoted cs = some (value, rest)) : quoteChars value ++ rest = '\'' :: cs := by
  suffices hvalue :
      value.flatMap (fun c => if c = '\'' then ['\'', '\''] else [c]) ++ '\'' :: rest = cs by
    simp [quoteChars, ← hvalue]
  fun_induction readQuoted cs generalizing value rest with
  | case1 => simp at h
  | case2 rest' ih =>
    obtain ⟨read, hread, heq⟩ := Option.map_eq_some_iff.mp h
    obtain ⟨rfl, rfl⟩ := Prod.mk.inj heq
    simp [ih hread]
  | case3 rest' =>
    simp only [Option.some.injEq, Prod.mk.injEq] at h
    simp [← h.1, h.2]
  | case4 c rest' hdouble hclose ih =>
    obtain ⟨read, hread, heq⟩ := Option.map_eq_some_iff.mp h
    obtain ⟨rfl, rfl⟩ := Prod.mk.inj heq
    have hc : c ≠ '\'' := hclose
    simp [hc, ih hread]

/-- A number takes up its digits and its point. -/
theorem readDigits_append (cs : List Char) : (readDigits cs).1 ++ (readDigits cs).2 = cs := by
  unfold readDigits
  split
  · next rest h =>
    calc
      _ = cs.takeWhile Char.isDigit ++ '.' :: (rest.takeWhile Char.isDigit ++
          rest.dropWhile Char.isDigit) := by simp
      _ = cs.takeWhile Char.isDigit ++ cs.dropWhile Char.isDigit := by
        rw [List.takeWhile_append_dropWhile, h]
      _ = cs := List.takeWhile_append_dropWhile
  · exact List.takeWhile_append_dropWhile

/-- A token and what is left make up the text. -/
theorem taken_append_rest_lexeme (c : Char) (rest : List Char) :
    (lexeme c rest).taken ++ (lexeme c rest).rest = c :: rest := by
  have hplain (rest : List Char) :
      (readPlain c rest).taken ++ (readPlain c rest).rest = c :: rest := by
    unfold readPlain
    split
    · simp [List.takeWhile_append_dropWhile]
    · split
      · simp [readDigits_append]
      · rfl
  have hshort (rest : List Char) :
      (readShort c rest).taken ++ (readShort c rest).rest = c :: rest := by
    unfold readShort
    split
    · next hc =>
      unfold readString
      split
      · next h => rw [hc]; exact quoteChars_append_of_readQuoted h
      · simp [hc]
    · split
      · rfl
      · exact hplain rest
  unfold lexeme
  split
  · exact hshort []
  · split
    · rfl
    · exact hshort _

/-- Every token takes up at least one character. -/
theorem taken_lexeme_ne_nil (c : Char) (rest : List Char) : (lexeme c rest).taken ≠ [] := by
  have hplain (rest : List Char) : (readPlain c rest).taken ≠ [] := by
    unfold readPlain
    split
    · exact List.cons_ne_nil _ _
    · split <;> exact List.cons_ne_nil _ _
  have hshort (rest : List Char) : (readShort c rest).taken ≠ [] := by
    unfold readShort
    split
    · unfold readString
      split <;> exact List.cons_ne_nil _ _
    · split
      · exact List.cons_ne_nil _ _
      · exact hplain rest
  unfold lexeme
  split
  · exact hshort []
  · split
    · exact List.cons_ne_nil _ _
    · exact hshort _

/-- A token takes up at least the character that it begins with. -/
theorem length_rest_lexeme_le (c : Char) (rest : List Char) :
    (lexeme c rest).rest.length ≤ rest.length := by
  have hlength := congrArg List.length (taken_append_rest_lexeme c rest)
  have hpos := List.length_pos_iff.mpr (taken_lexeme_ne_nil c rest)
  rw [List.length_append, List.length_cons] at hlength
  omega

/-- The tokens of a text that begins at the given position. -/
def tokensFrom (offset : Nat) (cs : List Char) : List Token :=
  match cs with
  | [] => [⟨.finish, "", offset⟩]
  | c :: rest =>
    if Text.isBlank c then tokensFrom (offset + c.utf8Size) rest
    else
      let read := lexeme c rest
      ⟨read.kind, String.ofList read.literal, offset⟩ ::
        tokensFrom (offset + Text.byteLength read.taken) read.rest
termination_by cs.length
decreasing_by
  · simp
  · exact Nat.lt_succ_of_le (length_rest_lexeme_le c rest)

/-- The tokens of a text, the end included. -/
def tokens (cs : List Char) : List Token := tokensFrom 0 cs

end Lexer

/-- The tokens of a text, the end included. -/
def tokenize (text : String) : List Token := Lexer.tokens text.toList

end RelPlan
