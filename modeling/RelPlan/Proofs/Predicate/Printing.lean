import Mathlib.Data.List.TakeWhile
import RelPlan.Proofs.Predicate.Columns

/-!
# Tokens of printed predicates

Every predicate that is read from the tokens of a text is printed as a text that spells it again
(`Parser.reprints_of_spells`), both on its own and as it stands beside others, and so are its
conjuncts. Names, numbers and strings among the tokens of a text are written as they are read
(`Lexer.isProper_of_mem_kinds`), and the tokens of printed text are put together from those of its
parts, since there are blanks or parentheses between them.
-/

namespace RelPlan

/-- Whether the text is a word: a letter or an underscore, and then letters, digits and
underscores. -/
def Lexer.isWord : List Char → Bool
  | [] => false
  | c :: rest => Text.isNameStart c && rest.all isNamePart

/-- Whether the word is the name of a table or a column in a condition. -/
def IsName (name : String) : Prop :=
  Lexer.isWord name.toList = true ∧ Lexer.wordKind name.toList = .name name

/-- Whether a name, a number or a string is read from the way in which it is printed. -/
def TokenKind.IsProper : TokenKind → Prop
  | .name text => IsName text
  | .number spelling =>
    Lexer.kinds spelling.toList = [.number spelling] ∧ Text.IsSolid spelling.toList
  | .string value => Lexer.kinds (quoteChars value.toList) = [.string value]
  | _ => True

namespace Lexer

/-! ## Names, numbers and strings of texts -/

/-- A token is what is read from its own text. -/
theorem kinds_taken_lexeme {c : Char} (hblank : ¬ Text.isBlank c = true) (rest : List Char) :
    kinds (lexeme c rest).taken = [(lexeme c rest).kind] := by
  have hself := kinds_taken_append hblank (List.nil_prefix (l := (lexeme c rest).rest))
  rwa [List.append_nil, kinds_nil] at hself

/-- A digit is no white space. -/
theorem isBlank_of_isDigit {c : Char} (h : c.isDigit = true) : Text.isBlank c = false := by
  cases hblank : Text.isBlank c with
  | false => rfl
  | true => simp [(stops_cons (isStop_of_isBlank hblank) []).isDigit c rfl] at h

/-- There is no white space in a number. -/
theorem isSolid_number {c : Char} (hc : c.isDigit = true) (rest : List Char) :
    Text.IsSolid (c :: (readDigits rest).1) := by
  have hrun (cs : List Char) : ∀ d ∈ cs.takeWhile Char.isDigit, Text.isBlank d = false :=
    fun d hd => isBlank_of_isDigit (List.all_eq_true.mp List.all_takeWhile d hd)
  refine Text.isSolid_of_all (List.cons_ne_nil _ _)
    (List.forall_mem_cons.mpr ⟨isBlank_of_isDigit hc, ?_⟩)
  unfold readDigits
  split
  · simp only [List.forall_mem_append, List.forall_mem_cons]
    exact ⟨hrun rest, by decide, hrun _⟩
  · exact hrun rest

/-- Names, numbers and strings among the tokens of a text are printed as they can be read. -/
theorem isProper_of_mem_kinds {cs : List Char} {kind : TokenKind} (h : kind ∈ kinds cs) :
    kind.IsProper := by
  fun_induction kinds cs with
  | case1 => simp at h
  | case2 c rest hblank ih => exact ih h
  | case3 c rest hblank ih =>
    rcases List.mem_cons.mp h with rfl | hmem
    · have hself := kinds_taken_lexeme hblank rest
      have hread := isLexeme_lexeme c rest
      generalize lexeme c rest = read at hread hself
      cases hread with
      | word hstart =>
        rcases wordKind_cases (c :: rest.takeWhile isNamePart) with ⟨_, heq⟩ | heq
        · rw [heq]
          trivial
        · rw [heq]
          simp [TokenKind.IsProper, IsName, isWord, hstart, List.all_takeWhile, heq]
      | number hdigit =>
        rw [TokenKind.IsProper, String.toList_ofList]
        exact ⟨hself, isSolid_number hdigit _⟩
      | string => simpa [TokenKind.IsProper] using hself
      | _ => trivial
    · exact ih hmem

/-! ## Texts with known tokens -/

/-- The text has these tokens, and no string in it is left open. -/
structure Lexes (cs : List Char) (tokens : List TokenKind) : Prop where
  kinds_eq : kinds cs = tokens
  closed : .openString ∉ tokens

section Lexes

variable {cs first second : List Char} {tokens firsts seconds : List TokenKind}

/-- Text that goes on no token has its tokens behind those of other text. -/
theorem Lexes.append (hfirst : Lexes first firsts) (hsecond : Lexes second seconds)
    (hstops : Stops second) : Lexes (first ++ second) (firsts ++ seconds) := by
  have hclosed : Closed first := by
    rw [Closed, hfirst.kinds_eq]
    exact hfirst.closed
  refine ⟨?_, ?_⟩
  · rw [kinds_append_of_stops hstops hclosed, hfirst.kinds_eq, hsecond.kinds_eq]
  · rw [List.mem_append, not_or]
    exact ⟨hfirst.closed, hsecond.closed⟩

/-- No token goes on at a blank. -/
theorem stops_blank (cs : List Char) : Stops (' ' :: cs) := stops_cons (by decide) cs

/-- A blank before a text has no tokens. -/
theorem Lexes.blank (h : Lexes cs tokens) : Lexes (' ' :: cs) tokens :=
  ⟨(kinds_cons_of_isBlank (by decide) cs).trans h.kinds_eq, h.closed⟩

/-- Texts with a blank between them have their tokens one after another. -/
theorem Lexes.spaced (hfirst : Lexes first firsts) (hsecond : Lexes second seconds) :
    Lexes (first ++ ' ' :: second) (firsts ++ seconds) :=
  hfirst.append hsecond.blank (stops_blank second)

/-- A sign that makes no other one with the character behind it is a token. -/
theorem Lexes.sign {c : Char} {sign : Symbol} (h : Lexes cs tokens)
    (hblank : ¬ Text.isBlank c = true) (hread : lexeme c cs = ⟨.symbol sign, [c], cs⟩) :
    Lexes (c :: cs) (.symbol sign :: tokens) := by
  refine ⟨?_, by simpa using h.closed⟩
  rw [kinds_cons_of_not_isBlank hblank, hread, h.kinds_eq]

/-- No characters have no tokens. -/
theorem lexes_nil : Lexes [] [] := ⟨kinds_nil, by simp⟩

/-- Text in parentheses has its tokens between those of the parentheses. -/
theorem Lexes.parens (h : Lexes cs tokens) :
    Lexes ('(' :: cs ++ [')']) (.symbol .leftParen :: tokens ++ [.symbol .rightParen]) := by
  have hclosing : Lexes [')'] [.symbol .rightParen] := lexes_nil.sign (by decide) rfl
  have hinner := h.append hclosing (stops_cons (by decide) _)
  exact hinner.sign (by decide) (by cases cs <;> rfl)

/-- A minus before a text is a token of its own. -/
theorem Lexes.minus (h : Lexes cs tokens) : Lexes ('-' :: cs) (.symbol .minus :: tokens) :=
  h.sign (by decide) (by cases cs <;> rfl)

/-! ## Words -/

/-- What begins a name may stand in one. -/
theorem isNamePart_of_isNameStart {c : Char} (h : Text.isNameStart c = true) :
    isNamePart c = true := by
  simp [isNamePart, h]

/-- White space is no part of a name. -/
theorem not_isBlank_of_isNamePart {c : Char} (h : isNamePart c = true) :
    ¬ Text.isBlank c = true := by
  intro hblank
  have hpart : isNamePart c = false := (stops_cons (isStop_of_isBlank hblank) []).isNamePart c rfl
  simp [h] at hpart

/-- The characters that begin a sign or a string. -/
def signChars : List Char := ['=', '<', '>', '+', '-', '*', '/', ',', '(', ')', '.', '!', '\'']

/-- Any other character begins a word or a number, or it is a token of its own. -/
theorem lexeme_of_not_mem_signChars {c : Char} (h : c ∉ signChars) (rest : List Char) :
    lexeme c rest = readPlain c rest := by
  simp only [signChars, List.mem_cons, List.not_mem_nil, or_false, not_or] at h
  have hsigns (d : Char) : Symbol.ofChars? c d = none := by
    unfold Symbol.ofChars?
    split <;> simp_all
  have hsign : Symbol.ofChar? c = none := by
    unfold Symbol.ofChar?
    split <;> simp_all
  have hshort (rest : List Char) : readShort c rest = readPlain c rest := by
    simp [readShort, hsign, h]
  cases rest with
  | nil => rw [lexeme, hshort]
  | cons d after => simp only [lexeme, hsigns, hshort]

/-- A letter or an underscore begins a word. -/
theorem lexeme_of_isNameStart {c : Char} (h : Text.isNameStart c = true) (rest : List Char) :
    lexeme c rest = ⟨wordKind (c :: rest.takeWhile isNamePart), c :: rest.takeWhile isNamePart,
      rest.dropWhile isNamePart⟩ := by
  have hno : c ∉ signChars := by
    intro hmem
    have hall : (signChars.all fun d => !Text.isNameStart d) = true := by decide
    simpa [h] using List.all_eq_true.mp hall c hmem
  rw [lexeme_of_not_mem_signChars hno, readPlain, if_pos h]

/-- A word is one token before a character that does not go on with it. -/
theorem kinds_word_append {word tail : List Char} (h : isWord word = true)
    (htail : Text.Ends isNamePart tail) :
    kinds (word ++ tail) = wordKind word :: kinds tail := by
  cases word with
  | nil => simp [isWord] at h
  | cons c rest =>
    obtain ⟨hstart, hrest⟩ := Bool.and_eq_true_iff.mp h
    rw [List.all_eq_true] at hrest
    have hblank := not_isBlank_of_isNamePart (isNamePart_of_isNameStart hstart)
    obtain ⟨htake, hdrop⟩ := Text.takeWhile_append_of_ends htail rest
    rw [List.cons_append, kinds_cons_of_not_isBlank hblank, lexeme_of_isNameStart hstart, htake,
      hdrop, List.takeWhile_eq_self_iff.mpr hrest, List.dropWhile_eq_nil_iff.mpr hrest,
      List.nil_append]

/-- A word is one token. -/
theorem kinds_word {word : List Char} (h : isWord word = true) : kinds word = [wordKind word] := by
  have hword : kinds (word ++ []) = wordKind word :: kinds [] :=
    kinds_word_append h (Text.ends_nil _)
  rwa [List.append_nil, kinds_nil] at hword

/-- A keyword in upper case is read as that keyword. -/
theorem lexes_keyword (word : Keyword) : Lexes word.text.toList [.keyword word] := by
  have hword : isWord word.text.toList = true := by cases word <;> decide
  refine ⟨(kinds_word hword).trans ?_, by simp⟩
  cases word <;> decide

/-- A name is read as that name. -/
theorem lexes_name {name : String} (h : IsName name) : Lexes name.toList [.name name] :=
  ⟨h.2 ▸ kinds_word h.1, by simp⟩

/-- A name, a dot and another name are read as these. -/
theorem lexes_qualified {table name : String} (htable : IsName table) (hname : IsName name) :
    Lexes (table.toList ++ '.' :: name.toList) [.name table, .symbol .dot, .name name] := by
  have hfield : Lexes ('.' :: name.toList) [.symbol .dot, .name name] :=
    (lexes_name hname).sign (by decide) (by cases name.toList <;> rfl)
  refine ⟨?_, by simp⟩
  rw [kinds_word_append htable.1 (Text.ends_cons (by decide) _), htable.2, hfield.kinds_eq]

end Lexes

end Lexer

/-! ## Printed predicates -/

namespace Predicate

/-- The predicate as it stands beside others. -/
def itemText (predicate : Predicate) : String :=
  if predicate.isCompound then parenthesized predicate.text else predicate.text

/-- Some predicates are printed beside each other as each of them stands beside others. -/
theorem itemTexts_eq_map (items : List Predicate) : itemTexts items = items.map itemText := by
  induction items with
  | nil => rfl
  | cons item items ih => rw [itemTexts, ih, List.map_cons, itemText]

/-- A predicate that is no disjunction or conjunction needs no parentheses. -/
theorem itemText_of_not_isCompound {predicate : Predicate} (h : predicate.isCompound = false) :
    predicate.itemText = predicate.text := by
  simp [itemText, h]

/-- A text in parentheses has one more character before it and one behind it. -/
theorem toList_parenthesized (text : String) :
    (parenthesized text).toList = '(' :: text.toList ++ [')'] := by
  simp [parenthesized]

/-- The conjuncts of some predicates are those of each of them. -/
theorem itemConjuncts_eq_flatMap (items : List Predicate) :
    itemConjuncts items = items.flatMap conjuncts := by
  induction items with
  | nil => rfl
  | cons item items ih => rw [itemConjuncts, ih, List.flatMap_cons]

/-- Whether the predicate is a conjunction. -/
def isAnd : Predicate → Bool
  | and _ => true
  | _ => false

/-- A predicate that is no conjunction is its only conjunct. -/
theorem conjuncts_of_not_isAnd {predicate : Predicate} (h : predicate.isAnd = false) :
    predicate.conjuncts = [predicate] := by
  cases predicate with
  | and items => simp [isAnd] at h
  | _ => rfl

mutual

/-- A conjunct is no conjunction. -/
theorem not_isAnd_of_mem_conjuncts : ∀ {predicate conjunct : Predicate},
    conjunct ∈ predicate.conjuncts → conjunct.isAnd = false
  | and _, _, h => not_isAnd_of_mem_itemConjuncts h
  | compare _, _, h => by cases List.mem_singleton.mp h; rfl
  | isNull _ _, _, h => by cases List.mem_singleton.mp h; rfl
  | or _, _, h => by cases List.mem_singleton.mp h; rfl
  | not _, _, h => by cases List.mem_singleton.mp h; rfl
  | verbatim _ _, _, h => by cases List.mem_singleton.mp h; rfl

/-- No conjunct of some predicates is a conjunction. -/
theorem not_isAnd_of_mem_itemConjuncts : ∀ {items : List Predicate} {conjunct : Predicate},
    conjunct ∈ itemConjuncts items → conjunct.isAnd = false
  | [], _, h => by simp [itemConjuncts] at h
  | item :: items, _, h => by
    rw [itemConjuncts] at h
    exact (List.mem_append.mp h).elim not_isAnd_of_mem_conjuncts not_isAnd_of_mem_itemConjuncts

end

/-- A conjunct is its only conjunct. -/
theorem conjuncts_of_mem_conjuncts {predicate conjunct : Predicate}
    (h : conjunct ∈ predicate.conjuncts) : conjunct.conjuncts = [conjunct] :=
  conjuncts_of_not_isAnd (not_isAnd_of_mem_conjuncts h)

/-- The predicate is printed as a text that spells it, on its own and beside others, without white
space around it. -/
structure Reprints (predicate : Predicate) : Prop where
  solid : Text.IsSolid predicate.text.toList
  alone : ∃ kinds, Parser.Spells .or [predicate] kinds ∧ Lexer.Lexes predicate.text.toList kinds
  item : ∃ kinds, Parser.Spells .unary [predicate] kinds ∧
    Lexer.Lexes predicate.itemText.toList kinds

end Predicate

/-- The first of some texts and then each of the others behind a separator. -/
theorem Text.toList_joinWith_cons (separator text : String) (texts : List String) :
    (joinWith separator (text :: texts)).toList =
      text.toList ++ texts.flatMap fun next => separator.toList ++ next.toList := by
  induction texts generalizing text with
  | nil => simp
  | cons next texts ih => simp [ih]

namespace Parser

open Lexer Predicate

variable {predicate : Predicate} {kinds : List TokenKind}

/-- Tokens that spell a unary predicate spell a conjunction with one item. -/
theorem spells_and_of_unary (h : Spells .unary [predicate] kinds) :
    Spells .and [predicate] kinds := by
  simpa [conjunction] using Spells.and h .andNil

/-- Tokens that spell a conjunction spell a disjunction with one item. -/
theorem spells_or_of_and (h : Spells .and [predicate] kinds) : Spells .or [predicate] kinds := by
  simpa [disjunction] using Spells.or h .orNil

/-- Tokens that spell a unary predicate spell a disjunction with one item. -/
theorem spells_or_of_unary (h : Spells .unary [predicate] kinds) : Spells .or [predicate] kinds :=
  spells_or_of_and (spells_and_of_unary h)

/-- A predicate that is printed without parentheses as tokens that need none. -/
theorem reprints_of_unary (hcompound : predicate.isCompound = false)
    (hsolid : Text.IsSolid predicate.text.toList) (hspells : Spells .unary [predicate] kinds)
    (hlexes : Lexes predicate.text.toList kinds) : predicate.Reprints where
  solid := hsolid
  alone := ⟨kinds, spells_or_of_unary hspells, hlexes⟩
  item := ⟨kinds, hspells, by rwa [itemText_of_not_isCompound hcompound]⟩

/-- A predicate that is printed in parentheses beside others. -/
theorem reprints_of_compound (hcompound : predicate.isCompound = true)
    (hsolid : Text.IsSolid predicate.text.toList) (hspells : Spells .or [predicate] kinds)
    (hlexes : Lexes predicate.text.toList kinds) : predicate.Reprints where
  solid := hsolid
  alone := ⟨kinds, hspells, hlexes⟩
  item := by
    refine ⟨_, .parens hspells, ?_⟩
    rw [itemText, if_pos hcompound, toList_parenthesized]
    exact hlexes.parens

/-- An operand is printed as the tokens that it is read from. -/
theorem lexes_of_spellsOperand {operand : Operand} (h : SpellsOperand operand kinds)
    (hproper : ∀ kind ∈ kinds, kind.IsProper) : Lexes operand.text.toList kinds := by
  cases h with
  | qualified table name =>
    have htable : IsName table := hproper (.name table) (by simp)
    have hname : IsName name := hproper (.name name) (by simp)
    simpa [Operand.text, ColumnRef.text, ColumnRef.qualified] using lexes_qualified htable hname
  | bare name =>
    have hname : IsName name := hproper (.name name) (by simp)
    simpa [Operand.text, ColumnRef.text, ColumnRef.bare] using lexes_name hname
  | number spelling =>
    have hnumber : (TokenKind.number spelling).IsProper := hproper _ (by simp)
    exact ⟨hnumber.1, by simp⟩
  | negative spelling =>
    have hnumber : (TokenKind.number spelling).IsProper := hproper _ (by simp)
    have hdigits : Lexes spelling.toList [.number spelling] := ⟨hnumber.1, by simp⟩
    simpa [Operand.text, Literal.text] using hdigits.minus
  | string value =>
    have hvalue : Lexer.kinds (quoteChars value.toList) = [.string value] :=
      hproper (.string value) (by simp)
    exact ⟨by simpa [Operand.text, Literal.text] using hvalue, by simp⟩
  | null => exact lexes_keyword .null

/-- A name has no white space around it. -/
theorem isSolid_of_isName {name : String} (h : IsName name) : Text.IsSolid name.toList := by
  have hword := h.1
  cases hchars : name.toList with
  | nil => simp [hchars, Lexer.isWord] at hword
  | cons c rest =>
    rw [hchars] at hword
    obtain ⟨hstart, hrest⟩ := Bool.and_eq_true_iff.mp hword
    rw [List.all_eq_true] at hrest
    refine Text.isSolid_of_all (List.cons_ne_nil _ _) (List.forall_mem_cons.mpr ⟨?_, ?_⟩)
    · simpa using not_isBlank_of_isNamePart (isNamePart_of_isNameStart hstart)
    · intro d hd
      simpa using not_isBlank_of_isNamePart (hrest d hd)

/-- An operand is printed without white space around it. -/
theorem isSolid_of_spellsOperand {operand : Operand} (h : SpellsOperand operand kinds)
    (hproper : ∀ kind ∈ kinds, kind.IsProper) : Text.IsSolid operand.text.toList := by
  have hsign (c : Char) (h : Text.isBlank c = false) : Text.IsSolid [c] :=
    Text.isSolid_of_all (List.cons_ne_nil _ _) (List.forall_mem_singleton.mpr h)
  cases h with
  | qualified table name =>
    have htable : Text.IsSolid table.toList := isSolid_of_isName (hproper (.name table) (by simp))
    have hname : Text.IsSolid name.toList := isSolid_of_isName (hproper (.name name) (by simp))
    simpa [Operand.text, ColumnRef.text, ColumnRef.qualified] using htable.append hname ['.']
  | bare name => exact isSolid_of_isName (hproper (.name name) (by simp))
  | number spelling =>
    have hnumber : (TokenKind.number spelling).IsProper := hproper _ (by simp)
    exact hnumber.2
  | negative spelling =>
    have hnumber : (TokenKind.number spelling).IsProper := hproper _ (by simp)
    simpa [Operand.text, Literal.text] using (hsign '-' (by decide)).append hnumber.2 []
  | string value =>
    have hquote := hsign '\'' (by decide)
    simpa [Operand.text, Literal.text, quoteChars] using hquote.append hquote _
  | null => exact ⟨by decide, by decide⟩

/-- A comparison's sign is printed as the token that it is read from. -/
theorem lexes_of_compareOp? {sign : TokenKind} {op : CompareOp} (h : compareOp? sign = some op) :
    Lexes op.text.toList [sign] := by
  have hsign {c : Char} {cs : List Char} {symbol : Symbol} (hblank : ¬ Text.isBlank c = true)
      (hread : (lexeme c cs) = ⟨.symbol symbol, c :: cs, []⟩) :
      Lexes (c :: cs) [.symbol symbol] := by
    refine ⟨?_, by simp⟩
    rw [kinds_cons_of_not_isBlank hblank, hread, kinds_nil]
  unfold compareOp? at h
  split at h <;> cases h
  case h_7 => exact lexes_keyword .like
  all_goals exact hsign (by decide) rfl

/-- A text in parentheses has no white space around it. -/
theorem isSolid_parenthesized (text : String) : Text.IsSolid (parenthesized text).toList := by
  have hopening : Text.IsSolid ['('] := ⟨by decide, by decide⟩
  have hclosing : Text.IsSolid [')'] := ⟨by decide, by decide⟩
  simpa [toList_parenthesized] using hopening.append hclosing text.toList

/-- Beside others a predicate has no white space around it if it has none on its own. -/
theorem isSolid_itemText (h : Text.IsSolid predicate.text.toList) :
    Text.IsSolid predicate.itemText.toList := by
  rw [itemText]
  split
  · exact isSolid_parenthesized _
  · exact h

/-- A negation is printed without white space around it if what it negates is. -/
theorem isSolid_not (h : Text.IsSolid predicate.text.toList) :
    Text.IsSolid (Predicate.not predicate).text.toList := by
  have hnot : Text.IsSolid "NOT".toList := ⟨by decide, by decide⟩
  rw [Predicate.text]
  split
  · simpa using hnot.append h [' ']
  · simpa using hnot.append (isSolid_parenthesized predicate.text) [' ']

/-- Items are printed one after another without white space around them. -/
theorem isSolid_joinWith (separator : String) {items : List Predicate} (hne : items ≠ [])
    (h : ∀ item ∈ items, Text.IsSolid item.text.toList) :
    Text.IsSolid (Text.joinWith separator (itemTexts items)).toList := by
  rw [itemTexts_eq_map]
  induction items with
  | nil => exact absurd rfl hne
  | cons item items ih =>
    rw [List.forall_mem_cons] at h
    cases items with
    | nil => exact isSolid_itemText h.1
    | cons next items =>
      simpa using (isSolid_itemText h.1).append (ih (List.cons_ne_nil _ _) h.2) separator.toList

/-- A comparison is printed without white space around it if its operands are. -/
theorem isSolid_compare {comparison : Comparison}
    (hleft : Text.IsSolid comparison.left.text.toList)
    (hright : Text.IsSolid comparison.right.text.toList) :
    Text.IsSolid (Predicate.compare comparison).text.toList := by
  simpa [Predicate.text, Comparison.text] using
    hleft.append hright (' ' :: (comparison.op.text.toList ++ [' ']))

/-- A simple predicate is printed as tokens that spell it. -/
theorem reprints_of_spellsSimple (h : SpellsSimple predicate kinds)
    (hproper : ∀ kind ∈ kinds, kind.IsProper) : predicate.Reprints := by
  have hnull : Text.IsSolid "NULL".toList := ⟨by decide, by decide⟩
  cases h with
  | @compare left right op _ _ _ hleft hop hright =>
    rw [List.forall_mem_append, List.forall_mem_cons] at hproper
    have hlefts := lexes_of_spellsOperand hleft hproper.1
    have hrights := lexes_of_spellsOperand hright hproper.2.2
    have hsolid : Text.IsSolid (Predicate.compare ⟨left, op, right⟩).text.toList := isSolid_compare
      (isSolid_of_spellsOperand hleft hproper.1)
      (isSolid_of_spellsOperand hright hproper.2.2)
    refine reprints_of_unary rfl hsolid (.simple (.compare hleft hop hright)) ?_
    simpa [Predicate.text, Comparison.text] using
      hlefts.spaced ((lexes_of_compareOp? hop).spaced hrights)
  | @notLike left right _ _ hleft hright =>
    rw [List.forall_mem_append, List.forall_mem_cons, List.forall_mem_cons] at hproper
    have hlefts := lexes_of_spellsOperand hleft hproper.1
    have hrights := lexes_of_spellsOperand hright hproper.2.2.2
    have hlike : compareOp? (.keyword .like) = some .like := rfl
    have hinner : Text.IsSolid (Predicate.compare ⟨left, .like, right⟩).text.toList :=
      isSolid_compare (isSolid_of_spellsOperand hleft hproper.1)
        (isSolid_of_spellsOperand hright hproper.2.2.2)
    refine reprints_of_unary rfl (isSolid_not hinner)
      (.not (.simple (.compare hleft hlike hright))) ?_
    have hlexes := (lexes_keyword .not).spaced
      (hlefts.spaced ((lexes_keyword .like).spaced hrights))
    simpa [Predicate.text, isSimple, Comparison.text, Keyword.text, CompareOp.text] using hlexes
  | isNull hoperand =>
    rw [List.forall_mem_append] at hproper
    have hsolid := (isSolid_of_spellsOperand hoperand hproper.1).append hnull " IS ".toList
    refine reprints_of_unary rfl (by simpa [Predicate.text] using hsolid)
      (.simple (.isNull hoperand)) ?_
    have hlexes := (lexes_of_spellsOperand hoperand hproper.1).spaced
      ((lexes_keyword .is).spaced (lexes_keyword .null))
    simpa [Predicate.text, Keyword.text] using hlexes
  | isNotNull hoperand =>
    rw [List.forall_mem_append] at hproper
    have hsolid := (isSolid_of_spellsOperand hoperand hproper.1).append hnull " IS NOT ".toList
    refine reprints_of_unary rfl (by simpa [Predicate.text] using hsolid)
      (.simple (.isNotNull hoperand)) ?_
    have hlexes := (lexes_of_spellsOperand hoperand hproper.1).spaced
      ((lexes_keyword .is).spaced ((lexes_keyword .not).spaced (lexes_keyword .null)))
    simpa [Predicate.text, Keyword.text] using hlexes

/-- A negation is printed as tokens that spell it if what it negates is. -/
theorem reprints_not (h : predicate.Reprints) : (Predicate.not predicate).Reprints := by
  have hsolid := isSolid_not h.solid
  cases hsimple : predicate.isSimple with
  | true =>
    have hcompound : predicate.isCompound = false := by
      cases predicate <;> simp_all [isSimple, isCompound]
    obtain ⟨kinds, hspells, hlexes⟩ := h.item
    rw [itemText_of_not_isCompound hcompound] at hlexes
    refine reprints_of_unary rfl hsolid (.not hspells) ?_
    simpa [Predicate.text, hsimple, Keyword.text] using (lexes_keyword .not).spaced hlexes
  | false =>
    obtain ⟨kinds, hspells, hlexes⟩ := h.alone
    refine reprints_of_unary rfl hsolid (.not (.parens hspells)) ?_
    simpa [Predicate.text, hsimple, toList_parenthesized, Keyword.text] using
      (lexes_keyword .not).spaced hlexes.parens

/-- Items that follow the first of a list, each behind a word, are printed as tokens that spell
them. -/
theorem exists_lexes_tail (word : Keyword) {spells : List Predicate → List TokenKind → Prop}
    (hnil : spells [] [])
    (hcons : ∀ {item items kinds more}, Spells .unary [item] kinds → spells items more →
      spells (item :: items) (.keyword word :: kinds ++ more))
    {items : List Predicate} (h : ∀ item ∈ items, item.Reprints) :
    ∃ kinds, spells items kinds ∧ Lexes (items.flatMap fun item =>
      ' ' :: word.text.toList ++ ' ' :: item.itemText.toList) kinds ∧
      Stops (items.flatMap fun item => ' ' :: word.text.toList ++ ' ' :: item.itemText.toList) := by
  induction items with
  | nil => exact ⟨[], hnil, lexes_nil, stops_nil⟩
  | cons item items ih =>
    rw [List.forall_mem_cons] at h
    obtain ⟨kinds, hspells, hlexes⟩ := h.1.item
    obtain ⟨more, hmore, htail, hstops⟩ := ih h.2
    have hword := ((lexes_keyword word).spaced hlexes).blank
    refine ⟨_, hcons hspells hmore, ?_, ?_⟩
    · simpa using hword.append htail hstops
    · exact stops_blank _

/-- A disjunction is printed as tokens that spell it if its items are. -/
theorem reprints_disjunction {first : Predicate} {others : List Predicate}
    (hfirst : first.Reprints) (hothers : ∀ other ∈ others, other.Reprints) :
    (disjunction first others).Reprints := by
  cases others with
  | nil => exact hfirst
  | cons other others =>
    obtain ⟨kinds, hspells, hlexes⟩ := hfirst.item
    obtain ⟨more, hmore, htail, hstops⟩ := exists_lexes_tail .or Spells.orNil
      (fun hitem hitems => Spells.orCons (spells_and_of_unary hitem) hitems) hothers
    have hsolid := isSolid_joinWith " OR " (List.cons_ne_nil first (other :: others))
      (List.forall_mem_cons.mpr ⟨hfirst.solid, fun item hitem => (hothers item hitem).solid⟩)
    refine reprints_of_compound rfl hsolid (.or (spells_and_of_unary hspells) hmore) ?_
    simpa [disjunction, Predicate.text, itemTexts_eq_map, Text.toList_joinWith_cons,
      List.flatMap_map, Keyword.text] using hlexes.append htail hstops

/-- A conjunction is printed as tokens that spell it if its items are. -/
theorem reprints_conjunction {first : Predicate} {others : List Predicate}
    (hfirst : first.Reprints) (hothers : ∀ other ∈ others, other.Reprints) :
    (conjunction first others).Reprints := by
  cases others with
  | nil => exact hfirst
  | cons other others =>
    obtain ⟨kinds, hspells, hlexes⟩ := hfirst.item
    obtain ⟨more, hmore, htail, hstops⟩ :=
      exists_lexes_tail .and Spells.andNil Spells.andCons hothers
    have hsolid := isSolid_joinWith " AND " (List.cons_ne_nil first (other :: others))
      (List.forall_mem_cons.mpr ⟨hfirst.solid, fun item hitem => (hothers item hitem).solid⟩)
    refine reprints_of_compound rfl hsolid (spells_or_of_and (.and hspells hmore)) ?_
    simpa [conjunction, Predicate.text, itemTexts_eq_map, Text.toList_joinWith_cons,
      List.flatMap_map, Keyword.text] using hlexes.append htail hstops

/-- The conjuncts of a list with at least one item are those of its items. -/
theorem conjuncts_conjunction (first : Predicate) (others : List Predicate) :
    (conjunction first others).conjuncts = first.conjuncts ++ itemConjuncts others := by
  cases others with
  | nil => simp [conjunction, itemConjuncts]
  | cons other others => simp [conjunction, conjuncts, itemConjuncts]

/-- Predicates that are spelled by tokens of a text are printed as tokens that spell them, and so
are their conjuncts. -/
theorem reprints_of_spells {level : Level} {predicates : List Predicate}
    (h : Spells level predicates kinds) (hproper : ∀ kind ∈ kinds, kind.IsProper) :
    ∀ predicate ∈ predicates,
      predicate.Reprints ∧ ∀ conjunct ∈ predicate.conjuncts, conjunct.Reprints := by
  induction h with
  | @or first others _ _ _ _ ihfirst ihothers =>
    rw [List.forall_mem_append] at hproper
    have hfirst := List.forall_mem_singleton.mp (ihfirst hproper.1)
    have hothers := ihothers hproper.2
    have hreprints := reprints_disjunction hfirst.1 fun other hother => (hothers other hother).1
    rw [List.forall_mem_singleton]
    refine ⟨hreprints, ?_⟩
    cases others with
    | nil => exact hfirst.2
    | cons other others => exact List.forall_mem_singleton.mpr hreprints
  | @and first others _ _ _ _ ihfirst ihothers =>
    rw [List.forall_mem_append] at hproper
    have hfirst := List.forall_mem_singleton.mp (ihfirst hproper.1)
    have hothers := ihothers hproper.2
    rw [List.forall_mem_singleton]
    refine ⟨reprints_conjunction hfirst.1 fun other hother => (hothers other hother).1, ?_⟩
    rw [conjuncts_conjunction, itemConjuncts_eq_flatMap, List.forall_mem_append]
    refine ⟨hfirst.2, fun conjunct hmem => ?_⟩
    obtain ⟨other, hother, hconjunct⟩ := List.mem_flatMap.mp hmem
    exact (hothers other hother).2 conjunct hconjunct
  | orNil | andNil => simp
  | orCons _ _ ihfirst ihothers | andCons _ _ ihfirst ihothers =>
    rw [List.cons_append, List.forall_mem_cons, List.forall_mem_append] at hproper
    have hfirst := List.forall_mem_singleton.mp (ihfirst hproper.2.1)
    exact List.forall_mem_cons.mpr ⟨hfirst, ihothers hproper.2.2⟩
  | not _ ihinner =>
    rw [List.forall_mem_cons] at hproper
    have hinner := List.forall_mem_singleton.mp (ihinner hproper.2)
    have hreprints := reprints_not hinner.1
    exact List.forall_mem_singleton.mpr ⟨hreprints, List.forall_mem_singleton.mpr hreprints⟩
  | parens _ ihinner =>
    rw [List.cons_append, List.forall_mem_cons, List.forall_mem_append] at hproper
    exact ihinner hproper.2.1
  | simple hsimple =>
    have hreprints := reprints_of_spellsSimple hsimple hproper
    rw [List.forall_mem_singleton]
    refine ⟨hreprints, ?_⟩
    cases hsimple <;> exact List.forall_mem_singleton.mpr hreprints

end Parser

end RelPlan
