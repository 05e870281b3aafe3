import RelPlan.Proofs.Predicate.Names
import RelPlan.Proofs.Predicate.RoundTrip
import RelPlan.Proofs.Query.WellFormed

/-!
# Identifiers in conditions

What may be asked for by name is an identifier, which may have any numerals behind its first letter.
The words of conditions have no numerals but the ten digits, besides those that count as letters. So
an identifier that is no keyword is one word, and a comparison with it is read as such, exactly if
it has no other numerals (`isName_and_isCompare_iff`). If it has one, then the word ends before it
(`tokenize_of_isIdentifier`).
-/

namespace RelPlan

namespace Lexer

/-- A word is written with all its characters. -/
theorem literal_word (word rest : List Char) :
    Lexeme.literal ⟨wordKind word, word, rest⟩ = word := by
  rcases wordKind_cases word with ⟨_, heq⟩ | heq <;> rw [Lexeme.literal, heq]

/-- Text that begins with a letter or an underscore begins with a word. -/
theorem tokensFrom_of_isNameStart {c : Char} (h : Text.isNameStart c = true) (offset : Nat)
    (rest : List Char) :
    tokensFrom offset (c :: rest) =
      ⟨wordKind ((c :: rest).takeWhile isNamePart),
        String.ofList ((c :: rest).takeWhile isNamePart), offset⟩ ::
      tokensFrom (offset + Text.byteLength ((c :: rest).takeWhile isNamePart))
        ((c :: rest).dropWhile isNamePart) := by
  have hpart : isNamePart c = true := isNamePart_of_isNameStart h
  rw [tokensFrom, if_neg (not_isBlank_of_isNamePart hpart), lexeme_of_isNameStart h,
    List.takeWhile_cons_of_pos hpart, List.dropWhile_cons_of_pos hpart]
  dsimp only
  rw [literal_word]

end Lexer

/-! ## Identifiers as words -/

/-- Whether words may have the numerals of the text. -/
def hasWordNumerals (text : String) : Bool :=
  text.toList.all fun c => !Text.isNumeric c || Lexer.isNamePart c

section Identifier

variable {text : String} (h : isIdentifier text = true)

include h

/-- An identifier begins with a letter or an underscore, and it has nothing but characters of words
and numerals. -/
theorem exists_cons_of_isIdentifier : ∃ c rest, text.toList = c :: rest ∧
    Text.isNameStart c = true ∧
      ∀ d ∈ rest, Lexer.isNamePart d = true ∨ Text.isNumeric d = true := by
  rw [isIdentifier] at h
  cases hchars : text.toList with
  | nil => simp [hchars, isIdentifierChars] at h
  | cons c rest =>
    rw [hchars, isIdentifierChars, Bool.and_eq_true, List.all_eq_true] at h
    refine ⟨c, rest, rfl, h.1, fun d hd => ?_⟩
    have hpart := h.2 d hd
    simp only [Text.isAlphanumeric, Bool.or_eq_true] at hpart
    simp only [Lexer.isNamePart, Text.isNameStart, Bool.or_eq_true]
    tauto

/-- An identifier has the numerals of words exactly if all its characters may stand in names of
conditions. -/
theorem hasWordNumerals_iff_of_isIdentifier :
    hasWordNumerals text = true ↔ ∀ c ∈ text.toList, Lexer.isNamePart c = true := by
  obtain ⟨c, rest, hchars, hstart, hrest⟩ := exists_cons_of_isIdentifier h
  have hpart : Lexer.isNamePart c = true := Lexer.isNamePart_of_isNameStart hstart
  simp only [hasWordNumerals, hchars, List.all_cons, hpart, List.all_eq_true, Bool.or_eq_true,
    Bool.not_eq_true', List.forall_mem_cons, Bool.and_eq_true, or_true, true_and]
  refine forall₂_congr fun d hd => ?_
  rcases hrest d hd with hd | hd <;> simp [hd]

/-- The first token of an identifier is a word, which takes up the characters before the first one
that words do not have. -/
theorem tokenize_of_isIdentifier :
    tokenize text =
      ⟨Lexer.wordKind (text.toList.takeWhile Lexer.isNamePart),
        String.ofList (text.toList.takeWhile Lexer.isNamePart), 0⟩ ::
      Lexer.tokensFrom (Text.byteLength (text.toList.takeWhile Lexer.isNamePart))
        (text.toList.dropWhile Lexer.isNamePart) := by
  obtain ⟨c, rest, hchars, hstart, -⟩ := exists_cons_of_isIdentifier h
  rw [tokenize, Lexer.tokens, hchars, Lexer.tokensFrom_of_isNameStart hstart, Nat.zero_add]

/-- An identifier that is no keyword and has the numerals of words is a free word. -/
theorem isFreeWord_of_isIdentifier (hfree : Text.upper text ∉ conditionWords)
    (hnumerals : hasWordNumerals text = true) : isFreeWord text = true := by
  have hword : Lexer.isWord text.toList = true := by
    rw [hasWordNumerals_iff_of_isIdentifier h] at hnumerals
    obtain ⟨c, rest, hchars, hstart, -⟩ := exists_cons_of_isIdentifier h
    rw [hchars, List.forall_mem_cons] at hnumerals
    rw [hchars, Lexer.isWord, hstart, List.all_eq_true.mpr hnumerals.2, Bool.and_true]
  simp [isFreeWord, hword, hfree]

/-- An identifier that is no keyword is one name exactly if words may have its numerals. -/
theorem tokenize_eq_name_iff (hfree : Text.upper text ∉ conditionWords) :
    tokenize text = [⟨.name text, text, 0⟩, ⟨.finish, "", Text.byteLength text.toList⟩] ↔
      hasWordNumerals text = true := by
  constructor
  · intro htokens
    rw [tokenize_of_isIdentifier h] at htokens
    have hliteral : String.ofList (text.toList.takeWhile Lexer.isNamePart) = text :=
      congrArg Token.literal (List.cons.inj htokens).1
    rw [hasWordNumerals_iff_of_isIdentifier h, ← List.takeWhile_eq_self_iff, ← String.ofList_inj,
      String.ofList_toList, hliteral]
  · intro hnumerals
    have hname : IsName text :=
      Lexer.isName_of_isFreeWord (isFreeWord_of_isIdentifier h hfree hnumerals)
    rw [hasWordNumerals_iff_of_isIdentifier h] at hnumerals
    rw [tokenize_of_isIdentifier h, List.takeWhile_eq_self_iff.mpr hnumerals,
      List.dropWhile_eq_nil_iff.mpr hnumerals, hname.2, String.ofList_toList, Lexer.tokensFrom]

end Identifier

/-! ## Columns in comparisons -/

namespace ColumnRef

/-- The names that a column is made up of. -/
def parts (column : ColumnRef) : List String := column.table.toList ++ [column.name]

/-- A property of the parts of a column is one of its table, if it has one, and of its name. -/
theorem forall_mem_parts {column : ColumnRef} {property : String → Prop} :
    (∀ part ∈ column.parts, property part) ↔
      (∀ table ∈ column.table, property table) ∧ property column.name := by
  simp [parts, or_imp, forall_and]

/-- The parts of a column that may be asked for are identifiers. -/
theorem IsNameable.isIdentifier_parts {schema : Schema} {column : ColumnRef}
    (h : column.IsNameable schema) : ∀ part ∈ column.parts, isIdentifier part = true :=
  forall_mem_parts.mpr ⟨h.table, h.name⟩

/-- A column whose parts are free words can be printed as an operand. -/
theorem isPlain_of_parts {column : ColumnRef} (h : ∀ part ∈ column.parts, isFreeWord part = true) :
    (Operand.column column).isPlain = true := by
  rw [forall_mem_parts] at h
  rw [Operand.isPlain, h.2, Bool.true_and, Option.all_eq_true]
  exact h.1

end ColumnRef

/-- The columns of a condition have only characters of words. -/
theorem Conjunction.isNamePart_of_ofText {text : String} {column : ColumnRef}
    (h : column ∈ (ofText text).columns) :
    ∀ part ∈ column.parts, ∀ c ∈ part.toList, Lexer.isNamePart c = true := by
  rw [columns_ofText] at h
  obtain ⟨hname, htable⟩ := Condition.isNamedIn_of_mem_scanColumns h
  rw [ColumnRef.forall_mem_parts]
  exact ⟨fun table hmem => Lexer.isNamePart_of_mem_tokensFrom (htable table hmem),
    Lexer.isNamePart_of_mem_tokensFrom hname⟩

namespace Comparison

/-- Whether one side of the comparison is the column and the other one is an operand that can be
read. -/
def IsOn (column : ColumnRef) (comparison : Comparison) : Prop :=
  comparison.left = .column column ∧ comparison.right.isPlain = true ∨
    comparison.left.isPlain = true ∧ comparison.right = .column column

/-- Whether the text has the tokens of the comparison as it is printed, whatever white space there
is between them. -/
def IsWrittenAs (comparison : Comparison) (text : String) : Prop :=
  (tokenize text).map (·.kind) = (tokenize comparison.text).map (·.kind)

variable {column : ColumnRef} {comparison : Comparison} {text : String}

/-- A comparison that is on a column has that column. -/
theorem IsOn.mem_columns (h : comparison.IsOn column) : column ∈ comparison.columns := by
  rcases h with ⟨hleft, -⟩ | ⟨-, hright⟩
  · simp [columns, hleft, Operand.column?]
  · simp [columns, hright, Operand.column?]

/-- A comparison is written as a text exactly if that has the tokens that it is printed with. -/
theorem isWrittenAs_iff :
    comparison.IsWrittenAs text ↔ Lexer.kinds text.toList = Lexer.kinds comparison.text.toList := by
  rw [IsWrittenAs, tokenize, tokenize, Lexer.tokens, Lexer.tokens, Lexer.map_kind_tokensFrom,
    Lexer.map_kind_tokensFrom, List.append_left_inj]

/-- A comparison of operands that can be read is read however it is written. -/
theorem IsWrittenAs.ofText_eq (h : comparison.IsWrittenAs text)
    (hleft : comparison.left.isPlain = true) (hright : comparison.right.isPlain = true) :
    Conjunction.ofText text = [.compare comparison] := by
  obtain ⟨kinds, hspells, hkinds, -⟩ := (Parser.reprints_compare hleft hright).alone
  have hsame : Lexer.kinds text.toList = kinds := (isWrittenAs_iff.mp h).trans hkinds
  exact Conjunction.ofText_of_spells (hsame ▸ hspells)

/-- A comparison with a column of identifiers that are no keywords is read as one, however it is
written, exactly if words may have the numerals of these. -/
theorem IsOn.ofText_eq_singleton_iff (hon : comparison.IsOn column)
    (hwritten : comparison.IsWrittenAs text)
    (hidentifier : ∀ part ∈ column.parts, isIdentifier part = true)
    (hfree : ∀ part ∈ column.parts, Text.upper part ∉ conditionWords) :
    Conjunction.ofText text = [.compare comparison] ↔
      ∀ part ∈ column.parts, hasWordNumerals part = true := by
  constructor
  · intro htext part hpart
    have hmem : column ∈ (Conjunction.ofText text).columns := by
      rw [htext]
      simpa [Conjunction.columns, Predicate.columns] using hon.mem_columns
    rw [hasWordNumerals_iff_of_isIdentifier (hidentifier part hpart)]
    exact Conjunction.isNamePart_of_ofText hmem part hpart
  · intro hnumerals
    have hplain : (Operand.column column).isPlain = true :=
      ColumnRef.isPlain_of_parts fun part hpart => isFreeWord_of_isIdentifier
        (hidentifier part hpart) (hfree part hpart) (hnumerals part hpart)
    rcases hon with ⟨hleft, hright⟩ | ⟨hleft, hright⟩
    · exact hwritten.ofText_eq (hleft ▸ hplain) hright
    · exact hwritten.ofText_eq hleft (hright ▸ hplain)

end Comparison

/-- An identifier that is no keyword is one name of a condition exactly if words may have its
numerals. A comparison with a column that can be asked for, of names that are no keywords, is read
as that comparison exactly if words may have the numerals of all these names. -/
theorem isName_and_isCompare_iff (text : String) (schema : Schema) (entry : List Char)
    (column : ColumnRef) :
    (isIdentifier text = true → Text.upper text ∉ conditionWords →
      (tokenize text = [⟨.name text, text, 0⟩, ⟨.finish, "", Text.byteLength text.toList⟩] ↔
        hasWordNumerals text = true)) ∧
    (Query.readColumn schema entry = .ok column →
      (∀ part ∈ column.parts, Text.upper part ∉ conditionWords) →
      ∀ (comparison : Comparison) (written : String), comparison.IsOn column →
        comparison.IsWrittenAs written →
        (Conjunction.ofText written = [.compare comparison] ↔
          ∀ part ∈ column.parts, hasWordNumerals part = true)) := by
  refine ⟨fun h hfree => tokenize_eq_name_iff h hfree, ?_⟩
  intro hread hfree comparison written hon hwritten
  have hidentifier : ∀ part ∈ column.parts, isIdentifier part = true :=
    (Query.isNameable_of_readColumn hread).isIdentifier_parts
  exact hon.ofText_eq_singleton_iff hwritten hidentifier hfree

/-- A name with letters beyond ASCII is one token, and columns with digits are compared. -/
theorem isName_and_isCompare_ano :
    tokenize "ação2" = [⟨.name "ação2", "ação2", 0⟩, ⟨.finish, "", 7⟩] ∧
      Conjunction.ofText "TURMA.ANO_2>=2020" =
        [.compare
          ⟨.column (.qualified "TURMA" "ANO_2"), .greaterEq, .literal (.number "2020")⟩] := by
  obtain ⟨hname, hcompare⟩ := isName_and_isCompare_iff "ação2" .standard "TURMA.ANO_2".toList
    (.qualified "TURMA" "ANO_2")
  have hwritten : Comparison.IsWrittenAs ⟨.column (.qualified "TURMA" "ANO_2"), .greaterEq,
      .literal (.number "2020")⟩ "TURMA.ANO_2>=2020" := by
    rw [Comparison.IsWrittenAs]
    decide +kernel
  refine ⟨?_, ?_⟩
  · exact (hname (by decide +kernel) (by decide +kernel)).mpr (by decide +kernel)
  · exact (hcompare (by decide +kernel) (by decide +kernel) _ _ (.inl ⟨rfl, by decide +kernel⟩)
      hwritten).mpr (by decide +kernel)

/-- An identifier with a numeral of another script is two tokens, and a comparison with the column
of this name is kept verbatim and has another column. -/
theorem not_isName_and_isCompare_arabic :
    isIdentifier "A٣" = true ∧ Text.upper "A٣" ∉ conditionWords ∧
      tokenize "A٣" = [⟨.name "A", "A", 0⟩, ⟨.stray '٣', "٣", 1⟩, ⟨.finish, "", 3⟩] ∧
      Query.readColumn Schema.standard "A٣".toList = .ok (.bare "A٣") ∧
      Comparison.text ⟨.column (.bare "A٣"), .eq, .literal (.number "1")⟩ = "A٣ = 1" ∧
      Conjunction.ofText "A٣ = 1" = [.verbatim "A٣ = 1" [.bare "A"]] := by
  decide +kernel

end RelPlan
