import RelPlan.Proofs.Predicate.Derivation
import RelPlan.Proofs.Predicate.Shape

/-!
# Conditions that are built

A condition need not come from a text. If nothing in it is kept verbatim, no predicate of it is a
conjunction, every disjunction and conjunction has at least two items, and names and numbers are
spelled as they can be read, then its text stands for the same condition
(`Conjunction.ofText_text_of_isRegular`). Strings may hold any characters.
-/

namespace RelPlan

/-! ## Names and numbers that can be read -/

/-- The words that are no names in conditions, in upper case. -/
def conditionWords : List String := ["AND", "OR", "NOT", "LIKE", "IS", "NULL", "BETWEEN", "IN"]

/-- Whether the word can be read as a name: a letter or an underscore, and then letters, digits and
underscores, and no keyword in any letter case. -/
def isFreeWord (word : String) : Bool :=
  Lexer.isWord word.toList && !conditionWords.contains (Text.upper word)

/-- Whether the text is a digit, and then digits with at most one point among them. -/
def isUnsigned : List Char → Bool
  | [] => false
  | first :: rest =>
    first.isDigit && rest.all (fun c => c.isDigit || c == '.') && rest.count '.' ≤ 1

/-- Whether the text can be read as a number, perhaps with a minus sign before it. -/
def isSigned : List Char → Bool
  | '-' :: rest => isUnsigned rest
  | cs => isUnsigned cs

/-- Whether the parts of a column are names and a number is one that can be read. -/
def Operand.isPlain : Operand → Bool
  | column ref => isFreeWord ref.name && ref.table.all isFreeWord
  | literal (.number spelling) => isSigned spelling.toList
  | literal (.string _) => true
  | literal .null => true

namespace Predicate

mutual

/-- The operands of the comparisons and tests for null in a predicate, from left to right. -/
def operands : Predicate → List Operand
  | compare comparison => [comparison.left, comparison.right]
  | isNull operand _ => [operand]
  | or items => itemOperands items
  | and items => itemOperands items
  | not inner => inner.operands
  | verbatim _ _ => []

/-- The operands in some predicates. -/
def itemOperands : List Predicate → List Operand
  | [] => []
  | item :: items => item.operands ++ itemOperands items

end

end Predicate

namespace Lexer

/-- A word that is no keyword is a name. -/
theorem isName_of_isFreeWord {word : String} (h : isFreeWord word = true) : IsName word := by
  obtain ⟨hword, hfree⟩ := Bool.and_eq_true_iff.mp h
  have hnone : Keyword.ofUpper? (Text.upper word) = none := by
    unfold Keyword.ofUpper?
    split <;> simp_all [conditionWords]
  refine ⟨hword, ?_⟩
  rw [wordKind, show String.ofList (Text.upperChars word.toList) = Text.upper word from rfl, hnone,
    String.ofList_toList]

/-- The digits of numbers. -/
def digitChars : List Char := ['0', '1', '2', '3', '4', '5', '6', '7', '8', '9']

/-- The digits of numbers are all listed. -/
theorem mem_digitChars_of_isDigit {c : Char} (h : c.isDigit = true) : c ∈ digitChars := by
  obtain ⟨hfirst, hlast⟩ := Char.isDigit_iff_toNat.mp h
  have hall : ∀ code ≤ '9'.toNat, '0'.toNat ≤ code → Char.ofNat code ∈ digitChars := by decide
  have hmem := hall c.toNat hlast hfirst
  rwa [Char.ofNat_toNat] at hmem

/-- A digit begins a number. -/
theorem lexeme_of_isDigit {c : Char} (h : c.isDigit = true) (rest : List Char) :
    lexeme c rest = ⟨.number (String.ofList (c :: (readDigits rest).1)), c :: (readDigits rest).1,
      (readDigits rest).2⟩ := by
  have hall : (digitChars.all fun d => !signChars.contains d && !Text.isNameStart d) = true := by
    decide
  have hdigit := List.all_eq_true.mp hall c (mem_digitChars_of_isDigit h)
  simp only [Bool.and_eq_true, Bool.not_eq_true', List.contains_eq_mem, decide_eq_false_iff_not]
    at hdigit
  obtain ⟨hsign, hstart⟩ := hdigit
  rw [lexeme_of_not_mem_signChars hsign, readPlain, if_neg (Bool.eq_false_iff.mp hstart), if_pos h]

/-- Digits with at most one point among them are all taken. -/
theorem readDigits_eq_self {cs : List Char}
    (hall : cs.all (fun c => c.isDigit || c == '.') = true) (hcount : cs.count '.' ≤ 1) :
    readDigits cs = (cs, []) := by
  have hsplit := List.takeWhile_append_dropWhile (p := Char.isDigit) (l := cs)
  unfold readDigits
  cases hdrop : cs.dropWhile Char.isDigit with
  | nil =>
    rw [hdrop, List.append_nil] at hsplit
    simp only [hsplit]
  | cons c rest =>
    -- What the first digits end with is the point, and no other one is behind it.
    have hc : c.isDigit = false := by
      simpa [hdrop] using List.head?_dropWhile_not Char.isDigit cs
    rw [hdrop] at hsplit
    rw [← hsplit, List.all_append, List.all_cons, hc, Bool.false_or, Bool.and_eq_true,
      Bool.and_eq_true, beq_iff_eq] at hall
    obtain ⟨-, rfl, hrest⟩ := hall
    have hpoint : '.' ∉ rest := by
      rw [← hsplit, List.count_append, List.count_cons_self] at hcount
      exact List.count_eq_zero.mp (by omega)
    have hdigits : ∀ d ∈ rest, d.isDigit = true := by
      intro d hd
      have hor := List.all_eq_true.mp hrest d hd
      have hne : d ≠ '.' := fun heq => hpoint (heq ▸ hd)
      simpa [hne] using hor
    simp only [List.takeWhile_eq_self_iff.mpr hdigits, List.dropWhile_eq_nil_iff.mpr hdigits,
      hsplit]

/-- A number that can be read is read from its text. -/
theorem isProper_number {spelling : String} (h : isUnsigned spelling.toList = true) :
    (TokenKind.number spelling).IsProper := by
  rw [TokenKind.IsProper]
  cases hchars : spelling.toList with
  | nil => simp [hchars, isUnsigned] at h
  | cons first rest =>
    simp only [hchars, isUnsigned, Bool.and_eq_true, decide_eq_true_eq] at h
    obtain ⟨⟨hfirst, hall⟩, hcount⟩ := h
    have hdigits := readDigits_eq_self hall hcount
    have hsolid := isSolid_number hfirst rest
    rw [hdigits] at hsolid
    have hspelling : String.ofList (first :: rest) = spelling := by
      rw [← hchars, String.ofList_toList]
    have hself := kinds_taken_lexeme (Bool.eq_false_iff.mp (isBlank_of_isDigit hfirst)) rest
    rw [lexeme_of_isDigit hfirst, hdigits, hspelling] at hself
    exact ⟨hself, hsolid⟩

/-- A string in quotes ends where its own last quote stands. -/
theorem readQuoted_doubled (value : List Char) :
    readQuoted (value.flatMap (fun c => if c = '\'' then ['\'', '\''] else [c]) ++ ['\'']) =
      some (value, []) := by
  induction value with
  | nil => rfl
  | cons c value ih =>
    rw [List.flatMap_cons]
    by_cases hc : c = '\''
    · subst hc
      simp [readQuoted, ih]
    · rw [if_neg hc, List.singleton_append, List.cons_append, readQuoted_cons hc, ih]
      rfl

/-- A string in quotes is read as that string, whatever is in it. -/
theorem kinds_quoteChars (value : List Char) :
    kinds (quoteChars value) = [.string (String.ofList value)] := by
  rw [quoteChars, List.cons_append, kinds_cons_of_not_isBlank (by decide), lexeme_quote, readString,
    readQuoted_doubled]
  simp

end Lexer

/-! ## Predicates that can be read -/

namespace Parser

open Predicate

/-- A number that can be read is spelled by one token, or by two if there is a sign before it. -/
theorem exists_spells_number {spelling : String} (h : isSigned spelling.toList = true) :
    ∃ kinds, SpellsOperand (.literal (.number spelling)) kinds ∧ ∀ kind ∈ kinds, kind.IsProper := by
  generalize hchars : spelling.toList = cs at h
  unfold isSigned at h
  split at h
  · next rest =>
    have hnumber : (TokenKind.number (String.ofList rest)).IsProper :=
      Lexer.isProper_number (by rwa [String.toList_ofList])
    obtain rfl : spelling = "-" ++ String.ofList rest := String.toList_injective (by simp [hchars])
    refine ⟨_, .negative (String.ofList rest), ?_⟩
    rw [List.forall_mem_cons, List.forall_mem_singleton]
    exact ⟨trivial, hnumber⟩
  · have hnumber : (TokenKind.number spelling).IsProper := Lexer.isProper_number (hchars ▸ h)
    exact ⟨_, .number spelling, List.forall_mem_singleton.mpr hnumber⟩

/-- A plain operand is spelled by tokens that are read from its text. -/
theorem exists_spellsOperand {operand : Operand} (h : operand.isPlain = true) :
    ∃ kinds, SpellsOperand operand kinds ∧ ∀ kind ∈ kinds, kind.IsProper := by
  match operand, h with
  | .column ⟨none, name⟩, h =>
    obtain ⟨hfree, -⟩ := Bool.and_eq_true_iff.mp h
    have hname : (TokenKind.name name).IsProper := Lexer.isName_of_isFreeWord hfree
    exact ⟨_, .bare name, List.forall_mem_singleton.mpr hname⟩
  | .column ⟨some table, name⟩, h =>
    obtain ⟨hfree, hfreeTable⟩ := Bool.and_eq_true_iff.mp h
    have hname : (TokenKind.name name).IsProper := Lexer.isName_of_isFreeWord hfree
    have htable : (TokenKind.name table).IsProper := Lexer.isName_of_isFreeWord hfreeTable
    refine ⟨_, .qualified table name, ?_⟩
    rw [List.forall_mem_cons, List.forall_mem_cons, List.forall_mem_singleton]
    exact ⟨htable, trivial, hname⟩
  | .literal (.number _), h => exact exists_spells_number h
  | .literal (.string value), _ =>
    refine ⟨_, .string value, List.forall_mem_singleton.mpr ?_⟩
    rw [TokenKind.IsProper, Lexer.kinds_quoteChars, String.ofList_toList]
  | .literal .null, _ => exact ⟨_, .null, List.forall_mem_singleton.mpr trivial⟩

/-- A comparison of plain operands is printed as tokens that spell it. -/
theorem reprints_compare {comparison : Comparison} (hleft : comparison.left.isPlain = true)
    (hright : comparison.right.isPlain = true) : (Predicate.compare comparison).Reprints := by
  obtain ⟨lefts, hleft, hlefts⟩ := exists_spellsOperand hleft
  obtain ⟨rights, hright, hrights⟩ := exists_spellsOperand hright
  have hsign : (signToken comparison.op).IsProper := by cases comparison.op <;> trivial
  refine reprints_of_spellsSimple (.compare hleft (compareOp?_eq_some_iff.mpr rfl) hright) ?_
  rw [List.forall_mem_append, List.forall_mem_cons]
  exact ⟨hlefts, hsign, hrights⟩

/-- A test of a plain operand is printed as tokens that spell it. -/
theorem reprints_isNull {operand : Operand} (h : operand.isPlain = true) (negated : Bool) :
    (Predicate.isNull operand negated).Reprints := by
  obtain ⟨kinds, hoperand, hkinds⟩ := exists_spellsOperand h
  cases negated with
  | false =>
    refine reprints_of_spellsSimple (.isNull hoperand) ?_
    simpa [TokenKind.IsProper, or_imp, forall_and] using hkinds
  | true =>
    refine reprints_of_spellsSimple (.isNotNull hoperand) ?_
    simpa [TokenKind.IsProper, or_imp, forall_and] using hkinds

mutual

/-- A regular predicate with plain operands is printed as tokens that spell it. -/
theorem reprints_of_isRegular : ∀ {predicate : Predicate}, predicate.isRegular = true →
    (∀ operand ∈ predicate.operands, operand.isPlain = true) → predicate.Reprints
  | .compare comparison, _, hplain =>
    reprints_compare (hplain _ (by simp [operands])) (hplain _ (by simp [operands]))
  | .isNull operand negated, _, hplain =>
    reprints_isNull (hplain operand (by simp [operands])) negated
  | .or (first :: second :: others), h, hplain => by
    have hitems : ∀ item ∈ first :: second :: others, item.Reprints :=
      reprints_of_areRegular (by simpa [isRegular] using h) hplain
    exact reprints_disjunction (hitems first List.mem_cons_self) fun other hother =>
      hitems other (List.mem_cons_of_mem _ hother)
  | .and (first :: second :: others), h, hplain => by
    have hitems : ∀ item ∈ first :: second :: others, item.Reprints :=
      reprints_of_areRegular (by simpa [isRegular] using h) hplain
    exact reprints_conjunction (hitems first List.mem_cons_self) fun other hother =>
      hitems other (List.mem_cons_of_mem _ hother)
  | .or [], h, _ | .or [_], h, _ | .and [], h, _ | .and [_], h, _ => by simp [isRegular] at h
  | .not inner, h, hplain => reprints_not (reprints_of_isRegular h hplain)
  | .verbatim _ _, h, _ => by simp [isRegular] at h

/-- Predicates that are all regular, with operands that can be printed, are each printed as a text
that spells them. -/
theorem reprints_of_areRegular : ∀ {items : List Predicate}, areRegular items = true →
    (∀ operand ∈ itemOperands items, operand.isPlain = true) → ∀ item ∈ items, item.Reprints
  | [], _, _ => by simp
  | item :: items, h, hplain => by
    obtain ⟨hitem, hitems⟩ := Bool.and_eq_true_iff.mp h
    rw [itemOperands, List.forall_mem_append] at hplain
    rw [List.forall_mem_cons]
    exact ⟨reprints_of_isRegular hitem hplain.1, reprints_of_areRegular hitems hplain.2⟩

end

end Parser

namespace Conjunction

/-- A condition of regular predicates that are no conjunctions, with operands that can be read, is
what its text stands for. -/
theorem ofText_text_of_isRegular {conjunction : Conjunction}
    (hregular : ∀ predicate ∈ conjunction, predicate.isRegular = true ∧ predicate.isAnd = false)
    (hplain : ∀ predicate ∈ conjunction, ∀ operand ∈ predicate.operands, operand.isPlain = true) :
    ofText conjunction.text = conjunction := by
  have hreprints : ∀ predicate ∈ conjunction, predicate.Reprints := fun predicate hmem =>
    Parser.reprints_of_isRegular (hregular predicate hmem).1 (hplain predicate hmem)
  have hconjuncts : ∀ predicate ∈ conjunction, predicate.conjuncts = [predicate] :=
    fun predicate hmem => Predicate.conjuncts_of_not_isAnd (hregular predicate hmem).2
  exact ofText_text_of_reprints hreprints hconjuncts

/-- A condition with a disjunction inside another one, negations of each kind, quotes in a string
and a sign before a number. -/
def built : Conjunction :=
  [.or [.or [.compare ⟨.column (.bare "_n"), .eq, .literal (.string "it's AND '")⟩,
        .isNull (.column (.qualified "T" "Y1")) true],
      .and [.not (.compare ⟨.column (.bare "x"), .like, .literal .null⟩),
        .compare ⟨.literal (.number "-1."), .lessEq, .literal (.number "20.5")⟩]],
    .not (.not (.and [.isNull (.literal (.string "")) false,
      .compare ⟨.column (.bare "x"), .notEq, .column (.qualified "T" "x")⟩]))]

/-- It is printed with parentheses around disjunctions and conjunctions inside others, and around
what is under a negation and is not simple. -/
theorem ofText_text_built :
    (∀ predicate ∈ built, predicate.isRegular = true ∧ predicate.isAnd = false) ∧
      (∀ predicate ∈ built, ∀ operand ∈ predicate.operands, operand.isPlain = true) ∧
      built.text = "((_n = 'it''s AND ''' OR T.Y1 IS NOT NULL) OR (NOT x LIKE NULL AND " ++
        "-1. <= 20.5)) AND NOT (NOT ('' IS NULL AND x <> T.x))" ∧
      ofText built.text = built := by
  have hregular : ∀ predicate ∈ built, predicate.isRegular = true ∧ predicate.isAnd = false := by
    decide
  have hplain : ∀ predicate ∈ built, ∀ operand ∈ predicate.operands, operand.isPlain = true := by
    decide +kernel
  exact ⟨hregular, hplain, by decide +kernel, ofText_text_of_isRegular hregular hplain⟩

end Conjunction

end RelPlan
