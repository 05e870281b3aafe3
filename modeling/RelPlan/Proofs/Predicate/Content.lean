import RelPlan.Proofs.Predicate.NormalForm

/-!
# What printed conditions are made of

Besides the words and signs of the printer a printed condition has nothing but what stands in the
text that was read, in the same order (`Conjunction.foreignChars_text_sublist`), and there is no
white space around it (`Conjunction.IsNormal.isSolid`).
-/

namespace RelPlan

/-! ## The characters of tokens -/

/-- What the names, numbers and strings say. -/
def TokenKind.content : TokenKind → List Char
  | name text => text.toList
  | number spelling => spelling.toList
  | string value => value.toList
  | keyword _ | symbol _ | stray _ | openString | finish => []

namespace Lexer

/-- The characters of a string are among those that it is printed with, in the same order. -/
theorem sublist_quoteChars (value : List Char) : value.Sublist (quoteChars value) := by
  have hflat : value.Sublist (value.flatMap fun c => if c = '\'' then ['\'', '\''] else [c]) := by
    induction value with
    | nil => exact .slnil
    | cons c value ih =>
      rw [List.flatMap_cons, ← List.singleton_append (x := c)]
      refine List.Sublist.append ?_ ih
      split
      · next hc => simp [hc]
      · exact .refl _
  exact (hflat.trans (List.sublist_append_left _ _)).cons _

/-- What a token says is among the characters that it takes up. -/
theorem content_lexeme_sublist (c : Char) (rest : List Char) :
    (lexeme c rest).kind.content.Sublist (lexeme c rest).taken := by
  have hread := isLexeme_lexeme c rest
  generalize lexeme c rest = read at hread
  cases hread with
  | string => simpa [TokenKind.content] using sublist_quoteChars _
  | number => simp [TokenKind.content]
  | word =>
    rcases wordKind_cases (c :: rest.takeWhile isNamePart) with ⟨_, heq⟩ | heq <;>
      simp [heq, TokenKind.content]
  | _ => exact List.nil_sublist _

/-- What the tokens of a text say is among its characters, in the same order. -/
theorem content_kinds_sublist (cs : List Char) :
    ((kinds cs).flatMap TokenKind.content).Sublist cs := by
  fun_induction kinds cs with
  | case1 => exact .slnil
  | case2 c rest hblank ih => exact ih.cons c
  | case3 c rest hblank ih =>
    rw [List.flatMap_cons, ← taken_append_rest_lexeme c rest]
    exact (content_lexeme_sublist c rest).append ih

end Lexer

/-! ## The characters of predicates -/

/-- The characters of the words and signs that predicates are printed with. -/
def printerChars : List Char := " ()'-.=<>ADEHIKLNORSTU".toList

/-- The characters that the printer does not put there. -/
def foreignChars (cs : List Char) : List Char := cs.filter fun c => !printerChars.contains c

/-- The foreign characters of a text are those of its parts. -/
theorem foreignChars_append (first second : List Char) :
    foreignChars (first ++ second) = foreignChars first ++ foreignChars second :=
  List.filter_append _ _

/-- The foreign characters of a text are those of its first character and of the others. -/
theorem foreignChars_cons (c : Char) (cs : List Char) :
    foreignChars (c :: cs) = foreignChars [c] ++ foreignChars cs :=
  foreignChars_append [c] cs

/-- The foreign characters of a text are among its characters, in the same order. -/
theorem foreignChars_sublist (cs : List Char) : (foreignChars cs).Sublist cs :=
  List.filter_sublist

/-- Quotes are not foreign. -/
theorem foreignChars_quoteChars (value : List Char) :
    foreignChars (quoteChars value) = foreignChars value := by
  have hquote : foreignChars ['\''] = [] := by decide
  have hflat : foreignChars (value.flatMap fun c => if c = '\'' then ['\'', '\''] else [c]) =
      foreignChars value := by
    induction value with
    | nil => rfl
    | cons c value ih =>
      rw [List.flatMap_cons, foreignChars_append, ih, foreignChars_cons c value]
      split
      · next hc => rw [hc]; rfl
      · rfl
  rw [quoteChars, List.cons_append, foreignChars_cons, foreignChars_append, hflat, hquote,
    List.nil_append, List.append_nil]

/-- Texts are joined by a separator of the printer. -/
theorem foreignChars_joinWith {separator : String} (h : foreignChars separator.toList = [])
    (texts : List String) :
    foreignChars (Text.joinWith separator texts).toList =
      texts.flatMap fun text => foreignChars text.toList := by
  induction texts with
  | nil => rfl
  | cons text texts ih =>
    cases texts with
    | nil => simp
    | cons next texts =>
      rw [Text.joinWith_cons_cons, String.toList_append, String.toList_append, foreignChars_append,
        foreignChars_append, h, ih, List.append_nil]
      rfl

namespace Predicate

/-- The characters of a printed predicate that the printer does not put there. -/
def foreignText (predicate : Predicate) : List Char := foreignChars predicate.text.toList

/-- Parentheses are not foreign. -/
theorem foreignChars_parenthesized (text : String) :
    foreignChars (parenthesized text).toList = foreignChars text.toList := by
  have hopening : foreignChars ['('] = [] := by decide
  have hclosing : foreignChars [')'] = [] := by decide
  rw [toList_parenthesized, List.cons_append, foreignChars_cons, foreignChars_append, hopening,
    hclosing, List.nil_append, List.append_nil]

/-- Beside others a predicate is printed with the foreign characters that it has on its own. -/
theorem foreignChars_itemText (predicate : Predicate) :
    foreignChars predicate.itemText.toList = predicate.foreignText := by
  rw [itemText]
  split
  · exact foreignChars_parenthesized _
  · rfl

/-- Predicates beside others are printed with their own characters. -/
theorem foreignChars_joinWith_itemTexts {separator : String}
    (h : foreignChars separator.toList = []) (items : List Predicate) :
    foreignChars (Text.joinWith separator (itemTexts items)).toList =
      items.flatMap foreignText := by
  rw [foreignChars_joinWith h, itemTexts_eq_map, List.flatMap_map]
  exact List.flatMap_congr fun item _ => foreignChars_itemText item

/-- The foreign characters of a disjunction are those of its items. -/
theorem foreignText_or (items : List Predicate) :
    (or items).foreignText = items.flatMap foreignText :=
  foreignChars_joinWith_itemTexts (by decide) items

/-- The foreign characters of a conjunction are those of its items. -/
theorem foreignText_and (items : List Predicate) :
    (and items).foreignText = items.flatMap foreignText :=
  foreignChars_joinWith_itemTexts (by decide) items

/-- A negation has the foreign characters of what it negates. -/
theorem foreignText_not (inner : Predicate) : (not inner).foreignText = inner.foreignText := by
  have hnot : foreignChars "NOT ".toList = [] := by decide
  rw [foreignText, text]
  split <;>
    simp only [String.toList_append, foreignChars_append, hnot, foreignChars_parenthesized] <;> rfl

mutual

/-- A predicate is printed with the characters of its conjuncts. -/
theorem flatMap_foreignText_conjuncts : ∀ predicate : Predicate,
    predicate.conjuncts.flatMap foreignText = predicate.foreignText
  | and items => by
    rw [conjuncts, foreignText_and, flatMap_foreignText_itemConjuncts items]
  | compare _ => List.flatMap_singleton _ _
  | isNull _ _ => List.flatMap_singleton _ _
  | or _ => List.flatMap_singleton _ _
  | not _ => List.flatMap_singleton _ _
  | verbatim _ _ => List.flatMap_singleton _ _

/-- The conjuncts of some predicates have the foreign characters of these. -/
theorem flatMap_foreignText_itemConjuncts : ∀ items : List Predicate,
    (itemConjuncts items).flatMap foreignText = items.flatMap foreignText
  | [] => rfl
  | item :: items => by
    rw [itemConjuncts, List.flatMap_append, List.flatMap_cons, flatMap_foreignText_conjuncts item,
      flatMap_foreignText_itemConjuncts items]

end

end Predicate

/-- A condition is printed with the characters of its conjuncts. -/
theorem Conjunction.foreignChars_text (conjunction : Conjunction) :
    foreignChars conjunction.text.toList = conjunction.flatMap Predicate.foreignText := by
  match conjunction with
  | [] => rfl
  | [predicate] => exact (List.flatMap_singleton _ _).symm
  | first :: next :: others => exact Predicate.foreignChars_joinWith_itemTexts (by decide) _

namespace Parser

variable {kinds : List TokenKind}

/-- An operand is printed with what its tokens say. -/
theorem foreignChars_text_of_spellsOperand {operand : Operand} (h : SpellsOperand operand kinds) :
    (foreignChars operand.text.toList).Sublist (kinds.flatMap TokenKind.content) := by
  cases h with
  | qualified table name =>
    have hdot : foreignChars ".".toList = [] := by decide
    have htext : (Operand.column (.qualified table name)).text = table ++ "." ++ name := rfl
    rw [htext, String.toList_append, String.toList_append, foreignChars_append, foreignChars_append,
      hdot, List.append_nil]
    simpa [TokenKind.content] using
      (foreignChars_sublist table.toList).append (foreignChars_sublist name.toList)
  | bare name =>
    have htext : (Operand.column (.bare name)).text = name := rfl
    simpa [htext, TokenKind.content] using foreignChars_sublist name.toList
  | number spelling =>
    have htext : (Operand.literal (.number spelling)).text = spelling := rfl
    simpa [htext, TokenKind.content] using foreignChars_sublist spelling.toList
  | negative spelling =>
    have hminus : foreignChars "-".toList = [] := by decide
    have htext : (Operand.literal (.number ("-" ++ spelling))).text = "-" ++ spelling := rfl
    rw [htext, String.toList_append, foreignChars_append, hminus]
    simpa [TokenKind.content] using foreignChars_sublist spelling.toList
  | string value =>
    have htext : (Operand.literal (.string value)).text.toList = quoteChars value.toList :=
      String.toList_ofList
    rw [htext, foreignChars_quoteChars]
    simpa [TokenKind.content] using foreignChars_sublist value.toList
  | null => exact List.nil_sublist _

/-- The signs of comparisons are not foreign. -/
theorem foreignChars_text_compareOp (op : CompareOp) : foreignChars op.text.toList = [] := by
  cases op <;> decide

/-- A comparison is printed with the characters of its operands. -/
theorem foreignText_compare (comparison : Comparison) :
    (Predicate.compare comparison).foreignText =
      foreignChars comparison.left.text.toList ++ foreignChars comparison.right.text.toList := by
  have hblank : foreignChars " ".toList = [] := by decide
  rw [Predicate.foreignText, Predicate.text, Comparison.text]
  simp only [String.toList_append, foreignChars_append, hblank, foreignChars_text_compareOp,
    List.append_nil]

/-- A simple predicate is printed with what its tokens say. -/
theorem foreignText_of_spellsSimple {predicate : Predicate} (h : SpellsSimple predicate kinds) :
    predicate.foreignText.Sublist (kinds.flatMap TokenKind.content) := by
  have hnull {operand : Operand} {negated : Bool} :
      (Predicate.isNull operand negated).foreignText = foreignChars operand.text.toList := by
    rw [Predicate.foreignText, Predicate.text, String.toList_append, foreignChars_append]
    cases negated <;> exact List.append_nil _
  cases h with
  | compare hleft hop hright =>
    rw [foreignText_compare, List.flatMap_append, List.flatMap_cons]
    exact (foreignChars_text_of_spellsOperand hleft).append
      ((foreignChars_text_of_spellsOperand hright).trans (List.sublist_append_right _ _))
  | notLike hleft hright =>
    rw [Predicate.foreignText_not, foreignText_compare, List.flatMap_append, List.flatMap_cons,
      List.flatMap_cons]
    exact (foreignChars_text_of_spellsOperand hleft).append
      (foreignChars_text_of_spellsOperand hright)
  | isNull hoperand | isNotNull hoperand =>
    rw [hnull, List.flatMap_append]
    exact (foreignChars_text_of_spellsOperand hoperand).trans (List.sublist_append_left _ _)

/-- The disjunction of a list has the foreign characters of the predicates in the list. -/
theorem foreignText_disjunction (first : Predicate) (others : List Predicate) :
    (disjunction first others).foreignText = (first :: others).flatMap Predicate.foreignText := by
  cases others with
  | nil => exact (List.flatMap_singleton _ _).symm
  | cons other others => exact Predicate.foreignText_or _

/-- The conjunction of a list has the foreign characters of the predicates in the list. -/
theorem foreignText_conjunction (first : Predicate) (others : List Predicate) :
    (conjunction first others).foreignText = (first :: others).flatMap Predicate.foreignText := by
  cases others with
  | nil => exact (List.flatMap_singleton _ _).symm
  | cons other others => exact Predicate.foreignText_and _

/-- Predicates are printed with what the tokens that spell them say. -/
theorem foreignText_of_spells {level : Level} {predicates : List Predicate}
    (h : Spells level predicates kinds) :
    (predicates.flatMap Predicate.foreignText).Sublist (kinds.flatMap TokenKind.content) := by
  induction h with
  | or _ _ ihfirst ihothers =>
    rw [List.flatMap_singleton] at ihfirst ⊢
    rw [foreignText_disjunction, List.flatMap_cons, List.flatMap_append]
    exact ihfirst.append ihothers
  | and _ _ ihfirst ihothers =>
    rw [List.flatMap_singleton] at ihfirst ⊢
    rw [foreignText_conjunction, List.flatMap_cons, List.flatMap_append]
    exact ihfirst.append ihothers
  | orNil | andNil => exact List.nil_sublist _
  | orCons _ _ ihfirst ihothers | andCons _ _ ihfirst ihothers =>
    rw [List.flatMap_singleton] at ihfirst
    rw [List.flatMap_cons, List.cons_append, List.flatMap_cons, List.flatMap_append]
    exact (ihfirst.append ihothers).trans (List.sublist_append_right _ _)
  | not _ ihinner =>
    rw [List.flatMap_singleton] at ihinner ⊢
    rw [Predicate.foreignText_not, List.flatMap_cons]
    exact ihinner.trans (List.sublist_append_right _ _)
  | parens _ ihinner =>
    rw [List.flatMap_singleton] at ihinner ⊢
    rw [List.cons_append, List.flatMap_cons, List.flatMap_append]
    exact ihinner.trans ((List.sublist_append_left _ _).trans (List.sublist_append_right _ _))
  | simple hsimple =>
    rw [List.flatMap_singleton]
    exact foreignText_of_spellsSimple hsimple

end Parser

/-! ## The characters of conditions -/

namespace Condition

/-- The parts of a text are made of its characters. -/
theorem flatten_cut_sublist (depth : Int) (inRange : Bool) (cs : List Char) :
    (cut depth inRange cs).flatten.Sublist cs := by
  have hfront (front : List Char) (lists : List (List Char)) :
      (prependFirst front lists).flatten = front ++ lists.flatten := by
    cases lists <;> simp [prependFirst]
  fun_induction cut depth inRange cs with
  | case1 => exact .slnil
  | case2 depth inRange c rest hblank ih =>
    rw [hfront]
    exact ih.cons_cons c
  | case3 depth inRange c rest hblank read parts hseparator ih =>
    rw [← Lexer.taken_append_rest_lexeme c rest]
    exact ih.trans (List.sublist_append_right _ _)
  | case4 depth inRange c rest hblank read parts hseparator ih =>
    rw [hfront, ← Lexer.taken_append_rest_lexeme c rest]
    exact (List.Sublist.refl _).append ih

/-- The segments of a text are made of its characters. -/
theorem flatten_segments_sublist (cs : List Char) :
    (segments cs (Lexer.tokens cs)).flatten.Sublist cs := by
  have htrim (parts : List (List Char)) :
      ((parts.map Text.trimChars).filter (!·.isEmpty)).flatten.Sublist parts.flatten := by
    induction parts with
    | nil => exact .slnil
    | cons part parts ih =>
      rw [List.map_cons, List.filter_cons]
      split
      · exact (Text.isInfix_trimChars part).sublist.append ih
      · exact ih.trans (List.sublist_append_right _ _)
  rw [segments_eq_cut]
  exact (htrim _).trans (flatten_cut_sublist 0 false cs)

/-- A segment is printed with its own characters. -/
theorem foreignText_ofSegment (segment : List Char) :
    (ofSegment segment).foreignText.Sublist segment := by
  by_cases h : ∃ predicate, Parser.Spells .or [predicate] (Lexer.kinds segment)
  · obtain ⟨predicate, hspells⟩ := h
    have hsublist := Parser.foreignText_of_spells hspells
    rw [List.flatMap_singleton] at hsublist
    rw [ofSegment_of_spells hspells]
    exact hsublist.trans (Lexer.content_kinds_sublist segment)
  · rw [ofSegment_of_not_spells (not_exists.mp h), Predicate.foreignText, Predicate.text,
      String.toList_ofList]
    exact foreignChars_sublist segment

end Condition

/-- A condition is printed with the characters of the text that was read, in the same order, besides
those that the printer puts there. -/
theorem Conjunction.foreignChars_text_sublist (text : String) :
    (foreignChars (ofText text).text.toList).Sublist text.toList := by
  rw [Conjunction.foreignChars_text]
  by_cases h : ∃ predicate, Parser.Spells .or [predicate] (Lexer.kinds text.toList)
  · obtain ⟨predicate, hspells⟩ := h
    have hsublist := Parser.foreignText_of_spells hspells
    rw [List.flatMap_singleton] at hsublist
    rw [ofText_of_spells hspells, Predicate.flatMap_foreignText_conjuncts]
    exact hsublist.trans (Lexer.content_kinds_sublist _)
  · have hsegments (parts : List (List Char)) :
        (parts.flatMap fun part => (Condition.ofSegment part).foreignText).Sublist
          parts.flatten := by
      induction parts with
      | nil => exact .slnil
      | cons part parts ih => exact (Condition.foreignText_ofSegment part).append ih
    rw [ofText_of_not_spells (not_exists.mp h), List.flatMap_assoc]
    simp only [Predicate.flatMap_foreignText_conjuncts]
    exact (hsegments _).trans (Condition.flatten_segments_sublist _)

/-- A character that the printer does not put there occurs at most as often as in the text that was
read. -/
theorem Conjunction.count_text_le {c : Char} (hc : c ∉ printerChars) (text : String) :
    (ofText text).text.toList.count c ≤ text.toList.count c := by
  have hforeign :
      (foreignChars (ofText text).text.toList).count c = (ofText text).text.toList.count c :=
    List.count_filter (by simpa using hc)
  rw [← hforeign]
  exact (foreignChars_text_sublist text).count_le c

/-! ## The ends of conditions -/

/-- A conjunct is printed without white space around it. -/
theorem Predicate.IsItem.isSolid {predicate : Predicate} (h : predicate.IsItem) :
    Text.IsSolid predicate.text.toList := by
  cases h with
  | read hreprints _ => exact hreprints.solid
  | kept htrim hne hspells _ =>
    rw [Condition.ofSegment_of_not_spells hspells, Predicate.text, String.toList_ofList]
    exact ⟨hne, htrim⟩

/-- A condition is printed without white space around it. -/
theorem Conjunction.IsNormal.isSolid {conjunction : Conjunction} (h : conjunction.IsNormal)
    (hne : conjunction ≠ []) : Text.IsSolid conjunction.text.toList := by
  have hitems : ∀ item ∈ conjunction, Text.IsSolid item.text.toList :=
    fun item hitem => (h.isItem item hitem).isSolid
  match conjunction with
  | [predicate] => exact hitems predicate List.mem_cons_self
  | first :: next :: others => exact Parser.isSolid_joinWith " AND " hne hitems

end RelPlan
