import RelPlan.Proofs.Predicate.NormalForm

/-!
# Equality signs of conditions

A predicate that was read has an equality exactly if there is an equality sign among the tokens
that spell it (`Parser.anyEquality_of_spells`). Text that is kept verbatim has one exactly if the
character `=` is in it, be it as part of another sign or in a string. So a condition has an equality
without an equality sign among its tokens exactly if some segment that follows no grammar has this
character (`Conjunction.hasEquality_ofText_iff`).
-/

namespace RelPlan

/-! ## Equalities of predicates -/

namespace Predicate

mutual

/-- The conjuncts of a predicate have its equalities. -/
theorem any_hasEquality_conjuncts : ∀ predicate : Predicate,
    predicate.conjuncts.any hasEquality = predicate.hasEquality
  | and items => by rw [conjuncts, hasEquality, any_hasEquality_itemConjuncts items]
  | compare _ => by simp [conjuncts]
  | isNull _ _ => by simp [conjuncts]
  | or _ => by simp [conjuncts]
  | not _ => by simp [conjuncts]
  | verbatim _ _ => by simp [conjuncts]

/-- The conjuncts of some predicates have their equalities. -/
theorem any_hasEquality_itemConjuncts : ∀ items : List Predicate,
    (itemConjuncts items).any hasEquality = anyEquality items
  | [] => rfl
  | item :: items => by
    rw [itemConjuncts, List.any_append, anyEquality, any_hasEquality_conjuncts item,
      any_hasEquality_itemConjuncts items]

end

end Predicate

namespace Parser

/-! ## Predicates and the tokens that spell them -/

/-- There is no equals sign in a column or a constant. -/
theorem equals_not_mem_of_spellsOperand {operand : Operand} {kinds : List TokenKind}
    (h : SpellsOperand operand kinds) : .symbol .equals ∉ kinds := by
  cases h <;> simp

/-- Of the signs of comparisons, only the equality sign says that the operands are equal. -/
theorem eq_equals_iff_of_compareOp? {sign : TokenKind} {op : CompareOp}
    (h : compareOp? sign = some op) : .symbol .equals = sign ↔ op = .eq := by
  unfold compareOp? at h
  split at h <;> simp_all <;> simp [← h]

/-- A simple predicate has an equality exactly if its sign is the equality sign. -/
theorem hasEquality_of_spellsSimple {predicate : Predicate} {kinds : List TokenKind}
    (h : SpellsSimple predicate kinds) :
    predicate.hasEquality = true ↔ .symbol .equals ∈ kinds := by
  cases h with
  | compare hleft hop hright =>
    simp [Predicate.hasEquality, equals_not_mem_of_spellsOperand hleft,
      equals_not_mem_of_spellsOperand hright, eq_equals_iff_of_compareOp? hop]
  | notLike hleft hright =>
    simp [Predicate.hasEquality, equals_not_mem_of_spellsOperand hleft,
      equals_not_mem_of_spellsOperand hright]
  | isNull hoperand | isNotNull hoperand =>
    simp [Predicate.hasEquality, equals_not_mem_of_spellsOperand hoperand]

/-- The disjunction of a list has an equality exactly if one of its predicates has. -/
theorem hasEquality_disjunction (first : Predicate) (others : List Predicate) :
    (disjunction first others).hasEquality = Predicate.anyEquality (first :: others) := by
  cases others with
  | nil => simp [disjunction, Predicate.anyEquality]
  | cons other others => rw [disjunction, Predicate.hasEquality]; simp

/-- The conjunction of a list has an equality exactly if one of its predicates has. -/
theorem hasEquality_conjunction (first : Predicate) (others : List Predicate) :
    (conjunction first others).hasEquality = Predicate.anyEquality (first :: others) := by
  cases others with
  | nil => simp [conjunction, Predicate.anyEquality]
  | cons other others => rw [conjunction, Predicate.hasEquality]; simp

/-- Predicates have an equality exactly if there is an equality sign among the tokens that spell
them. -/
theorem anyEquality_of_spells {level : Level} {predicates : List Predicate}
    {kinds : List TokenKind} (h : Spells level predicates kinds) :
    Predicate.anyEquality predicates = true ↔ .symbol .equals ∈ kinds := by
  have hone (predicate : Predicate) :
      Predicate.anyEquality [predicate] = predicate.hasEquality := by
    simp [Predicate.anyEquality]
  have hcons {first : Predicate} {others : List Predicate} {kinds more : List TokenKind}
      (hfirst : Predicate.anyEquality [first] = true ↔ .symbol .equals ∈ kinds)
      (hothers : Predicate.anyEquality others = true ↔ .symbol .equals ∈ more) :
      Predicate.anyEquality (first :: others) = true ↔ .symbol .equals ∈ kinds ++ more := by
    rw [List.mem_append, ← hfirst, ← hothers]
    simp [Predicate.anyEquality]
  induction h with
  | or _ _ ihfirst ihothers =>
    rw [hone, hasEquality_disjunction]
    exact hcons ihfirst ihothers
  | and _ _ ihfirst ihothers =>
    rw [hone, hasEquality_conjunction]
    exact hcons ihfirst ihothers
  | orNil | andNil => simp [Predicate.anyEquality]
  | orCons _ _ ihfirst ihothers | andCons _ _ ihfirst ihothers =>
    rw [hcons ihfirst ihothers]
    simp
  | not _ ihinner =>
    rw [hone] at ihinner ⊢
    simp [Predicate.hasEquality, ihinner]
  | parens _ ihinner => simp [ihinner]
  | simple hsimple =>
    rw [hone]
    exact hasEquality_of_spellsSimple hsimple

end Parser

/-! ## Equality signs of texts -/

namespace Lexer

/-- Only the character `=` on its own is an equality sign. -/
theorem eq_of_kind_lexeme_eq_equals {c : Char} {rest : List Char}
    (h : (lexeme c rest).kind = .symbol .equals) : c = '=' := by
  have hread := isLexeme_lexeme c rest
  generalize lexeme c rest = read at h hread
  cases hread with
  | signs hsigns =>
    obtain rfl := TokenKind.symbol.inj h
    unfold Symbol.ofChars? at hsigns
    split at hsigns <;> simp at hsigns
  | sign hsign =>
    obtain rfl := TokenKind.symbol.inj h
    unfold Symbol.ofChar? at hsign
    split at hsign <;> simp_all
  | word =>
    rcases wordKind_cases (c :: rest.takeWhile isNamePart) with ⟨_, heq⟩ | heq <;> simp [heq] at h
  | _ => simp at h

/-- A text with an equality sign among its tokens has the character `=`. -/
theorem mem_of_equals_mem_kinds {cs : List Char} (h : .symbol .equals ∈ kinds cs) : '=' ∈ cs := by
  fun_induction kinds cs with
  | case1 => simp at h
  | case2 c rest hblank ih => exact List.mem_cons_of_mem _ (ih h)
  | case3 c rest hblank ih =>
    rcases List.mem_cons.mp h with heq | hmem
    · rw [eq_of_kind_lexeme_eq_equals heq.symm]
      exact List.mem_cons_self
    · rw [← taken_append_rest_lexeme c rest]
      exact List.mem_append_right _ (ih hmem)

end Lexer

namespace Condition

/-- Whether a text is read as a predicate of the grammar. -/
def FollowsGrammar (cs : List Char) : Prop :=
  ∃ predicate, Predicate.ofTokens (Lexer.tokens cs) = .ok predicate

/-- A segment has an equality exactly if it has an equality sign, or follows no grammar and has the
character `=`. -/
theorem hasEquality_ofSegment (segment : List Char) :
    (ofSegment segment).hasEquality = true ↔
      .symbol .equals ∈ Lexer.kinds segment ∨ ¬ FollowsGrammar segment ∧ '=' ∈ segment := by
  by_cases h : FollowsGrammar segment
  · obtain ⟨predicate, hread⟩ := h
    have hspells := ofTokens_tokens_iff.mp hread
    have hequality := Parser.anyEquality_of_spells hspells
    rw [ofSegment_of_spells hspells, ← hequality]
    simp [Predicate.anyEquality, FollowsGrammar, hread]
  · have hspells : ∀ predicate, ¬ Parser.Spells .or [predicate] (Lexer.kinds segment) :=
      fun predicate hpredicate => h ⟨predicate, ofTokens_tokens_iff.mpr hpredicate⟩
    rw [ofSegment_of_not_spells hspells, Predicate.hasEquality]
    simpa [h] using Lexer.mem_of_equals_mem_kinds

/-- The equality signs of a text are those of its segments. -/
theorem equals_mem_kinds_iff {cs : List Char} :
    .symbol .equals ∈ Lexer.kinds cs ↔
      ∃ segment ∈ segments cs (Lexer.tokens cs), .symbol .equals ∈ Lexer.kinds segment := by
  have hruns (runs : List (List TokenKind)) :
      .symbol .equals ∈ [TokenKind.keyword .and].intercalate runs ↔
        ∃ run ∈ runs, .symbol .equals ∈ run := by
    induction runs with
    | nil => simp
    | cons run others ih =>
      cases others with
      | nil => simp
      | cons next others =>
        rw [List.intercalate_cons_cons, List.mem_append, ih]
        simp
  calc
    _ ↔ ∃ run ∈ runs 0 false (Lexer.kinds cs), .symbol .equals ∈ run := by
      rw [← hruns, intercalate_runs]
    _ ↔ ∃ run ∈ (segments cs (Lexer.tokens cs)).map Lexer.kinds, .symbol .equals ∈ run := by
      rw [map_kinds_segments]
      refine exists_congr fun run => ⟨fun h => ⟨List.mem_filter.mpr ⟨h.1, ?_⟩, h.2⟩,
        fun h => ⟨List.mem_of_mem_filter h.1, h.2⟩⟩
      simpa using List.ne_nil_of_mem h.2
    _ ↔ _ := by simp

/-- The segments of a text that follows the grammar follow it. -/
theorem followsGrammar_of_mem_segments {cs segment : List Char} (h : FollowsGrammar cs)
    (hsegment : segment ∈ segments cs (Lexer.tokens cs)) : FollowsGrammar segment := by
  obtain ⟨predicate, hread⟩ := h
  obtain ⟨part, hpart⟩ := Parser.exists_spells_of_mem_runs (ofTokens_tokens_iff.mp hread) _
    (kinds_mem_runs_of_mem_segments hsegment)
  exact ⟨part, ofTokens_tokens_iff.mpr hpart⟩

/-- A condition has an equality exactly if there is an equality sign among its tokens, or the
character `=` in a segment that follows no grammar. -/
theorem hasEquality_ofChars {cs : List Char} :
    (ofChars cs).hasEquality = true ↔
      .symbol .equals ∈ Lexer.kinds cs ∨
        ∃ segment ∈ segments cs (Lexer.tokens cs), ¬ FollowsGrammar segment ∧ '=' ∈ segment := by
  unfold ofChars
  split
  · next hempty =>
    have hblank : Text.trimChars [] = [] := rfl
    rw [List.isEmpty_iff.mp hempty, segments_eq_cut, cut_nil]
    simp [Conjunction.hasEquality, hblank]
  · dsimp only
    split
    · next predicate hread =>
      have hequality := Parser.anyEquality_of_spells (ofTokens_tokens_iff.mp hread)
      rw [Conjunction.hasEquality, Predicate.any_hasEquality_conjuncts, ← hequality]
      have hsegments : ¬ ∃ segment ∈ segments cs (Lexer.tokens cs),
          ¬ FollowsGrammar segment ∧ '=' ∈ segment := by
        rintro ⟨segment, hsegment, hgrammar, -⟩
        exact hgrammar (followsGrammar_of_mem_segments ⟨predicate, hread⟩ hsegment)
      simp [Predicate.anyEquality, hsegments]
    · rw [Conjunction.hasEquality, List.any_flatMap, equals_mem_kinds_iff, ← exists_or]
      simp only [Predicate.any_hasEquality_conjuncts, List.any_eq_true, hasEquality_ofSegment,
        ← and_or_left]

end Condition

/-- That a condition has an equality says that there is an equality sign among its tokens, exactly
if there is one or no segment that is kept verbatim has the character `=`, as part of another sign
or in a string. -/
theorem Conjunction.hasEquality_ofText_iff (text : String) :
    ((ofText text).hasEquality = true ↔
        ∃ token ∈ tokenize (Text.trim text), token.kind = .symbol .equals) ↔
      (∃ token ∈ tokenize (Text.trim text), token.kind = .symbol .equals) ∨
        ∀ segment ∈ Condition.segments (Text.trimChars text.toList) (tokenize (Text.trim text)),
          Condition.FollowsGrammar segment ∨ '=' ∉ segment := by
  have htokens : tokenize (Text.trim text) = Lexer.tokens (Text.trimChars text.toList) := by
    rw [tokenize, Text.trim, String.toList_ofList]
  have hequals : (∃ token ∈ tokenize (Text.trim text), token.kind = .symbol .equals) ↔
      .symbol .equals ∈ Lexer.kinds (Text.trimChars text.toList) := by
    rw [← List.mem_map, htokens, Lexer.tokens, Lexer.map_kind_tokensFrom]
    simp
  rw [hequals, ofText, Condition.hasEquality_ofChars, htokens]
  by_cases h : .symbol .equals ∈ Lexer.kinds (Text.trimChars text.toList)
  · simp [h]
  · simp [h, imp_iff_not_or]

/-- A sum follows no grammar, and the character in `>=` counts as an equality. -/
theorem Conjunction.hasEquality_ofText_sum :
    (∀ token ∈ tokenize (Text.trim "A.X + 1 >= 2"), token.kind ≠ .symbol .equals) ∧
      ofText "A.X + 1 >= 2" = [.verbatim "A.X + 1 >= 2" [.qualified "A" "X"]] ∧
      (ofText "A.X + 1 >= 2").hasEquality = true := by
  decide +kernel

end RelPlan
