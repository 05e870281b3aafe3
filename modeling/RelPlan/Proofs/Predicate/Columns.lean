import RelPlan.Proofs.Predicate.Precedence

/-!
# Columns of conditions

The columns of a condition are those that a scan of its tokens finds, in the same order, whether
the condition follows the grammar, is split into segments or is kept verbatim
(`Conjunction.columns_ofText`). A token that is no name, no dot and no opening parenthesis ends
every column before it. Between the operands of a predicate and between the segments of a
condition there always is such a token, so no column is lost or made up where these are cut.
-/

namespace RelPlan

namespace Condition

/-! ## Tokens that end a column -/

/-- A token that ends every column before it: it is no part of a column, and it does not make a
name before it something else than a column. -/
structure EndsColumn (kind : TokenKind) : Prop where
  ne_name : ∀ name, kind ≠ .name name
  ne_dot : kind ≠ .symbol .dot
  ne_leftParen : kind ≠ .symbol .leftParen

/-- A keyword ends every column before it. -/
theorem endsColumn_keyword (word : Keyword) : EndsColumn (.keyword word) :=
  ⟨by simp, by simp, by simp⟩

/-- The end of a text ends every column before it. -/
theorem endsColumn_finish : EndsColumn .finish :=
  ⟨by simp, by simp, by simp⟩

/-- A token that is no name begins no column. -/
theorem scanColumns_cons_of_ne_name {kind : TokenKind} (h : ∀ name, kind ≠ .name name)
    (kinds : List TokenKind) : scanColumns (kind :: kinds) = scanColumns kinds := by
  cases kind with
  | name text => exact absurd rfl (h text)
  | _ => simp [scanColumns]

/-- Columns before a token that ends them do not depend on what is behind it. -/
theorem scanColumns_append_cons {kind : TokenKind} (h : EndsColumn kind)
    (kinds more : List TokenKind) :
    scanColumns (kinds ++ kind :: more) = scanColumns kinds ++ scanColumns more := by
  fun_induction scanColumns kinds with
  | case1 => exact scanColumns_cons_of_ne_name h.ne_name more
  | case2 table name rest ih =>
    simp only [List.cons_append, scanColumns, ih]
  | case3 name rest ih =>
    simp only [List.cons_append, scanColumns, ih]
  | case4 name rest hdot hparen ih =>
    rw [List.cons_append, scanColumns, ih, List.cons_append]
    · intro column others heq
      match rest with
      | [] => exact h.ne_dot (List.cons.inj heq).1
      | [_] => exact h.ne_name column (List.cons.inj (List.cons.inj heq).2).1
      | first :: second :: rest =>
        obtain ⟨rfl, htail⟩ := List.cons.inj heq
        obtain ⟨rfl, -⟩ := List.cons.inj htail
        exact hdot column rest rfl
    · intro others heq
      cases rest with
      | nil => exact h.ne_leftParen (List.cons.inj heq).1
      | cons first rest => exact hparen rest (by rw [(List.cons.inj heq).1])
  | case5 other rest _ _ hname ih =>
    rw [List.cons_append, scanColumns_cons_of_ne_name hname, ih]

/-- Columns before tokens of which the first one ends them do not depend on these. -/
theorem scanColumns_append {more : List TokenKind} (h : ∀ kind ∈ more.head?, EndsColumn kind)
    (kinds : List TokenKind) :
    scanColumns (kinds ++ more) = scanColumns kinds ++ scanColumns more := by
  cases more with
  | nil => simp [scanColumns]
  | cons kind more =>
    have hkind : EndsColumn kind := h kind (by simp)
    rw [scanColumns_append_cons hkind, scanColumns_cons_of_ne_name hkind.ne_name]

/-- The end of a text is no part of a column. -/
theorem scanColumns_append_finish (kinds : List TokenKind) :
    scanColumns (kinds ++ [.finish]) = scanColumns kinds := by
  simp [scanColumns_append_cons endsColumn_finish, scanColumns]

/-- No column goes on over a separator. -/
theorem scanColumns_intercalate (runs : List (List TokenKind)) :
    scanColumns ([.keyword .and].intercalate runs) = runs.flatMap scanColumns := by
  induction runs with
  | nil => simp [scanColumns]
  | cons run others ih =>
    cases others with
    | nil => simp
    | cons next others =>
      rw [List.intercalate_cons_cons, List.append_assoc, List.singleton_append,
        scanColumns_append_cons (endsColumn_keyword .and), ih, ← List.flatMap_cons]

end Condition

namespace Parser

open Condition

/-! ## Columns of predicates -/

/-- The column of an operand is the one that is found among its tokens. -/
theorem scanColumns_of_spellsOperand {operand : Operand} {kinds : List TokenKind}
    (h : SpellsOperand operand kinds) : scanColumns kinds = operand.column?.toList := by
  cases h <;> simp [scanColumns, Operand.column?]

/-- The sign of a comparison ends every column before it. -/
theorem endsColumn_of_compareOp? {sign : TokenKind} {op : CompareOp}
    (h : compareOp? sign = some op) : EndsColumn sign := by
  refine ⟨fun name heq => ?_, fun heq => ?_, fun heq => ?_⟩ <;> simp [heq, compareOp?] at h

/-- The columns of a simple predicate are those that are found among its tokens. -/
theorem scanColumns_of_spellsSimple {predicate : Predicate} {kinds : List TokenKind}
    (h : SpellsSimple predicate kinds) : scanColumns kinds = predicate.columns := by
  cases h with
  | compare hleft hop hright =>
    rw [scanColumns_append_cons (endsColumn_of_compareOp? hop), scanColumns_of_spellsOperand hleft,
      scanColumns_of_spellsOperand hright, Predicate.columns, Comparison.columns]
  | notLike hleft hright =>
    rw [scanColumns_append_cons (endsColumn_keyword _),
      scanColumns_cons_of_ne_name (endsColumn_keyword _).ne_name,
      scanColumns_of_spellsOperand hleft, scanColumns_of_spellsOperand hright,
      Predicate.columns, Predicate.columns, Comparison.columns]
  | isNull hoperand =>
    rw [scanColumns_append_cons (endsColumn_keyword _), scanColumns_of_spellsOperand hoperand]
    simp [scanColumns, Predicate.columns]
  | isNotNull hoperand =>
    rw [scanColumns_append_cons (endsColumn_keyword _), scanColumns_of_spellsOperand hoperand]
    simp [scanColumns, Predicate.columns]

/-- The columns of a disjunction are those of its items. -/
theorem columns_disjunction (first : Predicate) (others : List Predicate) :
    (disjunction first others).columns = first.columns ++ Predicate.itemColumns others := by
  cases others with
  | nil => simp [disjunction, Predicate.itemColumns]
  | cons other others => simp [disjunction, Predicate.columns, Predicate.itemColumns]

/-- The columns of a conjunction are those of its items. -/
theorem columns_conjunction (first : Predicate) (others : List Predicate) :
    (conjunction first others).columns = first.columns ++ Predicate.itemColumns others := by
  cases others with
  | nil => simp [conjunction, Predicate.itemColumns]
  | cons other others => simp [conjunction, Predicate.columns, Predicate.itemColumns]

/-- The predicates that follow the first one begin with the word between them. -/
theorem endsColumn_of_mem_head?_orTail {predicates : List Predicate} {kinds : List TokenKind}
    (h : Spells .orTail predicates kinds) : ∀ kind ∈ kinds.head?, EndsColumn kind := by
  cases h <;> simp [endsColumn_keyword]

/-- What goes on a conjunction ends every column before it. -/
theorem endsColumn_of_mem_head?_andTail {predicates : List Predicate} {kinds : List TokenKind}
    (h : Spells .andTail predicates kinds) : ∀ kind ∈ kinds.head?, EndsColumn kind := by
  cases h <;> simp [endsColumn_keyword]

/-- The columns of predicates are those that are found among their tokens, in the same order. -/
theorem scanColumns_of_spells {level : Level} {predicates : List Predicate}
    {kinds : List TokenKind} (h : Spells level predicates kinds) :
    scanColumns kinds = Predicate.itemColumns predicates := by
  induction h with
  | or _ hothers ihfirst ihothers =>
    rw [scanColumns_append (endsColumn_of_mem_head?_orTail hothers), ihfirst, ihothers]
    simp [Predicate.itemColumns, columns_disjunction]
  | and _ hothers ihfirst ihothers =>
    rw [scanColumns_append (endsColumn_of_mem_head?_andTail hothers), ihfirst, ihothers]
    simp [Predicate.itemColumns, columns_conjunction]
  | orCons _ hothers ihfirst ihothers =>
    rw [List.cons_append, scanColumns_cons_of_ne_name (endsColumn_keyword _).ne_name,
      scanColumns_append (endsColumn_of_mem_head?_orTail hothers), ihfirst, ihothers]
    simp [Predicate.itemColumns]
  | andCons _ hothers ihfirst ihothers =>
    rw [List.cons_append, scanColumns_cons_of_ne_name (endsColumn_keyword _).ne_name,
      scanColumns_append (endsColumn_of_mem_head?_andTail hothers), ihfirst, ihothers]
    simp [Predicate.itemColumns]
  | orNil | andNil => simp [scanColumns, Predicate.itemColumns]
  | not _ ihinner =>
    rw [scanColumns_cons_of_ne_name (endsColumn_keyword _).ne_name, ihinner]
    simp [Predicate.itemColumns, Predicate.columns]
  | parens _ ihinner =>
    rw [List.cons_append, scanColumns_cons_of_ne_name (by simp),
      scanColumns_append_cons ⟨by simp, by simp, by simp⟩, ihinner]
    simp [scanColumns]
  | simple hsimple =>
    rw [scanColumns_of_spellsSimple hsimple]
    simp [Predicate.itemColumns]

end Parser

/-! ## Columns of conditions -/

namespace Predicate

mutual

/-- The conjuncts of a predicate have its columns. -/
theorem itemColumns_conjuncts : ∀ predicate : Predicate,
    itemColumns predicate.conjuncts = predicate.columns
  | and items => by rw [conjuncts, columns]; exact itemColumns_itemConjuncts items
  | compare _ => by simp [conjuncts, itemColumns]
  | isNull _ _ => by simp [conjuncts, itemColumns]
  | or _ => by simp [conjuncts, itemColumns]
  | not _ => by simp [conjuncts, itemColumns]
  | verbatim _ _ => by simp [conjuncts, itemColumns]

/-- The conjuncts of some predicates have their columns. -/
theorem itemColumns_itemConjuncts : ∀ items : List Predicate,
    itemColumns (itemConjuncts items) = itemColumns items
  | [] => rfl
  | item :: items => by
    rw [itemConjuncts, itemColumns, itemColumns_eq_flatMap, List.flatMap_append,
      ← itemColumns_eq_flatMap, ← itemColumns_eq_flatMap, itemColumns_conjuncts item,
      itemColumns_itemConjuncts items]

end

end Predicate

namespace Condition

/-- The columns of a predicate that is read from a text are those that are found among the tokens
of the text. -/
theorem columns_of_ofTokens {cs : List Char} {predicate : Predicate}
    (h : Predicate.ofTokens (Lexer.tokens cs) = .ok predicate) :
    predicate.columns = scanColumns (Lexer.kinds cs) := by
  rw [Parser.scanColumns_of_spells (spells_kinds_of_ofTokens h)]
  simp [Predicate.itemColumns]

/-- The columns of a segment are those that are found among its tokens. -/
theorem columns_ofSegment (segment : List Char) :
    (ofSegment segment).columns = scanColumns (Lexer.kinds segment) := by
  unfold ofSegment
  dsimp only
  split
  · next predicate hpredicate => exact columns_of_ofTokens hpredicate
  · rw [Predicate.columns, Lexer.tokens, Lexer.map_kind_tokensFrom, scanColumns_append_finish]

/-- The segments of a text have the columns of the text. -/
theorem flatMap_scanColumns_segments (cs : List Char) :
    ((segments cs (Lexer.tokens cs)).flatMap fun segment => scanColumns (Lexer.kinds segment)) =
      scanColumns (Lexer.kinds cs) := by
  have hnonempty (runs : List (List TokenKind)) :
      (runs.filter (!·.isEmpty)).flatMap scanColumns = runs.flatMap scanColumns := by
    induction runs with
    | nil => rfl
    | cons run others ih => cases run <;> simp_all [scanColumns]
  calc
    _ = ((segments cs (Lexer.tokens cs)).map Lexer.kinds).flatMap scanColumns := by
      rw [List.flatMap_map]
    _ = (runs 0 false (Lexer.kinds cs)).flatMap scanColumns := by
      rw [map_kinds_segments, hnonempty]
    _ = scanColumns (Lexer.kinds cs) := by
      rw [← scanColumns_intercalate, intercalate_runs]

/-- The columns of a condition are those that are found among its tokens. -/
theorem columns_ofChars (text : List Char) :
    (ofChars text).columns = scanColumns (Lexer.kinds text) := by
  unfold ofChars
  split
  · next hempty =>
    rw [List.isEmpty_iff.mp hempty, Lexer.kinds_nil]
    rfl
  · dsimp only
    split
    · next predicate hpredicate =>
      rw [Conjunction.columns, ← Predicate.itemColumns_eq_flatMap,
        Predicate.itemColumns_conjuncts, columns_of_ofTokens hpredicate]
    · rw [Conjunction.columns, List.flatMap_assoc, ← flatMap_scanColumns_segments]
      congr 1
      funext segment
      rw [← Predicate.itemColumns_eq_flatMap, Predicate.itemColumns_conjuncts, columns_ofSegment]

end Condition

/-- The columns of what a text stands for are those that a scan of the tokens of the text finds. -/
theorem Conjunction.columns_ofText (text : String) :
    (ofText text).columns =
      Condition.scanColumns ((tokenize (Text.trim text)).map (·.kind)) := by
  rw [ofText, Condition.columns_ofChars, tokenize, Text.trim, String.toList_ofList, Lexer.tokens,
    Lexer.map_kind_tokensFrom, Condition.scanColumns_append_finish]

end RelPlan
