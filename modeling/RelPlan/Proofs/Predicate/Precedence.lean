import RelPlan.Proofs.Predicate.Grammar
import RelPlan.Proofs.Predicate.Segments

/-!
# Disjunctions in conditions

`AND` binds tighter than `OR`, so a text with an `OR` outside all parentheses is one disjunction.
The grammar reads it as one. If the text does not follow the grammar it is split at `AND`s
nevertheless, and it becomes several predicates unless everything is between the same two
(`Conjunction.length_ofText_eq_one_iff`).
-/

namespace RelPlan

namespace Condition

/-- Whether there is an `OR` outside all parentheses. -/
def hasOuterOr (depth : Int) : List TokenKind → Bool
  | [] => false
  | kind :: kinds =>
    (kind = .keyword .or && depth = 0) || hasOuterOr (depthAfter depth kind) kinds

/-- Whether every parenthesis that is closed was opened, and all are closed in the end. -/
def isBalanced (depth : Int) : List TokenKind → Bool
  | [] => depth = 0
  | kind :: kinds => 0 ≤ depthAfter depth kind && isBalanced (depthAfter depth kind) kinds

/-- There is an outer `OR` among some tokens exactly if there is one among the first or the last of
them. -/
theorem hasOuterOr_append (depth : Int) (first second : List TokenKind) :
    hasOuterOr depth (first ++ second) =
      (hasOuterOr depth first || hasOuterOr (depthBehind depth first) second) := by
  induction first generalizing depth with
  | nil => rfl
  | cons kind first ih =>
    rw [List.cons_append, hasOuterOr, ih, hasOuterOr, Bool.or_assoc]
    rfl

/-- An `OR` outside parentheses is outside them in its run. -/
theorem exists_run_of_hasOuterOr {depth : Int} {kinds : List TokenKind} (inRange : Bool)
    (h : hasOuterOr depth kinds = true) :
    ∃ first others, runs depth inRange kinds = first :: others ∧
      (hasOuterOr depth first = true ∨ ∃ run ∈ others, hasOuterOr 0 run = true) := by
  induction kinds generalizing depth inRange with
  | nil => simp [hasOuterOr] at h
  | cons kind kinds ih =>
    rw [runs]
    split
    · next hseparator =>
      simp only [isSeparator, Bool.and_eq_true, decide_eq_true_eq] at hseparator
      obtain ⟨⟨rfl, rfl⟩, -⟩ := hseparator
      obtain ⟨first, others, hruns, hor⟩ := ih (rangeAfter 0 inRange (.keyword .and))
        (by simpa [hasOuterOr] using h)
      refine ⟨[], _, rfl, .inr ?_⟩
      rw [hruns]
      exact (List.exists_mem_cons_iff ..).mpr hor
    · rw [hasOuterOr, Bool.or_eq_true] at h
      cases h with
      | inl hkind =>
        obtain ⟨first, others, hruns⟩ := List.exists_cons_of_ne_nil
          (runs_ne_nil (depthAfter depth kind) (rangeAfter depth inRange kind) kinds)
        rw [hruns]
        exact ⟨_, _, rfl, .inl (by rw [List.singleton_append, hasOuterOr, hkind, Bool.true_or])⟩
      | inr hrest =>
        obtain ⟨first, others, hruns, hor⟩ := ih (rangeAfter depth inRange kind) hrest
        rw [hruns]
        refine ⟨_, _, rfl, hor.imp_left fun hfirst => ?_⟩
        rw [List.singleton_append, hasOuterOr, hfirst, Bool.or_true]

end Condition

namespace Parser

open Condition

/-! ## Parentheses in the grammar -/

/-- Whether a token is no parenthesis and no `OR`. -/
def IsFlat (kind : TokenKind) : Prop :=
  (∀ depth, depthAfter depth kind = depth) ∧ kind ≠ .keyword .or

/-- Tokens of which none is a parenthesis or an `OR` have no `OR` outside parentheses and leave
as many open as there were. -/
theorem hasOuterOr_of_isFlat {kinds : List TokenKind} (h : ∀ kind ∈ kinds, IsFlat kind)
    (depth : Int) :
    hasOuterOr depth kinds = false ∧ depthBehind depth kinds = depth := by
  induction kinds with
  | nil => exact ⟨rfl, rfl⟩
  | cons kind kinds ih =>
    obtain ⟨hdepth, hor⟩ := h kind List.mem_cons_self
    obtain ⟨hrest, hbehind⟩ := ih fun other hother => h other (List.mem_cons_of_mem _ hother)
    rw [hasOuterOr, depthBehind, List.foldl_cons, hdepth, hrest, Bool.or_false]
    exact ⟨by simp [hor], hbehind⟩

/-- There is no parenthesis and no `OR` in a column or a constant. -/
theorem isFlat_of_spellsOperand {operand : Operand} {kinds : List TokenKind}
    (h : SpellsOperand operand kinds) : ∀ kind ∈ kinds, IsFlat kind := by
  cases h <;> simp [IsFlat, depthAfter]

/-- The sign of a comparison is no parenthesis and no `OR`. -/
theorem isFlat_of_compareOp? {sign : TokenKind} {op : CompareOp} (h : compareOp? sign = some op) :
    IsFlat sign := by
  unfold compareOp? at h
  split at h <;> simp [IsFlat, depthAfter] at h ⊢

/-- A simple predicate has no parentheses and no `OR`. -/
theorem isFlat_of_spellsSimple {predicate : Predicate} {kinds : List TokenKind}
    (h : SpellsSimple predicate kinds) : ∀ kind ∈ kinds, IsFlat kind := by
  have hword {word : Keyword} (hword : word ≠ .or) : IsFlat (.keyword word) :=
    ⟨fun _ => rfl, by simpa using hword⟩
  cases h with
  | compare hleft hop hright =>
    rw [List.forall_mem_append, List.forall_mem_cons]
    exact ⟨isFlat_of_spellsOperand hleft, isFlat_of_compareOp? hop, isFlat_of_spellsOperand hright⟩
  | notLike hleft hright =>
    rw [List.forall_mem_append, List.forall_mem_cons, List.forall_mem_cons]
    exact ⟨isFlat_of_spellsOperand hleft, hword (by decide), hword (by decide),
      isFlat_of_spellsOperand hright⟩
  | isNull hoperand =>
    rw [List.forall_mem_append, List.forall_mem_cons, List.forall_mem_singleton]
    exact ⟨isFlat_of_spellsOperand hoperand, hword (by decide), hword (by decide)⟩
  | isNotNull hoperand =>
    rw [List.forall_mem_append, List.forall_mem_cons, List.forall_mem_cons,
      List.forall_mem_singleton]
    exact ⟨isFlat_of_spellsOperand hoperand, hword (by decide), hword (by decide),
      hword (by decide)⟩

/-- The tokens of predicates leave as many parentheses open as there were. -/
theorem depthBehind_of_spells {level : Level} {predicates : List Predicate}
    {kinds : List TokenKind} (h : Spells level predicates kinds) (depth : Int) :
    depthBehind depth kinds = depth := by
  induction h generalizing depth with
  | or _ _ hfirst hothers | and _ _ hfirst hothers =>
    rw [depthBehind, List.foldl_append]
    exact (hothers _).trans (hfirst depth)
  | orCons _ _ hfirst hothers | andCons _ _ hfirst hothers =>
    rw [depthBehind, List.cons_append, List.foldl_cons, List.foldl_append]
    exact (hothers _).trans (hfirst depth)
  | orNil | andNil => rfl
  | not _ hinner =>
    rw [depthBehind, List.foldl_cons]
    exact hinner depth
  | parens _ hinner =>
    rw [depthBehind, List.cons_append, List.foldl_cons, List.foldl_append, List.foldl_cons,
      List.foldl_nil]
    have hinside := hinner (depth + 1)
    rw [depthBehind] at hinside
    simp [depthAfter, hinside]
  | simple hsimple => exact (hasOuterOr_of_isFlat (isFlat_of_spellsSimple hsimple) depth).2

/-- Whether an `OR` at some level is outside all parentheses that are not open already. -/
def Level.isDisjunctive : Level → Bool
  | or | orTail => true
  | and | andTail | unary => false

/-- The tokens of predicates have an `OR` outside parentheses only if it makes a disjunction. -/
theorem hasOuterOr_of_spells {level : Level} {predicates : List Predicate} {kinds : List TokenKind}
    (h : Spells level predicates kinds) {depth : Int}
    (hdepth : 0 < depth ∨ 0 ≤ depth ∧ level.isDisjunctive = false) :
    hasOuterOr depth kinds = false := by
  induction h generalizing depth with
  | or hfirst hothers ihfirst ihothers =>
    have hpos : 0 < depth := hdepth.resolve_right fun h => by simp [Level.isDisjunctive] at h
    rw [hasOuterOr_append, ihfirst (.inl hpos), depthBehind_of_spells hfirst,
      ihothers (.inl hpos), Bool.or_false]
  | orNil | andNil => rfl
  | orCons hfirst hothers ihfirst ihothers =>
    have hpos : 0 < depth := hdepth.resolve_right fun h => by simp [Level.isDisjunctive] at h
    rw [List.cons_append, hasOuterOr, hasOuterOr_append]
    simp only [depthAfter]
    rw [ihfirst (.inl hpos), depthBehind_of_spells hfirst, ihothers (.inl hpos)]
    simpa using Int.ne_of_gt hpos
  | and hfirst hothers ihfirst ihothers =>
    have hle : 0 ≤ depth := hdepth.elim Int.le_of_lt And.left
    rw [hasOuterOr_append, ihfirst (.inr ⟨hle, rfl⟩), depthBehind_of_spells hfirst,
      ihothers (.inr ⟨hle, rfl⟩), Bool.or_false]
  | andCons hfirst hothers ihfirst ihothers =>
    have hle : 0 ≤ depth := hdepth.elim Int.le_of_lt And.left
    rw [List.cons_append, hasOuterOr, hasOuterOr_append]
    simp only [depthAfter]
    rw [ihfirst (.inr ⟨hle, rfl⟩), depthBehind_of_spells hfirst, ihothers (.inr ⟨hle, rfl⟩)]
    simp
  | not _ hinner =>
    have hle : 0 ≤ depth := hdepth.elim Int.le_of_lt And.left
    rw [hasOuterOr]
    simp only [depthAfter]
    rw [hinner (.inr ⟨hle, rfl⟩)]
    simp
  | parens hinner ihinner =>
    have hpos : 0 < depth + 1 := hdepth.elim (fun h => by omega) (fun h => by omega)
    rw [List.cons_append, hasOuterOr, hasOuterOr_append]
    simp only [depthAfter]
    rw [ihinner (.inl hpos)]
    simp [hasOuterOr]
  | simple hsimple => exact (hasOuterOr_of_isFlat (isFlat_of_spellsSimple hsimple) depth).1

/-- A predicate whose tokens have an `OR` outside parentheses is a disjunction. -/
theorem exists_or_of_spells {predicate : Predicate} {kinds : List TokenKind}
    (h : Spells .or [predicate] kinds) (hor : hasOuterOr 0 kinds = true) :
    ∃ items, predicate = .or items := by
  cases h with
  | or hfirst hothers =>
    rw [hasOuterOr_append, hasOuterOr_of_spells hfirst (.inr ⟨Int.le_refl 0, rfl⟩),
      Bool.false_or] at hor
    cases hothers with
    | orNil => simp [hasOuterOr] at hor
    | orCons hsecond hrest => exact ⟨_, rfl⟩

/-- A predicate that is read is the conjunction of at least one. -/
theorem conjuncts_ne_nil_of_spells {level : Level} {predicates : List Predicate}
    {kinds : List TokenKind} (h : Spells level predicates kinds) :
    ∀ predicate ∈ predicates, predicate.conjuncts ≠ [] := by
  induction h with
  | @or first others _ _ _ _ hfirst _ =>
    rw [List.forall_mem_singleton] at hfirst ⊢
    cases others with
    | nil => exact hfirst
    | cons other others => simp [disjunction, Predicate.conjuncts]
  | @and first others _ _ _ _ hfirst _ =>
    rw [List.forall_mem_singleton] at hfirst ⊢
    cases others with
    | nil => exact hfirst
    | cons other others => simp [conjunction, Predicate.conjuncts, Predicate.itemConjuncts, hfirst]
  | orNil | andNil => simp
  | orCons _ _ hfirst hothers | andCons _ _ hfirst hothers =>
    rw [List.forall_mem_singleton] at hfirst
    exact List.forall_mem_cons.mpr ⟨hfirst, hothers⟩
  | not => simp [Predicate.conjuncts]
  | parens _ hinner => exact hinner
  | simple hsimple => cases hsimple <;> simp [Predicate.conjuncts]

end Parser

namespace Condition

/-! ## Conditions with an `OR` outside parentheses -/

/-- A predicate that is read from a text is spelled by the tokens of the text. -/
theorem spells_kinds_of_ofTokens {cs : List Char} {predicate : Predicate}
    (h : Predicate.ofTokens (Lexer.tokens cs) = .ok predicate) :
    Parser.Spells .or [predicate] (Lexer.kinds cs) := by
  obtain ⟨used, ends, htokens, hused, hends⟩ :=
    List.map_eq_append_iff.mp (Lexer.map_kind_tokensFrom 0 cs)
  obtain ⟨last, rfl, hlast⟩ := List.map_eq_singleton_iff.mp hends
  have hfinish : ∀ t ∈ used, t.kind ≠ .finish := by
    rw [← List.forall_mem_map (P := (· ≠ TokenKind.finish)), hused]
    rintro _ hmem rfl
    exact Lexer.finish_not_mem_kinds cs hmem
  rw [Lexer.tokens, htokens] at h
  rw [← hused]
  exact Predicate.spells_of_ofTokens_append hlast hfinish h

/-- What is read from a segment is the conjunction of at least one predicate. -/
theorem conjuncts_ofSegment_ne_nil (segment : List Char) : (ofSegment segment).conjuncts ≠ [] := by
  unfold ofSegment
  dsimp only
  split
  · next predicate hpredicate =>
    exact Parser.conjuncts_ne_nil_of_spells (spells_kinds_of_ofTokens hpredicate) predicate
      List.mem_cons_self
  · simp [Predicate.conjuncts]

/-- What is read from a segment with an `OR` outside parentheses is one predicate. -/
theorem length_conjuncts_ofSegment {segment : List Char}
    (h : hasOuterOr 0 (Lexer.kinds segment) = true) : (ofSegment segment).conjuncts.length = 1 := by
  unfold ofSegment
  dsimp only
  split
  · next predicate hpredicate =>
    obtain ⟨items, rfl⟩ := Parser.exists_or_of_spells (spells_kinds_of_ofTokens hpredicate) h
    rfl
  · rfl

/-- The segments of a text with an `OR` outside parentheses are one predicate exactly if there is
one of them. -/
theorem length_flatMap_segments {cs : List Char} (h : hasOuterOr 0 (Lexer.kinds cs) = true) :
    ((segments cs (Lexer.tokens cs)).flatMap fun segment =>
        (ofSegment segment).conjuncts).length = 1 ↔
      (segments cs (Lexer.tokens cs)).length = 1 := by
  have hpos (segment : List Char) : 0 < (ofSegment segment).conjuncts.length :=
    List.length_pos_iff.mpr (conjuncts_ofSegment_ne_nil segment)
  obtain ⟨first, others, hruns, hor⟩ := exists_run_of_hasOuterOr false h
  obtain ⟨run, hrun, hor⟩ : ∃ run ∈ runs 0 false (Lexer.kinds cs), hasOuterOr 0 run = true := by
    rw [hruns]
    exact (List.exists_mem_cons_iff ..).mpr hor
  have hne : run ≠ [] := by
    rintro rfl
    simp [hasOuterOr] at hor
  have hmem : run ∈ (segments cs (Lexer.tokens cs)).map Lexer.kinds := by
    rw [map_kinds_segments]
    exact List.mem_filter.mpr ⟨hrun, by simpa using hne⟩
  match segments cs (Lexer.tokens cs), hmem with
  | [segment], hmem =>
    rw [List.map_singleton, List.mem_singleton] at hmem
    simpa using length_conjuncts_ofSegment (hmem ▸ hor)
  | one :: other :: rest, _ =>
    have hone := hpos one
    have hother := hpos other
    simp only [List.flatMap_cons, List.length_append, List.length_cons]
    omega

end Condition

/-- A text with an `OR` outside all parentheses stands for a single predicate if and only if it
follows the grammar as a whole or its tokens make up one run, empty runs aside. -/
theorem Conjunction.length_ofText_eq_one_iff {text : String}
    (h : Condition.hasOuterOr 0 ((tokenize text).map (·.kind)) = true) :
    (Conjunction.ofText text).length = 1 ↔
      Condition.fault? text = none ∨
        ((Condition.runs 0 false (Lexer.kinds text.toList)).filter (!·.isEmpty)).length = 1 := by
  have hor : Condition.hasOuterOr 0 (Lexer.kinds (Text.trimChars text.toList)) = true := by
    rw [tokenize, Lexer.tokens, Lexer.map_kind_tokensFrom, Condition.hasOuterOr_append] at h
    rw [Lexer.kinds_trimChars]
    simpa [Condition.hasOuterOr] using h
  have hnonempty : (Text.trimChars text.toList).isEmpty = false := by
    rw [List.isEmpty_eq_false_iff]
    intro hnil
    rw [hnil, Lexer.kinds_nil] at hor
    simp [Condition.hasOuterOr] at hor
  unfold Conjunction.ofText Condition.ofChars Condition.fault?
  dsimp only
  rw [← Lexer.kinds_trimChars, ← Condition.map_kinds_segments, List.length_map, hnonempty]
  cases hread : Predicate.ofTokens (Lexer.tokens (Text.trimChars text.toList)) with
  | ok predicate =>
    obtain ⟨items, rfl⟩ := Parser.exists_or_of_spells (Condition.spells_kinds_of_ofTokens hread) hor
    simp [Predicate.conjuncts]
  | error fault =>
    simpa using Condition.length_flatMap_segments hor

/-- Sums do not follow the grammar, but without an `AND` there is nothing to split. -/
theorem Conjunction.length_ofText_sum :
    Condition.hasOuterOr 0 ((tokenize "A.X + 1 > 2 OR A.Y = 2").map (·.kind)) = true ∧
      (Conjunction.ofText "A.X + 1 > 2 OR A.Y = 2").length = 1 := by
  have hor : Condition.hasOuterOr 0 ((tokenize "A.X + 1 > 2 OR A.Y = 2").map (·.kind)) = true := by
    decide +kernel
  exact ⟨hor, (length_ofText_eq_one_iff hor).mpr (.inr (by decide +kernel))⟩

/-- With an `AND` in the second part of the disjunction, what is behind it is split off. -/
theorem Conjunction.length_ofText_sum_and :
    Condition.isBalanced 0
        ((tokenize "A.X + 1 > 2 OR A.Y = 2 AND B.Z = 3").map (·.kind)) = true ∧
      Condition.hasOuterOr 0
        ((tokenize "A.X + 1 > 2 OR A.Y = 2 AND B.Z = 3").map (·.kind)) = true ∧
      (Conjunction.ofText "A.X + 1 > 2 OR A.Y = 2 AND B.Z = 3").length = 2 := by
  decide +kernel

end RelPlan
