import RelPlan.Proofs.Predicate.Cutting

/-!
# Separators among the tokens of a predicate

The tokens of a negated, parenthesized or simple predicate have no separator among them
(`Parser.passes_of_spells`). Where those of any other predicate have one, the tokens before it and
behind it are those of predicates, so every run of the tokens of a predicate spells a predicate
(`Parser.exists_spells_of_mem_runs`).
-/

namespace RelPlan

namespace Parser

open Condition

/-! ## Separators in the grammar -/

/-- Whether a token changes neither what is open nor is a separator. -/
def isInert : TokenKind → Bool
  | .symbol .leftParen | .symbol .rightParen | .keyword .and | .keyword .between => false
  | _ => true

/-- Tokens that change nothing are passed. -/
theorem passes_of_isInert {kinds : List TokenKind} (h : kinds.all isInert = true) (depth : Int)
    (inRange : Bool) : Passes depth inRange kinds depth inRange := by
  induction kinds with
  | nil => exact .nil
  | cons kind kinds ih =>
    obtain ⟨hkind, hkinds⟩ := Bool.and_eq_true_iff.mp h
    have hinert : isSeparator depth inRange kind = false ∧ depthAfter depth kind = depth ∧
        rangeAfter depth inRange kind = inRange := by
      unfold isInert at hkind
      split at hkind <;> simp_all [isSeparator, depthAfter, rangeAfter]
    obtain ⟨hseparator, hdepth, hrange⟩ := hinert
    refine .cons hseparator ?_
    rw [hdepth, hrange]
    exact ih hkinds

/-- The tokens of a column or a constant change nothing. -/
theorem isInert_of_spellsOperand {operand : Operand} {kinds : List TokenKind}
    (h : SpellsOperand operand kinds) : kinds.all isInert = true := by
  cases h <;> simp [isInert]

/-- The tokens of a simple predicate change nothing. -/
theorem isInert_of_spellsSimple {predicate : Predicate} {kinds : List TokenKind}
    (h : SpellsSimple predicate kinds) : kinds.all isInert = true := by
  cases h with
  | @compare _ _ _ _ _ sign hleft hop hright =>
    have hsign : isInert sign = true := by
      unfold compareOp? at hop
      split at hop <;> simp_all [isInert]
    rw [List.all_append, List.all_cons, isInert_of_spellsOperand hleft,
      isInert_of_spellsOperand hright, hsign]
    rfl
  | notLike hleft hright =>
    rw [List.all_append, List.all_cons, List.all_cons, isInert_of_spellsOperand hleft,
      isInert_of_spellsOperand hright]
    rfl
  | isNull hoperand | isNotNull hoperand =>
    rw [List.all_append, isInert_of_spellsOperand hoperand]
    rfl

/-- A word inside parentheses is no separator. -/
theorem passes_keyword {word : Keyword} (hword : word = .and ∨ word = .or) {depth stop : Int}
    {inRange ends : Bool} {kinds : List TokenKind} (hpos : 0 < depth)
    (h : Passes depth inRange kinds stop ends) :
    Passes depth inRange (.keyword word :: kinds) stop ends := by
  have hne : depth ≠ 0 := by omega
  rcases hword with rfl | rfl <;>
    exact .cons (by simp [isSeparator, hne]) (by simpa [depthAfter, rangeAfter, hne] using h)

/-- The tokens of predicates have no separator inside parentheses, and those of a negated,
parenthesized or simple predicate have none anywhere. -/
theorem passes_of_spells {level : Level} {predicates : List Predicate} {kinds : List TokenKind}
    (h : Spells level predicates kinds) {depth : Int} (inRange : Bool)
    (hdepth : 0 < depth ∨ 0 ≤ depth ∧ level = .unary) :
    Passes depth inRange kinds depth inRange := by
  induction h generalizing depth with
  | or _ _ ihfirst ihothers | and _ _ ihfirst ihothers =>
    have hpos : 0 < depth := hdepth.resolve_right fun h => by simp at h
    exact (ihfirst (.inl hpos)).append (ihothers (.inl hpos))
  | orNil | andNil => exact .nil
  | orCons _ _ ihfirst ihothers =>
    have hpos : 0 < depth := hdepth.resolve_right fun h => by simp at h
    exact passes_keyword (.inr rfl) hpos ((ihfirst (.inl hpos)).append (ihothers (.inl hpos)))
  | andCons _ _ ihfirst ihothers =>
    have hpos : 0 < depth := hdepth.resolve_right fun h => by simp at h
    exact passes_keyword (.inl rfl) hpos ((ihfirst (.inl hpos)).append (ihothers (.inl hpos)))
  | not _ ihinner =>
    have hle : 0 ≤ depth := hdepth.elim Int.le_of_lt And.left
    exact .cons rfl (ihinner (.inr ⟨hle, rfl⟩))
  | parens _ ihinner =>
    have hpos : 0 < depth + 1 := hdepth.elim (fun h => by omega) (fun h => by omega)
    have hclosing : Passes (depth + 1) inRange [.symbol .rightParen] (depth + 1 - 1) inRange :=
      .cons rfl .nil
    rw [Int.add_sub_cancel] at hclosing
    exact .cons rfl ((ihinner (.inl hpos)).append hclosing)
  | simple hsimple => exact passes_of_isInert (isInert_of_spellsSimple hsimple) depth inRange

/-! ## Splitting the tokens of a predicate -/

/-- An item behind which two lists go on is in the second part of the first list or behind it. -/
theorem append_eq_append_cons {α : Type} {first second front back : List α} {a : α}
    (h : first ++ second = front ++ a :: back) :
    (∃ rest, front = first ++ rest ∧ second = rest ++ a :: back) ∨
      ∃ rest, first = front ++ a :: rest ∧ back = rest ++ second := by
  rcases List.append_eq_append_iff.mp h with hbehind | ⟨rest, hfirst, hback⟩
  · exact .inl hbehind
  · cases rest with
    | nil => exact .inl ⟨[], by simp [hfirst], hback.symm⟩
    | cons b rest =>
      obtain ⟨rfl, hrest⟩ := List.cons.inj hback
      exact .inr ⟨rest, hfirst, hrest⟩

section Split

variable {predicate : Predicate} {others : List Predicate}
  {kinds more first second : List TokenKind}

/-- A word that is a separator where no parenthesis and no range is open. -/
theorem not_passes_and {stop : Int} {ends : Bool} :
    ¬ Passes 0 false (.keyword .and :: kinds) stop ends := by
  intro h
  cases h with
  | cons hkind _ => simp [isSeparator] at hkind

/-- The tokens of a conjunction without a separator leave nothing open. -/
theorem passes_of_and (h : Spells .and [predicate] kinds) {stop : Int} {ends : Bool}
    (hpasses : Passes 0 false kinds stop ends) : stop = 0 ∧ ends = false := by
  cases h with
  | and hunary hothers =>
    obtain ⟨mid, between, hfirst, hrest⟩ := hpasses.of_append
    obtain ⟨rfl, rfl⟩ := hfirst.unique (passes_of_spells hunary false (.inr ⟨Int.le_refl 0, rfl⟩))
    cases hothers with
    | andNil =>
      cases hrest
      exact ⟨rfl, rfl⟩
    | andCons => exact absurd hrest not_passes_and

/-- Before a separator of a conjunction are the tokens of its first predicate, and behind it those
of a conjunction. -/
theorem exists_spells_of_and (h : Spells .and [predicate] (first ++ .keyword .and :: second))
    (hfirst : Passes 0 false first 0 false) :
    (∃ front, Spells .unary [front] first) ∧ ∃ back, Spells .and [back] second := by
  generalize hkinds : first ++ .keyword .and :: second = kinds at h
  cases h with
  | @and front others firsts more hunary hothers =>
    have hpasses := passes_of_spells hunary false (.inr ⟨Int.le_refl 0, rfl⟩)
    rcases append_eq_append_cons hkinds.symm with ⟨rest, rfl, rfl⟩ | ⟨rest, rfl, -⟩
    · obtain ⟨mid, between, hfront, hrest⟩ := hfirst.of_append
      obtain ⟨rfl, rfl⟩ := hfront.unique hpasses
      cases rest with
      | nil =>
        rw [List.nil_append] at hothers
        rw [List.append_nil]
        generalize hmore : TokenKind.keyword .and :: second = more at hothers
        cases hothers with
        | andNil => simp at hmore
        | andCons hsecond hthird =>
          obtain ⟨-, rfl⟩ := List.cons.inj hmore
          exact ⟨⟨_, hunary⟩, _, .and hsecond hthird⟩
      | cons kind rest =>
        generalize hmore : kind :: rest ++ .keyword .and :: second = more at hothers
        cases hothers with
        | andNil => simp at hmore
        | andCons =>
          obtain ⟨rfl, -⟩ := List.cons.inj hmore
          exact absurd hrest not_passes_and
    · -- The separator would be among the tokens of the first predicate.
      obtain ⟨mid, between, hfront, hrest⟩ := hpasses.of_append
      obtain ⟨rfl, rfl⟩ := hfront.unique hfirst
      exact absurd hrest not_passes_and

/-- A separator of a disjunction is behind its first conjunction or among the tokens of it. -/
theorem exists_spells_of_append (hand : Spells .and [predicate] kinds)
    (hothers : Spells .orTail others more)
    (hmore : ∀ front back, more = front ++ .keyword .and :: back → Passes 0 false front 0 false →
      (∃ fronts, Spells .orTail fronts front) ∧ ∃ behind, Spells .or [behind] back)
    (hkinds : kinds ++ more = first ++ .keyword .and :: second)
    (hfirst : Passes 0 false first 0 false) :
    (∃ front, Spells .or [front] first) ∧ ∃ back, Spells .or [back] second := by
  rcases append_eq_append_cons hkinds with ⟨rest, rfl, hrest⟩ | ⟨rest, rfl, rfl⟩
  · obtain ⟨mid, between, hfront, hpasses⟩ := hfirst.of_append
    obtain ⟨rfl, rfl⟩ := passes_of_and hand hfront
    obtain ⟨⟨fronts, hfronts⟩, hback⟩ := hmore rest second hrest hpasses
    exact ⟨⟨_, .or hand hfronts⟩, hback⟩
  · obtain ⟨⟨front, hfront⟩, back, hback⟩ := exists_spells_of_and hand hfirst
    exact ⟨⟨_, spells_or_of_unary hfront⟩, _, .or hback hothers⟩

/-- Before a separator of the conjunctions that follow the first one are the tokens of some that
follow it, and behind it those of a disjunction. -/
theorem exists_spells_of_orTail (h : Spells .orTail others more) :
    ∀ first second, more = first ++ .keyword .and :: second → Passes 0 false first 0 false →
      (∃ fronts, Spells .orTail fronts first) ∧ ∃ back, Spells .or [back] second := by
  intro first second hmore hfirst
  induction others generalizing more first second with
  | nil =>
    cases h
    simp at hmore
  | cons other others ih =>
    cases h with
    | @orCons _ _ kinds behind hand hothers =>
      cases hfirst with
      | nil => simp at hmore
      | @cons _ _ _ _ kind front hkind hfront =>
        obtain ⟨rfl, hkinds⟩ := List.cons.inj hmore
        obtain ⟨⟨_, hspells⟩, hback⟩ := exists_spells_of_append hand hothers
          (fun _ _ => ih hothers _ _) hkinds hfront
        cases hspells with
        | or hand hothers => exact ⟨⟨_, .orCons hand hothers⟩, hback⟩

/-- Before and behind a separator of a predicate are the tokens of predicates. -/
theorem exists_spells_of_or (h : Spells .or [predicate] (first ++ .keyword .and :: second))
    (hfirst : Passes 0 false first 0 false) :
    (∃ front, Spells .or [front] first) ∧ ∃ back, Spells .or [back] second := by
  generalize hkinds : first ++ .keyword .and :: second = kinds at h
  cases h with
  | or hand hothers =>
    exact exists_spells_of_append hand hothers (exists_spells_of_orTail hothers) hkinds.symm hfirst

/-- The runs of the tokens of a predicate are the tokens of predicates. -/
theorem exists_spells_of_mem_runs (h : Spells .or [predicate] kinds) :
    ∀ run ∈ runs 0 false kinds, ∃ part, Spells .or [part] run := by
  generalize hparts : runs 0 false kinds = parts
  induction parts generalizing predicate kinds with
  | nil => exact absurd hparts (runs_ne_nil _ _ _)
  | cons first others ih =>
    obtain ⟨first, others, stop, ends, hruns, hfirst, hends, -⟩ := passes_of_runs 0 false kinds
    obtain ⟨rfl, rfl⟩ := List.cons.inj (hruns.symm.trans hparts)
    have hkinds := intercalate_runs 0 false kinds
    rw [hruns] at hkinds
    cases others with
    | nil =>
      rw [List.intercalate_singleton] at hkinds
      exact List.forall_mem_singleton.mpr ⟨predicate, hkinds ▸ h⟩
    | cons next others =>
      obtain ⟨rfl, rfl⟩ := hends (List.cons_ne_nil _ _)
      rw [List.intercalate_cons_cons, List.append_assoc, List.singleton_append] at hkinds
      generalize [TokenKind.keyword .and].intercalate (next :: others) = behind at hkinds
      subst hkinds
      obtain ⟨hfront, back, hback⟩ := exists_spells_of_or h hfirst
      have hbehind : prependFirst first (runs 0 false (.keyword .and :: behind)) =
          first :: runs 0 false behind := by
        simp [runs, isSeparator, prependFirst, depthAfter, rangeAfter]
      rw [runs_append_of_passes hfirst, hbehind] at hruns
      exact List.forall_mem_cons.mpr ⟨hfront, ih hback (List.cons.inj hruns).2⟩

end Split

end Parser

end RelPlan
