import RelPlan.Proofs.Predicate.NormalForm

/-!
# Shapes of conditions

What a condition that was read can look like, whatever its text. None of its predicates is a
conjunction, and each of them is one of the grammar, in which every disjunction and conjunction has
at least two items, or it is text that is kept verbatim (`Conjunction.isConjunct_of_mem_ofText`).
There are no predicates at all if and only if the text has no tokens but `AND`s
(`Conjunction.ofText_eq_nil_iff`), as these only separate the predicates from each other.
-/

namespace RelPlan

namespace Predicate

/-! ## Predicates of the grammar -/

mutual

/-- Whether nothing in the predicate is kept verbatim, and every disjunction and conjunction in it
has at least two items. -/
def isRegular : Predicate → Bool
  | compare _ => true
  | isNull _ _ => true
  | or items => 2 ≤ items.length && areRegular items
  | and items => 2 ≤ items.length && areRegular items
  | not inner => inner.isRegular
  | verbatim _ _ => false

/-- Whether this is so in all of some predicates. -/
def areRegular : List Predicate → Bool
  | [] => true
  | item :: items => item.isRegular && areRegular items

end

/-- A predicate that may be in a condition: one of the grammar that is no conjunction, or text
without white space around it that is kept verbatim with the columns among its tokens. -/
inductive IsConjunct : Predicate → Prop
  | regular {predicate : Predicate} (hregular : predicate.isRegular = true)
      (hand : predicate.isAnd = false) : IsConjunct predicate
  | kept {text : String} (htrim : Text.trim text = text) (hne : text ≠ "") :
      IsConjunct (verbatim text (Condition.scanColumns ((tokenize text).map (·.kind))))

end Predicate

namespace Parser

/-- A disjunction is regular if its items are; a single one stands for itself. -/
theorem isRegular_disjunction (first : Predicate) (others : List Predicate) :
    (disjunction first others).isRegular = Predicate.areRegular (first :: others) := by
  cases others with
  | nil => simp [disjunction, Predicate.areRegular]
  | cons other others => simp [disjunction, Predicate.isRegular]

/-- A conjunction is regular if its items are; a single one stands for itself. -/
theorem isRegular_conjunction (first : Predicate) (others : List Predicate) :
    (conjunction first others).isRegular = Predicate.areRegular (first :: others) := by
  cases others with
  | nil => simp [conjunction, Predicate.areRegular]
  | cons other others => simp [conjunction, Predicate.isRegular]

/-- Predicates that are spelled by tokens are regular. -/
theorem areRegular_of_spells {level : Level} {predicates : List Predicate}
    {kinds : List TokenKind} (h : Spells level predicates kinds) :
    Predicate.areRegular predicates = true := by
  have hone (predicate : Predicate) :
      Predicate.areRegular [predicate] = predicate.isRegular := by simp [Predicate.areRegular]
  have hcons {first : Predicate} {others : List Predicate}
      (hfirst : Predicate.areRegular [first] = true)
      (hothers : Predicate.areRegular others = true) :
      Predicate.areRegular (first :: others) = true := by
    rw [hone] at hfirst
    rw [Predicate.areRegular, hfirst, hothers]
    rfl
  induction h with
  | or _ _ ihfirst ihothers =>
    rw [hone, isRegular_disjunction]
    exact hcons ihfirst ihothers
  | and _ _ ihfirst ihothers =>
    rw [hone, isRegular_conjunction]
    exact hcons ihfirst ihothers
  | orNil | andNil => rfl
  | orCons _ _ ihfirst ihothers | andCons _ _ ihfirst ihothers => exact hcons ihfirst ihothers
  | not _ ihinner =>
    rw [hone] at ihinner ⊢
    exact ihinner
  | parens _ ihinner => exact ihinner
  | simple hsimple => cases hsimple <;> rfl

end Parser

/-- A conjunct in normal form may be in a condition. -/
theorem Predicate.IsItem.isConjunct {predicate : Predicate} (h : predicate.IsItem) :
    predicate.IsConjunct := by
  cases h with
  | read hreprints hconjuncts =>
    obtain ⟨kinds, hspells, -⟩ := hreprints.alone
    have hregular := Parser.areRegular_of_spells hspells
    have hmem : predicate ∈ predicate.conjuncts := by simp [hconjuncts]
    exact .regular (by simpa [areRegular] using hregular) (not_isAnd_of_mem_conjuncts hmem)
  | @kept segment _ _ htrim hne hspells _ =>
    have hcolumns : Condition.scanColumns (Lexer.kinds segment) =
        Condition.scanColumns ((tokenize (String.ofList segment)).map (·.kind)) := by
      rw [tokenize, Lexer.tokens, Lexer.map_kind_tokensFrom, Condition.scanColumns_append_finish,
        String.toList_ofList]
    rw [Condition.ofSegment_of_not_spells hspells, hcolumns]
    exact .kept (by rw [Text.trim, String.toList_ofList, htrim]) (by simpa using hne)

/-- The predicates of a condition are such as may be in one. -/
theorem Conjunction.isConjunct_of_mem_ofText {text : String} {predicate : Predicate}
    (h : predicate ∈ ofText text) : predicate.IsConjunct :=
  ((isNormal_ofText text).isItem predicate h).isConjunct

/-! ## Conditions that say nothing -/

namespace Condition

/-- Whether a text has no tokens but `AND`s. -/
def isVoid (text : List Char) : Bool :=
  (Lexer.tokens text).all fun t => t.kind = .keyword .and || t.kind = .finish

/-- A text is void exactly if each of its tokens is an `AND`. -/
theorem isVoid_iff {cs : List Char} :
    isVoid cs = true ↔ ∀ kind ∈ Lexer.kinds cs, kind = .keyword .and := by
  have htokens : isVoid cs = true ↔
      ∀ kind ∈ (Lexer.tokens cs).map (·.kind), kind = .keyword .and ∨ kind = .finish := by
    simp [isVoid]
  rw [htokens, Lexer.tokens, Lexer.map_kind_tokensFrom, List.forall_mem_append]
  constructor
  · rintro ⟨hkinds, -⟩ kind hkind
    exact (hkinds kind hkind).resolve_right fun heq => Lexer.finish_not_mem_kinds cs (heq ▸ hkind)
  · exact fun hkinds => ⟨fun kind hkind => .inl (hkinds kind hkind), by simp⟩

/-- All runs of tokens are empty if and only if all tokens are separators. -/
theorem forall_mem_runs_eq_nil_iff {kinds : List TokenKind} :
    (∀ run ∈ runs 0 false kinds, run = []) ↔ ∀ kind ∈ kinds, kind = .keyword .and := by
  induction kinds with
  | nil => simp [runs]
  | cons kind kinds ih =>
    obtain ⟨first, others, hruns⟩ := List.exists_cons_of_ne_nil
      (runs_ne_nil (depthAfter 0 kind) (rangeAfter 0 false kind) kinds)
    cases hkind : isSeparator 0 false kind with
    | false =>
      have hne : kind ≠ .keyword .and := by
        rintro rfl
        simp [isSeparator] at hkind
      simp [runs, hkind, hruns, prependFirst, hne]
    | true =>
      obtain rfl : kind = .keyword .and := by simpa [isSeparator] using hkind
      simpa [runs, hkind, depthAfter, rangeAfter] using ih

/-- A text has no segments if and only if it has no tokens but `AND`s. -/
theorem segments_eq_nil_iff {cs : List Char} :
    segments cs (Lexer.tokens cs) = [] ↔ ∀ kind ∈ Lexer.kinds cs, kind = .keyword .and := by
  rw [← List.map_eq_nil_iff (f := Lexer.kinds), map_kinds_segments, List.filter_eq_nil_iff,
    ← forall_mem_runs_eq_nil_iff]
  simp

/-- No predicate is spelled by `AND`s alone. -/
theorem not_spells_of_forall_and {kinds : List TokenKind}
    (h : ∀ kind ∈ kinds, kind = .keyword .and) (predicate : Predicate) :
    ¬ Parser.Spells .or [predicate] kinds := by
  intro hspells
  obtain ⟨run, hrun⟩ := List.exists_mem_of_ne_nil _ (runs_ne_nil 0 false kinds)
  obtain ⟨part, hpart⟩ := Parser.exists_spells_of_mem_runs hspells run hrun
  exact Parser.ne_nil_of_spells hpart (by simp) (by simp)
    (forall_mem_runs_eq_nil_iff.mpr h run hrun)

end Condition

open Condition in
/-- A text stands for no predicates if and only if it has no tokens but `AND`s. -/
theorem Conjunction.ofText_eq_nil_iff {text : String} :
    ofText text = [] ↔ isVoid text.toList = true := by
  rw [isVoid_iff]
  by_cases hspells : ∃ predicate, Parser.Spells .or [predicate] (Lexer.kinds text.toList)
  · obtain ⟨predicate, hspells⟩ := hspells
    have hne := Parser.conjuncts_ne_nil_of_spells hspells predicate List.mem_cons_self
    rw [ofText_of_spells hspells]
    exact ⟨fun hnil => absurd hnil hne,
      fun hand => absurd hspells (not_spells_of_forall_and hand predicate)⟩
  · rw [ofText_of_not_spells (not_exists.mp hspells), List.flatMap_eq_nil_iff,
      ← segments_eq_nil_iff]
    constructor
    · intro hsegments
      refine List.eq_nil_iff_forall_not_mem.mpr fun segment hmem => ?_
      exact conjuncts_ofSegment_ne_nil segment (hsegments segment hmem)
    · intro hnil
      simp [hnil]

end RelPlan
