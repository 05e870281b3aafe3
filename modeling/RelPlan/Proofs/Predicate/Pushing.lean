import Mathlib.Data.List.Basic
import RelPlan.Proofs.Predicate.Equivalence

/-!
# Pushing predicates one after another

A conjunction in which no two conjuncts are equivalent stays so when predicates are pushed onto it.
Up to equivalence it gets all of them, and those that are added are the first of their class, in the
order in which they are pushed (`Conjunction.equivalence_and_gathers_pushAll`).
-/

namespace RelPlan

namespace Conjunction

/-! ## One predicate -/

/-- Whether no two conjuncts are equivalent. -/
def IsDistinct (conjunction : Conjunction) : Prop :=
  conjunction.Pairwise fun first second => first.equivalent second = false

instance (conjunction : Conjunction) : Decidable conjunction.IsDistinct :=
  List.instDecidablePairwise conjunction

section

variable {conjunction : Conjunction}

/-- A predicate is not covered exactly if no conjunct is equivalent to it. -/
theorem covers_eq_false_iff {predicate : Predicate} :
    conjunction.covers predicate = false ↔
      ∀ conjunct ∈ conjunction, conjunct.equivalent predicate = false := by
  simp [covers]

/-- Conjuncts cover a predicate exactly if the first ones or the last ones do. -/
theorem covers_append (first second : Conjunction) (predicate : Predicate) :
    covers (first ++ second) predicate = (first.covers predicate || second.covers predicate) :=
  List.any_append

/-- When a predicate is pushed, what is equivalent to it gets covered, and nothing else does. -/
theorem covers_pushUnique_eq (conjunction : Conjunction) (predicate other : Predicate) :
    (conjunction.pushUnique predicate).covers other =
      (conjunction.covers other || predicate.equivalent other) := by
  cases hcovers : conjunction.covers predicate with
  | false => simp [pushUnique_of_not_covers hcovers, covers]
  | true =>
    rw [pushUnique_of_covers hcovers]
    cases hequivalent : predicate.equivalent other with
    | false => rw [Bool.or_false]
    | true =>
      -- The conjunct that is equivalent to the predicate is so to the other one as well.
      obtain ⟨conjunct, hmem, hconjunct⟩ := covers_iff.mp hcovers
      have hother : other.equivalent conjunct = true :=
        Predicate.equivalent_trans (Predicate.equivalent_symm hequivalent) hconjunct
      rw [covers_iff.mpr ⟨conjunct, hmem, hother⟩, Bool.true_or]

/-- Conjuncts stay distinct if a predicate is pushed onto them. -/
theorem IsDistinct.pushUnique (h : conjunction.IsDistinct) (predicate : Predicate) :
    (conjunction.pushUnique predicate).IsDistinct := by
  cases hcovers : conjunction.covers predicate with
  | true => rwa [pushUnique_of_covers hcovers]
  | false =>
    rw [pushUnique_of_not_covers hcovers, IsDistinct, List.pairwise_append]
    refine ⟨h, List.pairwise_singleton _ _, fun conjunct hconjunct other hother => ?_⟩
    obtain rfl := List.mem_singleton.mp hother
    exact covers_eq_false_iff.mp hcovers conjunct hconjunct

end

/-! ## Many predicates -/

/-- The conjunction with some predicates pushed onto it one after another, and which of them were
added. -/
def pushAll (conjunction : Conjunction) : List Predicate → Conjunction × List Bool
  | [] => (conjunction, [])
  | predicate :: predicates =>
    let (pushed, added) := conjunction.push predicate
    let (result, others) := pushAll pushed predicates
    (result, added :: others)

/-- The first predicate is pushed, and the others onto what comes of that. -/
theorem pushAll_cons (conjunction : Conjunction) (predicate : Predicate)
    (predicates : List Predicate) :
    conjunction.pushAll (predicate :: predicates) =
      (((conjunction.pushUnique predicate).pushAll predicates).1,
        (!conjunction.covers predicate) ::
          ((conjunction.pushUnique predicate).pushAll predicates).2) := by
  rw [pushAll, push_eq]

/-- Whether none of some predicates is equivalent to another one. -/
def IsNew (others : List Predicate) (predicate : Predicate) : Prop :=
  ∀ other ∈ others, other.equivalent predicate = false

instance (others : List Predicate) (predicate : Predicate) : Decidable (IsNew others predicate) :=
  List.decidableBAll _ others

/-- What comes of pushing predicates onto a conjunction: the conjuncts in the end, and which of the
predicates were added. -/
structure Gathers (conjunction : Conjunction) (predicates : List Predicate)
    (pushed : Conjunction × List Bool) : Prop where
  /-- Exactly those are added to which neither a conjunct nor a predicate before is equivalent. -/
  added : pushed.2 = predicates.mapIdx fun index predicate =>
    decide (IsNew (conjunction ++ predicates.take index) predicate)
  /-- They are behind what was there, in order. -/
  conjuncts : pushed.1 = conjunction ++ ((predicates.zip pushed.2).filter (·.2)).map (·.1)
  /-- Up to equivalence there is what was there and what was pushed, and nothing else. -/
  classes : ∀ predicate, (∃ conjunct ∈ pushed.1, conjunct.equivalent predicate = true) ↔
    ∃ given ∈ conjunction ++ predicates, given.equivalent predicate = true
  distinct : pushed.1.IsDistinct

section

variable (conjunction : Conjunction) (predicates : List Predicate)

/-- A predicate is new among what was there and what was pushed exactly if nothing that is there
after the first push, nor what was pushed later, is equivalent to it. -/
theorem isNew_cons_iff (first predicate : Predicate) :
    IsNew (conjunction ++ first :: predicates) predicate ↔
      IsNew (conjunction.pushUnique first ++ predicates) predicate := by
  have hcovers : covers (conjunction ++ first :: predicates) predicate =
      covers (conjunction.pushUnique first ++ predicates) predicate := by
    rw [covers_append, covers_append, covers_pushUnique_eq, Bool.or_assoc]
    rfl
  rw [IsNew, IsNew, ← covers_eq_false_iff, ← covers_eq_false_iff, hcovers]

/-- Exactly the first predicate of each class is added. -/
theorem snd_pushAll :
    (conjunction.pushAll predicates).2 = predicates.mapIdx fun index predicate =>
      decide (IsNew (conjunction ++ predicates.take index) predicate) := by
  induction predicates generalizing conjunction with
  | nil => rfl
  | cons predicate predicates ih =>
    have hfirst : (!conjunction.covers predicate) = decide (IsNew conjunction predicate) := by
      rw [Bool.eq_iff_iff, Bool.not_eq_true', covers_eq_false_iff, decide_eq_true_iff, IsNew]
    rw [pushAll_cons, ih, List.mapIdx_cons, hfirst]
    simp only [List.take_zero, List.append_nil, List.take_succ_cons, isNew_cons_iff]

/-- What is added is put behind what was there. -/
theorem fst_pushAll :
    (conjunction.pushAll predicates).1 = conjunction ++
      ((predicates.zip (conjunction.pushAll predicates).2).filter (·.2)).map (·.1) := by
  induction predicates generalizing conjunction with
  | nil => simp [pushAll]
  | cons predicate predicates ih =>
    rw [pushAll_cons, ih]
    cases hcovers : conjunction.covers predicate with
    | true => simp [pushUnique_of_covers hcovers]
    | false => simp [pushUnique_of_not_covers hcovers]

/-- What is covered in the end was covered before or is equivalent to what was pushed. -/
theorem covers_fst_pushAll (other : Predicate) :
    (conjunction.pushAll predicates).1.covers other = covers (conjunction ++ predicates) other := by
  induction predicates generalizing conjunction with
  | nil => rw [pushAll, List.append_nil]
  | cons predicate predicates ih =>
    rw [pushAll_cons, ih, covers_append, covers_append, covers_pushUnique_eq, Bool.or_assoc]
    rfl

variable {conjunction}

/-- Conjuncts stay distinct if predicates are pushed onto them. -/
theorem IsDistinct.fst_pushAll (h : conjunction.IsDistinct) :
    (conjunction.pushAll predicates).1.IsDistinct := by
  induction predicates generalizing conjunction with
  | nil => exact h
  | cons predicate predicates ih =>
    rw [pushAll_cons]
    exact ih (h.pushUnique predicate)

end

/-- Equivalence of predicates is an equivalence relation, and equivalent predicates have the same
columns, the same tables, and an equality both or neither. Pushing predicates onto a conjunction
without equivalent conjuncts adds the first ones of their classes, in order. -/
theorem equivalence_and_gathers_pushAll :
    Equivalence (fun first second : Predicate => first.equivalent second = true) ∧
    (∀ first second : Predicate, first.equivalent second = true →
      (∀ column, column ∈ first.columns ↔ column ∈ second.columns) ∧
        first.tables = second.tables ∧ first.hasEquality = second.hasEquality) ∧
    ∀ (conjunction : Conjunction) (predicates : List Predicate), conjunction.IsDistinct →
      Gathers conjunction predicates (conjunction.pushAll predicates) := by
  refine ⟨⟨Predicate.equivalent_self, Predicate.equivalent_symm, Predicate.equivalent_trans⟩,
    fun first second h => ?_, fun conjunction predicates h => ?_⟩
  · exact ⟨Predicate.mem_columns_of_equivalent h, Predicate.tables_eq_of_equivalent h,
      Predicate.hasEquality_eq_of_equivalent h⟩
  · refine ⟨snd_pushAll conjunction predicates, fst_pushAll conjunction predicates, fun other => ?_,
      h.fst_pushAll predicates⟩
    have hcovers := covers_fst_pushAll conjunction predicates other
    simpa only [covers, List.any_eq_true] using Bool.eq_iff_iff.mp hcovers

/-- An equality with its sides exchanged is not added again, nor is a test for null. -/
theorem equivalence_and_gathers_pushAll_repeated :
    let equality : Predicate :=
      .compare ⟨.column (.qualified "A" "X"), .eq, .column (.qualified "B" "Y")⟩
    let exchanged : Predicate :=
      .compare ⟨.column (.qualified "B" "Y"), .eq, .column (.qualified "A" "X")⟩
    let test : Predicate := .isNull (.column (.qualified "A" "Z")) false
    exchanged.equivalent equality = true ∧ exchanged.tables = equality.tables ∧
      IsDistinct [equality] ∧
      Gathers [equality] [exchanged, test, equality, test]
        ([equality, test], [false, true, false, false]) := by
  intro equality exchanged test
  have hequivalent : exchanged.equivalent equality = true := by decide
  have hdistinct : IsDistinct [equality] := by decide
  obtain ⟨-, hsame, hpush⟩ := equivalence_and_gathers_pushAll
  have hresult : pushAll [equality] [exchanged, test, equality, test] =
      ([equality, test], [false, true, false, false]) := by decide
  exact ⟨hequivalent, (hsame exchanged equality hequivalent).2.1, hdistinct,
    hresult ▸ hpush [equality] _ hdistinct⟩

end Conjunction

end RelPlan
