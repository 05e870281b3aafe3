import Mathlib.Data.List.Perm.Basic
import Mathlib.Data.List.Sort
import Mathlib.Order.Basic
import RelPlan.Predicate.Basic

/-!
# Equivalent predicates

Two predicates are equivalent if they are the same up to the order of the sides of a symmetric
comparison. Equivalence is an equivalence relation, and equivalent predicates are about the same
columns. Pushing a predicate onto a conjunction keeps what is there as a prefix, adds nothing
but the predicate, and leaves an equivalent of the predicate among the conjuncts. In which order
predicates are pushed makes a difference only to the order of the conjuncts and to which of two
equivalent predicates is among them (`Conjunction.matches_foldl_pushUnique`).
-/

namespace RelPlan

/-- If members that are in relation to members in relation to others are in relation to those, then
so it is for lists that are in relation member by member. -/
theorem forall₂_trans {α : Type} {R : α → α → Prop}
    (htrans : ∀ one other last : α, R one other → R other last → R one last)
    {first second third : List α} (hfirst : List.Forall₂ R first second)
    (hsecond : List.Forall₂ R second third) : List.Forall₂ R first third := by
  induction hfirst generalizing third with
  | nil => exact hsecond
  | cons hhead _ ih =>
    obtain ⟨last, rest, hlast, hrest, rfl⟩ := List.forall₂_cons_left_iff.mp hsecond
    exact .cons (htrans _ _ _ hhead hlast) (ih hrest)

/-- Sets of names with the same members are equal. -/
theorem NameSet.ext_mem {first second : NameSet} (h : ∀ name, name ∈ first ↔ name ∈ second) :
    first = second := by
  have hlists : first.toList = second.toList := by
    have : Std.Irrefl (· < · : String → String → Prop) := ⟨String.lt_irrefl⟩
    have : Std.Antisymm (· < · : String → String → Prop) :=
      ⟨fun _ _ hlt hgt => absurd hgt (String.lt_asymm hlt)⟩
    exact first.sorted.eq_of_mem_iff second.sorted h
  cases first
  cases second
  simp_all

namespace Predicate

/-- Equivalent predicates are equal, or one is the other with its sides exchanged. -/
theorem equivalent_iff {first second : Predicate} :
    first.equivalent second = true ↔
      first = second ∨ ∃ comparison : Comparison, comparison.op.isSymmetric = true ∧
        first = .compare comparison ∧ second = .compare comparison.swap := by
  constructor
  · intro h
    cases first with
    | compare left =>
      cases second with
      | compare right =>
        have hsides : left = right ∨ left.op.isSymmetric = true ∧ left.swap = right := by
          simpa [equivalent, Comparison.equivalent] using h
        rcases hsides with heq | ⟨hsymm, hswap⟩
        · exact .inl (by rw [heq])
        · exact .inr ⟨left, hsymm, rfl, by rw [hswap]⟩
      | _ => simp [equivalent] at h
    | _ => exact .inl (by simpa [equivalent] using h)
  · rintro (rfl | ⟨comparison, hsymm, rfl, rfl⟩)
    · exact equivalent_self first
    · simp [equivalent, Comparison.equivalent, hsymm]

/-- Equivalence does not depend on the order of the two predicates. -/
theorem equivalent_symm {first second : Predicate} (h : first.equivalent second = true) :
    second.equivalent first = true := by
  rw [equivalent_iff] at h ⊢
  rcases h with heq | ⟨comparison, hsymm, hfirst, hsecond⟩
  · exact .inl heq.symm
  · exact .inr ⟨comparison.swap, hsymm, hsecond, by rw [Comparison.swap_swap, hfirst]⟩

/-- Predicates that are equivalent to one predicate are equivalent to each other. -/
theorem equivalent_trans {first second third : Predicate}
    (hfirst : first.equivalent second = true) (hsecond : second.equivalent third = true) :
    first.equivalent third = true := by
  rcases equivalent_iff.mp hfirst with rfl | ⟨comparison, hsymm, rfl, rfl⟩
  · exact hsecond
  · rcases equivalent_iff.mp hsecond with rfl | ⟨other, -, heq, rfl⟩
    · exact hfirst
    · have hother : other = comparison.swap := (Predicate.compare.inj heq).symm
      rw [hother, Comparison.swap_swap]
      exact equivalent_self _

/-- Equivalent predicates are about the same columns. -/
theorem mem_columns_of_equivalent {first second : Predicate}
    (h : first.equivalent second = true) (column : ColumnRef) :
    column ∈ first.columns ↔ column ∈ second.columns := by
  rcases equivalent_iff.mp h with rfl | ⟨comparison, -, rfl, rfl⟩
  · exact Iff.rfl
  · simp only [columns, Comparison.columns, Comparison.swap, List.mem_append]
    exact or_comm

/-- Equivalent predicates are about the same tables. -/
theorem mem_tables_of_equivalent {first second : Predicate}
    (h : first.equivalent second = true) (table : String) :
    table ∈ first.tables ↔ table ∈ second.tables := by
  simp only [mem_tables, mem_columns_of_equivalent h]

/-- Equivalent predicates have the same set of tables. -/
theorem tables_eq_of_equivalent {first second : Predicate} (h : first.equivalent second = true) :
    first.tables = second.tables :=
  NameSet.ext_mem (mem_tables_of_equivalent h)

/-- There is an equality in both of two equivalent predicates, or in neither. -/
theorem hasEquality_eq_of_equivalent {first second : Predicate}
    (h : first.equivalent second = true) : first.hasEquality = second.hasEquality := by
  rcases equivalent_iff.mp h with rfl | ⟨comparison, -, rfl, rfl⟩ <;> rfl

end Predicate

namespace Conjunction

/-- A predicate is covered if it is equivalent to some conjunct. -/
theorem covers_iff {conjunction : Conjunction} {predicate : Predicate} :
    conjunction.covers predicate = true ↔
      ∃ conjunct ∈ conjunction, predicate.equivalent conjunct = true := by
  simp only [covers, List.any_eq_true]
  constructor
  · rintro ⟨conjunct, hmem, h⟩
    exact ⟨conjunct, hmem, Predicate.equivalent_symm h⟩
  · rintro ⟨conjunct, hmem, h⟩
    exact ⟨conjunct, hmem, Predicate.equivalent_symm h⟩

/-- What is there stays in front when a predicate is pushed. -/
theorem prefix_pushUnique (conjunction : Conjunction) (predicate : Predicate) :
    conjunction <+: conjunction.pushUnique predicate := by
  cases h : conjunction.covers predicate with
  | true => exact ⟨[], by rw [pushUnique_of_covers h, List.append_nil]⟩
  | false => rw [pushUnique_of_not_covers h]; exact List.prefix_append _ _

/-- Pushing a predicate adds nothing else. -/
theorem mem_of_mem_pushUnique {conjunction : Conjunction} {predicate conjunct : Predicate}
    (h : conjunct ∈ conjunction.pushUnique predicate) :
    conjunct ∈ conjunction ∨ conjunct = predicate := by
  cases hcovers : conjunction.covers predicate with
  | true => rw [pushUnique_of_covers hcovers] at h; exact .inl h
  | false => rw [pushUnique_of_not_covers hcovers] at h; simpa using h

/-- What is there stays there when a predicate is pushed. -/
theorem mem_pushUnique_of_mem {conjunction : Conjunction} (predicate : Predicate)
    {conjunct : Predicate} (h : conjunct ∈ conjunction) :
    conjunct ∈ conjunction.pushUnique predicate :=
  (prefix_pushUnique conjunction predicate).subset h

/-- After it is pushed a predicate has an equivalent among the conjuncts. -/
theorem exists_equivalent_mem_pushUnique (conjunction : Conjunction) (predicate : Predicate) :
    ∃ conjunct ∈ conjunction.pushUnique predicate, predicate.equivalent conjunct = true :=
  covers_iff.mp (covers_pushUnique conjunction predicate)

/-- A conjunction with a predicate pushed onto it is not empty. -/
theorem pushUnique_ne_nil (conjunction : Conjunction) (predicate : Predicate) :
    conjunction.pushUnique predicate ≠ [] := by
  obtain ⟨conjunct, hmem, -⟩ := exists_equivalent_mem_pushUnique conjunction predicate
  exact List.ne_nil_of_mem hmem

/-! ## Conjunctions that match -/

/-- Whether two conjunctions are the same up to the order of their conjuncts and up to conjuncts
that are equivalent. -/
def Matches (first second : Conjunction) : Prop :=
  ∃ arranged, List.Forall₂ (fun one other => one.equivalent other = true) first arranged ∧
    arranged.Perm second

/-- Conjuncts in another order match. -/
theorem Matches.of_perm {first second : Conjunction} (h : first.Perm second) :
    first.Matches second :=
  ⟨first, List.forall₂_same.mpr fun predicate _ => predicate.equivalent_self, h⟩

/-- A conjunction matches itself. -/
theorem Matches.refl (conjunction : Conjunction) : conjunction.Matches conjunction :=
  .of_perm (List.Perm.refl _)

/-- What matches a conjunction that matches a third one matches the third one. -/
theorem Matches.trans {first second third : Conjunction} (hfirst : first.Matches second)
    (hsecond : second.Matches third) : first.Matches third := by
  obtain ⟨one, hone, hperm⟩ := hfirst
  obtain ⟨other, hother, hlast⟩ := hsecond
  -- The rearrangement of the first two may be done after the exchange of equivalent conjuncts.
  obtain ⟨between, hbetween, hmiddle⟩ := List.perm_comp_forall₂ hperm hother
  refine ⟨between, forall₂_trans ?_ hone hbetween, hmiddle.trans hlast⟩
  exact fun _ _ _ => Predicate.equivalent_trans

section Matches

variable {first second : Conjunction}

/-- Conjunctions that match have the same number of conjuncts. -/
theorem Matches.length_eq (h : first.Matches second) : first.length = second.length := by
  obtain ⟨arranged, hforall, hperm⟩ := h
  exact hforall.length_eq.trans hperm.length_eq

/-- Conjunctions that match cover the same predicates. -/
theorem Matches.covers_eq (h : first.Matches second) (predicate : Predicate) :
    first.covers predicate = second.covers predicate := by
  obtain ⟨arranged, hforall, hperm⟩ := h
  have harranged : arranged.any (·.equivalent predicate) = second.any (·.equivalent predicate) :=
    hperm.any_eq
  rw [covers, covers, ← harranged]
  clear hperm harranged
  induction hforall with
  | nil => rfl
  | @cons one other _ _ hhead _ ih =>
    have hsame : one.equivalent predicate = other.equivalent predicate :=
      Bool.eq_iff_iff.mpr ⟨Predicate.equivalent_trans (Predicate.equivalent_symm hhead),
        Predicate.equivalent_trans hhead⟩
    rw [List.any_cons, List.any_cons, hsame, ih]

/-- Conjunctions that match still do so when the same predicate is pushed onto both. -/
theorem Matches.pushUnique (h : first.Matches second) (predicate : Predicate) :
    (first.pushUnique predicate).Matches (second.pushUnique predicate) := by
  have hsame := h.covers_eq predicate
  cases hcovers : first.covers predicate with
  | true =>
    rw [pushUnique_of_covers hcovers, pushUnique_of_covers (hsame.symm.trans hcovers)]
    exact h
  | false =>
    rw [pushUnique_of_not_covers hcovers, pushUnique_of_not_covers (hsame.symm.trans hcovers)]
    obtain ⟨arranged, hforall, hperm⟩ := h
    refine ⟨arranged ++ [predicate], ?_, hperm.append_right _⟩
    exact List.rel_append hforall (.cons predicate.equivalent_self .nil)

/-- Conjunctions that match still do with the same predicates pushed onto them. -/
theorem Matches.foldl_pushUnique (h : first.Matches second) (predicates : List Predicate) :
    (predicates.foldl Conjunction.pushUnique first).Matches
      (predicates.foldl Conjunction.pushUnique second) := by
  induction predicates generalizing first second with
  | nil => exact h
  | cons predicate predicates ih => exact ih (h.pushUnique predicate)

end Matches

/-- What is covered stays so when another predicate is pushed. -/
theorem covers_pushUnique_of_covers {conjunction : Conjunction} {predicate : Predicate}
    (h : conjunction.covers predicate = true) (other : Predicate) :
    (conjunction.pushUnique other).covers predicate = true := by
  obtain ⟨conjunct, hmem, hequivalent⟩ := covers_iff.mp h
  exact covers_iff.mpr ⟨conjunct, mem_pushUnique_of_mem other hmem, hequivalent⟩

/-- What is there stays in front when predicates are pushed. -/
theorem prefix_foldl_pushUnique (conjunction : Conjunction) (predicates : List Predicate) :
    conjunction <+: predicates.foldl pushUnique conjunction := by
  induction predicates generalizing conjunction with
  | nil => exact List.prefix_refl conjunction
  | cons predicate predicates ih =>
    exact (prefix_pushUnique conjunction predicate).trans (ih (conjunction.pushUnique predicate))

/-- Every predicate that is pushed has an equivalent among the conjuncts in the end. -/
theorem exists_equivalent_mem_foldl_pushUnique (conjunction : Conjunction)
    {predicates : List Predicate} {predicate : Predicate} (h : predicate ∈ predicates) :
    ∃ conjunct ∈ predicates.foldl pushUnique conjunction,
      predicate.equivalent conjunct = true := by
  induction predicates generalizing conjunction with
  | nil => exact absurd h List.not_mem_nil
  | cons head tail ih =>
    rcases List.mem_cons.mp h with rfl | hmem
    · obtain ⟨conjunct, hconjunct, hequivalent⟩ :=
        exists_equivalent_mem_pushUnique conjunction predicate
      have hstays := (prefix_foldl_pushUnique (conjunction.pushUnique predicate) tail).subset
      exact ⟨conjunct, hstays hconjunct, hequivalent⟩
    · exact ih (conjunction.pushUnique head) hmem

/-- Two predicates may be pushed in either order. -/
theorem matches_pushUnique_pushUnique (conjunction : Conjunction) (one other : Predicate) :
    ((conjunction.pushUnique one).pushUnique other).Matches
      ((conjunction.pushUnique other).pushUnique one) := by
  cases hone : conjunction.covers one with
  | true =>
    rw [pushUnique_of_covers hone,
      pushUnique_of_covers (covers_pushUnique_of_covers hone other)]
    exact .refl _
  | false =>
    cases hother : conjunction.covers other with
    | true =>
      rw [pushUnique_of_covers hother,
        pushUnique_of_covers (covers_pushUnique_of_covers hother one)]
      exact .refl _
    | false =>
      -- Of two new predicates that are equivalent only the one that is pushed first is added.
      have hpushed (first second : Predicate) (h : conjunction.covers second = false) :
          (conjunction ++ [first]).any (·.equivalent second) = first.equivalent second := by
        rw [List.any_append, ← covers, h, Bool.false_or, List.any_cons, List.any_nil,
          Bool.or_false]
      rw [pushUnique_of_not_covers hone, pushUnique_of_not_covers hother]
      cases hequivalent : one.equivalent other with
      | true =>
        have hswapped := Predicate.equivalent_symm hequivalent
        rw [pushUnique_of_covers ((hpushed one other hother).trans hequivalent),
          pushUnique_of_covers ((hpushed other one hone).trans hswapped)]
        refine ⟨conjunction ++ [other], ?_, List.Perm.refl _⟩
        exact List.rel_append (List.forall₂_same.mpr fun predicate _ => predicate.equivalent_self)
          (.cons hequivalent .nil)
      | false =>
        have hswapped : other.equivalent one = false :=
          Bool.eq_false_iff.mpr fun h =>
            Bool.eq_false_iff.mp hequivalent (Predicate.equivalent_symm h)
        rw [pushUnique_of_not_covers ((hpushed one other hother).trans hequivalent),
          pushUnique_of_not_covers ((hpushed other one hone).trans hswapped),
          List.append_assoc, List.append_assoc]
        exact .of_perm ((List.Perm.swap other one []).append_left conjunction)

/-- Predicates may be pushed in any order. -/
theorem matches_foldl_pushUnique (conjunction : Conjunction) {predicates others : List Predicate}
    (h : predicates.Perm others) :
    (predicates.foldl pushUnique conjunction).Matches (others.foldl pushUnique conjunction) := by
  induction h generalizing conjunction with
  | nil => exact .refl _
  | cons predicate _ ih => exact ih (conjunction.pushUnique predicate)
  | swap one other rest =>
    exact (matches_pushUnique_pushUnique conjunction other one).foldl_pushUnique rest
  | trans _ _ ihfirst ihsecond => exact (ihfirst conjunction).trans (ihsecond conjunction)

end Conjunction

end RelPlan
