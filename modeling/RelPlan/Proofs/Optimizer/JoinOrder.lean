import Mathlib.Data.List.Nodup
import RelPlan.Proofs.Optimizer.Scoping

/-!
# When the order of joins keeps conditions in scope

Joins are sorted by their estimates, and the sort is stable. It looks at how much a join is
expected to narrow the rows down and not at what its condition needs, so a join may come before
one whose table its condition mentions. A query whose joins were well scoped stays so exactly if
no join is estimated to come before one whose table it mentions
(`Query.InScope.wellScoped_orderJoins_iff`).
-/

namespace RelPlan

/-! ## Pairs in a list -/

section Pairs

variable {α : Type} {first second : α} {items : List α}

/-- Of two members of a list one comes before the other. -/
theorem pair_sublist_or_of_mem (hfirst : first ∈ items) (hsecond : second ∈ items)
    (hne : first ≠ second) :
    [first, second].Sublist items ∨ [second, first].Sublist items := by
  obtain ⟨front, back, rfl⟩ := List.append_of_mem hfirst
  cases List.mem_append.mp hsecond with
  | inl hfront =>
    right
    exact (List.singleton_sublist.mpr hfront).append
      (List.singleton_sublist.mpr List.mem_cons_self)
  | inr hback =>
    left
    have hmem : second ∈ back := (List.mem_cons.mp hback).resolve_left hne.symm
    exact ((List.singleton_sublist.mpr hmem).cons_cons first).trans (List.sublist_append_right _ _)

/-- In a list without duplicates two members have only one order. -/
theorem not_pair_sublist_swap (hnodup : items.Nodup) (h : [first, second].Sublist items) :
    ¬ [second, first].Sublist items := by
  induction items with
  | nil => simp at h
  | cons item items ih =>
    obtain ⟨hitem, hnodup⟩ := List.nodup_cons.mp hnodup
    intro hswap
    rcases List.sublist_cons_iff.mp h with htail | ⟨_, heq, hmem⟩
    · rcases List.sublist_cons_iff.mp hswap with hswap | ⟨_, heq, -⟩
      · exact ih hnodup htail hswap
      · exact hitem ((List.cons.inj heq).1 ▸ htail.subset (by simp))
    · obtain ⟨rfl, rfl⟩ := List.cons.inj heq
      rcases List.sublist_cons_iff.mp hswap with hswap | ⟨_, heq, -⟩
      · exact hitem (hswap.subset (by simp))
      · exact hitem ((List.cons.inj heq).1 ▸ hmem.subset (by simp))

/-- Which pairs are in order in a list without duplicates once it is sorted: those that were and
may stay, and those that were not and may not stay as they are. -/
theorem pairwise_mergeSort_iff {le : α → α → Bool} {allowed : α → α → Prop}
    (htrans : ∀ a b c, le a b = true → le b c = true → le a c = true)
    (htotal : ∀ a b, (le a b || le b a) = true) (hnodup : items.Nodup)
    (hallowed : items.Pairwise allowed) :
    (items.mergeSort le).Pairwise allowed ↔
      items.Pairwise fun earlier later => ¬ allowed later earlier → le earlier later = true := by
  have hsorted := List.pairwise_mergeSort htrans htotal items
  have hperm := List.mergeSort_perm items le
  have hnodup' : (items.mergeSort le).Nodup := hperm.nodup_iff.mpr hnodup
  rw [List.pairwise_iff_forall_sublist] at hallowed hsorted
  simp only [List.pairwise_iff_forall_sublist]
  constructor
  · intro h earlier later hpair hnot
    have hearlier : earlier ∈ items.mergeSort le := hperm.mem_iff.mpr (hpair.subset (by simp))
    have hlater : later ∈ items.mergeSort le := hperm.mem_iff.mpr (hpair.subset (by simp))
    have hne : earlier ≠ later := by
      rintro rfl
      exact not_pair_sublist_swap hnodup hpair hpair
    cases pair_sublist_or_of_mem hearlier hlater hne with
    | inl hkept => exact hsorted hkept
    | inr hswapped => exact absurd (h hswapped) hnot
  · intro h earlier later hpair
    have hearlier : earlier ∈ items := hperm.mem_iff.mp (hpair.subset (by simp))
    have hlater : later ∈ items := hperm.mem_iff.mp (hpair.subset (by simp))
    have hne : earlier ≠ later := by
      rintro rfl
      exact not_pair_sublist_swap hnodup' hpair hpair
    cases pair_sublist_or_of_mem hearlier hlater hne with
    | inl hkept => exact hallowed hkept
    | inr hswapped =>
      refine Classical.byContradiction fun hnot => ?_
      have hstays := List.pair_sublist_mergeSort htrans htotal (h hswapped hnot) hswapped
      exact not_pair_sublist_swap hnodup' hpair hstays

end Pairs

/-! ## Estimates of one query -/

namespace Query

/-- Of two joins of a query, one may come before another if its score is higher, or the scores
are equal and no fewer rows are read for the other as far as statistics tell. -/
theorem estimate_le_iff (stats : Option Statistics) (query : Query) (first second : Join) :
    (query.estimate stats first).le (query.estimate stats second) = true ↔
      query.score second < query.score first ∨
        query.score first = query.score second ∧ ∀ known ∈ stats,
          orderKey (known.rowsAfterFilters first.table first.access.selection.length) ≤
            orderKey (known.rowsAfterFilters second.table second.access.selection.length) := by
  rw [Estimate.le, Bool.or_eq_true, decide_eq_true_eq, Bool.and_eq_true, beq_iff_eq]
  cases stats <;> simp [estimate, Estimate.rowsLE]

/-- If a join may come before a second one, and that before a third one, then the first may come
before the third. -/
theorem estimate_le_trans (stats : Option Statistics) (query : Query) (first second third : Join)
    (hfirst : (query.estimate stats first).le (query.estimate stats second) = true)
    (hsecond : (query.estimate stats second).le (query.estimate stats third) = true) :
    (query.estimate stats first).le (query.estimate stats third) = true := by
  rw [estimate_le_iff] at *
  cases stats <;> simp only [Option.mem_def, Option.some.injEq, forall_eq', reduceCtorEq,
    false_imp_iff, implies_true, and_true] at * <;> omega

/-- Of two joins one may come before the other. -/
theorem estimate_le_total (stats : Option Statistics) (query : Query) (first second : Join) :
    ((query.estimate stats first).le (query.estimate stats second) ||
      (query.estimate stats second).le (query.estimate stats first)) = true := by
  rw [Bool.or_eq_true, estimate_le_iff, estimate_le_iff]
  cases stats <;> simp only [Option.mem_def, Option.some.injEq, forall_eq', reduceCtorEq,
    false_imp_iff, implies_true, and_true] <;> omega

/-- The joins with their positions are sorted by the estimates of the joins. -/
theorem ordered_eq_mergeSort (stats : Option Statistics) (query : Query) :
    query.ordered stats =
      query.joins.zipIdx.mergeSort fun first second =>
        (query.estimate stats first.1).le (query.estimate stats second.1) := by
  have hranked : (query.ranked stats).map (·.1) = query.joins.zipIdx := by
    simp [ranked, Function.comp_def]
  rw [ordered, ← hranked]
  refine List.map_mergeSort fun first hfirst second hsecond => ?_
  obtain ⟨_, -, rfl⟩ := List.mem_map.mp hfirst
  obtain ⟨_, -, rfl⟩ := List.mem_map.mp hsecond
  rfl

/-- Ordering joins sorts them by their estimates. -/
theorem map_ordered_eq_mergeSort (stats : Option Statistics) (query : Query) :
    (query.ordered stats).map (·.1) =
      query.joins.mergeSort fun first second =>
        (query.estimate stats first).le (query.estimate stats second) := by
  have hjoins : query.joins.zipIdx.map (·.1) = query.joins := List.zipIdx_map_fst 0 query.joins
  rw [ordered_eq_mergeSort]
  conv_rhs => rw [← hjoins]
  refine List.map_mergeSort fun first _ second _ => ?_
  rfl

/-- Whether no join is estimated to come before one whose table its condition is about. -/
def RankedInScope (stats : Option Statistics) (query : Query) : Prop :=
  query.joins.Pairwise fun earlier later =>
    later.mentions earlier.table = true →
      (query.estimate stats earlier).le (query.estimate stats later) = true

instance (stats : Option Statistics) (query : Query) : Decidable (query.RankedInScope stats) :=
  inferInstanceAs (Decidable (List.Pairwise _ _))

/-- Ordering joins sorts them, also if there are fewer than two. -/
theorem query_orderJoins_eq (stats : Option Statistics) (query : Query) :
    (query.orderJoins stats).query =
      { query with
        joins := query.joins.mergeSort fun first second =>
          (query.estimate stats first).le (query.estimate stats second) } := by
  unfold orderJoins
  split
  · next hfew =>
    obtain ⟨select, source, joins, filter⟩ := query
    match joins, hfew with
    | [], _ => simp [Revision.unchanged]
    | [join], _ => simp [Revision.unchanged]
  · dsimp only
    rw [map_ordered_eq_mergeSort]

namespace InScope

variable {query : Query}

/-- A query in scope stays well scoped when its joins are ordered exactly if no join is estimated
to come before one whose table its condition is about. -/
theorem wellScoped_orderJoins_iff (h : query.InScope) (stats : Option Statistics) :
    (query.orderJoins stats).query.WellScoped ↔ query.RankedInScope stats := by
  have hdistinct := h.distinct
  rw [tables_eq] at hdistinct
  have hjoins : query.joins.Nodup := List.Nodup.of_map _ (List.nodup_cons.mp hdistinct).2
  have hscoped := ((Join.wellScoped_iff_pairwise hdistinct).mp h.joins).2
  rw [query_orderJoins_eq, h.joins.perm_iff h.distinct (List.mergeSort_perm _ _),
    pairwise_mergeSort_iff (query.estimate_le_trans stats) (query.estimate_le_total stats) hjoins
      hscoped]
  simp only [Bool.not_eq_false, RankedInScope]

/-- The plan of a query in scope whose joins are put in another order is well scoped exactly if
the joins are. -/
theorem wellScoped_ofQuery_perm_iff (h : query.InScope) {joins : List Join}
    (hperm : joins.Perm query.joins) :
    (Plan.ofQuery { query with joins := joins }).WellScoped ↔
      Query.WellScoped { query with joins := joins } := by
  have hmap : (joins.map (·.table)).Perm (query.joins.map (·.table)) := hperm.map _
  rw [Plan.wellScoped_ofQuery_iff]
  refine ⟨fun hplan => hplan.2.1, fun hscoped => ⟨h.filter.mono ?_, hscoped, ?_⟩⟩
  · rw [tables_eq, tables_eq]
    exact (hmap.cons query.source.table).symm.subset
  · intro source hsource
    rcases List.mem_cons.mp hsource with rfl | hmem
    · exact h.selections query.source List.mem_cons_self
    · obtain ⟨join, hjoin, rfl⟩ := List.mem_map.mp hmem
      exact h.selection_of_mem (hperm.mem_iff.mp hjoin)

end InScope

end Query

/-! ## The standard heuristics -/

namespace Optimizer

/-- The standard heuristics without the ordering of joins. -/
def placing (knowledge : Knowledge) : Optimizer :=
  ⟨[.selectionPushdown, .projectionPushdown, .cartesianAvoidance], knowledge⟩

/-- The standard heuristics order the joins after everything else. -/
theorem query_optimize_standardOrder (knowledge : Knowledge) (query : Query) :
    (optimize ⟨Heuristic.standardOrder, knowledge⟩ query).query =
      (((placing knowledge).optimize query).query.orderJoins knowledge.statistics).query := rfl

/-- What the standard heuristics do before they order the joins keeps a query in scope. -/
theorem inScope_optimize_placing (knowledge : Knowledge) {query : Query} (h : query.InScope) :
    ((placing knowledge).optimize query).query.InScope := by
  refine preserved_of_heuristics (fun heuristic hheuristic current hcurrent => ?_) h
  apply hcurrent.apply knowledge
  rintro rfl
  simp [placing] at hheuristic

/-- Two joins of which the second one is about the table of the first one, and a condition on a
column of one table. -/
def chainText (table : String) : String :=
  "SELECT * FROM A INNER JOIN B ON A.ID = B.ID INNER JOIN C ON B.ID = C.ID WHERE " ++ table ++
    ".X = 1;"

/-- The query that the text of a chain describes. -/
def chain (table : String) : Query :=
  .ofTable .all "A"
    [.ofTable "B" [.compare ⟨.column (.qualified "A" "ID"), .eq, .column (.qualified "B" "ID")⟩],
     .ofTable "C" [.compare ⟨.column (.qualified "B" "ID"), .eq, .column (.qualified "C" "ID")⟩]]
    [.compare ⟨.column (.qualified table "X"), .eq, .literal (.number "1")⟩]

/-- Take a query that is read from a text, of distinct tables, in which the condition of every
join is about tables that are there and the columns of the condition name tables of the query.
The joins stay well scoped until they are ordered, and in the end they and the plan are well
scoped exactly if no join is estimated to come before one whose table its condition is about. -/
theorem wellScoped_optimize_standardOrder_iff [Text.WordClass] {schema : Schema} {text : String}
    {query : Query} (knowledge : Knowledge) (hread : Query.ofText schema text = .ok query)
    (hdistinct : query.tables.Nodup) (hscoped : query.WellScoped)
    (hqualified : ∀ column ∈ query.filter.columns, column.IsOf query.tables) :
    ((placing knowledge).optimize query).query.WellScoped ∧
      ((optimize ⟨Heuristic.standardOrder, knowledge⟩ query).query.WellScoped ↔
        ((placing knowledge).optimize query).query.RankedInScope knowledge.statistics) ∧
      ((Plan.ofQuery (optimize ⟨Heuristic.standardOrder, knowledge⟩ query).query).WellScoped ↔
        ((placing knowledge).optimize query).query.RankedInScope knowledge.statistics) := by
  have hquery : query.InScope :=
    (Query.isWritten_of_ofText hread).inScope hdistinct hscoped
      (Conjunction.isAbout_of_columns hqualified)
  have hplaced := inScope_optimize_placing knowledge hquery
  have hjoins := hplaced.wellScoped_orderJoins_iff knowledge.statistics
  rw [query_optimize_standardOrder]
  refine ⟨hplaced.joins, hjoins, ?_⟩
  rw [← hjoins, Query.query_orderJoins_eq]
  exact hplaced.wellScoped_ofQuery_perm_iff (List.mergeSort_perm _ _)

/-- A chain with a condition on the table of its first join stays well scoped. -/
theorem wellScoped_optimize_chain :
    Query.ofText .standard (chainText "B") = .ok (chain "B") ∧
      (optimize ⟨Heuristic.standardOrder, .none⟩ (chain "B")).query.WellScoped ∧
      (Plan.ofQuery (optimize ⟨Heuristic.standardOrder, .none⟩ (chain "B")).query).WellScoped := by
  have hread : Query.ofText .standard (chainText "B") = .ok (chain "B") := by decide +kernel
  have hiff := wellScoped_optimize_standardOrder_iff .none hread (by decide) (by decide) (by decide)
  have hranked : ((placing .none).optimize (chain "B")).query.RankedInScope none := by decide
  exact ⟨hread, hiff.2.1.mpr hranked, hiff.2.2.mpr hranked⟩

/-- A chain with a condition on the table of its second join does not: that join has the higher
score, and it comes first although its condition is about the table of the other one. -/
theorem not_wellScoped_optimize_chain :
    Query.ofText .standard (chainText "C") = .ok (chain "C") ∧
      (chain "C").tables.Nodup ∧ (chain "C").WellScoped ∧
      (∀ column ∈ (chain "C").filter.columns, column.IsOf (chain "C").tables) ∧
      ¬ (optimize ⟨Heuristic.standardOrder, .none⟩ (chain "C")).query.WellScoped ∧
      ¬ (Plan.ofQuery
        (optimize ⟨Heuristic.standardOrder, .none⟩ (chain "C")).query).WellScoped := by
  have hread : Query.ofText .standard (chainText "C") = .ok (chain "C") := by decide +kernel
  have hjoins :
      ¬ (optimize ⟨Heuristic.standardOrder, .none⟩ (chain "C")).query.WellScoped := by
    have hscope : (chain "C").InScope := ⟨by decide, by decide, by decide, by decide, by decide⟩
    have hplaced := inScope_optimize_placing .none hscope
    rw [query_optimize_standardOrder, hplaced.wellScoped_orderJoins_iff]
    decide
  refine ⟨hread, by decide, by decide, by decide, hjoins, fun hplan => hjoins ?_⟩
  exact ((Plan.wellScoped_ofQuery_iff _).mp hplan).2.1

end Optimizer

end RelPlan
