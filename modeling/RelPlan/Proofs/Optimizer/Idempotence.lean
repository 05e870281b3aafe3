import RelPlan.Proofs.Optimizer.JoinOrder
import RelPlan.Proofs.Optimizer.Placement
import RelPlan.Proofs.Optimizer.Projections

/-!
# Heuristics a second time

A query is settled if the standard heuristics have nothing left to do to it: no conjunct of its
condition has a place elsewhere, what is kept of its tables is what is read of them, and its joins
come back in their order when products are put last and the joins are ordered again. A settled query
stays as it is (`Query.Settled.query_optimize`), and what the standard heuristics give is settled
(`Query.settled_optimize`). For the order of joins this rests on the sort being stable: joins of
equal estimates come with the products last already. On the way each heuristic is seen to change
nothing when it alone is applied a second time.
-/

namespace RelPlan

/-! ## Stable sorting -/

section StableSort

variable {α : Type} {le : α → α → Bool}

/-- Whether neither of two items has to come before the other. -/
def ties (le : α → α → Bool) (first second : α) : Bool := le first second && le second first

/-- Sorting keeps items that tie with one item in their order. -/
theorem filter_ties_mergeSort (htrans : ∀ a b c, le a b = true → le b c = true → le a c = true)
    (htotal : ∀ a b, (le a b || le b a) = true) (items : List α) (item : α) :
    (items.mergeSort le).filter (ties le item) = items.filter (ties le item) := by
  have hsorted : (items.filter (ties le item)).Pairwise fun a b => le a b = true := by
    refine List.pairwise_of_forall_mem_list fun a ha b hb => ?_
    have hfirst := (Bool.and_eq_true_iff.mp (List.mem_filter.mp ha).2).2
    have hsecond := (Bool.and_eq_true_iff.mp (List.mem_filter.mp hb).2).1
    exact htrans a item b hfirst hsecond
  have hsub := (List.sublist_mergeSort htrans htotal hsorted List.filter_sublist).filter
    (ties le item)
  rw [List.filter_filter] at hsub
  simp only [Bool.and_self] at hsub
  refine (hsub.eq_of_length ?_).symm
  exact ((List.mergeSort_perm items le).filter _).length_eq.symm

/-- Two sorted lists are equal if items that tie are in the same order in both. -/
theorem eq_of_filter_ties_eq (hrefl : ∀ a, le a a = true) {firsts seconds : List α}
    (hfirsts : firsts.Pairwise fun a b => le a b = true)
    (hseconds : seconds.Pairwise fun a b => le a b = true)
    (h : ∀ item, firsts.filter (ties le item) = seconds.filter (ties le item)) :
    firsts = seconds := by
  have hself (item : α) : ties le item item = true := by simp [ties, hrefl]
  have hmem {firsts seconds : List α} {item : α}
      (h : firsts.filter (ties le item) = seconds.filter (ties le item)) (hitem : item ∈ firsts) :
      item ∈ seconds := by
    have hfilter : item ∈ firsts.filter (ties le item) := List.mem_filter.mpr ⟨hitem, hself item⟩
    rw [h] at hfilter
    exact (List.mem_filter.mp hfilter).1
  induction firsts generalizing seconds with
  | nil =>
    cases seconds with
    | nil => rfl
    | cons second seconds => exact absurd (hmem (h second).symm List.mem_cons_self) List.not_mem_nil
  | cons first firsts ih =>
    cases seconds with
    | nil => exact absurd (hmem (h first) List.mem_cons_self) List.not_mem_nil
    | cons second seconds =>
      obtain ⟨hfirst, hbehindFirst⟩ := List.pairwise_cons.mp hfirsts
      obtain ⟨hsecond, hbehindSecond⟩ := List.pairwise_cons.mp hseconds
      -- Each head occurs in the other list and so is not before the head of that list. The heads
      -- tie, and they are the first items that tie with them.
      have hle : le first second = true := by
        rcases List.mem_cons.mp (hmem (h second).symm List.mem_cons_self) with rfl | hlater
        · exact hrefl second
        · exact hfirst second hlater
      have hge : le second first = true := by
        rcases List.mem_cons.mp (hmem (h first) List.mem_cons_self) with rfl | hlater
        · exact hrefl first
        · exact hsecond first hlater
      have hties : ties le first second = true := by simp [ties, hle, hge]
      have hhead : first = second := by
        have hfilter := h first
        rw [List.filter_cons_of_pos (hself first), List.filter_cons_of_pos hties] at hfilter
        exact (List.cons.inj hfilter).1
      subst hhead
      refine congrArg _ (ih hbehindFirst hbehindSecond fun item => ?_)
      have hfilter := h item
      rw [List.filter_cons, List.filter_cons] at hfilter
      split at hfilter
      · exact (List.cons.inj hfilter).2
      · exact hfilter

/-- Lists in which items that tie are in the same order have the same sorted list. -/
theorem mergeSort_eq_of_filter_ties_eq
    (htrans : ∀ a b c, le a b = true → le b c = true → le a c = true)
    (htotal : ∀ a b, (le a b || le b a) = true) {firsts seconds : List α}
    (h : ∀ item, firsts.filter (ties le item) = seconds.filter (ties le item)) :
    firsts.mergeSort le = seconds.mergeSort le := by
  refine eq_of_filter_ties_eq (fun a => by simpa using htotal a a)
    (List.pairwise_mergeSort htrans htotal firsts) (List.pairwise_mergeSort htrans htotal seconds)
    fun item => ?_
  rw [filter_ties_mergeSort htrans htotal, filter_ties_mergeSort htrans htotal, h]

end StableSort

namespace Query

/-- Joins may be left out before or after products are put last. -/
theorem filter_productsLast (test : Join → Bool) (joins : List Join) :
    (productsLast joins).filter test = productsLast (joins.filter test) := by
  rw [productsLast, productsLast, List.filter_append, List.filter_comm test, List.filter_comm test]

/-- Products that are last stay where they are. -/
theorem productsLast_productsLast (joins : List Join) :
    productsLast (productsLast joins) = productsLast joins := by
  simp [productsLast, List.filter_append, List.filter_filter]

/-- Ordering joins before the products are put last does not matter if they are ordered again. -/
theorem mergeSort_productsLast_mergeSort {le : Join → Join → Bool}
    (htrans : ∀ a b c, le a b = true → le b c = true → le a c = true)
    (htotal : ∀ a b, (le a b || le b a) = true) (joins : List Join) :
    (productsLast (joins.mergeSort le)).mergeSort le = (productsLast joins).mergeSort le := by
  refine mergeSort_eq_of_filter_ties_eq htrans htotal fun item => ?_
  -- Joins that tie are in their first order, and so are those of them that are put last.
  rw [filter_productsLast, filter_ties_mergeSort htrans htotal, ← filter_productsLast]

/-- Putting products last a second time changes nothing. -/
theorem orderProducts_orderProducts (query : Query) :
    query.orderProducts.orderProducts = query.orderProducts := by
  rw [orderProducts, orderProducts, productsLast_productsLast]

/-- Joins that are ordered, before products are put last and again after it, need only be ordered
after it. -/
theorem orderJoins_orderProducts_orderJoins (stats : Option Statistics) (query : Query) :
    ((query.orderJoins stats).query.orderProducts.orderJoins stats).query =
      (query.orderProducts.orderJoins stats).query := by
  rw [query_orderJoins_eq, query_orderJoins_eq, query_orderJoins_eq]
  exact congrArg (fun joins => { query with joins := joins }) <|
    mergeSort_productsLast_mergeSort (query.estimate_le_trans stats)
      (query.estimate_le_total stats) query.joins

/-- Putting products last and ordering joins a second time changes nothing. -/
theorem orderJoins_orderProducts (stats : Option Statistics) (query : Query) :
    ((query.orderProducts.orderJoins stats).query.orderProducts.orderJoins stats).query =
      (query.orderProducts.orderJoins stats).query := by
  rw [orderJoins_orderProducts_orderJoins, orderProducts_orderProducts]

/-! ## Settled queries -/

/-- Whether the standard heuristics have nothing to do to a query. -/
structure Settled (knowledge : Knowledge) (query : Query) : Prop where
  filters : ∀ predicate ∈ query.filter,
    Placement.filters.accepts query.tables predicate = false
  conditions : ∀ predicate ∈ query.filter,
    Placement.conditions.accepts query.tables predicate = false
  kept : ∀ columns, query.keptColumns? knowledge.schema = some columns →
    query.keeping columns = query
  ordered : (query.orderProducts.orderJoins knowledge.statistics).query = query

/-- Without a conjunct that has a place in a filter, pushing selections down changes nothing. -/
theorem query_pushSelections_eq_self {query : Query} (h : ∀ predicate ∈ query.filter,
    Placement.filters.accepts query.tables predicate = false) :
    query.pushSelections.query = query :=
  (query_pushSelections_eq query).trans (Placement.filters.run_eq_self h)

/-- Without a conjunct that has a place in a condition, avoiding products only puts them last. -/
theorem query_avoidProducts_eq_orderProducts {query : Query} (h : ∀ predicate ∈ query.filter,
    Placement.conditions.accepts query.tables predicate = false) :
    query.avoidProducts.query = query.orderProducts := by
  rw [query_avoidProducts_eq, Placement.conditions.run_eq_self h]

/-- If the columns to keep are kept already, pushing projections down changes nothing. -/
theorem query_pushProjections_eq_self {schema : Option Schema} {query : Query}
    (h : ∀ columns, query.keptColumns? schema = some columns → query.keeping columns = query) :
    (query.pushProjections schema).query = query := by
  rw [query_pushProjections_eq]
  cases hkept : query.keptColumns? schema with
  | none => rfl
  | some columns => exact h columns hkept

/-- A settled query stays as it is. -/
theorem Settled.query_optimize {knowledge : Knowledge} {query : Query}
    (h : query.Settled knowledge) :
    (Optimizer.optimize ⟨Heuristic.standardOrder, knowledge⟩ query).query = query := by
  have hselections := query_pushSelections_eq_self h.filters
  have hprojections := query_pushProjections_eq_self h.kept
  have hproducts := query_avoidProducts_eq_orderProducts h.conditions
  calc (Optimizer.optimize ⟨Heuristic.standardOrder, knowledge⟩ query).query
      = ((query.pushSelections.query.pushProjections
          knowledge.schema).query.avoidProducts.query.orderJoins knowledge.statistics).query := rfl
    _ = query := by rw [hselections, hprojections, hproducts, h.ordered]

/-- After selections are pushed down no conjunct has a place in a filter, whatever is done next. -/
theorem not_accepts_of_pushSelections {query new : Query}
    (hconserved : query.pushSelections.query.ConservedBy new) :
    ∀ predicate ∈ new.filter, Placement.filters.accepts new.tables predicate = false := by
  intro predicate hmem
  have hstays := hconserved.filter.subset hmem
  rw [Placement.accepts_filters_of_perm hconserved.tables_perm]
  rw [query_pushSelections_eq] at hstays ⊢
  rw [Placement.tables_run]
  exact Placement.filters.not_accepts_of_mem_run hstays

/-- After products are avoided no conjunct has a place in a condition, whatever is done next. -/
theorem not_accepts_of_avoidProducts {query new : Query}
    (hconserved : query.avoidProducts.query.ConservedBy new) :
    ∀ predicate ∈ new.filter, Placement.conditions.accepts new.tables predicate = false := by
  intro predicate hmem
  have hjoined := ((conservedBy_apply .none .cartesianAvoidance query).trans hconserved).joined_perm
  rw [← tail_tables, ← tail_tables] at hjoined
  have hstays := hconserved.filter.subset hmem
  rw [query_avoidProducts_eq] at hstays
  rw [Placement.accepts_conditions_of_perm hjoined]
  exact Placement.conditions.not_accepts_of_mem_run hstays

/-- After projections are pushed down the columns to keep are kept, as long as no other heuristic
keeps others. -/
theorem keeping_eq_self_of_pushProjections {schema : Option Schema} {query new : Query}
    (hconserved : (query.pushProjections schema).query.ConservedBy new)
    (hprojections : new.projections.Perm (query.pushProjections schema).query.projections) :
    ∀ columns, new.keptColumns? schema = some columns → new.keeping columns = new := by
  intro columns hkept
  have hquery := conservedBy_apply ⟨schema, none⟩ .projectionPushdown query
  rw [(hquery.trans hconserved).keptColumns?_eq] at hkept
  have hkeeping : (query.pushProjections schema).query = query.keeping columns := by
    rw [query_pushProjections_eq, hkept]
    rfl
  refine keeping_eq_self fun entry hentry => ?_
  have hmem := hprojections.subset hentry
  rw [hkeeping] at hmem
  exact eq_of_mem_projections_keeping hmem

/-! ## One heuristic a second time -/

/-- Pushing selections down a second time changes nothing. -/
theorem pushSelections_pushSelections (query : Query) :
    query.pushSelections.query.pushSelections.query = query.pushSelections.query :=
  query_pushSelections_eq_self (not_accepts_of_pushSelections (.refl _))

/-- Pushing projections down a second time changes nothing. -/
theorem pushProjections_pushProjections (schema : Option Schema) (query : Query) :
    ((query.pushProjections schema).query.pushProjections schema).query =
      (query.pushProjections schema).query :=
  query_pushProjections_eq_self (keeping_eq_self_of_pushProjections (.refl _) (List.Perm.refl _))

/-- Avoiding products a second time changes nothing. -/
theorem avoidProducts_avoidProducts (query : Query) :
    query.avoidProducts.query.avoidProducts.query = query.avoidProducts.query := by
  rw [query_avoidProducts_eq_orderProducts (not_accepts_of_avoidProducts (.refl _)),
    query_avoidProducts_eq, orderProducts_orderProducts]

/-- Ordering joins a second time changes nothing. -/
theorem orderJoins_orderJoins (stats : Option Statistics) (query : Query) :
    ((query.orderJoins stats).query.orderJoins stats).query = (query.orderJoins stats).query := by
  have hsorted := List.pairwise_mergeSort (query.estimate_le_trans stats)
    (query.estimate_le_total stats) query.joins
  rw [query_orderJoins_eq, query_orderJoins_eq]
  exact congrArg (fun joins => { query with joins := joins }) (List.mergeSort_of_pairwise hsorted)

/-! ## All standard heuristics a second time -/

/-- What the standard heuristics give is settled. -/
theorem settled_optimize (knowledge : Knowledge) (query : Query) :
    (Optimizer.optimize ⟨Heuristic.standardOrder, knowledge⟩ query).query.Settled knowledge := by
  let projected := (query.pushSelections.query.pushProjections knowledge.schema).query
  let placed := projected.avoidProducts.query
  let ordered := (placed.orderJoins knowledge.statistics).query
  have hprojected : query.pushSelections.query.ConservedBy projected :=
    conservedBy_apply knowledge .projectionPushdown _
  have hplaced : projected.ConservedBy placed :=
    conservedBy_apply knowledge .cartesianAvoidance projected
  have hordered : placed.ConservedBy ordered :=
    conservedBy_apply knowledge .joinReordering placed
  have hprojections : ordered.projections.Perm projected.projections := by
    have hreordering : Heuristic.joinReordering ≠ .projectionPushdown := by decide
    have havoidance : Heuristic.cartesianAvoidance ≠ .projectionPushdown := by decide
    exact (projections_perm_apply knowledge hreordering placed).trans
      (projections_perm_apply knowledge havoidance projected)
  have hjoins : (ordered.orderProducts.orderJoins knowledge.statistics).query = ordered := by
    have hproducts : placed = (Placement.conditions.run projected).orderProducts :=
      query_avoidProducts_eq projected
    change ((placed.orderJoins _).query.orderProducts.orderJoins _).query =
      (placed.orderJoins _).query
    rw [hproducts]
    exact orderJoins_orderProducts knowledge.statistics _
  exact
    { filters := not_accepts_of_pushSelections (hprojected.trans (hplaced.trans hordered))
      conditions := not_accepts_of_avoidProducts hordered
      kept := keeping_eq_self_of_pushProjections (hplaced.trans hordered) hprojections
      ordered := hjoins }

end Query

/-- The standard heuristics change nothing when they are applied to what they gave, whatever is
known about tables. -/
theorem Optimizer.optimize_optimize (knowledge : Knowledge) (query : Query) :
    (optimize ⟨Heuristic.standardOrder, knowledge⟩
        (optimize ⟨Heuristic.standardOrder, knowledge⟩ query).query).query =
      (optimize ⟨Heuristic.standardOrder, knowledge⟩ query).query :=
  (Query.settled_optimize knowledge query).query_optimize

end RelPlan
