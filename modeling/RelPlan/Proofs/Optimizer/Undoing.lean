import RelPlan.Proofs.Optimizer.Idempotence

/-!
# Heuristics that undo each other

Whether an optimizer changed a query is told from the first query and the last one. That misses the
steps of a run that comes back to where it began. A run that does so only reorders joins: a conjunct
that was placed never leaves its place, and what is kept of tables does not depend on the step. Of
the two heuristics that reorder joins, what one does is absorbed if it is applied again before the
other one is (`Heuristic.reorder_foldl`), so only the last time that each is applied counts. Hence a
run comes back exactly if one of the two changes the query, the other one undoes that later on, and
no other heuristic does anything (`Optimizer.changed_iff_someStepChanges`).
-/

namespace RelPlan

/-! ## Sorting some of the items -/

section StableSort

variable {α : Type} {le : α → α → Bool}

/-- The items with a property are in the same order whether they are picked before or after all
items are sorted. -/
theorem filter_mergeSort (htrans : ∀ a b c, le a b = true → le b c = true → le a c = true)
    (htotal : ∀ a b, (le a b || le b a) = true) (test : α → Bool) (items : List α) :
    (items.mergeSort le).filter test = (items.filter test).mergeSort le := by
  have hsorted := List.pairwise_mergeSort htrans htotal items
  refine eq_of_filter_ties_eq (fun a => by simpa using htotal a a) (hsorted.filter test)
    (List.pairwise_mergeSort htrans htotal _) fun item => ?_
  rw [filter_ties_mergeSort htrans htotal, List.filter_comm, filter_ties_mergeSort htrans htotal,
    List.filter_comm]

/-- Sorting two items puts them in order. -/
theorem mergeSort_pair (le : α → α → Bool) (first second : α) :
    [first, second].mergeSort le =
      if le first second then [first, second] else [second, first] := by
  simp [List.mergeSort, List.MergeSort.Internal.splitInTwo, List.merge]

end StableSort

namespace Query

/-- Putting products last before joins are sorted does not matter if they are put last again. -/
theorem productsLast_mergeSort_productsLast {le : Join → Join → Bool}
    (htrans : ∀ a b c, le a b = true → le b c = true → le a c = true)
    (htotal : ∀ a b, (le a b || le b a) = true) (joins : List Join) :
    productsLast ((productsLast joins).mergeSort le) = productsLast (joins.mergeSort le) := by
  -- The joins with a condition are sorted as if there were no others, and so are the products.
  have hpart (test : Join → Bool)
      (htest : (productsLast joins).filter test = joins.filter test) :
      ((productsLast joins).mergeSort le).filter test = (joins.mergeSort le).filter test := by
    rw [filter_mergeSort htrans htotal, filter_mergeSort htrans htotal, htest]
  have hconditioned := hpart (·.hasCondition) (by simp [productsLast, List.filter_filter])
  have hproducts := hpart (!·.hasCondition) (by simp [productsLast, List.filter_filter])
  exact congrArg₂ (· ++ ·) hconditioned hproducts

/-- Products that are put last, before joins are ordered and again after it, need only be put last
after it. -/
theorem orderProducts_orderJoins_orderProducts (stats : Option Statistics) (query : Query) :
    (query.orderProducts.orderJoins stats).query.orderProducts =
      (query.orderJoins stats).query.orderProducts := by
  rw [query_orderJoins_eq, query_orderJoins_eq]
  exact congrArg (fun joins => { query with joins := joins }) <|
    productsLast_mergeSort_productsLast (query.estimate_le_trans stats)
      (query.estimate_le_total stats) query.joins

end Query

/-! ## What is left of a heuristic if there is nothing to place -/

namespace Heuristic

/-- What a heuristic does to the order of joins. -/
def reorder (knowledge : Knowledge) (query : Query) : Heuristic → Query
  | selectionPushdown | projectionPushdown => query
  | cartesianAvoidance => query.orderProducts
  | joinReordering => (query.orderJoins knowledge.statistics).query

/-- Whether a heuristic does nothing to a query but reorder its joins: there is no conjunct that it
would put elsewhere, and the columns that it would keep are kept. -/
def OnlyReorders (knowledge : Knowledge) (query : Query) : Heuristic → Prop
  | selectionPushdown => ∀ predicate ∈ query.filter,
      Placement.filters.accepts query.tables predicate = false
  | projectionPushdown => ∀ columns, query.keptColumns? knowledge.schema = some columns →
      query.keeping columns = query
  | cartesianAvoidance => ∀ predicate ∈ query.filter,
      Placement.conditions.accepts query.tables predicate = false
  | joinReordering => True

section Apply

variable {knowledge : Knowledge} {query : Query} {heuristic : Heuristic}

/-- A heuristic that only reorders joins gives the query with its joins reordered. -/
theorem query_apply_of_onlyReorders (h : heuristic.OnlyReorders knowledge query) :
    (heuristic.apply knowledge query).query = heuristic.reorder knowledge query := by
  cases heuristic with
  | selectionPushdown => exact Query.query_pushSelections_eq_self h
  | projectionPushdown => exact Query.query_pushProjections_eq_self h
  | cartesianAvoidance => exact Query.query_avoidProducts_eq_orderProducts h
  | joinReordering => rfl

/-- Once a heuristic has been applied it only reorders joins. -/
theorem onlyReorders_apply (knowledge : Knowledge) (heuristic : Heuristic) (query : Query) :
    heuristic.OnlyReorders knowledge (heuristic.apply knowledge query).query := by
  cases heuristic with
  | selectionPushdown => exact Query.not_accepts_of_pushSelections (.refl _)
  | projectionPushdown => exact Query.keeping_eq_self_of_pushProjections (.refl _) (.refl _)
  | cartesianAvoidance => exact Query.not_accepts_of_avoidProducts (.refl _)
  | joinReordering => trivial

/-- A heuristic that only reorders joins does so whatever other heuristics are applied. -/
theorem OnlyReorders.apply (h : heuristic.OnlyReorders knowledge query) (other : Heuristic) :
    heuristic.OnlyReorders knowledge (other.apply knowledge query).query := by
  have hconserved := Query.conservedBy_apply knowledge other query
  have hfilter := hconserved.filter.subset
  cases heuristic with
  | selectionPushdown =>
    intro predicate hmem
    rw [Placement.accepts_filters_of_perm hconserved.tables_perm]
    exact h predicate (hfilter hmem)
  | projectionPushdown =>
    by_cases hother : other = .projectionPushdown
    · subst hother
      exact onlyReorders_apply knowledge .projectionPushdown query
    · intro columns hkept
      rw [hconserved.keptColumns?_eq] at hkept
      refine Query.keeping_eq_self fun entry hentry => ?_
      have hmem := (Query.projections_perm_apply knowledge hother query).subset hentry
      rw [← h columns hkept] at hmem
      exact Query.eq_of_mem_projections_keeping hmem
  | cartesianAvoidance =>
    intro predicate hmem
    have hjoined := hconserved.joined_perm
    rw [← Query.tail_tables, ← Query.tail_tables] at hjoined
    rw [Placement.accepts_conditions_of_perm hjoined]
    exact h predicate (hfilter hmem)
  | joinReordering => trivial

end Apply

/-! ## Reordering in turns -/

/-- The other one of the two heuristics that reorder joins. -/
def opposite? : Heuristic → Option Heuristic
  | cartesianAvoidance => some joinReordering
  | joinReordering => some cartesianAvoidance
  | selectionPushdown | projectionPushdown => none

/-- What some heuristics do to the order of joins one after another. -/
def reorderAll (knowledge : Knowledge) (heuristics : List Heuristic) (query : Query) : Query :=
  heuristics.foldl (fun current heuristic => heuristic.reorder knowledge current) query

section Reorder

variable {knowledge : Knowledge}

@[simp] theorem reorderAll_nil (query : Query) : reorderAll knowledge [] query = query := rfl

@[simp] theorem reorderAll_cons (heuristic : Heuristic) (heuristics : List Heuristic)
    (query : Query) :
    reorderAll knowledge (heuristic :: heuristics) query =
      reorderAll knowledge heuristics (heuristic.reorder knowledge query) := rfl

@[simp] theorem reorderAll_append (firsts seconds : List Heuristic) (query : Query) :
    reorderAll knowledge (firsts ++ seconds) query =
      reorderAll knowledge seconds (reorderAll knowledge firsts query) :=
  List.foldl_append

/-- Reordering by one heuristic a second time changes nothing. -/
theorem reorder_reorder (heuristic : Heuristic) (query : Query) :
    heuristic.reorder knowledge (heuristic.reorder knowledge query) =
      heuristic.reorder knowledge query := by
  cases heuristic with
  | selectionPushdown => rfl
  | projectionPushdown => rfl
  | cartesianAvoidance => exact query.orderProducts_orderProducts
  | joinReordering => exact query.orderJoins_orderJoins knowledge.statistics

/-- What a heuristic does before another one is lost if it is applied again after that. -/
theorem reorder_reorder_reorder (first second : Heuristic) (query : Query) :
    first.reorder knowledge (second.reorder knowledge (first.reorder knowledge query)) =
      first.reorder knowledge (second.reorder knowledge query) := by
  cases first <;> cases second
  case cartesianAvoidance.joinReordering =>
    exact query.orderProducts_orderJoins_orderProducts knowledge.statistics
  case joinReordering.cartesianAvoidance =>
    exact query.orderJoins_orderProducts_orderJoins knowledge.statistics
  all_goals simp [reorder, Query.orderProducts_orderProducts, Query.orderJoins_orderJoins]

/-- What a heuristic does before others is lost if it is applied again after them. -/
theorem reorder_reorderAll_reorder (heuristic : Heuristic) (others : List Heuristic)
    (query : Query) :
    heuristic.reorder knowledge (reorderAll knowledge others (heuristic.reorder knowledge query)) =
      heuristic.reorder knowledge (reorderAll knowledge others query) := by
  induction others generalizing query with
  | nil => exact reorder_reorder heuristic query
  | cons other others ih =>
    rw [reorderAll_cons, reorderAll_cons, ← ih, reorder_reorder_reorder, ih]

/-- If no other heuristic reorders the joins of a query, then only the last time counts. -/
theorem reorder_reorderAll_of_fixed {heuristic : Heuristic} {others : List Heuristic}
    {query : Query} (hfixed : ∀ other ∈ others, other ≠ heuristic →
      other.reorder knowledge query = query) :
    heuristic.reorder knowledge (reorderAll knowledge others query) =
      heuristic.reorder knowledge query := by
  induction others with
  | nil => rfl
  | cons other others ih =>
    obtain ⟨hother, hothers⟩ := List.forall_mem_cons.mp hfixed
    rw [reorderAll_cons]
    by_cases heq : other = heuristic
    · rw [heq, reorder_reorderAll_reorder, ih hothers]
    · rw [hother heq, ih hothers]

section Opposite

variable {away back : Heuristic} (hopposite : away.opposite? = some back)
include hopposite

/-- A heuristic that is neither of the two reorders nothing. -/
theorem reorder_of_ne {other : Heuristic} (haway : other ≠ away) (hback : other ≠ back)
    (query : Query) : other.reorder knowledge query = query := by
  cases away <;> cases hopposite <;> cases other <;> first | rfl | contradiction

/-- Without one of the two heuristics that reorder joins, only the other one has an effect, however
often it is applied. -/
theorem reorderAll_of_not_mem {heuristics : List Heuristic} (haway : away ∉ heuristics)
    (query : Query) :
    reorderAll knowledge heuristics query =
      if back ∈ heuristics then back.reorder knowledge query else query := by
  induction heuristics generalizing query with
  | nil => rfl
  | cons heuristic heuristics ih =>
    obtain ⟨hne, haway⟩ := List.ne_and_not_mem_of_not_mem_cons haway
    rw [reorderAll_cons, ih haway]
    by_cases hback : heuristic = back
    · subst hback
      simp [reorder_reorder]
    · rw [reorder_of_ne hopposite hne.symm hback]
      simp [Ne.symm hback]

end Opposite

end Reorder

end Heuristic

/-! ## Steps that change a query -/

namespace Optimized

/-- The query that each step was given, and the one that it gave. -/
def passages (optimized : Optimized) : List (Query × Query) :=
  let gave := optimized.steps.map (·.revision.query)
  (optimized.given :: gave).zip gave

/-- Whether some step gave another query than the one it was given. -/
def SomeStepChanges (optimized : Optimized) : Prop :=
  ∃ passage ∈ optimized.passages, passage.2 ≠ passage.1

instance (optimized : Optimized) : Decidable optimized.SomeStepChanges :=
  inferInstanceAs (Decidable (∃ _ ∈ _, _))

end Optimized

namespace Optimizer

/-- Whether one of the two heuristics that reorder joins changes a query, the other one undoes that
behind the last time the first one is applied, and no other heuristic changes the query. -/
def ComesBack (optimizer : Optimizer) (query : Query) : Prop :=
  ∃ away back : Heuristic, away.opposite? = some back ∧
    (∃ before after : List Heuristic,
      optimizer.heuristics = before ++ away :: after ∧ away ∉ after ∧ back ∈ after) ∧
    (away.apply optimizer.knowledge query).query ≠ query ∧
    (back.apply optimizer.knowledge (away.apply optimizer.knowledge query).query).query = query ∧
    ∀ other ∈ optimizer.heuristics, other ≠ away →
      (other.apply optimizer.knowledge query).query = query

/-- The first step is given the query, and the others go on from what it gave. -/
theorem passages_cons (knowledge : Knowledge) (heuristic : Heuristic)
    (heuristics : List Heuristic) (query : Query) :
    (optimize ⟨heuristic :: heuristics, knowledge⟩ query).passages =
      (query, (heuristic.apply knowledge query).query) ::
        (optimize ⟨heuristics, knowledge⟩ (heuristic.apply knowledge query).query).passages := rfl

/-- Some step changes the query exactly if some heuristic would change the query that the first step
is given. -/
theorem someStepChanges_iff (optimizer : Optimizer) (query : Query) :
    (optimizer.optimize query).SomeStepChanges ↔
      ∃ heuristic ∈ optimizer.heuristics,
        (heuristic.apply optimizer.knowledge query).query ≠ query := by
  obtain ⟨heuristics, knowledge⟩ := optimizer
  unfold Optimized.SomeStepChanges
  induction heuristics generalizing query with
  | nil => simp [optimize, applyAll, Optimized.passages]
  | cons heuristic heuristics ih =>
    simp only [passages_cons, List.mem_cons, exists_eq_or_imp, ih]
    by_cases heq : (heuristic.apply knowledge query).query = query
    · rw [heq]
    · simp only [ne_eq, heq, not_false_eq_true, true_or]

section Run

variable {knowledge : Knowledge} {heuristics : List Heuristic} {query : Query}

/-- After a run every heuristic of it only reorders joins. -/
theorem onlyReorders_optimize {heuristic : Heuristic} (h : heuristic ∈ heuristics) (query : Query) :
    heuristic.OnlyReorders knowledge (optimize ⟨heuristics, knowledge⟩ query).query := by
  induction heuristics generalizing query with
  | nil => simp at h
  | cons first heuristics ih =>
    rw [query_optimize_cons]
    cases List.mem_cons.mp h with
    | inl heq =>
      subst heq
      refine preserved_of_heuristics (P := fun current => heuristic.OnlyReorders knowledge current)
        ?_ (heuristic.onlyReorders_apply knowledge query)
      exact fun other _ current hcurrent => hcurrent.apply other
    | inr hmem => exact ih hmem _

/-- A run of heuristics that only reorder joins. -/
theorem query_optimize_eq_reorderAll
    (h : ∀ heuristic ∈ heuristics, heuristic.OnlyReorders knowledge query) :
    (optimize ⟨heuristics, knowledge⟩ query).query =
      Heuristic.reorderAll knowledge heuristics query := by
  induction heuristics generalizing query with
  | nil => rfl
  | cons heuristic heuristics ih =>
    obtain ⟨hfirst, hothers⟩ := List.forall_mem_cons.mp h
    rw [query_optimize_cons, ih fun other hother => (hothers other hother).apply heuristic,
      Heuristic.query_apply_of_onlyReorders hfirst, Heuristic.reorderAll_cons]

end Run

/-! ## Runs that come back -/

/-- A member of a list splits it where it occurs last. -/
theorem exists_append_not_mem {α : Type} {item : α} {items : List α} (h : item ∈ items) :
    ∃ before after, items = before ++ item :: after ∧ item ∉ after := by
  obtain ⟨front, back, hreverse, hnot⟩ := List.eq_append_cons_of_mem (List.mem_reverse.mpr h)
  refine ⟨back.reverse, front.reverse, ?_, by simpa using hnot⟩
  rw [← List.reverse_reverse items, hreverse]
  simp

section ComesBack

variable {knowledge : Knowledge} {heuristics : List Heuristic} {query : Query}

/-- A query that a run comes back to has nothing in it for the heuristics of the run to place. -/
theorem ComesBack.onlyReorders (h : ComesBack ⟨heuristics, knowledge⟩ query) :
    ∀ heuristic ∈ heuristics, heuristic.OnlyReorders knowledge query := by
  obtain ⟨away, back, -, -, -, hback, hfixed⟩ := h
  intro heuristic hmem
  by_cases heq : heuristic = away
  · have haway := (away.onlyReorders_apply knowledge query).apply back
    rwa [hback, ← heq] at haway
  · have hother := heuristic.onlyReorders_apply knowledge query
    rwa [hfixed heuristic hmem heq] at hother

/-- A query that comes back is in the end what it was. -/
theorem ComesBack.query_optimize (h : ComesBack ⟨heuristics, knowledge⟩ query) :
    (optimize ⟨heuristics, knowledge⟩ query).query = query := by
  have honly := h.onlyReorders
  obtain ⟨away, back, hopposite, ⟨before, after, hsplit, hlast, hlater⟩, -, hback, hfixed⟩ := h
  dsimp only at hsplit hback hfixed
  subst hsplit
  have hawayOnly := honly away (by simp)
  have hbackOnly := honly back (by simp [hlater])
  have hbefore : ∀ other ∈ before, other ≠ away → other.reorder knowledge query = query := by
    intro other hmem hne
    have hother := List.mem_append_left (away :: after) hmem
    rw [← Heuristic.query_apply_of_onlyReorders (honly other hother), hfixed other hother hne]
  calc (optimize ⟨before ++ away :: after, knowledge⟩ query).query
      = Heuristic.reorderAll knowledge after
          (away.reorder knowledge (Heuristic.reorderAll knowledge before query)) := by
        rw [query_optimize_eq_reorderAll honly, Heuristic.reorderAll_append,
          Heuristic.reorderAll_cons]
    _ = back.reorder knowledge (away.reorder knowledge query) := by
        rw [Heuristic.reorder_reorderAll_of_fixed hbefore,
          Heuristic.reorderAll_of_not_mem hopposite hlast, if_pos hlater]
    _ = query := by
        rw [← Heuristic.query_apply_of_onlyReorders hawayOnly,
          ← Heuristic.query_apply_of_onlyReorders (hbackOnly.apply away), hback]

/-- A run that ends with the query it was given although some heuristic of it would change that
comes back to the query. -/
theorem comesBack_of_query_optimize (hend : (optimize ⟨heuristics, knowledge⟩ query).query = query)
    {away : Heuristic} (hmem : away ∈ heuristics)
    (haway : (away.apply knowledge query).query ≠ query) :
    ComesBack ⟨heuristics, knowledge⟩ query := by
  have honly : ∀ heuristic ∈ heuristics, heuristic.OnlyReorders knowledge query := by
    intro heuristic hheuristic
    have hafter : heuristic.OnlyReorders knowledge (optimize ⟨heuristics, knowledge⟩ query).query :=
      onlyReorders_optimize hheuristic query
    rwa [hend] at hafter
  rw [Heuristic.query_apply_of_onlyReorders (honly away hmem)] at haway
  obtain ⟨back, hopposite⟩ : ∃ back, away.opposite? = some back := by
    cases away with
    | selectionPushdown | projectionPushdown => exact absurd rfl haway
    | cartesianAvoidance | joinReordering => exact ⟨_, rfl⟩
  obtain ⟨before, after, rfl, hlast⟩ := exists_append_not_mem hmem
  rw [query_optimize_eq_reorderAll honly, Heuristic.reorderAll_append, Heuristic.reorderAll_cons,
    Heuristic.reorderAll_of_not_mem hopposite hlast] at hend
  -- If nothing undid the last change then another one would not change the query.
  have hlater : back ∈ after := by
    by_contra hnever
    rw [if_neg hnever] at hend
    refine haway ?_
    rw [← hend, Heuristic.reorder_reorder]
  rw [if_pos hlater] at hend
  have hback : back.reorder knowledge query = query := by
    rw [← hend, Heuristic.reorder_reorder]
  have hfixed (other : Heuristic) (hne : other ≠ away) : other.reorder knowledge query = query := by
    by_cases heq : other = back
    · rw [heq, hback]
    · exact Heuristic.reorder_of_ne hopposite hne heq query
  rw [Heuristic.reorder_reorderAll_of_fixed fun other _ => hfixed other] at hend
  have hawayOnly := honly away hmem
  have hbackOnly := (honly back (by simp [hlater])).apply away
  refine ⟨away, back, hopposite, ⟨before, after, rfl, hlast, hlater⟩, ?_, ?_, ?_⟩
  · rwa [Heuristic.query_apply_of_onlyReorders hawayOnly]
  · rw [Heuristic.query_apply_of_onlyReorders hbackOnly,
      Heuristic.query_apply_of_onlyReorders hawayOnly, hend]
  · intro other hother hne
    rw [Heuristic.query_apply_of_onlyReorders (honly other hother), hfixed other hne]

end ComesBack

variable (optimizer : Optimizer) (query : Query)

/-- The flag says that a query changed exactly if it is another one in the end. -/
theorem changed_eq_true_iff :
    (optimizer.optimize query).changed = true ↔ (optimizer.optimize query).query ≠ query := by
  rw [Optimized.changed, decide_eq_true_iff, ne_comm]
  rfl

/-- A run comes back exactly if some step changes the query and the last one gives it. -/
theorem comesBack_iff :
    optimizer.ComesBack query ↔
      (optimizer.optimize query).SomeStepChanges ∧ (optimizer.optimize query).query = query := by
  rw [someStepChanges_iff]
  constructor
  · intro h
    refine ⟨?_, h.query_optimize⟩
    obtain ⟨away, _, -, ⟨before, after, hsplit, -, -⟩, haway, -, -⟩ := h
    exact ⟨away, by simp [hsplit], haway⟩
  · rintro ⟨⟨away, hmem, haway⟩, hend⟩
    exact comesBack_of_query_optimize hend hmem haway

/-- A run of steps of which none changes the query gives the query. -/
theorem query_optimize_of_not_someStepChanges
    (h : ¬ (optimizer.optimize query).SomeStepChanges) :
    (optimizer.optimize query).query = query := by
  rw [someStepChanges_iff] at h
  refine preserved_of_heuristics (P := (· = query)) ?_ rfl
  rintro heuristic hmem _ rfl
  by_contra hne
  exact h ⟨heuristic, hmem, hne⟩

/-- The flag of a run says whether some step changed the query, unless the run comes back: then it
says that nothing changed although some step changed the query. -/
theorem changed_iff_someStepChanges :
    (((optimizer.optimize query).changed = true ↔ (optimizer.optimize query).SomeStepChanges) ↔
      ¬ optimizer.ComesBack query) ∧
    ((optimizer.optimize query).changed = true → (optimizer.optimize query).SomeStepChanges) := by
  rw [changed_eq_true_iff, comesBack_iff]
  have hsome : (optimizer.optimize query).query ≠ query →
      (optimizer.optimize query).SomeStepChanges := by
    intro hend
    by_contra hnone
    exact hend (query_optimize_of_not_someStepChanges optimizer query hnone)
  refine ⟨⟨fun h hcomes => h.mpr hcomes.1 hcomes.2, fun h => ⟨hsome, fun hstep hend => ?_⟩⟩, hsome⟩
  exact h ⟨hstep, hend⟩

/-- A product with a filter, and a join behind it. -/
def filteredProduct : Query :=
  .ofTable .all "A"
    [⟨⟨"B", [.compare ⟨.column (.qualified "B" "X"), .eq, .literal (.number "1")⟩], ∅⟩, []⟩,
     .ofTable "C" [.compare ⟨.column (.qualified "A" "ID"), .eq, .column (.qualified "C" "ID")⟩]]
    []

/-- Cartesian avoidance puts the product last, and join reordering puts it first again, since its
score is higher. -/
theorem comesBack_filteredProduct : standard.ComesBack filteredProduct := by
  have hback : (filteredProduct.avoidProducts.query.orderJoins none).query = filteredProduct := by
    have hplaced : filteredProduct.avoidProducts.query =
        { filteredProduct with joins := filteredProduct.joins.reverse } := by decide
    rw [hplaced, Query.query_orderJoins_eq]
    refine congrArg (fun joins => { filteredProduct with joins := joins }) ?_
    exact (mergeSort_pair _ _ _).trans (if_neg (by decide))
  have hfixed : ∀ other ∈ standard.heuristics, other ≠ .cartesianAvoidance →
      (other.apply .none filteredProduct).query = filteredProduct := by
    intro other _ hne
    cases other with
    | selectionPushdown => decide
    | projectionPushdown => decide
    | cartesianAvoidance => exact absurd rfl hne
    | joinReordering =>
      have hsorted := filteredProduct.avoidProducts.query.orderJoins_orderJoins none
      rwa [hback] at hsorted
  refine ⟨.cartesianAvoidance, .joinReordering, rfl, ?_, by decide, hback, hfixed⟩
  exact ⟨[.selectionPushdown, .projectionPushdown], [.joinReordering], rfl, by decide, by decide⟩

/-- So the standard heuristics change this query twice, and the flag says that they do not. -/
theorem not_changed_filteredProduct :
    filteredProduct.avoidProducts.query.tables = ["A", "C", "B"] ∧
      (standard.optimize filteredProduct).query = filteredProduct ∧
      ¬ ((standard.optimize filteredProduct).changed = true ↔
        (standard.optimize filteredProduct).SomeStepChanges) := by
  obtain ⟨hstep, hend⟩ := (comesBack_iff standard filteredProduct).mp comesBack_filteredProduct
  refine ⟨by decide, hend, fun h => ?_⟩
  exact (changed_eq_true_iff standard filteredProduct).mp (h.mpr hstep) hend

end Optimizer

end RelPlan
