import Mathlib.Data.List.Perm.Basic
import RelPlan.Proofs.Optimizer.Moves
import RelPlan.Proofs.Predicate.Equivalence

/-!
# What an optimizer conserves

The predicates of a query are the conjuncts of its condition, of the conditions of its joins and
of the filters of its accesses. `Query.ConservedBy` says that one query is another one in which
predicates were only moved to earlier places and joins only put in another order: nothing is
lost up to equivalence and nothing is invented. It is a preorder and holds of every move, hence
of every heuristic and of every run of an optimizer.
-/

namespace RelPlan

/-- A join of the same table whose condition and filter go on as those of the old one. -/
structure Join.ExtendedBy (old new : Join) : Prop where
  table : new.table = old.table
  condition : old.condition <+: new.condition
  selection : old.access.selection <+: new.access.selection

namespace Join.ExtendedBy

/-- A join goes on as itself. -/
theorem refl (join : Join) : join.ExtendedBy join :=
  ⟨rfl, List.prefix_refl _, List.prefix_refl _⟩

/-- What goes on as a join that goes on as another one goes on as that one. -/
theorem trans {old mid new : Join} (hold : old.ExtendedBy mid) (hnew : mid.ExtendedBy new) :
    old.ExtendedBy new :=
  ⟨hnew.table.trans hold.table, hold.condition.trans hnew.condition,
    hold.selection.trans hnew.selection⟩

/-- Every join of a list extends itself. -/
theorem forall₂_refl (joins : List Join) : List.Forall₂ Join.ExtendedBy joins joins :=
  List.forall₂_same.mpr fun join _ => refl join

end Join.ExtendedBy

namespace Query

/-- The predicates that are tested when tables are accessed or joined. -/
def placed (query : Query) : List Predicate :=
  query.source.access.selection ++
    query.joins.flatMap fun join => join.condition ++ join.access.selection

/-- The predicates of a query: those of its condition, of the conditions of its joins and of the
filters of its accesses. -/
def predicates (query : Query) : List Predicate := query.filter ++ query.placed

/-- A placed predicate is in the filter of the first table, or in the condition or the filter of
some join. -/
theorem mem_placed {query : Query} {predicate : Predicate} :
    predicate ∈ query.placed ↔
      predicate ∈ query.source.access.selection ∨
        ∃ join ∈ query.joins, predicate ∈ join.condition ∨ predicate ∈ join.access.selection := by
  simp [placed]

/-- A predicate of a query is one of its condition or one that is placed. -/
theorem mem_predicates {query : Query} {predicate : Predicate} :
    predicate ∈ query.predicates ↔ predicate ∈ query.filter ∨ predicate ∈ query.placed :=
  List.mem_append

/-- One query is another one in which predicates were moved to earlier places, up to equivalent
ones that are there already, and joins were put in another order. -/
structure ConservedBy (old new : Query) : Prop where
  select : new.select = old.select
  table : new.source.table = old.source.table
  filter : new.filter.Sublist old.filter
  selection : old.source.access.selection <+: new.source.access.selection
  joins : ∃ joins : List Join,
    joins.Perm old.joins ∧ List.Forall₂ Join.ExtendedBy joins new.joins
  kept : ∀ predicate ∈ old.predicates,
    ∃ counterpart ∈ new.predicates, predicate.equivalent counterpart = true
  original : ∀ predicate ∈ new.predicates, predicate ∈ old.predicates

namespace ConservedBy

/-- Queries that differ in the order of their joins alone conserve each other. -/
theorem of_perm (query : Query) {joins : List Join} (hperm : joins.Perm query.joins) :
    query.ConservedBy { query with joins := joins } where
  select := rfl
  table := rfl
  filter := List.Sublist.refl _
  selection := List.prefix_refl _
  joins := ⟨joins, hperm, Join.ExtendedBy.forall₂_refl joins⟩
  kept predicate hmem := by
    refine ⟨predicate, ?_, Predicate.equivalent_self predicate⟩
    simpa only [mem_predicates, mem_placed, hperm.mem_iff] using hmem
  original predicate hmem := by
    simpa only [mem_predicates, mem_placed, hperm.mem_iff] using hmem

/-- A query is conserved by itself. -/
theorem refl (query : Query) : query.ConservedBy query :=
  of_perm query (List.Perm.refl _)

/-- Joins that extend some joins in another order extend them once these are reordered. -/
theorem joins_trans {old mid new : List Join}
    (hold : ∃ joins : List Join, joins.Perm old ∧ List.Forall₂ Join.ExtendedBy joins mid)
    (hnew : ∃ joins : List Join, joins.Perm mid ∧ List.Forall₂ Join.ExtendedBy joins new) :
    ∃ joins : List Join, joins.Perm old ∧ List.Forall₂ Join.ExtendedBy joins new := by
  obtain ⟨first, hfirst, hext⟩ := hold
  obtain ⟨second, hsecond, hext'⟩ := hnew
  obtain ⟨joins, hjoins, hperm⟩ := List.perm_comp_forall₂ hsecond hext.flip
  refine ⟨joins, hperm.trans hfirst, forall₂_trans ?_ hjoins.flip hext'⟩
  exact fun _ _ _ => Join.ExtendedBy.trans

/-- What a query conserves of one that conserves another one it conserves of that one. -/
theorem trans {old mid new : Query} (hold : old.ConservedBy mid) (hnew : mid.ConservedBy new) :
    old.ConservedBy new where
  select := hnew.select.trans hold.select
  table := hnew.table.trans hold.table
  filter := hnew.filter.trans hold.filter
  selection := hold.selection.trans hnew.selection
  joins := joins_trans hold.joins hnew.joins
  kept predicate hmem := by
    obtain ⟨second, hsecond, hequiv⟩ := hold.kept predicate hmem
    obtain ⟨third, hthird, hequiv'⟩ := hnew.kept second hsecond
    exact ⟨third, hthird, Predicate.equivalent_trans hequiv hequiv'⟩
  original predicate hmem := hold.original predicate (hnew.original predicate hmem)

end ConservedBy

/-! ## Moves conserve queries -/

section Move

variable {query : Query} {before after : Conjunction} {predicate : Predicate}

/-- Nothing is lost if what was placed stays and the conjunct that leaves the condition has an
equivalent among what is placed. -/
theorem kept_of_placed {moved : Query} (hfilter : query.filter = before ++ predicate :: after)
    (hmoved : moved.filter = before ++ after)
    (hstays : ∀ other ∈ query.placed, other ∈ moved.placed)
    (hcovered : ∃ other ∈ moved.placed, predicate.equivalent other = true) :
    ∀ other ∈ query.predicates,
      ∃ counterpart ∈ moved.predicates, other.equivalent counterpart = true := by
  intro other hother
  rw [mem_predicates, hfilter, List.mem_append, List.mem_cons] at hother
  have hkeep (h : other ∈ moved.predicates) :
      ∃ counterpart ∈ moved.predicates, other.equivalent counterpart = true :=
    ⟨other, h, Predicate.equivalent_self other⟩
  rcases hother with (hbefore | rfl | hafter) | hplaced
  · exact hkeep (mem_predicates.mpr (.inl (hmoved ▸ List.mem_append_left _ hbefore)))
  · obtain ⟨counterpart, hmem, hequiv⟩ := hcovered
    exact ⟨counterpart, mem_predicates.mpr (.inr hmem), hequiv⟩
  · exact hkeep (mem_predicates.mpr (.inl (hmoved ▸ List.mem_append_right _ hafter)))
  · exact hkeep (mem_predicates.mpr (.inr (hstays other hplaced)))

/-- Nothing is invented if only the conjunct that leaves the condition is placed. -/
theorem original_of_placed {moved : Query}
    (hfilter : query.filter = before ++ predicate :: after)
    (hmoved : moved.filter = before ++ after)
    (honly : ∀ other ∈ moved.placed, other ∈ query.placed ∨ other = predicate) :
    ∀ other ∈ moved.predicates, other ∈ query.predicates := by
  intro other hother
  rw [mem_predicates] at hother ⊢
  cases hother with
  | inl hother => exact .inl ((hmoved ▸ filter_sublist hfilter).subset hother)
  | inr hother =>
    rcases honly other hother with hplaced | rfl
    · exact .inr hplaced
    · exact .inl (hfilter ▸ List.mem_append_right _ List.mem_cons_self)

/-- Moving a conjunct to the access to the first table conserves the query. -/
theorem conservedBy_pushSource (hfilter : query.filter = before ++ predicate :: after) :
    query.ConservedBy
      { query with
        filter := before ++ after
        source.access := query.source.access.push predicate } where
  select := rfl
  table := rfl
  filter := filter_sublist hfilter
  selection := Conjunction.prefix_pushUnique _ predicate
  joins := ⟨query.joins, List.Perm.refl _, Join.ExtendedBy.forall₂_refl _⟩
  kept := by
    apply kept_of_placed hfilter rfl
    · intro other hother
      rw [mem_placed] at hother ⊢
      exact hother.imp_left (Conjunction.mem_pushUnique_of_mem predicate)
    · obtain ⟨counterpart, hmem, hequiv⟩ :=
        Conjunction.exists_equivalent_mem_pushUnique query.source.access.selection predicate
      exact ⟨counterpart, mem_placed.mpr (.inl hmem), hequiv⟩
  original := by
    apply original_of_placed hfilter rfl
    intro other hother
    rw [mem_placed] at hother ⊢
    cases hother with
    | inl hother => exact (Conjunction.mem_of_mem_pushUnique hother).imp_left .inl
    | inr hother => exact .inl (.inr hother)

/-- Moving a conjunct to the condition or the filter of a join conserves the query. -/
theorem conservedBy_replaceJoin {front back : List Join} {join new : Join}
    (hfilter : query.filter = before ++ predicate :: after)
    (hjoins : query.joins = front ++ join :: back) (hext : join.ExtendedBy new)
    (hcovered : ∃ other ∈ new.condition ++ new.access.selection,
      predicate.equivalent other = true)
    (honly : ∀ other ∈ new.condition ++ new.access.selection,
      other ∈ join.condition ++ join.access.selection ∨ other = predicate) :
    query.ConservedBy
      { query with filter := before ++ after, joins := front ++ new :: back } where
  select := rfl
  table := rfl
  filter := filter_sublist hfilter
  selection := List.prefix_refl _
  joins := by
    refine ⟨query.joins, List.Perm.refl _, ?_⟩
    rw [hjoins]
    exact List.rel_append (Join.ExtendedBy.forall₂_refl front)
      (.cons hext (Join.ExtendedBy.forall₂_refl back))
  kept := by
    apply kept_of_placed hfilter rfl
    · intro other hother
      simp only [placed, hjoins, List.flatMap_append, List.flatMap_cons, List.mem_append]
        at hother ⊢
      rcases hother with hsource | hfront | (hcondition | hselection) | hback
      · exact .inl hsource
      · exact .inr (.inl hfront)
      · exact .inr (.inr (.inl (.inl (hext.condition.subset hcondition))))
      · exact .inr (.inr (.inl (.inr (hext.selection.subset hselection))))
      · exact .inr (.inr (.inr hback))
    · obtain ⟨counterpart, hmem, hequiv⟩ := hcovered
      refine ⟨counterpart, mem_placed.mpr (.inr ⟨new, ?_, List.mem_append.mp hmem⟩), hequiv⟩
      exact List.mem_append_right _ List.mem_cons_self
  original := by
    apply original_of_placed hfilter rfl
    intro other hother
    simp only [placed, hjoins, List.flatMap_append, List.flatMap_cons, List.mem_append]
      at hother ⊢
    rcases hother with hsource | hfront | hnew | hback
    · exact .inl (.inl hsource)
    · exact .inl (.inr (.inl hfront))
    · cases honly other (List.mem_append.mpr hnew) with
      | inl hold => exact .inl (.inr (.inr (.inl (List.mem_append.mp hold))))
      | inr heq => exact .inr heq
    · exact .inl (.inr (.inr (.inr hback)))

end Move

/-- A move conserves the query. -/
theorem Moves.conservedBy {query moved : Query} (h : query.Moves moved) :
    query.ConservedBy moved := by
  cases h with
  | toSource hfilter => exact conservedBy_pushSource hfilter
  | @toAccess before after predicate front back join hfilter _ hjoins =>
    refine conservedBy_replaceJoin hfilter hjoins
      ⟨rfl, List.prefix_refl _, Conjunction.prefix_pushUnique _ predicate⟩ ?_ ?_
    · obtain ⟨counterpart, hmem, hequiv⟩ :=
        Conjunction.exists_equivalent_mem_pushUnique join.access.selection predicate
      exact ⟨counterpart, List.mem_append_right _ hmem, hequiv⟩
    · intro other hother
      cases List.mem_append.mp hother with
      | inl hcondition => exact .inl (List.mem_append_left _ hcondition)
      | inr hselection =>
        exact (Conjunction.mem_of_mem_pushUnique hselection).imp_left (List.mem_append_right _)
  | @toCondition before after predicate front back join _ _ hfilter _ hjoins =>
    refine conservedBy_replaceJoin hfilter hjoins
      ⟨rfl, Conjunction.prefix_pushUnique _ predicate, List.prefix_refl _⟩ ?_ ?_
    · obtain ⟨counterpart, hmem, hequiv⟩ :=
        Conjunction.exists_equivalent_mem_pushUnique join.condition predicate
      exact ⟨counterpart, List.mem_append_left _ hmem, hequiv⟩
    · intro other hother
      cases List.mem_append.mp hother with
      | inl hcondition =>
        exact (Conjunction.mem_of_mem_pushUnique hcondition).imp_left (List.mem_append_left _)
      | inr hselection => exact .inl (List.mem_append_right _ hselection)

/-! ## Heuristics conserve queries -/

/-- A run of moves conserves the query. -/
theorem conservedBy_of_moves {query moved : Query}
    (h : Relation.ReflTransGen Moves query moved) : query.ConservedBy moved :=
  preserved_of_moves (P := query.ConservedBy) (fun hmove hquery => hquery.trans hmove.conservedBy)
    h (.refl query)

/-- Restricting accesses to columns conserves the query. -/
theorem conservedBy_restrict (schema : Option Schema) (query : Query) :
    query.ConservedBy (query.restrict schema) where
  select := rfl
  table := rfl
  filter := List.Sublist.refl _
  selection := List.prefix_refl _
  joins := by
    refine ⟨query.joins, List.Perm.refl _, List.forall₂_map_right_iff.mpr ?_⟩
    exact List.forall₂_same.mpr fun join _ => ⟨rfl, List.prefix_refl _, List.prefix_refl _⟩
  kept predicate hmem := by
    refine ⟨predicate, ?_, Predicate.equivalent_self predicate⟩
    simpa [mem_predicates, mem_placed, restrict] using hmem
  original predicate hmem := by
    simpa [mem_predicates, mem_placed, restrict] using hmem

/-- Every heuristic conserves the query. -/
theorem conservedBy_apply (knowledge : Knowledge) (heuristic : Heuristic) (query : Query) :
    query.ConservedBy (heuristic.apply knowledge query).query := by
  cases heuristic with
  | selectionPushdown => exact conservedBy_of_moves (reflTransGen_moves_pushSelections query)
  | projectionPushdown =>
    change query.ConservedBy (query.pushProjections knowledge.schema).query
    rcases query_pushProjections knowledge.schema query with heq | ⟨-, -, heq⟩ <;> rw [heq]
    · exact .refl query
    · exact conservedBy_restrict knowledge.schema query
  | cartesianAvoidance =>
    obtain ⟨moved, hmoves, heq⟩ := exists_moves_avoidProducts query
    change query.ConservedBy query.avoidProducts.query
    rw [heq]
    exact (conservedBy_of_moves hmoves).trans (.of_perm moved (productsLast_perm moved.joins))
  | joinReordering =>
    change query.ConservedBy (query.orderJoins knowledge.statistics).query
    rcases query_orderJoins knowledge.statistics query with heq | heq <;> rw [heq]
    · exact .refl query
    · exact .of_perm query (map_ordered_perm knowledge.statistics query)

end Query

/-- Whatever heuristics an optimizer applies and whatever it knows, no predicate is lost and none
is invented: conjuncts only leave the condition, conditions and filters only grow at their end,
and joins only change their order. -/
theorem Optimizer.conservedBy_optimize (optimizer : Optimizer) (query : Query) :
    query.ConservedBy (optimizer.optimize query).query :=
  preserved_of_heuristics (P := query.ConservedBy)
    (fun heuristic _ current hcurrent =>
      hcurrent.trans (Query.conservedBy_apply optimizer.knowledge heuristic current))
    (.refl query)

end RelPlan
