import RelPlan.Proofs.Optimizer.Scoping

/-!
# Placing conjuncts

Pushing selections down and avoiding products go through the conjuncts of a condition one after
another and put each where it belongs, if there is a place for it. Whether there is one depends on
the tables of the query alone, so the conjuncts that stay are known before any is placed:
`Placement.run` puts all conjuncts at their places and keeps those that have none. Both heuristics
are such runs (`query_pushSelections_eq`, `query_avoidProducts_eq`), which makes it possible to
compare two runs put by put.
-/

namespace RelPlan

namespace Query

/-- The query with another condition. -/
def withFilter (query : Query) (filter : Conjunction) : Query := { query with filter }

@[simp] theorem filter_withFilter (query : Query) (filter : Conjunction) :
    (query.withFilter filter).filter = filter := rfl

@[simp] theorem tables_withFilter (query : Query) (filter : Conjunction) :
    (query.withFilter filter).tables = query.tables := rfl

@[simp] theorem withFilter_withFilter (query : Query) (first second : Conjunction) :
    (query.withFilter first).withFilter second = query.withFilter second := rfl

@[simp] theorem withFilter_filter (query : Query) : query.withFilter query.filter = query := rfl

end Query

/-- A way to place conjuncts elsewhere in a query. Whether a conjunct is accepted depends on the
tables, and a place is found without regard to the condition. -/
structure Placement where
  /-- The query with a predicate at its place. -/
  put : Query → Predicate → Query
  /-- Whether a query of the given tables has a place for a predicate. -/
  accepts : List String → Predicate → Bool
  tables_put : ∀ (query : Query) (predicate : Predicate),
    (put query predicate).tables = query.tables
  put_withFilter : ∀ (query : Query) (predicate : Predicate) (filter : Conjunction),
    put (query.withFilter filter) predicate = (put query predicate).withFilter filter
  put_eq_self : ∀ {query : Query} {predicate : Predicate},
    accepts query.tables predicate = false → put query predicate = query

namespace Placement

variable (placement : Placement)

/-- The query with some predicates at their places. -/
def putAll (query : Query) (predicates : List Predicate) : Query :=
  predicates.foldl placement.put query

/-- The query with the conjuncts of its condition at their places; those that are not accepted
stay in the condition. -/
def run (query : Query) : Query :=
  (placement.putAll query query.filter).withFilter
    (query.filter.filter (!placement.accepts query.tables ·))

/-- Putting a predicate at its place does not change the condition of the query. -/
theorem filter_put (query : Query) (predicate : Predicate) :
    (placement.put query predicate).filter = query.filter := by
  have h := placement.put_withFilter query predicate query.filter
  rw [Query.withFilter_filter] at h
  rw [h, Query.filter_withFilter]

@[simp] theorem tables_putAll (query : Query) (predicates : List Predicate) :
    (placement.putAll query predicates).tables = query.tables := by
  induction predicates generalizing query with
  | nil => rfl
  | cons predicate predicates ih => exact (ih _).trans (placement.tables_put query predicate)

/-- Predicates may be put at their places before or after the condition is replaced. -/
theorem putAll_withFilter (query : Query) (predicates : List Predicate) (filter : Conjunction) :
    placement.putAll (query.withFilter filter) predicates =
      (placement.putAll query predicates).withFilter filter := by
  induction predicates generalizing query with
  | nil => rfl
  | cons predicate predicates ih =>
    rw [putAll, List.foldl_cons, placement.put_withFilter]
    exact ih _

@[simp] theorem filter_run (query : Query) :
    (placement.run query).filter = query.filter.filter (!placement.accepts query.tables ·) := rfl

@[simp] theorem tables_run (query : Query) : (placement.run query).tables = query.tables := by
  simp [run]

/-- The conjuncts that stay are those that do not have the property by which a placement accepts
conjuncts. -/
theorem filter_run_of_accepts_iff {query : Query} {Placed : Predicate → Prop}
    [DecidablePred Placed]
    (h : ∀ predicate, placement.accepts query.tables predicate = true ↔ Placed predicate) :
    (placement.run query).filter = query.filter.filter fun predicate => ¬ Placed predicate := by
  rw [filter_run]
  refine List.filter_congr fun predicate _ => ?_
  rw [Bool.eq_iff_iff, Bool.not_eq_true', decide_eq_true_iff, ← h, Bool.not_eq_true]

/-- A conjunct that stays is not accepted. -/
theorem not_accepts_of_mem_run {query : Query} {predicate : Predicate}
    (h : predicate ∈ (placement.run query).filter) :
    placement.accepts query.tables predicate = false := by
  rw [filter_run, List.mem_filter] at h
  simpa using h.2

/-- Predicates that are not accepted may be left out when predicates are put at their places. -/
theorem putAll_filter (query : Query) {test : Predicate → Bool} {predicates : List Predicate}
    (htest : ∀ predicate ∈ predicates, test predicate = false →
      placement.accepts query.tables predicate = false) :
    placement.putAll query (predicates.filter test) = placement.putAll query predicates := by
  induction predicates generalizing query with
  | nil => rfl
  | cons predicate predicates ih =>
    obtain ⟨hhead, htail⟩ := List.forall_mem_cons.mp htest
    cases h : test predicate with
    | false =>
      have hput : placement.put query predicate = query := placement.put_eq_self (hhead h)
      rw [List.filter_cons_of_neg (by simp [h]), ih query htail, putAll, putAll, List.foldl_cons,
        hput]
    | true =>
      rw [List.filter_cons_of_pos h]
      refine ih (placement.put query predicate) fun other hother hfalse => ?_
      rw [placement.tables_put]
      exact htail other hother hfalse

/-- If no conjunct is accepted then the query stays as it is. -/
theorem run_eq_self {query : Query}
    (h : ∀ predicate ∈ query.filter, placement.accepts query.tables predicate = false) :
    placement.run query = query := by
  have hstay : query.filter.filter (!placement.accepts query.tables ·) = query.filter :=
    List.filter_eq_self.mpr fun predicate hmem => by simp [h predicate hmem]
  have hput : placement.putAll query (query.filter.filter fun _ => false) =
      placement.putAll query query.filter :=
    placement.putAll_filter query fun predicate hmem _ => h predicate hmem
  rw [run, hstay, ← hput, List.filter_false, putAll, List.foldl_nil, Query.withFilter_filter]

/-- Placing conjuncts one after another, each put at its place or kept, is a run. -/
theorem query_foldl_eq {place : Revision → Predicate → Revision}
    (hplace : ∀ (revision : Revision) (predicate : Predicate), (place revision predicate).query =
      if placement.accepts revision.query.tables predicate then
        placement.put revision.query predicate
      else (revision.keep predicate).query)
    (rest : Conjunction) (revision : Revision) :
    (rest.foldl place revision).query =
      (placement.putAll revision.query rest).withFilter
        (revision.query.filter ++
          rest.filter (!placement.accepts revision.query.tables ·)) := by
  induction rest generalizing revision with
  | nil => simp [putAll]
  | cons predicate rest ih =>
    rw [List.foldl_cons, ih, hplace]
    cases h : placement.accepts revision.query.tables predicate with
    | true =>
      rw [if_pos rfl, placement.tables_put, placement.filter_put,
        List.filter_cons_of_neg (by simp [h])]
      rfl
    | false =>
      have hkeep : (revision.keep predicate).query =
          revision.query.withFilter (revision.query.filter ++ [predicate]) := rfl
      have hput : placement.put revision.query predicate = revision.query :=
        placement.put_eq_self h
      rw [if_neg Bool.false_ne_true, hkeep, placement.putAll_withFilter,
        List.filter_cons_of_pos (by simp [h])]
      simp [putAll, hput]

/-- Placing conjuncts one after another, each put at its place or kept, gives the warnings about
them in order, if it depends on the conjunct and the tables alone whether there is one. -/
theorem warnings_foldl_eq {place : Revision → Predicate → Revision}
    {warning? : List String → Predicate → Option Warning}
    (hplace : ∀ (revision : Revision) (predicate : Predicate), (place revision predicate).query =
      if placement.accepts revision.query.tables predicate then
        placement.put revision.query predicate
      else (revision.keep predicate).query)
    (hwarning : ∀ (revision : Revision) (predicate : Predicate),
      (place revision predicate).warnings =
        revision.warnings ++ (warning? revision.query.tables predicate).toList)
    (rest : Conjunction) (revision : Revision) :
    (rest.foldl place revision).warnings =
      revision.warnings ++ rest.filterMap (warning? revision.query.tables) := by
  induction rest generalizing revision with
  | nil => simp
  | cons predicate rest ih =>
    have htables : (place revision predicate).query.tables = revision.query.tables := by
      rw [hplace]
      split
      · exact placement.tables_put revision.query predicate
      · rfl
    rw [List.foldl_cons, ih, hwarning, htables, List.append_assoc, List.filterMap_cons]
    cases warning? revision.query.tables predicate <;> rfl

/-- A change of queries that goes along with every put goes along with all of them. -/
theorem putAll_change {change : Query → Query} {query : Query}
    (hput : ∀ (current : Query) (predicate : Predicate), current.tables = query.tables →
      placement.put (change current) predicate = change (placement.put current predicate))
    (predicates : List Predicate) :
    placement.putAll (change query) predicates = change (placement.putAll query predicates) := by
  induction predicates generalizing query with
  | nil => rfl
  | cons predicate predicates ih =>
    have htables := placement.tables_put query predicate
    rw [putAll, List.foldl_cons, hput query predicate rfl]
    exact ih fun current other hcurrent => hput current other (hcurrent.trans htables)

/-- A change of queries that goes along with every put, keeps the condition, and finds the same
conjuncts accepted, goes along with a run. -/
theorem run_change {change : Query → Query} (query : Query)
    (hput : ∀ (current : Query) (predicate : Predicate), current.tables = query.tables →
      placement.put (change current) predicate = change (placement.put current predicate))
    (hfilter : ∀ (current : Query) (filter : Conjunction),
      change (current.withFilter filter) = (change current).withFilter filter)
    (haccepts : placement.accepts (change query).tables = placement.accepts query.tables) :
    placement.run (change query) = change (placement.run query) := by
  have hsame : (change query).filter = query.filter := by
    have h := hfilter query query.filter
    rw [Query.withFilter_filter] at h
    rw [h, Query.filter_withFilter]
  rw [run, run, hsame, haccepts, placement.putAll_change hput, hfilter]

end Placement

section TwoPlacements

variable {first second : Placement}

/-- Puts of two placements may be done in either order if every two of them may. -/
theorem Placement.putAll_comm
    (hput : ∀ (query : Query) (one other : Predicate),
      first.put (second.put query one) other = second.put (first.put query other) one)
    (query : Query) (predicates others : List Predicate) :
    first.putAll (second.putAll query predicates) others =
      second.putAll (first.putAll query others) predicates := by
  have hone (current : Query) (other : Predicate) :
      second.putAll (first.put current other) predicates =
        first.put (second.putAll current predicates) other :=
    second.putAll_change (fun current one _ => (hput current one other).symm) predicates
  exact first.putAll_change (fun current other _ => (hone current other).symm) others

/-- Two placements that accept different conjuncts, and of which each finds the same place before
and after a put of the other one, may be run in either order. -/
theorem Placement.run_comm
    (hput : ∀ (query : Query) (one other : Predicate),
      first.put (second.put query one) other = second.put (first.put query other) one)
    (hapart : ∀ (tables : List String) (predicate : Predicate),
      first.accepts tables predicate = true → second.accepts tables predicate = false)
    (query : Query) : first.run (second.run query) = second.run (first.run query) := by
  -- A run that comes second misses only conjuncts that it would not have placed.
  have hfirst : first.putAll query (query.filter.filter (!second.accepts query.tables ·)) =
      first.putAll query query.filter := by
    refine first.putAll_filter query fun predicate _ hsecond => ?_
    rw [Bool.eq_false_iff]
    intro haccepts
    rw [hapart _ _ haccepts] at hsecond
    exact Bool.noConfusion hsecond
  have hsecond : second.putAll query (query.filter.filter (!first.accepts query.tables ·)) =
      second.putAll query query.filter := by
    refine second.putAll_filter query fun predicate _ hfirst => ?_
    exact hapart _ _ (by simpa using hfirst)
  calc first.run (second.run query)
      = (first.putAll (second.putAll query query.filter)
          (query.filter.filter (!second.accepts query.tables ·))).withFilter
          ((query.filter.filter (!second.accepts query.tables ·)).filter
            (!first.accepts query.tables ·)) := by
        rw [run, filter_run, tables_run, run, putAll_withFilter, Query.withFilter_withFilter]
    _ = (second.putAll (first.putAll query query.filter) query.filter).withFilter
          ((query.filter.filter (!second.accepts query.tables ·)).filter
            (!first.accepts query.tables ·)) := by
        rw [putAll_comm hput, hfirst]
    _ = (second.putAll (first.putAll query query.filter)
          (query.filter.filter (!first.accepts query.tables ·))).withFilter
          ((query.filter.filter (!first.accepts query.tables ·)).filter
            (!second.accepts query.tables ·)) := by
        rw [List.filter_comm, ← putAll_comm hput, ← putAll_comm hput, hsecond]
    _ = second.run (first.run query) := by
        rw [run, filter_run, tables_run, run, putAll_withFilter, Query.withFilter_withFilter]

end TwoPlacements

/-! ## Filters of accesses -/

namespace Join

@[simp] theorem map_table_modifyAccess (table : String) (change : Access → Access)
    (joins : List Join) :
    (modifyAccess table change joins).map (·.table) = joins.map (·.table) := by
  induction joins with
  | nil => rfl
  | cons join joins ih => unfold modifyAccess; split <;> simp [ih]

/-- A change of one join that keeps some part of it keeps the list of these parts. -/
theorem map_modify {α : Type} {part : Join → α} {change : Join → Join}
    (h : ∀ join, part (change join) = part join) (joins : List Join) (index : Nat) :
    (joins.modify index change).map part = joins.map part := by
  induction joins generalizing index with
  | nil => simp
  | cons join joins ih => cases index <;> simp [h, ih]

/-- Without a join of the table no access is changed. -/
theorem modifyAccess_of_not_mem {table : String} {joins : List Join} (change : Access → Access)
    (h : table ∉ joins.map (·.table)) : modifyAccess table change joins = joins := by
  induction joins with
  | nil => rfl
  | cons join joins ih =>
    obtain ⟨hne, hmem⟩ := List.ne_and_not_mem_of_not_mem_cons h
    rw [modifyAccess, if_neg hne.symm, ih hmem]

end Join

namespace Query

@[simp] theorem tables_modifyAccess (query : Query) (table : String) (change : Access → Access) :
    (query.modifyAccess table change).tables = query.tables := by
  unfold modifyAccess
  split <;> simp [tables_eq]

/-- An access may be changed before or after the condition is replaced. -/
theorem modifyAccess_withFilter (query : Query) (table : String) (change : Access → Access)
    (filter : Conjunction) :
    (query.withFilter filter).modifyAccess table change =
      (query.modifyAccess table change).withFilter filter := by
  by_cases h : query.source.table = table <;> simp [modifyAccess, withFilter, h]

/-- Without an access to the table none is changed. -/
theorem modifyAccess_of_not_mem {query : Query} {table : String} (change : Access → Access)
    (h : table ∉ query.tables) : query.modifyAccess table change = query := by
  rw [tables_eq, List.mem_cons, not_or] at h
  rw [modifyAccess, if_neg (Ne.symm h.1), Join.modifyAccess_of_not_mem change h.2]

/-- There is no access to a table exactly if the query does not have it. -/
theorem accessOf?_eq_none_iff {query : Query} {table : String} :
    query.accessOf? table = none ↔ table ∉ query.tables := by
  simp [accessOf?, tables]

/-- The query with a predicate in the filter of the first access to the only table it is about. -/
def placeFilter (query : Query) (predicate : Predicate) : Query :=
  match predicate.onlyTable? with
  | none => query
  | some table => query.modifyAccess table (·.push predicate)

end Query

/-- The placement in filters: predicates about exactly one table of the query are accepted. -/
def Placement.filters : Placement where
  put := Query.placeFilter
  accepts tables predicate := predicate.onlyTable?.any (tables.contains ·)
  tables_put query predicate := by
    unfold Query.placeFilter
    split <;> simp
  put_withFilter query predicate filter := by
    unfold Query.placeFilter
    split
    · rfl
    · exact Query.modifyAccess_withFilter query _ _ filter
  put_eq_self {query predicate} h := by
    unfold Query.placeFilter
    split
    · rfl
    · next table honly =>
      refine Query.modifyAccess_of_not_mem _ ?_
      simpa [honly] using h

/-- A predicate has a place in a filter if it is about exactly one table and that is there. -/
theorem Placement.accepts_filters_iff {tables : List String} {predicate : Predicate} :
    filters.accepts tables predicate = true ↔
      ∃ table ∈ tables, predicate.onlyTable? = some table := by
  simp only [filters, Option.any_eq_true, List.contains_iff_mem]
  exact exists_congr fun table => and_comm

/-- Which predicates have a place in a filter does not depend on the order of the tables. -/
theorem Placement.accepts_filters_of_perm {tables others : List String}
    (h : tables.Perm others) : filters.accepts tables = filters.accepts others := by
  funext predicate
  rw [Bool.eq_iff_iff, accepts_filters_iff, accepts_filters_iff]
  simp only [h.mem_iff]

namespace Query

/-- A predicate about only one table has a place in a filter if there is an access to the table. -/
theorem accepts_filters_iff_accessOf? (query : Query) {predicate : Predicate} {table : String}
    (honly : predicate.onlyTable? = some table) :
    Placement.filters.accepts query.tables predicate = true ↔ query.accessOf? table ≠ none := by
  rw [Placement.accepts_filters_iff, ne_eq, accessOf?_eq_none_iff, not_not]
  simp [honly]

/-- Pushing selections down puts a conjunct in a filter if it is accepted, and keeps it otherwise.
-/
theorem query_pushConjunct (joined : Bool) (revision : Revision) (predicate : Predicate) :
    (pushConjunct joined revision predicate).query =
      if Placement.filters.accepts revision.query.tables predicate then
        Placement.filters.put revision.query predicate
      else (revision.keep predicate).query := by
  obtain ⟨honly, hpush⟩ | ⟨table, honly, ⟨haccess, hpush⟩ | ⟨access, haccess, hpush⟩⟩ :=
    pushConjunct_cases joined revision predicate
  · rw [hpush, if_neg (by simp [Placement.accepts_filters_iff, honly])]
  · have haccepts := accepts_filters_iff_accessOf? revision.query honly
    rw [hpush, if_neg (haccepts.not_left.mpr haccess)]
    rfl
  · have haccepts := accepts_filters_iff_accessOf? revision.query honly
    have hput : Placement.filters.put revision.query predicate =
        revision.query.modifyAccess table (·.push predicate) := by
      simp [Placement.filters, placeFilter, honly]
    rw [hpush, if_pos (haccepts.mpr (by simp [haccess])), hput]

/-- Pushing selections down is a run of the placement in filters. -/
theorem query_pushSelections_eq (query : Query) :
    query.pushSelections.query = Placement.filters.run query := by
  have hplaced := Placement.filters.query_foldl_eq (query_pushConjunct !query.joins.isEmpty)
    query.filter (.unchanged (query.withFilter []))
  exact hplaced.trans (by simp [Revision.unchanged, Placement.putAll_withFilter, Placement.run])

/-! ## Conditions of joins -/

@[simp] theorem tables_pushCondition (query : Query) (index : Nat) (predicate : Predicate) :
    (query.pushCondition index predicate).tables = query.tables := by
  simp [tables_eq, pushCondition, Join.map_modify]

/-- The tables behind the first one are those of the joins. -/
theorem tail_tables (query : Query) : query.tables.tail = query.joins.map (·.table) := by
  rw [tables_eq, List.tail_cons]

/-- No join is chosen if and only if neither of the two tables is joined. -/
theorem chooseJoin?_eq_none_iff {query : Query} {one other : String} :
    query.chooseJoin? one other = none ↔
      one ∉ query.tables.tail ∧ other ∉ query.tables.tail := by
  have hnone : (∀ join ∈ query.joins, join.isOfEither one other = false) ↔
      one ∉ query.tables.tail ∧ other ∉ query.tables.tail := by
    simp only [Join.isOfEither, Bool.or_eq_false_iff, beq_eq_false_iff_ne, tail_tables,
      List.mem_map, not_exists, not_and, ← forall_and]
  rw [← hnone]
  constructor
  · intro h
    simp only [chooseJoin?, Option.orElse_eq_orElse, Option.orElse_eq_or,
      Option.or_eq_none_iff] at h
    exact List.findIdx?_eq_none_iff.mp h.2.2
  · intro h
    cases hchosen : query.chooseJoin? one other with
    | none => rfl
    | some index =>
      obtain ⟨join, hjoin, heither⟩ := getElem?_of_chooseJoin? hchosen
      rw [h join (List.mem_of_getElem? hjoin)] at heither
      exact absurd heither Bool.false_ne_true

/-- The query with an equality of columns of two tables in the condition of the join that is chosen
for it. -/
def placeCondition (query : Query) (predicate : Predicate) : Query :=
  match predicate.joinedTables? with
  | none => query
  | some (one, other) =>
    match query.chooseJoin? one other with
    | none => query
    | some index => query.pushCondition index predicate

end Query

/-- The placement in conditions of joins: equalities of columns of two tables of which one is joined
are accepted. -/
def Placement.conditions : Placement where
  put := Query.placeCondition
  accepts tables predicate := predicate.joinedTables?.any fun (one, other) =>
    tables.tail.contains one || tables.tail.contains other
  tables_put query predicate := by
    unfold Query.placeCondition
    split
    · rfl
    · split <;> simp
  put_withFilter query predicate filter := by
    unfold Query.placeCondition
    split
    · rfl
    · next one other _ =>
      have hchoose : (query.withFilter filter).chooseJoin? one other =
          query.chooseJoin? one other := rfl
      rw [hchoose]
      split <;> rfl
  put_eq_self {query predicate} h := by
    unfold Query.placeCondition
    split
    · rfl
    · next one other htables =>
      have hnone : query.chooseJoin? one other = none := by
        rw [Query.chooseJoin?_eq_none_iff]
        simpa [htables] using h
      rw [hnone]

/-- A predicate has a place in a condition if it equates columns of two tables and one of these is
joined. -/
theorem Placement.accepts_conditions_iff {tables : List String} {predicate : Predicate} :
    conditions.accepts tables predicate = true ↔
      ∃ one other, predicate.joinedTables? = some (one, other) ∧
        (one ∈ tables.tail ∨ other ∈ tables.tail) := by
  simp only [conditions, Option.any_eq_true, Bool.or_eq_true, List.contains_iff_mem, Prod.exists]

/-- Which predicates have a place in a condition does not depend on the order of the joined tables.
-/
theorem Placement.accepts_conditions_of_perm {tables others : List String}
    (h : tables.tail.Perm others.tail) :
    conditions.accepts tables = conditions.accepts others := by
  funext predicate
  rw [Bool.eq_iff_iff, accepts_conditions_iff, accepts_conditions_iff]
  simp only [h.mem_iff]

namespace Query

/-- An equality of columns of two tables has a place in a condition if a join is chosen for it. -/
theorem accepts_conditions_iff_chooseJoin? (query : Query) {predicate : Predicate}
    {one other : String} (htables : predicate.joinedTables? = some (one, other)) :
    Placement.conditions.accepts query.tables predicate = true ↔
      query.chooseJoin? one other ≠ none := by
  rw [ne_eq, chooseJoin?_eq_none_iff, not_and_or, not_not, not_not]
  simp [Placement.accepts_conditions_iff, htables]

/-- Avoiding products puts a conjunct in a condition if it is accepted, and keeps it otherwise. -/
theorem query_moveConjunct (revision : Revision) (predicate : Predicate) :
    (moveConjunct revision predicate).query =
      if Placement.conditions.accepts revision.query.tables predicate then
        Placement.conditions.put revision.query predicate
      else (revision.keep predicate).query := by
  obtain ⟨htables, hmove⟩ | ⟨one, other, htables, ⟨hchosen, hmove⟩ | ⟨index, hchosen, hmove⟩⟩ :=
    moveConjunct_cases revision predicate
  · rw [hmove, if_neg (by simp [Placement.accepts_conditions_iff, htables])]
  · have haccepts := accepts_conditions_iff_chooseJoin? revision.query htables
    rw [hmove, if_neg (haccepts.not_left.mpr hchosen)]
    rfl
  · have haccepts := accepts_conditions_iff_chooseJoin? revision.query htables
    have hput : Placement.conditions.put revision.query predicate =
        revision.query.pushCondition index predicate := by
      simp [Placement.conditions, placeCondition, htables, hchosen]
    rw [hmove, if_pos (haccepts.mpr (by simp [hchosen])), hput]

/-- Avoiding products is a run of the placement in conditions, after which the products are put
last. -/
theorem query_avoidProducts_eq (query : Query) :
    query.avoidProducts.query = (Placement.conditions.run query).orderProducts := by
  unfold avoidProducts
  split
  · next hjoins =>
    have hnil : query.joins = [] := List.isEmpty_iff.mp hjoins
    have hrun : Placement.conditions.run query = query := by
      refine Placement.conditions.run_eq_self fun predicate _ => ?_
      rw [Bool.eq_false_iff, ne_eq, Placement.accepts_conditions_iff, tail_tables, hnil]
      simp
    have hproducts : productsLast query.joins = query.joins := by rw [hnil]; rfl
    rw [hrun, orderProducts, hproducts]
    rfl
  · have hplaced := Placement.conditions.query_foldl_eq query_moveConjunct
      query.filter (.unchanged (query.withFilter []))
    exact congrArg orderProducts <| hplaced.trans
      (by simp [Revision.unchanged, Placement.putAll_withFilter, Placement.run])

end Query

end RelPlan
