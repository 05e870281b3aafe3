import RelPlan.Proofs.Optimizer.Placement
import RelPlan.Proofs.Optimizer.Projections

/-!
# Heuristics in any order

Pushing selections down and avoiding products place different conjuncts, and neither looks at what
the other changes: a filter is put in an access, a condition on a join, and the join for it is
chosen by tables and conditions alone. What pushing projections down keeps does not depend on where
predicates are. So these heuristics may be applied in any order
(`Optimizer.apply_comm_and_optimize_perm`). The joined tables have to be distinct, since products
are put behind other joins and a filter goes to the first access to its table.
-/

namespace RelPlan

namespace Query

/-! ## The choice of a join -/

section Tables

variable {query new : Query}

/-- Which join of one of two tables is the first one depends on the tables alone. -/
theorem firstJoin?_congr (htables : new.joins.map (·.table) = query.joins.map (·.table))
    (one other : String) : new.firstJoin? one other = query.firstJoin? one other := by
  have hfirst (current : Query) : current.firstJoin? one other =
      (current.joins.map (·.table)).findIdx? fun table => table == one || table == other := by
    rw [List.findIdx?_map]
    rfl
  rw [hfirst, hfirst, htables]

/-- Which join of one of two tables is available depends on the tables alone. -/
theorem availableJoin?_congr (htable : new.source.table = query.source.table)
    (htables : new.joins.map (·.table) = query.joins.map (·.table)) (one other : String) :
    new.availableJoin? one other = query.availableJoin? one other := by
  have havailable (current : Query) : current.availableJoin? one other =
      ((current.joins.map (·.table)).zipIdx.find? fun entry =>
        (entry.1 == one || entry.1 == other) &&
          (current.source.table == (if entry.1 = one then other else one) ||
            ((current.joins.map (·.table)).take entry.2).any
              (· == if entry.1 = one then other else one))).map (·.2) := by
    simp only [List.zipIdx_map, List.find?_map, Option.map_map, ← List.map_take, List.any_map]
    rfl
  rw [havailable, havailable, htable, htables]

end Tables

/-- The join with plain access: what the choice of a join looks at. -/
def bareJoins (query : Query) : List Join :=
  query.joins.map fun join => .ofTable join.table join.condition

/-- The join that an equality moves to does not depend on accesses. -/
theorem chooseJoin?_congr {query new : Query} (htable : new.source.table = query.source.table)
    (hjoins : new.bareJoins = query.bareJoins) (one other : String) :
    new.chooseJoin? one other = query.chooseJoin? one other := by
  have hlinked (current : Query) : current.linkedJoin? one other =
      current.bareJoins.findIdx? fun join =>
        join.isOfEither one other && join.mentions (join.other one other) := by
    rw [bareJoins, List.findIdx?_map]
    rfl
  have htables : new.joins.map (·.table) = query.joins.map (·.table) := by
    have h := congrArg (List.map (·.table)) hjoins
    simpa [bareJoins, Join.ofTable, Function.comp_def] using h
  rw [chooseJoin?, chooseJoin?, hlinked, hlinked, hjoins, availableJoin?_congr htable htables,
    firstJoin?_congr htables]

/-- Changing an access does not change the joins apart from their accesses. -/
theorem bareJoins_modifyAccess (query : Query) (table : String) (change : Access → Access) :
    (query.modifyAccess table change).bareJoins = query.bareJoins := by
  have hjoins (joins : List Join) : (Join.modifyAccess table change joins).map
      (fun join => Join.ofTable join.table join.condition) =
        joins.map fun join => Join.ofTable join.table join.condition := by
    induction joins with
    | nil => rfl
    | cons join joins ih => unfold Join.modifyAccess; split <;> simp [ih]
  unfold modifyAccess
  split
  · rfl
  · exact hjoins query.joins

/-- Changing an access does not change which join is chosen. -/
theorem chooseJoin?_modifyAccess (query : Query) (table : String) (change : Access → Access)
    (one other : String) :
    (query.modifyAccess table change).chooseJoin? one other = query.chooseJoin? one other := by
  refine chooseJoin?_congr ?_ (query.bareJoins_modifyAccess table change) one other
  unfold modifyAccess
  split <;> rfl

/-- Keeping other columns does not change which join is chosen. -/
theorem chooseJoin?_keeping (columns : String → NameSet) (query : Query) (one other : String) :
    (query.keeping columns).chooseJoin? one other = query.chooseJoin? one other := by
  have htable : (query.keeping columns).source.table = query.source.table := rfl
  refine chooseJoin?_congr htable ?_ one other
  simp [bareJoins, keeping, Join.keeping, Function.comp_def]

end Query

/-! ## Changes of accesses and of conditions -/

namespace Join

/-- The join with another access. -/
def mapAccess (change : Access → Access) (join : Join) : Join :=
  { join with access := change join.access }

/-- The join with one more predicate in its condition, unless an equivalent one is there. -/
def addCondition (predicate : Predicate) (join : Join) : Join :=
  { join with condition := join.condition.pushUnique predicate }

/-- The access of the first join is changed if that is of the table, and otherwise of one behind
it. -/
theorem modifyAccess_cons (table : String) (change : Access → Access) (join : Join)
    (joins : List Join) :
    modifyAccess table change (join :: joins) =
      if join.table = table then join.mapAccess change :: joins
      else join :: modifyAccess table change joins := rfl

section Changes

variable {table : String} {change : Access → Access} {other : Join → Join}

/-- The access to a table is changed before or after all joins are changed in another respect. -/
theorem modifyAccess_map (htable : ∀ join, (other join).table = join.table)
    (haccess : ∀ join, other (join.mapAccess change) = (other join).mapAccess change)
    (joins : List Join) :
    modifyAccess table change (joins.map other) = (modifyAccess table change joins).map other := by
  induction joins with
  | nil => rfl
  | cons join joins ih =>
    rw [List.map_cons, modifyAccess_cons, modifyAccess_cons, htable]
    split
    · rw [List.map_cons, haccess]
    · rw [List.map_cons, ih]

/-- A change at one position and a change everywhere may be made in either order if they commute. -/
theorem modify_map {first second : Join → Join}
    (h : ∀ join, first (second join) = second (first join)) (joins : List Join) (index : Nat) :
    (joins.map second).modify index first = (joins.modify index first).map second := by
  induction joins generalizing index with
  | nil => simp
  | cons join joins ih => cases index <;> simp [h, ih]

/-- The access to a table is changed before or after one join is changed in another respect. -/
theorem modifyAccess_modify (htable : ∀ join, (other join).table = join.table)
    (haccess : ∀ join, other (join.mapAccess change) = (other join).mapAccess change)
    (joins : List Join) (index : Nat) :
    modifyAccess table change (joins.modify index other) =
      (modifyAccess table change joins).modify index other := by
  induction joins generalizing index with
  | nil => simp [modifyAccess]
  | cons join joins ih =>
    by_cases h : join.table = table <;> cases index <;>
      simp [modifyAccess_cons, htable, haccess, h, ih]

/-- If every table is joined only once then the access to a table is changed in all its joins. -/
theorem modifyAccess_eq_map {joins : List Join} (hdistinct : (joins.map (·.table)).Nodup) :
    modifyAccess table change joins =
      joins.map fun join => if join.table = table then join.mapAccess change else join := by
  induction joins with
  | nil => rfl
  | cons join joins ih =>
    obtain ⟨hmem, hdistinct⟩ := List.nodup_cons.mp hdistinct
    rw [modifyAccess_cons, List.map_cons, ← ih hdistinct]
    split
    · next h => rw [modifyAccess_of_not_mem change (h ▸ hmem)]
    · rfl

end Changes

end Join

namespace Query

/-- The access of the first table is changed if that is the table. -/
theorem modifyAccess_of_eq {query : Query} {table : String} (change : Access → Access)
    (h : query.source.table = table) :
    query.modifyAccess table change =
      { query with source.access := change query.source.access } := if_pos h

/-- The access of a join is changed if the table is not the first one. -/
theorem modifyAccess_of_ne {query : Query} {table : String} (change : Access → Access)
    (h : query.source.table ≠ table) :
    query.modifyAccess table change =
      { query with joins := Join.modifyAccess table change query.joins } := if_neg h

/-- Pushing a predicate to a condition adds it to the condition of the join at the position. -/
theorem pushCondition_eq (query : Query) (index : Nat) (predicate : Predicate) :
    query.pushCondition index predicate =
      { query with joins := query.joins.modify index (Join.addCondition predicate) } := rfl

/-- Pushing a predicate onto a filter goes along with keeping columns. -/
theorem modifyAccess_keeping (table : String) (predicate : Predicate)
    (columns : String → NameSet) (query : Query) :
    (query.keeping columns).modifyAccess table (·.push predicate) =
      (query.modifyAccess table (·.push predicate)).keeping columns := by
  by_cases h : query.source.table = table
  · have hkeeping : (query.keeping columns).source.table = table := h
    rw [modifyAccess_of_eq _ h, modifyAccess_of_eq _ hkeeping]
    rfl
  · have hkeeping : (query.keeping columns).source.table ≠ table := h
    have hjoins : Join.modifyAccess table (·.push predicate)
        (query.joins.map (Join.keeping columns)) =
          (Join.modifyAccess table (·.push predicate) query.joins).map (Join.keeping columns) :=
      Join.modifyAccess_map (by intro join; rfl) (by intro join; rfl) query.joins
    rw [modifyAccess_of_ne _ h, modifyAccess_of_ne _ hkeeping, keeping, keeping]
    dsimp only
    rw [hjoins]

/-- Pushing a predicate onto a condition goes along with keeping columns. -/
theorem pushCondition_keeping (index : Nat) (predicate : Predicate)
    (columns : String → NameSet) (query : Query) :
    (query.keeping columns).pushCondition index predicate =
      (query.pushCondition index predicate).keeping columns := by
  have hjoins : (query.joins.map (Join.keeping columns)).modify index
      (Join.addCondition predicate) =
        (query.joins.modify index (Join.addCondition predicate)).map (Join.keeping columns) :=
    Join.modify_map (by intro join; rfl) query.joins index
  rw [pushCondition_eq, pushCondition_eq, keeping, keeping]
  dsimp only
  rw [hjoins]

/-- The access to a table is changed before or after a predicate is pushed onto a condition. -/
theorem modifyAccess_pushCondition (table : String) (change : Access → Access) (index : Nat)
    (predicate : Predicate) (query : Query) :
    (query.pushCondition index predicate).modifyAccess table change =
      (query.modifyAccess table change).pushCondition index predicate := by
  by_cases h : query.source.table = table
  · have hpushed : (query.pushCondition index predicate).source.table = table := h
    rw [modifyAccess_of_eq _ h, modifyAccess_of_eq _ hpushed]
    rfl
  · have hpushed : (query.pushCondition index predicate).source.table ≠ table := h
    have hjoins : Join.modifyAccess table change
        (query.joins.modify index (Join.addCondition predicate)) =
          (Join.modifyAccess table change query.joins).modify index (Join.addCondition predicate) :=
      Join.modifyAccess_modify (by intro join; rfl) (by intro join; rfl) query.joins index
    rw [modifyAccess_of_ne _ h, modifyAccess_of_ne _ hpushed, pushCondition_eq, pushCondition_eq]
    dsimp only
    rw [hjoins]

/-- Putting products last goes along with a change of joins that keeps which of them are products.
-/
theorem productsLast_map {change : Join → Join}
    (h : ∀ join, (change join).hasCondition = join.hasCondition) (joins : List Join) :
    productsLast (joins.map change) = (productsLast joins).map change := by
  simp only [productsLast, List.filter_map, List.map_append, Function.comp_def, h]

/-- If every table is joined only once then an access is changed before or after products are put
last. -/
theorem modifyAccess_orderProducts {query : Query} {table : String} (change : Access → Access)
    (hdistinct : (query.joins.map (·.table)).Nodup) :
    query.orderProducts.modifyAccess table change =
      (query.modifyAccess table change).orderProducts := by
  by_cases h : query.source.table = table
  · have hordered : query.orderProducts.source.table = table := h
    rw [modifyAccess_of_eq _ h, modifyAccess_of_eq _ hordered]
    rfl
  · have hordered : query.orderProducts.source.table ≠ table := h
    have hproducts : ((productsLast query.joins).map (·.table)).Nodup :=
      ((productsLast_perm query.joins).map _).nodup_iff.mpr hdistinct
    have hcondition (join : Join) :
        (if join.table = table then join.mapAccess change else join).hasCondition =
          join.hasCondition := by
      split <;> rfl
    rw [modifyAccess_of_ne _ h, modifyAccess_of_ne _ hordered, orderProducts, orderProducts]
    dsimp only
    rw [Join.modifyAccess_eq_map hproducts, Join.modifyAccess_eq_map hdistinct,
      productsLast_map hcondition]

/-- Products may be put last before or after columns are kept. -/
theorem keeping_orderProducts (columns : String → NameSet) (query : Query) :
    query.orderProducts.keeping columns = (query.keeping columns).orderProducts := by
  have hjoins : productsLast (query.joins.map (Join.keeping columns)) =
      (productsLast query.joins).map (Join.keeping columns) :=
    productsLast_map (by intro join; rfl) query.joins
  rw [orderProducts, orderProducts, keeping, keeping, hjoins]

/-! ## Puts in any order -/

/-- A predicate is put in a filter before or after another one is put in a condition. -/
theorem placeFilter_placeCondition (query : Query) (one other : Predicate) :
    (query.placeCondition one).placeFilter other =
      (query.placeFilter other).placeCondition one := by
  unfold placeFilter placeCondition
  cases other.onlyTable? with
  | none => rfl
  | some table =>
    cases one.joinedTables? with
    | none => rfl
    | some pair =>
      dsimp only
      rw [chooseJoin?_modifyAccess]
      cases query.chooseJoin? pair.1 pair.2 with
      | none => rfl
      | some index => exact modifyAccess_pushCondition table _ index one query

/-- A predicate may be put into a filter before or after columns are kept. -/
theorem placeFilter_keeping (columns : String → NameSet) (query : Query) (predicate : Predicate) :
    (query.keeping columns).placeFilter predicate =
      (query.placeFilter predicate).keeping columns := by
  unfold placeFilter
  split
  · rfl
  · exact modifyAccess_keeping _ predicate columns query

/-- A predicate may be put into a condition before or after columns are kept. -/
theorem placeCondition_keeping (columns : String → NameSet) (query : Query)
    (predicate : Predicate) :
    (query.keeping columns).placeCondition predicate =
      (query.placeCondition predicate).keeping columns := by
  unfold placeCondition
  split
  · rfl
  · rw [chooseJoin?_keeping]
    split
    · rfl
    · exact pushCondition_keeping _ predicate columns query

/-- A predicate may be put into a filter before or after products are put last if no table is joined
twice. -/
theorem placeFilter_orderProducts {query : Query} (predicate : Predicate)
    (hdistinct : (query.joins.map (·.table)).Nodup) :
    query.orderProducts.placeFilter predicate =
      (query.placeFilter predicate).orderProducts := by
  unfold placeFilter
  split
  · rfl
  · exact modifyAccess_orderProducts _ hdistinct

@[simp] theorem tables_keeping (columns : String → NameSet) (query : Query) :
    (query.keeping columns).tables = query.tables := by
  simp [tables_eq, keeping, Join.keeping, Function.comp_def]

/-- Putting products last does not change which tables there are. -/
theorem tables_orderProducts_perm (query : Query) :
    query.orderProducts.tables.Perm query.tables := by
  rw [tables_eq, tables_eq]
  exact ((productsLast_perm query.joins).map _).cons _

/-! ## Heuristics in either order -/

/-- No conjunct is both about one table only and an equality of columns of two tables. -/
theorem accepts_conditions_of_filters {tables : List String} {predicate : Predicate}
    (h : Placement.filters.accepts tables predicate = true) :
    Placement.conditions.accepts tables predicate = false := by
  obtain ⟨table, -, honly⟩ := Placement.accepts_filters_iff.mp h
  rw [Bool.eq_false_iff, ne_eq, Placement.accepts_conditions_iff]
  rintro ⟨one, other, htables, -⟩
  have hboth := Predicate.mem_tables_of_joinedTables? htables
  have hone : one = table := Predicate.eq_of_onlyTable? honly ((hboth one).mpr (.inl rfl))
  have hother : other = table := Predicate.eq_of_onlyTable? honly ((hboth other).mpr (.inr rfl))
  exact (Predicate.exists_of_joinedTables? htables).1 (hone.trans hother.symm)

/-- Selections are pushed down before or after products are avoided if every table is joined only
once. -/
theorem pushSelections_avoidProducts {query : Query}
    (hdistinct : (query.joins.map (·.table)).Nodup) :
    query.avoidProducts.query.pushSelections.query =
      query.pushSelections.query.avoidProducts.query := by
  have hordered : Placement.filters.run (Placement.conditions.run query).orderProducts =
      (Placement.filters.run (Placement.conditions.run query)).orderProducts := by
    refine Placement.filters.run_change _ (fun current predicate htables => ?_)
      (fun _ _ => rfl) ?_
    · refine placeFilter_orderProducts predicate ?_
      rw [← tail_tables, htables, Placement.tables_run, tail_tables]
      exact hdistinct
    · exact Placement.accepts_filters_of_perm (tables_orderProducts_perm _)
  rw [query_avoidProducts_eq, query_avoidProducts_eq, query_pushSelections_eq,
    query_pushSelections_eq, hordered,
    Placement.run_comm placeFilter_placeCondition fun _ _ => accepts_conditions_of_filters]

/-- A change that conserves queries and goes along with keeping columns goes along with pushing
projections down. -/
theorem pushProjections_change (schema : Option Schema) (change : Query → Query) {query : Query}
    (hconserved : query.ConservedBy (change query))
    (hkeeping : ∀ columns, change (query.keeping columns) = (change query).keeping columns) :
    ((change query).pushProjections schema).query =
      change (query.pushProjections schema).query := by
  rw [query_pushProjections_eq, query_pushProjections_eq, hconserved.keptColumns?_eq]
  cases query.keptColumns? schema with
  | none => rfl
  | some columns => exact (hkeeping columns).symm

/-- Selections may be pushed down before or after columns are kept. -/
theorem pushSelections_keeping (columns : String → NameSet) (query : Query) :
    (query.keeping columns).pushSelections.query =
      query.pushSelections.query.keeping columns := by
  rw [query_pushSelections_eq, query_pushSelections_eq]
  exact Placement.filters.run_change query
    (fun current predicate _ => placeFilter_keeping columns current predicate)
    (fun _ _ => rfl) (by rw [tables_keeping])

/-- Products may be avoided before or after columns are kept. -/
theorem avoidProducts_keeping (columns : String → NameSet) (query : Query) :
    (query.keeping columns).avoidProducts.query =
      query.avoidProducts.query.keeping columns := by
  rw [query_avoidProducts_eq, query_avoidProducts_eq, keeping_orderProducts]
  exact congrArg orderProducts <| Placement.conditions.run_change query
    (fun current predicate _ => placeCondition_keeping columns current predicate)
    (fun _ _ => rfl) (by rw [tables_keeping])

/-- Two heuristics of which none orders joins may be applied in either order if every table is
joined only once. -/
theorem apply_comm (knowledge : Knowledge) {query : Query}
    (hdistinct : (query.joins.map (·.table)).Nodup) {first second : Heuristic}
    (hfirst : first ≠ .joinReordering) (hsecond : second ≠ .joinReordering) :
    (second.apply knowledge (first.apply knowledge query).query).query =
      (first.apply knowledge (second.apply knowledge query).query).query := by
  have hselection := pushProjections_change knowledge.schema (·.pushSelections.query)
    (conservedBy_apply knowledge .selectionPushdown query) (pushSelections_keeping · query)
  have hproducts := pushProjections_change knowledge.schema (·.avoidProducts.query)
    (conservedBy_apply knowledge .cartesianAvoidance query) (avoidProducts_keeping · query)
  have hplaced := pushSelections_avoidProducts hdistinct
  cases first with
  | selectionPushdown =>
    cases second with
    | selectionPushdown => rfl
    | projectionPushdown => exact hselection
    | cartesianAvoidance => exact hplaced.symm
    | joinReordering => exact absurd rfl hsecond
  | projectionPushdown =>
    cases second with
    | selectionPushdown => exact hselection.symm
    | projectionPushdown => rfl
    | cartesianAvoidance => exact hproducts.symm
    | joinReordering => exact absurd rfl hsecond
  | cartesianAvoidance =>
    cases second with
    | selectionPushdown => exact hplaced
    | projectionPushdown => exact hproducts
    | cartesianAvoidance => rfl
    | joinReordering => exact absurd rfl hsecond
  | joinReordering => exact absurd rfl hfirst

end Query

/-! ## Heuristics in any order -/

namespace Optimizer

/-- Heuristics that do not order joins may be applied in any order. -/
theorem query_optimize_of_perm (knowledge : Knowledge) {heuristics others : List Heuristic}
    (hperm : heuristics.Perm others) (horder : .joinReordering ∉ heuristics) {query : Query}
    (hdistinct : (query.joins.map (·.table)).Nodup) :
    (optimize ⟨heuristics, knowledge⟩ query).query =
      (optimize ⟨others, knowledge⟩ query).query := by
  have hkeeps (heuristic : Heuristic) {current : Query}
      (hcurrent : (current.joins.map (·.table)).Nodup) :
      ((heuristic.apply knowledge current).query.joins.map (·.table)).Nodup :=
    (Query.conservedBy_apply knowledge heuristic current).joined_perm.nodup_iff.mpr hcurrent
  induction hperm generalizing query with
  | nil => rfl
  | cons heuristic _ ih =>
    rw [query_optimize_cons, query_optimize_cons]
    exact ih (fun hmem => horder (List.mem_cons_of_mem _ hmem)) (hkeeps heuristic hdistinct)
  | swap first second heuristics =>
    have hsecond : second ≠ .joinReordering := fun heq => horder (heq ▸ List.mem_cons_self)
    have hfirst : first ≠ .joinReordering := fun heq =>
      horder (heq ▸ List.mem_cons_of_mem _ List.mem_cons_self)
    rw [query_optimize_cons, query_optimize_cons, query_optimize_cons, query_optimize_cons,
      Query.apply_comm knowledge hdistinct hfirst hsecond]
  | trans hfirst _ ihfirst ihsecond =>
    refine (ihfirst horder hdistinct).trans (ihsecond (fun hmem => horder ?_) hdistinct)
    exact hfirst.symm.subset hmem

/-- Pushing selections down, pushing projections down and avoiding products are independent: if
every table is joined only once then two of them may be applied in either order, and any number of
them in any order. -/
theorem apply_comm_and_optimize_perm (knowledge : Knowledge) {query : Query}
    (hdistinct : (query.joins.map (·.table)).Nodup) :
    (∀ first second : Heuristic, first ≠ .joinReordering → second ≠ .joinReordering →
      (second.apply knowledge (first.apply knowledge query).query).query =
        (first.apply knowledge (second.apply knowledge query).query).query) ∧
    ∀ heuristics others : List Heuristic, heuristics.Perm others → .joinReordering ∉ heuristics →
      (optimize ⟨heuristics, knowledge⟩ query).query =
        (optimize ⟨others, knowledge⟩ query).query :=
  ⟨fun _ _ => Query.apply_comm knowledge hdistinct,
    fun _ _ hperm horder => query_optimize_of_perm knowledge hperm horder hdistinct⟩

/-- A product before a join, and conditions on both. -/
def productFirst : Query :=
  .ofTable (.columns [.qualified "A" "X"]) "A"
    [.ofTable "C" [],
     .ofTable "B" [.compare ⟨.column (.qualified "A" "ID"), .eq, .column (.qualified "B" "ID")⟩]]
    [.compare ⟨.column (.qualified "B" "Y"), .eq, .literal (.number "1")⟩,
     .compare ⟨.column (.qualified "B" "W"), .eq, .column (.qualified "A" "W")⟩,
     .compare ⟨.column (.qualified "C" "Z"), .eq, .literal (.number "2")⟩]

/-- The product comes last, with its filter and its columns, whatever the order of the heuristics.
-/
theorem apply_comm_and_optimize_perm_productFirst :
    (productFirst.joins.map (·.table)).Nodup ∧
      (optimize ⟨[.cartesianAvoidance, .projectionPushdown, .selectionPushdown], .none⟩
          productFirst).query =
        (optimize ⟨[.selectionPushdown, .projectionPushdown, .cartesianAvoidance], .none⟩
          productFirst).query ∧
      (optimize ⟨[.selectionPushdown, .projectionPushdown, .cartesianAvoidance], .none⟩
          productFirst).query.projections =
        [("A", .ofList ["ID", "W", "X"]), ("B", .ofList ["ID", "W", "Y"]),
         ("C", .ofList ["Z"])] := by
  have hdistinct : (productFirst.joins.map (·.table)).Nodup := by decide
  exact ⟨hdistinct, (apply_comm_and_optimize_perm .none hdistinct).2 _ _ (by decide) (by decide),
    by decide +kernel⟩

end Optimizer

end RelPlan
