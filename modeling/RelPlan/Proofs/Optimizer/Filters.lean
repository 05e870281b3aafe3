import RelPlan.Proofs.Optimizer.Placement
import RelPlan.Proofs.Optimizer.Projections

/-!
# Filters that are pushed down

Which access a conjunct moves to when selections are pushed down is known from the conjunct and the
tables of the query (`Query.accessFor?`): it is the first one to the table that the columns of the
conjunct name, if they name only one. `Query.pushSelections_accessFor` says where every conjunct
ends up. What a conjunct reads without naming a table has no part in this, so a filter may read a
column that its table does not have (`Query.pushSelections_unnamed_column`).
-/

namespace RelPlan

namespace Predicate

/-- Some columns of the predicate name the table, and none names another one. -/
def NamesOnly (predicate : Predicate) (table : String) : Prop :=
  (∃ column ∈ predicate.columns, column.table = some table) ∧
    ∀ column ∈ predicate.columns, ∀ owner, column.table = some owner → owner = table

/-- A predicate names only one table exactly if that is the only one of its tables. -/
theorem namesOnly_iff {predicate : Predicate} {table : String} :
    predicate.NamesOnly table ↔ ∀ other, other ∈ predicate.tables ↔ other = table := by
  simp only [NamesOnly, mem_tables]
  constructor
  · rintro ⟨hsome, hevery⟩ other
    refine ⟨fun ⟨column, hcolumn, howner⟩ => hevery column hcolumn other howner, ?_⟩
    rintro rfl
    exact hsome
  · exact fun h => ⟨(h table).mpr rfl, fun column hcolumn owner howner =>
      (h owner).mp ⟨column, hcolumn, howner⟩⟩

/-- A predicate is about only one table if its columns name that and no other. -/
theorem onlyTable?_eq_some_iff {predicate : Predicate} {table : String} :
    predicate.onlyTable? = some table ↔ predicate.NamesOnly table := by
  rw [namesOnly_iff]
  constructor
  · intro h other
    refine ⟨eq_of_onlyTable? h, ?_⟩
    rintro rfl
    unfold onlyTable? at h
    split at h
    · next single hsingle =>
      rw [← NameSet.mem_toList, hsingle, ← Option.some.inj h]
      exact List.mem_singleton.mpr rfl
    · simp at h
  · intro h
    have hset : predicate.tables = .ofList [table] := by
      refine NameSet.ext_mem fun other => ?_
      rw [h, NameSet.mem_ofList, List.mem_singleton]
    rw [onlyTable?, hset]
    rfl

end Predicate

namespace Join

/-- The first access to a joined table is changed. -/
theorem getElem?_modifyAccess (table : String) (change : Access → Access) (joins : List Join)
    (index : Nat) :
    (modifyAccess table change joins)[index]? = joins[index]?.map fun join =>
      if (joins.map (·.table)).findIdx? (· == table) = some index then
        { join with access := change join.access }
      else join := by
  induction joins generalizing index with
  | nil => rfl
  | cons join joins ih =>
    by_cases h : join.table = table <;> cases index <;>
      simp [modifyAccess, List.findIdx?_cons, h, ih]

end Join

namespace Query

/-- The position of the access that a predicate moves to when selections are pushed down: the first
one to the only table that the predicate is about. -/
def accessFor? (query : Query) (predicate : Predicate) : Option Nat :=
  predicate.onlyTable?.bind fun table => query.tables.findIdx? (· == table)

/-- Where a predicate moves to depends on nothing but the tables of a query. -/
theorem accessFor?_of_tables_eq {query new : Query} (h : new.tables = query.tables) :
    new.accessFor? = query.accessFor? := by
  funext predicate
  rw [accessFor?, accessFor?, h]

/-- A predicate without an access to move to is not accepted. -/
theorem accessFor?_eq_none_iff {query : Query} {predicate : Predicate} :
    query.accessFor? predicate = none ↔
      Placement.filters.accepts query.tables predicate = false := by
  rw [Bool.eq_false_iff, ne_eq, Placement.accepts_filters_iff]
  simp only [accessFor?, Option.bind_eq_none_iff, List.findIdx?_eq_none_iff, beq_eq_false_iff_ne]
  constructor
  · rintro h ⟨table, hmem, honly⟩
    exact h table honly table hmem rfl
  · intro h table honly other hmem heq
    exact h ⟨table, heq ▸ hmem, honly⟩

/-- The first access to a table is changed. -/
theorem getElem?_sources_modifyAccess (query : Query) (table : String) (change : Access → Access)
    (index : Nat) :
    (query.modifyAccess table change).sources[index]? =
      query.sources[index]?.map fun source =>
        if query.tables.findIdx? (· == table) = some index then
          { source with access := change source.access }
        else source := by
  by_cases h : query.source.table = table
  · cases index <;>
      simp [modifyAccess, sources, tables_eq, List.findIdx?_cons, h, Function.comp_def]
  · cases index with
    | zero => simp [modifyAccess, sources, tables_eq, List.findIdx?_cons, h]
    | succ index =>
      -- Behind the first table, positions among the tables are those among the joins plus one.
      have hfound : query.tables.findIdx? (· == table) = some (index + 1) ↔
          (query.joins.map (·.table)).findIdx? (· == table) = some index := by
        simp [tables_eq, List.findIdx?_cons, h]
      simp only [modifyAccess, if_neg h, sources, List.getElem?_cons_succ, List.getElem?_map,
        Join.getElem?_modifyAccess, Option.map_map, hfound]
      refine congrArg (Option.map · _) (funext fun join => ?_)
      dsimp only [Function.comp_apply]
      split <;> rfl

/-- A predicate that is put in a filter is pushed onto the access it moves to. -/
theorem getElem?_sources_placeFilter (query : Query) (predicate : Predicate) (index : Nat) :
    (query.placeFilter predicate).sources[index]? = query.sources[index]?.map fun source =>
      if query.accessFor? predicate = some index then
        { source with access := source.access.push predicate }
      else source := by
  unfold placeFilter accessFor?
  cases predicate.onlyTable? with
  | none => simp
  | some table => exact getElem?_sources_modifyAccess query table (·.push predicate) index

/-- After some predicates are put in filters, each access has got those that move to it, in order.
-/
theorem getElem?_sources_putAll (query : Query) (predicates : List Predicate) (index : Nat) :
    (Placement.filters.putAll query predicates).sources[index]? =
      query.sources[index]?.map fun source =>
        { source with
          access := (predicates.filter (query.accessFor? · = some index)).foldl Access.push
            source.access } := by
  induction predicates generalizing query with
  | nil => simp [Placement.putAll]
  | cons predicate predicates ih =>
    have hput : Placement.filters.put query predicate = query.placeFilter predicate := rfl
    have htables : (query.placeFilter predicate).tables = query.tables :=
      Placement.filters.tables_put query predicate
    rw [Placement.putAll, List.foldl_cons, hput]
    refine (ih (query.placeFilter predicate)).trans ?_
    rw [getElem?_sources_placeFilter, accessFor?_of_tables_eq htables, Option.map_map]
    refine congrArg (Option.map · _) (funext fun source => ?_)
    by_cases h : query.accessFor? predicate = some index <;> simp [h]

/-- A name is found first where it stands and nowhere before. -/
theorem findIdx?_beq_eq_some_iff {names : List String} {name : String} {index : Nat} :
    names.findIdx? (· == name) = some index ↔
      names[index]? = some name ∧ name ∉ names.take index := by
  induction names generalizing index with
  | nil => simp
  | cons head tail ih =>
    by_cases h : head = name
    · cases index <;> simp [List.findIdx?_cons, h]
    · cases index <;> simp [List.findIdx?_cons, ih, h, Ne.symm h]

/-- A predicate moves to an access if its columns name the table of that access and no other, and no
earlier access is to the same table. -/
theorem accessFor?_eq_some_iff {query : Query} {predicate : Predicate} {index : Nat} :
    query.accessFor? predicate = some index ↔
      ∃ source, query.sources[index]? = some source ∧ predicate.NamesOnly source.table ∧
        source.table ∉ query.tables.take index := by
  simp only [accessFor?, Option.bind_eq_some_iff, Predicate.onlyTable?_eq_some_iff,
    findIdx?_beq_eq_some_iff]
  constructor
  · rintro ⟨table, hnames, htable, hfirst⟩
    rw [tables, List.getElem?_map, Option.map_eq_some_iff] at htable
    obtain ⟨source, hsource, rfl⟩ := htable
    exact ⟨source, hsource, hnames, hfirst⟩
  · rintro ⟨source, hsource, hnames, hfirst⟩
    refine ⟨source.table, hnames, ?_, hfirst⟩
    rw [tables, List.getElem?_map, hsource, Option.map_some]

/-- When selections are pushed down, the conjuncts without an access to move to stay in the
condition, and every access gets those that move to it and nothing else. These are the ones of which
some column names the table and none names another one; a column that names no table does not
matter. -/
theorem pushSelections_accessFor (query : Query) :
    query.pushSelections.query.filter = query.filter.filter (query.accessFor? · = none) ∧
      (∀ index : Nat, query.pushSelections.query.sources[index]? =
        query.sources[index]?.map fun source =>
          { source with
            access := (query.filter.filter (query.accessFor? · = some index)).foldl Access.push
              source.access }) ∧
      ∀ (predicate : Predicate) (index : Nat), query.accessFor? predicate = some index ↔
        ∃ source, query.sources[index]? = some source ∧ predicate.NamesOnly source.table ∧
          source.table ∉ query.tables.take index := by
  refine ⟨?_, fun index => ?_, fun predicate index => accessFor?_eq_some_iff⟩
  · rw [query_pushSelections_eq, Placement.filter_run]
    refine List.filter_congr fun predicate _ => ?_
    rw [Bool.eq_iff_iff, decide_eq_true_iff, accessFor?_eq_none_iff, Bool.not_eq_true']
  · rw [query_pushSelections_eq]
    exact getElem?_sources_putAll query query.filter index

/-- Compares a column of one table with a column for which no table is named. -/
def mixed : Predicate := .compare ⟨.column (.qualified "B" "Y"), .eq, .column (.bare "NOME")⟩

/-- A filter that is pushed down may read a column that only another table has: the conjunct moves
to the only table that it names. -/
theorem pushSelections_unnamed_column :
    ofText Optimizer.listedSchema (Optimizer.listedText "B.Y = NOME") =
        .ok (Optimizer.listedQuery [mixed]) ∧
      (Optimizer.listedQuery [mixed]).joins ≠ [] ∧
      .bare "NOME" ∈ mixed.columns ∧
      Optimizer.listedSchema.tablesListing "NOME" (Optimizer.listedQuery [mixed]).tables = ["A"] ∧
      (Optimizer.listedQuery [mixed]).pushSelections.query.filter = [] ∧
      ((Optimizer.listedQuery [mixed]).pushSelections.query.accessOf? "B").map (·.selection) =
        some [mixed] := by
  decide +kernel

end Query

end RelPlan
