import RelPlan.Proofs.Optimizer.Conservation
import RelPlan.Proofs.Optimizer.Scoping
import RelPlan.Proofs.Plan.Rows

/-!
# Heuristics that keep the rows of a query

The plan of a query gives the combinations of rows of its tables of which all its predicates
hold, shown as the query asks for (`Query.rows_ofQuery`), wherever the predicates are tested, as
long as each is tested when its tables are there and no column is dropped before it is read.
`Query.Resolved` says this of a query. Every heuristic but the ordering of joins keeps it, and
keeps the tables and, up to equivalence, the predicates, so it keeps the rows.
-/

namespace RelPlan

namespace Query

/-! ## Queries of which every column is resolved -/

/-- The tables of a query with the columns that are kept when they are accessed. -/
def projections (query : Query) : List (String × NameSet) :=
  query.sources.map fun source => (source.table, source.access.projection)

/-- Whether the names that are kept of a table are enough for what a query reads: they are all, or
not everything is asked for and the names of the table's columns that are read are among them. -/
def Keeps (query : Query) (table : String) (names : NameSet) : Prop :=
  names.isEmpty = true ∨
    query.select.isAll = false ∧ (∀ name ∈ names, '.' ∉ name.toList) ∧
      ∀ column ∈ query.references, column.table = some table → column.name ∈ names

/-- A query in scope that only reads columns of its tables without dots in their parts, and drops
none of them when the tables are accessed. -/
structure Resolved (query : Query) : Prop extends InScope query where
  owned : ∀ column ∈ query.references, column.IsOf query.tables
  undotted : ∀ column ∈ query.references, column.IsUndotted
  kept : ∀ entry ∈ query.projections, query.Keeps entry.1 entry.2

/-- What is read are the columns that are asked for and those of the predicates. -/
theorem references_eq (query : Query) :
    query.references = query.select.named ++ Conjunction.columns query.predicates := by
  simp [references, predicates, placed, Conjunction.columns, List.flatMap_assoc]

/-- Conjuncts among the predicates of a query have columns of the tables that they are about. -/
theorem Resolved.isOf_of_isAbout {query : Query} (h : query.Resolved) {conjunction : Conjunction}
    {tables : List String} (hsub : conjunction ⊆ query.predicates)
    (habout : conjunction.IsAbout tables) : ∀ column ∈ conjunction.columns, column.IsOf tables := by
  intro column hcolumn
  obtain ⟨predicate, hpredicate, hmem⟩ := List.mem_flatMap.mp hcolumn
  have hread : column ∈ query.references := by
    rw [references_eq]
    exact List.mem_append_right _ (List.mem_flatMap.mpr ⟨predicate, hsub hpredicate, hmem⟩)
  obtain ⟨table, -, heq⟩ := h.owned column hread
  exact ⟨table, habout predicate hpredicate table (Predicate.mem_tables.mpr ⟨column, hmem, heq⟩),
    heq⟩

/-! ## Rows that agree on what is read -/

section Rows

variable {V : Type} {query : Query}

/-- Whether a row can stand for another one in the answer to a query: each column that is read
picks the same from both, and they are the same if everything is asked for. -/
structure Agrees (query : Query) (kept row : Row V) : Prop where
  all : query.select.isAll = true → kept = row
  read : ∀ column ∈ query.references, kept.read column = row.read column

/-- Rows that stand for others in their parts stand for them as a whole. -/
theorem Agrees.append {kept row other more : Row V} (hfirst : query.Agrees kept row)
    (hsecond : query.Agrees other more) : query.Agrees (kept ++ other) (row ++ more) where
  all h := by rw [hfirst.all h, hsecond.all h]
  read column hcolumn := by
    rw [Row.read_append, Row.read_append, hfirst.read column hcolumn, hsecond.read column hcolumn]

/-- Combinations of rows agree with combinations of rows that these agree with. -/
theorem forall₂_agrees_product {lefts rights others more : List (Row V)}
    (hlefts : List.Forall₂ query.Agrees lefts others)
    (hrights : List.Forall₂ query.Agrees rights more) :
    List.Forall₂ query.Agrees (Row.product lefts rights) (Row.product others more) :=
  List.rel_flatMap hlefts fun _ _ hleft =>
    List.rel_map (fun _ _ hright => hleft.append hright) hrights

/-- Predicates of a query hold of rows that agree alike. -/
theorem forall₂_agrees_filter (truth : Truth V) {conjunction : Conjunction}
    {kept rows : List (Row V)} (hsub : conjunction ⊆ query.predicates)
    (h : List.Forall₂ query.Agrees kept rows) :
    List.Forall₂ query.Agrees (kept.filter (truth.all conjunction))
      (rows.filter (truth.all conjunction)) := by
  refine List.rel_filter (fun first second hagrees => ?_) h
  refine Bool.eq_iff_iff.mp (truth.all_congr fun column hcolumn => hagrees.read column ?_)
  obtain ⟨predicate, hpredicate, hmem⟩ := List.mem_flatMap.mp hcolumn
  rw [references_eq]
  exact List.mem_append_right _ (List.mem_flatMap.mpr ⟨predicate, hsub hpredicate, hmem⟩)

/-- A selection keeps rows, also if there is no condition. -/
theorem rows_filtered (truth : Truth V) (db : Database V) (condition : Conjunction) (input : Plan) :
    (Plan.filtered condition input).rows truth db =
      (input.rows truth db).filter (truth.all condition) := by
  unfold Plan.filtered
  split
  · next h =>
    rw [List.isEmpty_iff.mp h]
    exact (List.filter_eq_self.mpr fun row _ => truth.all_nil row).symm
  · rfl

/-- A join is a selection from a product, also if there is no condition. -/
theorem rows_addJoin (truth : Truth V) (db : Database V) (left : Plan) (join : Join) :
    (Plan.addJoin left join).rows truth db =
      (Row.product (left.rows truth db) ((Plan.ofSource join.toSource).rows truth db)).filter
        (truth.all join.condition) := by
  unfold Plan.addJoin
  split
  · rfl
  · next h =>
    have hnil : join.condition = [] := by simpa [Join.hasCondition] using h
    rw [hnil]
    exact (List.filter_eq_self.mpr fun row _ => truth.all_nil row).symm

/-- The rows of an access agree with those of the table of which its filter holds. -/
theorem Resolved.forall₂_rows_ofSource (h : query.Resolved) (truth : Truth V) (db : Database V)
    {source : Source} (hsource : source ∈ query.sources) :
    List.Forall₂ query.Agrees ((Plan.ofSource source).rows truth db)
      ((db.rows source.table).filter (truth.all source.access.selection)) := by
  unfold Plan.ofSource Plan.restricted
  split
  · rw [rows_filtered]
    exact List.forall₂_same.mpr fun row _ => ⟨fun _ => rfl, fun _ _ => rfl⟩
  · next hnames =>
    obtain ⟨hall, hundotted, hread⟩ :=
      (h.kept _ (List.mem_map_of_mem hsource)).resolve_left hnames
    rw [Plan.rows, rows_filtered, List.forall₂_map_left_iff]
    refine List.forall₂_same.mpr fun row hrow => ⟨fun hselect => ?_, fun column hcolumn => ?_⟩
    · rw [hall] at hselect
      exact absurd hselect Bool.false_ne_true
    have hof := Database.isOf_of_mem_rows (List.mem_of_mem_filter hrow)
    have hcolumns : source.access.projection.toList.map ColumnRef.ofText =
        source.access.projection.toList.map .bare :=
      List.map_congr_left fun name hname => ColumnRef.ofText_of_not_mem (hundotted name hname)
    obtain ⟨table, -, htable⟩ := h.owned column hcolumn
    by_cases heq : table = source.table
    · rw [hcolumns]
      refine Row.read_restrict row ?_ (hread column hcolumn (heq ▸ htable))
      exact source.access.projection.sorted.imp fun hlt => String.ne_of_lt hlt
    · have hnot : table ∉ [source.table] := by simpa using heq
      rw [Row.read_eq_nil (hof.restrict _) htable hnot, Row.read_eq_nil hof htable hnot]

/-- What joins test is the same on parts of rows and on combinations of them. -/
theorem Resolved.product_filter (h : query.Resolved) (truth : Truth V) (db : Database V)
    {there : List String} {done : Conjunction} {join : Join} (hjoin : join ∈ query.joins)
    (hthere : join.table ∉ there) (hdone : ∀ column ∈ done.columns, column.IsOf there) :
    (Row.product ((db.product there).filter (truth.all done))
        ((db.rows join.table).filter (truth.all join.access.selection))).filter
          (truth.all join.condition) =
      (db.product (there ++ [join.table])).filter
        (truth.all (done ++ (join.condition ++ join.access.selection))) := by
  have hselection : ∀ column ∈ join.access.selection.columns, column.IsOf [join.table] := by
    refine h.isOf_of_isAbout (fun predicate hmem => ?_) (h.selection_of_mem hjoin)
    exact mem_predicates.mpr (.inr (mem_placed.mpr (.inr ⟨join, hjoin, .inr hmem⟩)))
  have hboth : ∀ left ∈ db.product there, ∀ right ∈ db.rows join.table,
      (truth.all done (left ++ right) && truth.all join.access.selection (left ++ right)) =
        (truth.all done left && truth.all join.access.selection right) := by
    intro left hleft right hright
    rw [truth.all_append_left hdone (Database.isOf_of_mem_rows hright),
      truth.all_append_right hselection (Database.isOf_of_mem_product hleft)]
    · simpa using hthere
    · rintro table htable hmem
      exact hthere (List.mem_singleton.mp hmem ▸ htable)
  rw [Row.product_filter (fun row => truth.all done row && truth.all join.access.selection row)
      hboth, List.filter_filter, Database.product_concat]
  refine List.filter_congr fun row _ => ?_
  simp only [Truth.all_append]
  exact Bool.and_left_comm ..

/-- The rows that joins give agree with the combinations of rows of which everything holds that is
tested. -/
theorem Resolved.forall₂_rows_foldl (h : query.Resolved) (truth : Truth V) (db : Database V)
    {joins : List Join} {there : List String} {done : Conjunction} {left : Plan}
    (hjoins : joins ⊆ query.joins) (hscoped : Join.WellScoped there joins)
    (hdistinct : (there ++ joins.map (·.table)).Nodup)
    (hdone : ∀ column ∈ done.columns, column.IsOf there)
    (hleft : List.Forall₂ query.Agrees (left.rows truth db)
      ((db.product there).filter (truth.all done))) :
    List.Forall₂ query.Agrees ((joins.foldl Plan.addJoin left).rows truth db)
      ((db.product (there ++ joins.map (·.table))).filter
        (truth.all
          (done ++ joins.flatMap fun join => join.condition ++ join.access.selection))) := by
  induction joins generalizing there done left with
  | nil => simpa using hleft
  | cons join joins ih =>
    obtain ⟨hjoin, hjoins⟩ := List.cons_subset.mp hjoins
    obtain ⟨hcondition, hscoped⟩ := hscoped
    have hthere : join.table ∉ there := fun hmem =>
      (List.nodup_append.mp hdistinct).2.2 _ hmem _ (by simp) rfl
    have hplaced : join.condition ++ join.access.selection ⊆ query.predicates := by
      intro predicate hmem
      have hmem := List.mem_append.mp hmem
      exact mem_predicates.mpr (.inr (mem_placed.mpr (.inr ⟨join, hjoin, hmem⟩)))
    have hcolumns : ∀ column ∈ Conjunction.columns (join.condition ++ join.access.selection),
        column.IsOf (there ++ [join.table]) := by
      refine h.isOf_of_isAbout hplaced (Conjunction.isAbout_append.mpr ⟨hcondition, ?_⟩)
      exact (h.selection_of_mem hjoin).mono (List.subset_append_right _ _)
    have hstep : List.Forall₂ query.Agrees ((Plan.addJoin left join).rows truth db)
        ((db.product (there ++ [join.table])).filter
          (truth.all (done ++ (join.condition ++ join.access.selection)))) := by
      rw [rows_addJoin, ← h.product_filter truth db hjoin hthere hdone]
      apply forall₂_agrees_filter truth (List.append_subset.mp hplaced).1
      exact forall₂_agrees_product hleft (h.forall₂_rows_ofSource truth db
        (List.mem_cons_of_mem _ (List.mem_map_of_mem hjoin)))
    have hrest := ih hjoins hscoped (by simpa using hdistinct) (fun column hcolumn => ?_) hstep
    · simpa using hrest
    · rw [Conjunction.columns, List.flatMap_append, List.mem_append] at hcolumn
      cases hcolumn with
      | inl hold =>
        obtain ⟨table, htable, heq⟩ := hdone column hold
        exact ⟨table, List.mem_append_left _ htable, heq⟩
      | inr hnew => exact hcolumns column hnew

/-- The rows of all joins agree with the combinations of rows of which all placed predicates
hold. -/
theorem Resolved.forall₂_rows_joined (h : query.Resolved) (truth : Truth V) (db : Database V) :
    List.Forall₂ query.Agrees ((Plan.joined query).rows truth db)
      ((db.product query.tables).filter (truth.all query.placed)) := by
  have hsource : ∀ column ∈ query.source.access.selection.columns,
      column.IsOf [query.source.table] := by
    refine h.isOf_of_isAbout (fun predicate hmem => ?_) (h.selections _ List.mem_cons_self)
    exact mem_predicates.mpr (.inr (mem_placed.mpr (.inl hmem)))
  have hdistinct := h.distinct
  rw [tables_eq] at hdistinct ⊢
  have hmem : query.source ∈ query.sources := List.mem_cons_self
  have hfirst := h.forall₂_rows_ofSource truth db hmem
  rw [← Database.product_singleton] at hfirst
  exact h.forall₂_rows_foldl truth db (List.Subset.refl _) h.joins hdistinct hsource hfirst

/-- The rows that are selected agree with the combinations of rows of which all predicates hold. -/
theorem Resolved.forall₂_rows_selected (h : query.Resolved) (truth : Truth V)
    (db : Database V) :
    List.Forall₂ query.Agrees ((Plan.selected query).rows truth db)
      ((db.product query.tables).filter (truth.all query.predicates)) := by
  have hfilter := forall₂_agrees_filter truth (List.subset_append_left _ query.placed)
    (h.forall₂_rows_joined truth db)
  have hall : truth.all query.predicates =
      fun row => truth.all query.filter row && truth.all query.placed row :=
    funext fun row => truth.all_append query.filter query.placed row
  rw [Plan.selected, rows_filtered, hall, ← List.filter_filter]
  exact hfilter

/-- The rows of a query are the combinations of rows of its tables of which all its predicates
hold, shown as the query asks for. -/
theorem Resolved.rows_ofQuery (h : query.Resolved) (truth : Truth V) (db : Database V) :
    (Plan.ofQuery query).rows truth db =
      ((db.product query.tables).filter (truth.all query.predicates)).map query.select.shown := by
  have hselected := h.forall₂_rows_selected truth db
  unfold Plan.ofQuery
  split
  · next hselect =>
    have heq := hselected.imp fun _ _ hagrees => hagrees.all (by rw [hselect]; rfl)
    rw [List.forall₂_eq_eq_eq] at heq
    rw [heq, hselect]
    exact (List.map_id' _).symm
  · next columns hselect =>
    have hread {column : ColumnRef} (hcolumn : column ∈ columns) : column ∈ query.references := by
      rw [references_eq, hselect]
      exact List.mem_append_left _ hcolumn
    have htexts : (columns.map (·.text)).map ColumnRef.ofText = columns := by
      rw [List.map_map]
      refine (List.map_congr_left fun column hcolumn => ?_).trans (List.map_id columns)
      exact ColumnRef.ofText_text (h.undotted column (hread hcolumn))
    rw [Plan.rows, htexts, hselect, ← List.forall₂_eq_eq_eq]
    refine List.rel_map (fun first second hagrees => ?_) hselected
    exact List.flatMap_congr fun column hcolumn => hagrees.read column (hread hcolumn)

end Rows

/-! ## Heuristics keep columns resolved -/

/-- The tables of a query are those of which columns are kept. -/
theorem tables_eq_map_projections (query : Query) :
    query.tables = query.projections.map (·.1) := by
  simp [tables, projections]

/-- A move keeps the columns that are kept of every table. -/
theorem projections_of_moves {query moved : Query} (h : query.Moves moved) :
    moved.projections = query.projections := by
  cases h with
  | toSource => rfl
  | toAccess _ _ hjoins => simp [projections, sources, hjoins, Access.push]
  | toCondition _ _ hjoins => simp [projections, sources, hjoins]

/-- A run of moves keeps the columns that are kept of every table. -/
theorem projections_of_reflTransGen {query moved : Query}
    (h : Relation.ReflTransGen Moves query moved) : moved.projections = query.projections :=
  preserved_of_moves (P := fun current => current.projections = query.projections)
    (fun hmove hquery => (projections_of_moves hmove).trans hquery) h rfl

/-- Nothing else is read of a query that conserves another one. -/
theorem ConservedBy.references_subset {old new : Query} (h : old.ConservedBy new) :
    new.references ⊆ old.references := by
  intro column hcolumn
  rw [references_eq, List.mem_append] at hcolumn ⊢
  cases hcolumn with
  | inl hnamed => exact .inl (h.select ▸ hnamed)
  | inr hmem =>
    obtain ⟨predicate, hpredicate, hmem⟩ := List.mem_flatMap.mp hmem
    exact .inr (List.mem_flatMap.mpr ⟨predicate, h.original predicate hpredicate, hmem⟩)

namespace Resolved

variable {query new : Query}

/-- A query in scope that conserves one whose columns are resolved and drops no other columns has
its columns resolved. -/
theorem of_conservedBy (h : query.Resolved) (hscope : new.InScope)
    (hconserved : query.ConservedBy new) (hprojections : new.projections = query.projections) :
    new.Resolved where
  toInScope := hscope
  owned column hcolumn := by
    rw [tables_eq_map_projections, hprojections, ← tables_eq_map_projections]
    exact h.owned column (hconserved.references_subset hcolumn)
  undotted column hcolumn := h.undotted column (hconserved.references_subset hcolumn)
  kept entry hentry := by
    refine (h.kept entry (hprojections ▸ hentry)).imp_right fun ⟨hall, hundotted, hread⟩ => ?_
    refine ⟨hconserved.select ▸ hall, hundotted, fun column hcolumn => ?_⟩
    exact hread column (hconserved.references_subset hcolumn)

/-- Restricting accesses to the columns that are read keeps columns resolved. -/
theorem restrict (h : query.Resolved) (schema : Option Schema) (hall : query.select.isAll = false) :
    (query.restrict schema).Resolved where
  toInScope := h.toInScope.restrict schema
  owned column hcolumn := by
    have htables : (query.restrict schema).tables = query.tables := by
      simp [tables_eq, Query.restrict, Function.comp_def]
    rw [htables]
    exact h.owned column ((conservedBy_restrict schema query).references_subset hcolumn)
  undotted column hcolumn :=
    h.undotted column ((conservedBy_restrict schema query).references_subset hcolumn)
  kept entry hentry := by
    have hname : entry.2 = query.required schema entry.1 := by
      simp only [projections, sources, Query.restrict, List.map_cons, List.map_map, List.mem_cons,
        List.mem_map] at hentry
      rcases hentry with rfl | ⟨join, -, rfl⟩ <;> rfl
    rw [hname]
    refine .inr ⟨hall, fun name hmem => ?_, fun column hcolumn htable => ?_⟩
    · obtain ⟨column, hcolumn, -, rfl⟩ := mem_required.mp hmem
      exact (h.undotted column hcolumn).1
    · have hread := (conservedBy_restrict schema query).references_subset hcolumn
      exact mem_required.mpr ⟨column, hread, by simp [attributes, htable], rfl⟩

/-- Every heuristic but the ordering of joins keeps columns resolved and keeps the tables. -/
theorem apply (h : query.Resolved) (knowledge : Knowledge) {heuristic : Heuristic}
    (hheuristic : heuristic ≠ .joinReordering) :
    (heuristic.apply knowledge query).query.Resolved ∧
      (heuristic.apply knowledge query).query.tables = query.tables := by
  have hscope := h.toInScope.apply knowledge hheuristic
  have hconserved := conservedBy_apply knowledge heuristic query
  have hmoved (hprojections : (heuristic.apply knowledge query).query.projections =
      query.projections) :
      (heuristic.apply knowledge query).query.Resolved ∧
        (heuristic.apply knowledge query).query.tables = query.tables := by
    refine ⟨h.of_conservedBy hscope hconserved hprojections, ?_⟩
    rw [tables_eq_map_projections, hprojections, tables_eq_map_projections]
  cases heuristic with
  | selectionPushdown =>
    exact hmoved (projections_of_reflTransGen (reflTransGen_moves_pushSelections query))
  | projectionPushdown =>
    change (query.pushProjections knowledge.schema).query.Resolved ∧
      (query.pushProjections knowledge.schema).query.tables = query.tables
    rcases query_pushProjections knowledge.schema query with heq | ⟨hall, -, heq⟩ <;> rw [heq]
    · exact ⟨h, rfl⟩
    · refine ⟨h.restrict knowledge.schema hall, ?_⟩
      simp [tables_eq, Query.restrict, Function.comp_def]
  | cartesianAvoidance =>
    obtain ⟨moved, hmoves, heq⟩ := exists_moves_avoidProducts query
    have hinScope : moved.InScope :=
      preserved_of_moves (fun hmove hquery => InScope.moves hquery hmove) hmoves h.toInScope
    apply hmoved
    change query.avoidProducts.query.projections = query.projections
    rw [heq, hinScope.orderProducts_eq]
    exact projections_of_reflTransGen hmoves
  | joinReordering => exact absurd rfl hheuristic

variable {V : Type}

/-- Queries of the same tables whose columns are resolved have the same rows if one conserves the
other. -/
theorem rows_eq_of_conservedBy (h : query.Resolved) (hnew : new.Resolved)
    (hconserved : query.ConservedBy new) (htables : new.tables = query.tables) (truth : Truth V)
    (db : Database V) :
    (Plan.ofQuery new).rows truth db = (Plan.ofQuery query).rows truth db := by
  rw [h.rows_ofQuery, hnew.rows_ofQuery, htables, hconserved.select]
  refine congrArg _ (List.filter_congr fun row _ => Bool.eq_iff_iff.mpr ⟨?_, ?_⟩)
  · exact truth.all_of_equivalent hconserved.kept
  · refine truth.all_of_equivalent fun predicate hpredicate => ?_
    exact ⟨predicate, hconserved.original predicate hpredicate, Predicate.equivalent_self predicate⟩

end Resolved

/-- A query as it is written has its columns resolved if it is in scope and they are all of its
tables. -/
theorem IsWritten.resolved {query : Query} (h : query.IsWritten) (hscope : query.InScope)
    (howned : ∀ column ∈ query.references, column.IsOf query.tables) : query.Resolved where
  toInScope := hscope
  owned := howned
  undotted := h.undotted
  kept entry hentry := by
    obtain ⟨source, hsource, rfl⟩ := List.mem_map.mp hentry
    rw [h.plain source hsource]
    exact .inl rfl

end Query

/-- Take a query that is read from a text, of distinct tables, that only reads columns of its
tables, and in which the condition of every join is about tables that are there. Its plan gives the
same rows on every database after any heuristics, in any order, but the ordering of joins. -/
theorem Optimizer.rows_ofQuery_optimize [Text.WordClass] {V : Type} {schema : Schema}
    {text : String} {query : Query} (truth : Truth V) (db : Database V) (optimizer : Optimizer)
    (hread : Query.ofText schema text = .ok query) (hdistinct : query.tables.Nodup)
    (howned : ∀ column ∈ query.references, column.IsOf query.tables) (hscoped : query.WellScoped)
    (hheuristics : .joinReordering ∉ optimizer.heuristics) :
    (Plan.ofQuery (optimizer.optimize query).query).rows truth db =
      (Plan.ofQuery query).rows truth db := by
  have hwritten := Query.isWritten_of_ofText hread
  have hfilter : query.filter.IsAbout query.tables := by
    refine Conjunction.isAbout_of_columns fun column hcolumn => howned column ?_
    rw [Query.references_eq, Query.predicates, Conjunction.columns, List.flatMap_append]
    exact List.mem_append_right _ (List.mem_append_left _ hcolumn)
  have hquery := hwritten.resolved (hwritten.inScope hdistinct hscoped hfilter) howned
  refine (preserved_of_heuristics
    (P := fun current => current.Resolved ∧
      (Plan.ofQuery current).rows truth db = (Plan.ofQuery query).rows truth db)
    (fun heuristic hmem current hcurrent => ?_) ⟨hquery, rfl⟩).2
  obtain ⟨hcurrent, hrows⟩ := hcurrent
  have hne : heuristic ≠ .joinReordering := fun heq => hheuristics (heq ▸ hmem)
  obtain ⟨hresolved, htables⟩ := hcurrent.apply optimizer.knowledge hne
  have hconserved := Query.conservedBy_apply optimizer.knowledge heuristic current
  exact ⟨hresolved,
    (hcurrent.rows_eq_of_conservedBy hresolved hconserved htables truth db).trans hrows⟩

/-! ## An example -/

/-- The value of an operand: that of its column, or its constant. -/
def Operand.value? (values : ColumnRef → Option String) : Operand → Option String
  | column ref => values ref
  | literal (.number spelling) => some spelling
  | literal (.string value) => some value
  | literal .null => none

/-- Equalities compare the values of their sides; everything else holds of all rows. -/
def Truth.equalities : Truth String where
  holds
    | .compare ⟨left, .eq, right⟩, values => left.value? values == right.value? values
    | _, _ => true
  congr_columns predicate first second h := by
    have hside {operand : Operand}
        (hoperand : ∀ column ∈ operand.column?.toList, first column = second column) :
        operand.value? first = operand.value? second := by
      cases operand with
      | column ref => exact hoperand ref List.mem_cons_self
      | literal value => cases value <;> rfl
    split
    · next left right =>
      obtain ⟨hleft, hright⟩ := List.forall_mem_append.mp h
      rw [hside hleft, hside hright]
    · rfl
  congr_equivalent first second values h := by
    rcases Predicate.equivalent_iff.mp h with rfl | ⟨⟨left, op, right⟩, hop, rfl, rfl⟩
    · rfl
    · cases op with
      | eq => exact BEq.comm
      | notEq => rfl
      | _ => simp [CompareOp.isSymmetric] at hop

namespace Optimizer

/-- Two tables that are joined, with a condition on each of them and one on both. -/
def pairText : String :=
  "SELECT A.X FROM A INNER JOIN B ON A.ID = B.ID WHERE B.Y = 1 AND B.ID = A.ID AND A.Z = 2;"

/-- The query that the text describes. -/
def pair : Query :=
  .ofTable (.columns [.qualified "A" "X"]) "A"
    [.ofTable "B" [.compare ⟨.column (.qualified "A" "ID"), .eq, .column (.qualified "B" "ID")⟩]]
    [.compare ⟨.column (.qualified "B" "Y"), .eq, .literal (.number "1")⟩,
     .compare ⟨.column (.qualified "B" "ID"), .eq, .column (.qualified "A" "ID")⟩,
     .compare ⟨.column (.qualified "A" "Z"), .eq, .literal (.number "2")⟩]

/-- Rows of the two tables. -/
def pairRows : Database String
  | "A" => [[("ID", "1"), ("X", "kept"), ("Z", "2")], [("ID", "2"), ("X", "alone"), ("Z", "2")]]
  | "B" => [[("ID", "1"), ("Y", "1"), ("W", "5")], [("ID", "1"), ("Y", "0"), ("W", "6")]]
  | _ => []

/-- The query gives one row, before and after its conditions and columns are pushed down. -/
theorem rows_ofQuery_optimize_pair :
    Query.ofText .standard pairText = .ok pair ∧
      (Plan.ofQuery (optimize ⟨[.projectionPushdown, .cartesianAvoidance, .selectionPushdown,
        .projectionPushdown], .none⟩ pair).query).rows .equalities pairRows =
          [[(.qualified "A" "X", "kept")]] := by
  have hread : Query.ofText .standard pairText = .ok pair := by decide +kernel
  refine ⟨hread, ?_⟩
  rw [rows_ofQuery_optimize .equalities pairRows _ hread (by decide) (by decide) (by decide)
    (by decide)]
  decide

end Optimizer

end RelPlan
