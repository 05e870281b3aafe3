import RelPlan.Proofs.Optimizer.Meaning

/-!
# Columns that are kept

What pushing projections down keeps of each table depends on which columns a query reads and on its
tables, but neither on where its predicates are nor on the order of its joins
(`Query.ConservedBy.keptColumns?_eq`). So what was kept at some step stays enough at all later ones,
whatever heuristics are applied in between (`Optimizer.keepsReads_of_mem_steps`).
-/

namespace RelPlan

/-- The join with the given columns kept of its table. -/
def Join.keeping (columns : String → NameSet) (join : Join) : Join :=
  { join with access.projection := columns join.table }

namespace Query

/-! ## What queries that conserve each other share -/

namespace ConservedBy

variable {old new : Query}

/-- The tables of the joins are the same in some order. -/
theorem joined_perm (h : old.ConservedBy new) :
    (new.joins.map (·.table)).Perm (old.joins.map (·.table)) := by
  obtain ⟨joins, hperm, hext⟩ := h.joins
  have htables : List.Forall₂ (· = ·) (joins.map (·.table)) (new.joins.map (·.table)) := by
    rw [List.forall₂_map_left_iff, List.forall₂_map_right_iff]
    exact hext.imp fun _ _ hjoin => hjoin.table.symm
  rw [List.forall₂_eq_eq_eq] at htables
  exact htables ▸ hperm.map _

/-- A query that conserves another one has the same tables in some order. -/
theorem tables_perm (h : old.ConservedBy new) : new.tables.Perm old.tables := by
  rw [tables_eq, tables_eq, h.table]
  exact h.joined_perm.cons _

/-- A query that conserves another one has joins exactly if that has some. -/
theorem isEmpty_joins (h : old.ConservedBy new) : new.joins.isEmpty = old.joins.isEmpty := by
  have hempty := h.joined_perm.isEmpty_eq
  rwa [List.isEmpty_map, List.isEmpty_map] at hempty

/-- The same columns are read. -/
theorem mem_references_iff (h : old.ConservedBy new) (column : ColumnRef) :
    column ∈ new.references ↔ column ∈ old.references := by
  refine ⟨fun hcolumn => h.references_subset hcolumn, fun hcolumn => ?_⟩
  rw [references_eq, List.mem_append] at hcolumn ⊢
  cases hcolumn with
  | inl hnamed => exact .inl (h.select.symm ▸ hnamed)
  | inr hmem =>
    obtain ⟨predicate, hpredicate, hmem⟩ := List.mem_flatMap.mp hmem
    obtain ⟨counterpart, hcounterpart, hequiv⟩ := h.kept predicate hpredicate
    exact .inr (List.mem_flatMap.mpr ⟨counterpart, hcounterpart,
      (Predicate.mem_columns_of_equivalent hequiv column).mp hmem⟩)

/-- The same tables may own a column. -/
theorem owns_eq (h : old.ConservedBy new) (schema : Option Schema) :
    new.owns schema = old.owns schema := by
  funext table column
  rw [owns, owns, h.isEmpty_joins]

/-- The same columns of a table are read. -/
theorem required_eq (h : old.ConservedBy new) (schema : Option Schema) :
    new.required schema = old.required schema := by
  funext table
  refine NameSet.ext_mem fun name => ?_
  simp only [mem_required, h.mem_references_iff, attributes, h.owns_eq]

/-- Some column may belong to any table of the one query if that is so for the other one. -/
theorem isSome_unresolved? (h : old.ConservedBy new) (schema : Option Schema) :
    (new.unresolved? schema).isSome = (old.unresolved? schema).isSome := by
  have howners (column : String) :
      (new.owners schema column).isEmpty = (old.owners schema column).isEmpty := by
    rw [owners, owners, h.owns_eq]
    exact (h.tables_perm.filter _).isEmpty_eq
  rw [Bool.eq_iff_iff]
  simp only [unresolved?, List.find?_isSome, h.mem_references_iff, howners]

end ConservedBy

/-! ## What is kept -/

/-- The columns to keep of each table, unless everything is asked for or some column may belong to
any table. -/
def keptColumns? (schema : Option Schema) (query : Query) : Option (String → NameSet) :=
  if query.select.isAll || (query.unresolved? schema).isSome then none
  else some (query.required schema)

/-- The query with the given columns kept of each table. -/
def keeping (columns : String → NameSet) (query : Query) : Query :=
  { query with
    source.access.projection := columns query.source.table
    joins := query.joins.map (Join.keeping columns) }

/-- Pushing projections down keeps the columns to keep, if there are any to say. -/
theorem query_pushProjections_eq (schema : Option Schema) (query : Query) :
    (query.pushProjections schema).query =
      (query.keptColumns? schema).elim query fun columns => query.keeping columns := by
  unfold pushProjections keptColumns?
  cases query.select.isAll with
  | true => rfl
  | false =>
    cases query.unresolved? schema <;> rfl

/-- The columns to keep are the same wherever predicates are and however joins are ordered. -/
theorem ConservedBy.keptColumns?_eq {old new : Query} (h : old.ConservedBy new)
    (schema : Option Schema) : new.keptColumns? schema = old.keptColumns? schema := by
  rw [keptColumns?, keptColumns?, h.select, h.isSome_unresolved?, h.required_eq]

/-- A query in which the given columns are kept of each table already stays as it is. -/
theorem keeping_eq_self {columns : String → NameSet} {query : Query}
    (h : ∀ entry ∈ query.projections, entry.2 = columns entry.1) :
    query.keeping columns = query := by
  have hsource : query.source.access.projection = columns query.source.table :=
    h (query.source.table, query.source.access.projection) List.mem_cons_self
  have hjoins : query.joins.map (Join.keeping columns) = query.joins := by
    have hjoin : ∀ join ∈ query.joins, join.keeping columns = join := by
      intro join hmem
      have hkept : join.access.projection = columns join.table :=
        h (join.table, join.access.projection)
          (List.mem_cons_of_mem _ (List.mem_map_of_mem (List.mem_map_of_mem hmem)))
      rw [Join.keeping, ← hkept]
    exact (List.map_congr_left hjoin).trans (List.map_id _)
  rw [keeping, hjoins, ← hsource]

/-- Of each table the given columns are kept. -/
theorem eq_of_mem_projections_keeping {columns : String → NameSet} {query : Query}
    {entry : String × NameSet} (h : entry ∈ (query.keeping columns).projections) :
    entry.2 = columns entry.1 := by
  simp only [projections, sources, keeping, List.map_cons, List.map_map, List.mem_cons,
    List.mem_map] at h
  rcases h with rfl | ⟨join, -, rfl⟩ <;> rfl

/-- Every heuristic but pushing projections down keeps the same columns of the tables. -/
theorem projections_perm_apply (knowledge : Knowledge) {heuristic : Heuristic}
    (hheuristic : heuristic ≠ .projectionPushdown) (query : Query) :
    (heuristic.apply knowledge query).query.projections.Perm query.projections := by
  have hjoins {query : Query} {joins : List Join} (hperm : joins.Perm query.joins) :
      (projections { query with joins := joins }).Perm query.projections := by
    simp only [projections, sources, List.map_cons, List.map_map]
    exact (hperm.map _).cons _
  cases heuristic with
  | selectionPushdown =>
    change query.pushSelections.query.projections.Perm query.projections
    rw [projections_of_reflTransGen (reflTransGen_moves_pushSelections query)]
  | projectionPushdown => exact absurd rfl hheuristic
  | cartesianAvoidance =>
    obtain ⟨moved, hmoves, heq⟩ := exists_moves_avoidProducts query
    change query.avoidProducts.query.projections.Perm query.projections
    rw [heq, ← projections_of_reflTransGen hmoves]
    exact hjoins (productsLast_perm moved.joins)
  | joinReordering =>
    change (query.orderJoins knowledge.statistics).query.projections.Perm query.projections
    rcases query_orderJoins knowledge.statistics query with heq | heq <;> rw [heq]
    exact hjoins (map_ordered_perm knowledge.statistics query)

/-! ## What is kept is enough -/

/-- Whether a query reads a column: it is asked for, or some predicate is about it. -/
def Reads (query : Query) (column : ColumnRef) : Prop :=
  column ∈ query.select.named ∨ ∃ predicate ∈ query.predicates, column ∈ predicate.columns

/-- Whether a column is one of those of a table of the query: it names the table, or it names none
and the table is the only one or is known to list the column. -/
def Attributed (schema : Option Schema) (query : Query) (table : String) (column : ColumnRef) :
    Prop :=
  column.table = some table ∨
    column.table = none ∧
      (query.joins = [] ∧ table = query.source.table ∨
        ∃ known ∈ schema, known.lists table column.name = true)

/-- Whether every access keeps all columns, or at least those of its table that are read. -/
def KeepsReads (schema : Option Schema) (query : Query) : Prop :=
  ∀ source ∈ query.sources, source.access.projection.isEmpty = true ∨
    ∀ column, query.Reads column → query.Attributed schema source.table column →
      column.name ∈ source.access.projection

/-- The columns that a query refers to are those that it reads. -/
theorem mem_references_iff_reads {query : Query} {column : ColumnRef} :
    column ∈ query.references ↔ query.Reads column := by
  simp [references_eq, Reads, Conjunction.columns]

/-- A column that is attributed to a table counts as one of the table when projections are pushed
down. -/
theorem attributes_of_attributed {schema : Option Schema} {query : Query} {table : String}
    {column : ColumnRef} (h : query.Attributed schema table column) :
    query.attributes schema table column = true := by
  unfold attributes
  rcases h with htable | ⟨htable, ⟨hjoins, -⟩ | ⟨known, rfl, hlists⟩⟩
  · simp [htable]
  · simp [htable, owns, hjoins]
  · simp [htable, owns, hlists]

namespace ConservedBy

variable {old new : Query}

/-- A query that conserves another one reads no other columns. -/
theorem reads_of_reads (h : old.ConservedBy new) {column : ColumnRef} (hreads : new.Reads column) :
    old.Reads column := by
  rw [← mem_references_iff_reads] at hreads ⊢
  exact h.references_subset hreads

/-- A query that conserves another one does not attribute columns to other tables. -/
theorem attributed_of_attributed (h : old.ConservedBy new) {schema : Option Schema}
    {table : String} {column : ColumnRef} (hattributed : new.Attributed schema table column) :
    old.Attributed schema table column := by
  have hjoins : old.joins = [] ↔ new.joins = [] := by
    rw [← List.isEmpty_iff, ← List.isEmpty_iff, h.isEmpty_joins]
  rwa [Attributed, h.table, ← hjoins] at hattributed

end ConservedBy

namespace KeepsReads

variable {schema : Option Schema}

/-- What is kept stays enough if no other columns are kept and no other columns are read. -/
theorem of_conservedBy {old new : Query} (h : old.KeepsReads schema)
    (hconserved : old.ConservedBy new) (hprojections : new.projections.Perm old.projections) :
    new.KeepsReads schema := by
  intro source hsource
  have hentry : (source.table, source.access.projection) ∈ old.projections :=
    hprojections.subset (List.mem_map_of_mem hsource)
  obtain ⟨before, hbefore, heq⟩ := List.mem_map.mp hentry
  obtain ⟨htable, hprojection⟩ := Prod.mk.inj heq
  rw [← htable, ← hprojection]
  refine (h before hbefore).imp_right fun hkept column hreads hattributed => ?_
  exact hkept column (hconserved.reads_of_reads hreads)
    (hconserved.attributed_of_attributed hattributed)

/-- Restricting accesses to the columns that are read keeps enough. -/
theorem restrict (query : Query) : (query.restrict schema).KeepsReads schema := by
  have hconserved := conservedBy_restrict schema query
  intro source hsource
  have hkept : source.access.projection = query.required schema source.table := by
    rcases List.mem_cons.mp hsource with rfl | hmem
    · rfl
    · obtain ⟨_, hjoin, rfl⟩ := List.mem_map.mp hmem
      obtain ⟨join, -, rfl⟩ := List.mem_map.mp hjoin
      rfl
  rw [hkept]
  refine .inr fun column hreads hattributed => mem_required.mpr ⟨column, ?_, ?_, rfl⟩
  · exact mem_references_iff_reads.mpr (hconserved.reads_of_reads hreads)
  · exact attributes_of_attributed (hconserved.attributed_of_attributed hattributed)

/-- Every heuristic keeps enough columns. -/
theorem apply {knowledge : Knowledge} {query : Query} (h : query.KeepsReads knowledge.schema)
    (heuristic : Heuristic) :
    (heuristic.apply knowledge query).query.KeepsReads knowledge.schema := by
  by_cases hheuristic : heuristic = .projectionPushdown
  · subst hheuristic
    change (query.pushProjections knowledge.schema).query.KeepsReads knowledge.schema
    rcases query_pushProjections knowledge.schema query with heq | ⟨-, -, heq⟩ <;> rw [heq]
    · exact h
    · exact restrict query
  · exact h.of_conservedBy (conservedBy_apply knowledge heuristic query)
      (projections_perm_apply knowledge hheuristic query)

end KeepsReads

end Query

namespace Optimizer

/-- A property that every heuristic of an optimizer keeps holds after every step. -/
theorem forall_mem_steps {P : Query → Prop} {optimizer : Optimizer}
    (hstep : ∀ heuristic ∈ optimizer.heuristics, ∀ query : Query,
      P query → P (heuristic.apply optimizer.knowledge query).query)
    {query : Query} (hquery : P query) :
    ∀ step ∈ (optimizer.optimize query).steps, P step.revision.query := by
  obtain ⟨heuristics, knowledge⟩ := optimizer
  induction heuristics generalizing query with
  | nil => simp [optimize, applyAll]
  | cons heuristic heuristics ih =>
    have hfirst := hstep heuristic List.mem_cons_self query hquery
    refine List.forall_mem_cons.mpr ⟨hfirst, ?_⟩
    exact ih hfirst fun other hother => hstep other (List.mem_cons_of_mem _ hother)

/-- Take a query that is read from a text, and any heuristics in any order. After every step each
access keeps all columns of its table, or at least those that the query reads. -/
theorem keepsReads_of_mem_steps [Text.WordClass] {schema : Schema} {text : String} {query : Query}
    (optimizer : Optimizer) (hread : Query.ofText schema text = .ok query) :
    ∀ step ∈ (optimizer.optimize query).steps,
      step.revision.query.KeepsReads optimizer.knowledge.schema := by
  refine forall_mem_steps (fun heuristic _ current hcurrent => hcurrent.apply heuristic) ?_
  intro source hsource
  rw [(Query.isWritten_of_ofText hread).plain source hsource]
  exact .inl rfl

/-- Two tables of which only the first one has the column `NOME`. -/
def listedSchema : Schema :=
  (Schema.standard.addTable "A" ["ID", "NOME"]).addTable "B" ["ID", "Y"]

/-- Two tables that are joined, and a column for which no table is named. -/
def listedText (condition : String) : String :=
  "SELECT NOME FROM A INNER JOIN B ON A.ID = B.ID WHERE " ++ condition ++ ";"

/-- The query that such a text describes. -/
def listedQuery (filter : Conjunction) : Query :=
  .ofTable (.columns [.bare "NOME"]) "A"
    [.ofTable "B" [.compare ⟨.column (.qualified "A" "ID"), .eq, .column (.qualified "B" "ID")⟩]]
    filter

/-- A condition on one table, and one that the join has already. -/
def listedFilter : Conjunction :=
  [.compare ⟨.column (.qualified "B" "Y"), .eq, .literal (.number "1")⟩,
   .compare ⟨.column (.qualified "B" "ID"), .eq, .column (.qualified "A" "ID")⟩]

/-- Projections are pushed down before and after the condition is. -/
def projectingTwice : Optimizer :=
  ⟨[.projectionPushdown, .cartesianAvoidance, .selectionPushdown, .projectionPushdown],
    ⟨some listedSchema, none⟩⟩

/-- The columns that are read are kept, and one that is read in a filter is kept too. -/
theorem keepsReads_of_mem_steps_listed :
    Query.ofText listedSchema (listedText "B.Y = 1 AND B.ID = A.ID") =
        .ok (listedQuery listedFilter) ∧
      (∀ step ∈ (projectingTwice.optimize (listedQuery listedFilter)).steps,
        step.revision.query.KeepsReads (some listedSchema)) ∧
      (projectingTwice.optimize (listedQuery listedFilter)).query.projections =
        [("A", .ofList ["ID", "NOME"]), ("B", .ofList ["ID", "Y"])] := by
  have hread : Query.ofText listedSchema (listedText "B.Y = 1 AND B.ID = A.ID") =
      .ok (listedQuery listedFilter) := by decide +kernel
  exact ⟨hread, keepsReads_of_mem_steps projectingTwice hread, by decide +kernel⟩

end Optimizer

end RelPlan
