import RelPlan.Proofs.Optimizer.Idempotence

/-!
# Columns and the tables that own them

A column for which no table is named is owned by the only table of a query, or by those of its
tables that are known to list it. Pushing projections down leaves a query alone if everything is
asked for or some column that is read is unowned, and warns of the first one in the latter case.
Otherwise every access keeps the names of the columns that are read of its table, those that name it
and those that it owns, and no other (`Query.pushProjections_required`). What is said in notes is
left out.

A query that is left alone keeps what an earlier run put in it, so that run decides whether a column
is left out that is needed now (`Query.keepsNeeded_pushProjections_iff`).
-/

namespace RelPlan

namespace Query

section Owners

variable {schema : Option Schema} {query : Query}

/-- Whether a table owns the columns of a name for which no table is named: it is the first table of
a query without joins, or a table of the query that is known to list the name. -/
def IsOwner (schema : Option Schema) (query : Query) (table name : String) : Prop :=
  if query.joins = [] then table = query.source.table
  else table ∈ query.tables ∧ ∃ known ∈ schema, known.lists table name = true

/-- The tables that may own a column are those that own it. -/
theorem mem_owners_iff {table name : String} :
    table ∈ query.owners schema name ↔ query.IsOwner schema table name := by
  rw [owners, List.mem_filter, owns, IsOwner]
  by_cases hjoins : query.joins = []
  · simp [hjoins, tables_eq]
  · cases schema <;> simp [hjoins]

/-- Whether no table is named for the column and none owns it. -/
def IsUnowned (schema : Option Schema) (query : Query) (column : ColumnRef) : Prop :=
  column.table = none ∧ ∀ table, ¬ query.IsOwner schema table column.name

/-- A column is unowned exactly if it names no table and there is none that may own it. -/
theorem isUnowned_iff {column : ColumnRef} :
    query.IsUnowned schema column ↔
      (column.table.isNone && (query.owners schema column.name).isEmpty) = true := by
  rw [Bool.and_eq_true, Option.isNone_iff_eq_none, List.isEmpty_iff, List.eq_nil_iff_forall_not_mem]
  simp only [mem_owners_iff, IsUnowned]

instance (column : ColumnRef) : Decidable (query.IsUnowned schema column) :=
  decidable_of_iff _ isUnowned_iff.symm

/-- Whether the column is the first unowned one that is read. -/
def IsFirstUnowned (schema : Option Schema) (query : Query) (column : ColumnRef) : Prop :=
  query.IsUnowned schema column ∧ ∃ before after : List ColumnRef,
    query.references = before ++ column :: after ∧ ∀ other ∈ before, ¬ query.IsUnowned schema other

/-- The column that is not resolved is the first unowned one. -/
theorem unresolved?_eq_some_iff {column : ColumnRef} :
    query.unresolved? schema = some column ↔ query.IsFirstUnowned schema column := by
  rw [unresolved?, List.find?_eq_some_iff_append, IsFirstUnowned, isUnowned_iff]
  simp only [isUnowned_iff, Bool.not_eq_true', Bool.not_eq_true]

/-- Every column is resolved exactly if none that is read is unowned. -/
theorem unresolved?_eq_none_iff :
    query.unresolved? schema = none ↔
      ∀ column ∈ query.references, ¬ query.IsUnowned schema column := by
  simp only [unresolved?, List.find?_eq_none, isUnowned_iff]

/-- Whether the column is one of those of the table: it names the table, or it names none and the
table owns it. -/
def IsColumnOf (schema : Option Schema) (query : Query) (table : String) (column : ColumnRef) :
    Prop :=
  column.table = some table ∨ column.table = none ∧ query.IsOwner schema table column.name

/-- A column counts as one of a table of the query when projections are pushed down if it is one. -/
theorem attributes_iff_isColumnOf {table : String} (htable : table ∈ query.tables)
    {column : ColumnRef} :
    query.attributes schema table column = true ↔ query.IsColumnOf schema table column := by
  unfold attributes IsColumnOf
  cases howner : column.table with
  | some owner => simp
  | none => simp [← mem_owners_iff, owners, htable]

end Owners

/-! ## Three cases -/

section Cases

variable {schema : Option Schema} {query : Query}

/-- Not everything is asked for exactly if there is a list of columns. -/
theorem isAll_eq_false_iff : query.select.isAll = false ↔ query.select ≠ .all := by
  cases query.select <;> simp [SelectList.isAll]

/-- A query with an unowned column stays as it is, with a warning about the first one. -/
theorem pushProjections_of_isFirstUnowned {column : ColumnRef} (hselect : query.select ≠ .all)
    (hfirst : query.IsFirstUnowned schema column) :
    query.pushProjections schema =
      (Revision.unchanged query).warn (.unresolvedColumn column.name) := by
  rw [pushProjections, if_neg (by simp [isAll_eq_false_iff.mpr hselect]),
    unresolved?_eq_some_iff.mpr hfirst]

/-- If no column is unowned then the columns that are read are kept of each table, without a
warning. -/
theorem query_pushProjections_of_owned (hselect : query.select ≠ .all)
    (howned : ∀ column ∈ query.references, ¬ query.IsUnowned schema column) :
    (query.pushProjections schema).query = query.keeping (query.required schema) ∧
      (query.pushProjections schema).warnings = [] := by
  rw [pushProjections, if_neg (by simp [isAll_eq_false_iff.mpr hselect]),
    unresolved?_eq_none_iff.mpr howned]
  exact ⟨rfl, rfl⟩

/-- The names that are required of a table of the query are those of its columns that are read. -/
theorem mem_required_iff_isColumnOf {table : String} (htable : table ∈ query.tables)
    {name : String} :
    name ∈ query.required schema table ↔
      ∃ column ∈ query.references, query.IsColumnOf schema table column ∧ column.name = name := by
  simp only [mem_required, attributes_iff_isColumnOf htable]

end Cases

/-- If everything is asked for, pushing projections down leaves a query as it is and warns of
nothing. If some column that is read is unowned, it leaves the query as it is and warns of the first
such column. Otherwise it warns of nothing, and every access keeps the names of the columns of its
table that are read and no other, whatever it kept before. A second time nothing changes. -/
theorem pushProjections_required (schema : Option Schema) (query : Query) :
    (query.select = .all →
      (query.pushProjections schema).query = query ∧
        (query.pushProjections schema).warnings = []) ∧
    (query.select ≠ .all → (∃ column ∈ query.references, query.IsUnowned schema column) →
      ∃ column, query.IsFirstUnowned schema column ∧
        (query.pushProjections schema).query = query ∧
        (query.pushProjections schema).warnings = [.unresolvedColumn column.name]) ∧
    (query.select ≠ .all → (∀ column ∈ query.references, ¬ query.IsUnowned schema column) →
      (query.pushProjections schema).warnings = [] ∧
      ∃ columns : String → NameSet, (query.pushProjections schema).query = query.keeping columns ∧
        ∀ table ∈ query.tables, ∀ name, name ∈ columns table ↔
          ∃ column ∈ query.references,
            query.IsColumnOf schema table column ∧ column.name = name) ∧
    ((query.pushProjections schema).query.pushProjections schema).query =
      (query.pushProjections schema).query := by
  refine ⟨fun hall => ?_, fun hselect ⟨column, hmem, hunowned⟩ => ?_, fun hselect howned => ?_,
    query.pushProjections_pushProjections schema⟩
  · rw [pushProjections, if_pos (by simp [hall, SelectList.isAll])]
    exact ⟨rfl, rfl⟩
  · have hsome : query.unresolved? schema ≠ none := fun hnone =>
      unresolved?_eq_none_iff.mp hnone column hmem hunowned
    obtain ⟨first, hfound⟩ := Option.ne_none_iff_exists'.mp hsome
    have hfirst := unresolved?_eq_some_iff.mp hfound
    refine ⟨first, hfirst, ?_⟩
    rw [pushProjections_of_isFirstUnowned hselect hfirst]
    exact ⟨rfl, rfl⟩
  · obtain ⟨hquery, hwarnings⟩ := query_pushProjections_of_owned hselect howned
    exact ⟨hwarnings, _, hquery, fun table htable name => mem_required_iff_isColumnOf htable⟩

/-- A column for which no table is named is asked for. The first table, of which another column was
kept, is joined once more, and the condition is about a table that is not there. -/
def askingFor (name : String) : Query where
  select := .columns [.bare name]
  source := ⟨"A", [], .ofList ["NOME"]⟩
  joins :=
    [.ofTable "B" [.compare ⟨.column (.qualified "A" "ID"), .eq, .column (.qualified "B" "ID")⟩],
     .ofTable "A" []]
  filter := [.compare ⟨.column (.qualified "C" "Z"), .eq, .column (.bare "Y")⟩]

/-- Two tables own the column `ID`, so both keep it at every access. No table owns the column `Z`,
so nothing changes. -/
theorem pushProjections_required_askingFor :
    (askingFor "ID").select ≠ .all ∧
      (∀ column ∈ (askingFor "ID").references,
        ¬ (askingFor "ID").IsUnowned (some Optimizer.listedSchema) column) ∧
      ((askingFor "ID").pushProjections (some Optimizer.listedSchema)).warnings = [] ∧
      ((askingFor "ID").pushProjections (some Optimizer.listedSchema)).query.projections =
        [("A", .ofList ["ID"]), ("B", .ofList ["ID", "Y"]), ("A", .ofList ["ID"])] ∧
      (askingFor "Z").IsUnowned (some Optimizer.listedSchema) (.bare "Z") ∧
      ((askingFor "Z").pushProjections (some Optimizer.listedSchema)).query = askingFor "Z" ∧
      ((askingFor "Z").pushProjections (some Optimizer.listedSchema)).warnings =
        [.unresolvedColumn "Z"] := by
  have hselect (name : String) : (askingFor name).select ≠ .all := by simp [askingFor]
  have howned : ∀ column ∈ (askingFor "ID").references,
      ¬ (askingFor "ID").IsUnowned (some Optimizer.listedSchema) column := by decide +kernel
  have hunowned : (askingFor "Z").IsUnowned (some Optimizer.listedSchema) (.bare "Z") := by
    decide +kernel
  obtain ⟨-, -, hkept, -⟩ := pushProjections_required (some Optimizer.listedSchema) (askingFor "ID")
  obtain ⟨-, hleft, -, -⟩ := pushProjections_required (some Optimizer.listedSchema) (askingFor "Z")
  obtain ⟨_, -, hquery, -⟩ := hleft (hselect "Z") ⟨.bare "Z", by decide, hunowned⟩
  exact ⟨hselect "ID", howned, (hkept (hselect "ID") howned).1, by decide +kernel, hunowned, hquery,
    by decide +kernel⟩

/-! ## Columns that were kept before -/

/-- No access leaves out a column that is needed: every access keeps all columns, or, unless
everything is asked for, at least those that are read and name its table. -/
structure KeepsNeeded (query : Query) : Prop where
  all : query.select = .all →
    ∀ source ∈ query.sources, source.access.projection.isEmpty = true
  named : query.select ≠ .all →
    ∀ source ∈ query.sources, source.access.projection.isEmpty = true ∨
      ∀ column, query.Reads column → column.table = some source.table →
        column.name ∈ source.access.projection

/-- Restricting accesses to the columns that are read leaves out none that is needed, unless
everything is asked for. -/
theorem KeepsNeeded.restrict (schema : Option Schema) {query : Query}
    (hselect : query.select ≠ .all) : (query.restrict schema).KeepsNeeded where
  all hall := absurd hall hselect
  named _ source hsource :=
    (KeepsReads.restrict query source hsource).imp_right fun hkept column hreads htable =>
      hkept column hreads (.inl htable)

/-- After projections are pushed down no access leaves out a column that is needed exactly if none
did before, or the accesses are restricted anew: not everything is asked for, and no column that is
read is unowned. -/
theorem keepsNeeded_pushProjections_iff (schema : Option Schema) (query : Query) :
    (query.pushProjections schema).query.KeepsNeeded ↔
      query.KeepsNeeded ∨ query.select ≠ .all ∧
        ∀ column ∈ query.references, ¬ query.IsUnowned schema column := by
  by_cases hanew : query.select ≠ .all ∧
      ∀ column ∈ query.references, ¬ query.IsUnowned schema column
  · have hquery : (query.pushProjections schema).query = query.restrict schema :=
      (query_pushProjections_of_owned hanew.1 hanew.2).1
    rw [hquery]
    exact ⟨fun _ => .inr hanew, fun _ => .restrict schema hanew.1⟩
  · have hquery : (query.pushProjections schema).query = query := by
      refine (query.query_pushProjections schema).resolve_right fun ⟨hselect, howned, _⟩ => ?_
      exact hanew ⟨isAll_eq_false_iff.mp hselect, unresolved?_eq_none_iff.mp howned⟩
    rw [hquery]
    exact (or_iff_left hanew).symm

/-- Some columns are asked for of a join of two tables, of which the first one keeps only the column
`X`. -/
def narrowed (select : SelectList) : Query where
  select := select
  source := ⟨"A", [], .ofList ["X"]⟩
  joins :=
    [.ofTable "B" [.compare ⟨.column (.qualified "A" "ID"), .eq, .column (.qualified "B" "ID")⟩]]
  filter := []

/-- If everything is asked for, or some column is unowned, then the first table still keeps only `X`
after projections are pushed down, although all its columns are needed or at least `ID` is. -/
theorem not_keepsNeeded_pushProjections_narrowed :
    ¬ ((narrowed .all).pushProjections none).query.KeepsNeeded ∧
      ¬ ((narrowed (.columns [.bare "Z"])).pushProjections none).query.KeepsNeeded := by
  have hall : ((narrowed .all).pushProjections none).query = narrowed .all := by decide
  have hnamed : ((narrowed (.columns [.bare "Z"])).pushProjections none).query =
      narrowed (.columns [.bare "Z"]) := by decide
  have hkept : (narrowed .all).source.access.projection.isEmpty ≠ true := by decide
  rw [hall, hnamed]
  refine ⟨fun h => hkept (h.all rfl _ List.mem_cons_self), fun h => ?_⟩
  have hreads : (narrowed (.columns [.bare "Z"])).Reads (.qualified "A" "ID") :=
    mem_references_iff_reads.mp (by decide)
  rcases h.named (by simp [narrowed]) _ List.mem_cons_self with hempty | hneeded
  · exact hkept hempty
  · exact absurd (NameSet.contains_iff.mpr (hneeded _ hreads rfl)) (by decide)

end Query

end RelPlan
