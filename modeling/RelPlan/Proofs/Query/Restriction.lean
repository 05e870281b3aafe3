import RelPlan.Proofs.Query.WellFormed

/-!
# What a schema has to do with reading

A schema decides which texts are read as queries and has no say in which queries they are read as.
One schema is looser than another one if it reserves no other words and has all the tables and
columns that the other one has. Each check that the stricter schema passes is passed by the looser
one, so a text that is read under the stricter schema is read as the same query under the looser
one (`Query.ofText_of_isLooserThan`). Whether the schemas list their tables or not makes no
difference: a schema that does not list them has every table and every column.
-/

namespace RelPlan

/-- Whether a schema allows all names that another one allows. -/
structure Schema.IsLooserThan (loose strict : Schema) : Prop where
  reserved : ∀ word, loose.isReserved word = true → strict.isReserved word = true
  tables : ∀ table, strict.hasTable table = true → loose.hasTable table = true
  columns : ∀ table column,
    strict.hasColumn table column = true → loose.hasColumn table column = true

/-- A word that the stricter schema leaves free is free. -/
theorem Schema.IsLooserThan.isReserved_eq_false {loose strict : Schema}
    (h : loose.IsLooserThan strict) {word : String}
    (hfree : strict.isReserved word = false) : loose.isReserved word = false := by
  rw [Bool.eq_false_iff] at hfree ⊢
  exact fun hreserved => hfree (h.reserved word hreserved)

/-- A schema to which a table was added lists its tables. -/
theorem Schema.isClosed_addTable (schema : Schema) (table : String) (columns : List String) :
    (schema.addTable table columns).isClosed = true := by
  refine Bool.not_eq_false _ ▸ fun hopen => ?_
  have hget := schema.tables.get?_insert (Text.upper table) (Text.upper table)
    (.ofList (columns.map Text.upper))
  have hnone : (schema.addTable table columns).tables.get? (Text.upper table) = none := by
    rw [NameMap.get?, isClosed_eq_false_iff.mp hopen]
    rfl
  rw [if_pos rfl] at hget
  exact Option.some_ne_none _ (hget.symm.trans hnone)

/-- A schema is looser than the one in which a table is listed again with some of its columns. -/
theorem Schema.isLooserThan_addTable {schema : Schema} {table : String} {columns : List String}
    (htable : schema.hasTable (Text.upper table) = true) (hne : columns ≠ [])
    (hcolumns : ∀ column ∈ columns,
      schema.hasColumn (Text.upper table) (Text.upper column) = true) :
    schema.IsLooserThan (schema.addTable table columns) := by
  have hget (other : String) : (schema.addTable table columns).tables.get? other =
      if other = Text.upper table then some (.ofList (columns.map Text.upper))
      else schema.tables.get? other := NameMap.get?_insert _ _ _ _
  have hclosed := schema.isClosed_addTable table columns
  refine ⟨fun word hword => hword, fun other hother => ?_, fun other column hcolumn => ?_⟩
  · by_cases heq : other = Text.upper table
    · exact heq ▸ htable
    · rw [hasTable, hclosed, NameMap.contains, hget, if_neg heq] at hother
      rw [hasTable, Bool.or_eq_true]
      exact .inr hother
  · rw [hasColumn, hclosed, hget] at hcolumn
    by_cases heq : other = Text.upper table
    · rw [if_pos heq] at hcolumn
      have hempty : (NameSet.ofList (columns.map Text.upper)).isEmpty = false := by
        obtain ⟨first, hfirst⟩ := List.exists_mem_of_ne_nil columns hne
        have hmem := NameSet.mem_ofList.mpr (List.mem_map_of_mem (f := Text.upper) hfirst)
        exact List.isEmpty_eq_false_iff.mpr (List.ne_nil_of_mem hmem)
      have hmem : column ∈ columns.map Text.upper := by simpa [hempty] using hcolumn
      obtain ⟨listed, hlisted, rfl⟩ := List.mem_map.mp hmem
      exact heq ▸ hcolumns listed hlisted
    · rw [if_neg heq] at hcolumn
      rw [hasColumn, Bool.or_eq_true]
      exact .inr hcolumn

namespace Query

section Checks

variable {loose strict : Schema} (h : loose.IsLooserThan strict)

include h

/-- A column that is read under the stricter schema is read under the looser one. -/
theorem readColumn_mono {entry : List Char} {column : ColumnRef}
    (hread : readColumn strict entry = .ok column) : readColumn loose entry = .ok column := by
  rw [readColumn_eq_ok_iff] at hread ⊢
  obtain ⟨hentry, hblank, ⟨table, name, hsplit, htable, hname, hfree, heq⟩ | hbare⟩ := hread
  · exact ⟨h.isReserved_eq_false hentry, hblank,
      .inl ⟨table, name, hsplit, htable, hname, h.isReserved_eq_false hfree, heq⟩⟩
  · exact ⟨h.isReserved_eq_false hentry, hblank, .inr hbare⟩

/-- A list of columns that is read under the stricter schema is read under the looser one. -/
theorem readSelect_mono {text : List Char} {select : SelectList}
    (hread : readSelect strict text = .ok select) : readSelect loose text = .ok select := by
  rw [readSelect_eq_ok_iff] at hread ⊢
  rcases hread with hstar | ⟨columns, hcolumns, heq⟩
  · exact .inl hstar
  · exact .inr ⟨columns, mapM_mono hcolumns fun entry column => readColumn_mono h, heq⟩

/-- A table that the stricter schema accepts is accepted by the looser one. -/
theorem checkTable_mono {table : String} (hcheck : checkTable strict table = .ok ()) :
    checkTable loose table = .ok () := by
  rw [checkTable_eq_ok_iff] at hcheck ⊢
  exact ⟨hcheck.1, h.tables table hcheck.2⟩

/-- If the stricter schema has all of some columns then so has the looser one. -/
theorem unknownColumn?_mono {columns : List ColumnRef}
    (hknown : unknownColumn? strict columns = none) : unknownColumn? loose columns = none := by
  rw [unknownColumn?, List.find?_eq_none] at hknown ⊢
  intro column hcolumn
  have hstrict := hknown column hcolumn
  simp only [Bool.not_eq_true', Bool.not_eq_false] at hstrict ⊢
  exact h.columns _ _ hstrict

/-- A join that is read under the stricter schema is read under the looser one. -/
theorem readJoin_mono {clause : List Char} {words : Clause.JoinWords} {join : Join}
    (hread : readJoin strict clause words = .ok join) : readJoin loose clause words = .ok join := by
  rw [readJoin_eq_ok_iff] at hread ⊢
  obtain ⟨hname, hnames, htable, hcolumns, heq⟩ := hread
  exact ⟨hname, hnames, h.tables _ htable, unknownColumn?_mono h hcolumns, heq⟩

/-- The clauses that a query is read from under the stricter schema describe it under the looser
one. -/
theorem ofOutline_mono [Text.WordClass] {found : Clause.Outline} {query : Query}
    (hread : ofOutline strict found = .ok query) : ofOutline loose found = .ok query := by
  rw [ofOutline_eq_ok_iff] at hread ⊢
  obtain ⟨select, joins, filter, hselect, htable, hjoins, hfilter, heq⟩ := hread
  have hjoins : readJoins loose found.joins = .ok joins :=
    mapM_mono hjoins fun clause join => readJoin_mono h
  exact ⟨select, joins, filter, readSelect_mono h hselect, checkTable_mono h htable, hjoins,
    hfilter, heq⟩

/-- With a column of a query in which the stricter schema finds nothing wrong nothing is wrong. A
schema that does not list its tables has every column, so this holds also if only the looser one
lists them. -/
theorem columnFault?_mono {query : Query} {column : ColumnRef}
    (hfault : columnFault? strict query.tables column = none) :
    columnFault? loose query.tables column = none := by
  have hknown : column.IsKnown strict query.tables := by
    cases hclosed : strict.isClosed with
    | true => exact isKnown_of_columnFault? hclosed hfault
    | false =>
      have hall := Schema.hasColumn_of_not_isClosed hclosed
      unfold ColumnRef.IsKnown
      split
      · exact hall _ _
      · exact ⟨query.source.table, List.mem_cons_self, hall _ _⟩
  unfold ColumnRef.IsKnown at hknown
  unfold columnFault?
  split
  · rfl
  · cases htable : column.table with
    | some table =>
      rw [htable] at hknown
      exact if_pos (h.columns _ _ hknown)
    | none =>
      rw [htable] at hknown
      obtain ⟨table, hmem, hcolumn⟩ := hknown
      have hloose := h.columns table column.name hcolumn
      exact if_pos (List.any_eq_true.mpr ⟨table, hmem, hloose⟩)

/-- References that the stricter schema accepts are accepted by the looser one. -/
theorem checkReferences_mono {query : Query} (hcheck : checkReferences strict query = .ok ()) :
    checkReferences loose query = .ok () := by
  rw [checkReferences, checkColumns_eq_ok_iff] at hcheck ⊢
  exact fun column hcolumn => columnFault?_mono h (hcheck column hcolumn)

end Checks

/-- A text that is read under a schema is read as the same query under every looser schema. -/
theorem ofText_of_isLooserThan [Text.WordClass] {loose strict : Schema}
    (h : loose.IsLooserThan strict) {text : String} {query : Query}
    (hread : ofText strict text = .ok query) :
    ofText loose text = .ok query := by
  obtain ⟨found, hfound, houtline, hreferences⟩ := ofCanonical_eq_ok_iff.mp hread
  have hquery : ofOutline loose found = .ok query := ofOutline_mono h houtline
  have hcolumns : checkReferences loose query = .ok () := checkReferences_mono h hreferences
  exact ofCanonical_eq_ok_iff.mpr ⟨found, hfound, hquery, hcolumns⟩

/-- The schema of `listed` with the columns of a table listed that has every column there. -/
def narrowSchema : Schema := listedSchema.addTable "B" ["Y", "Z"]

/-- A text that is read as `listed`. -/
def listedText : String :=
  "select a.nome, id from a inner join b on a.id = b.y where " ++
    "a.nome + 1 = 2 and (nome not like 'x' or b.z is not null and id >= -1);"

/-- A query of two tables that both list their columns is read in the same way where one of them
has every column. -/
theorem ofText_of_isLooserThan_narrow :
    listedSchema.IsLooserThan narrowSchema ∧ ofText narrowSchema listedText = .ok listed ∧
      narrowSchema.hasColumn "B" "X" = false ∧ listedSchema.hasColumn "B" "X" = true ∧
      ofText listedSchema listedText = .ok listed := by
  have hlooser : listedSchema.IsLooserThan narrowSchema :=
    Schema.isLooserThan_addTable (by decide +kernel) (by decide) (by decide +kernel)
  have hread : ofText narrowSchema listedText = .ok listed := by decide +kernel
  exact ⟨hlooser, hread, by decide +kernel, by decide +kernel, ofText_of_isLooserThan hlooser hread⟩

end Query

end RelPlan
