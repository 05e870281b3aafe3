import RelPlan.Optimizer.Projection
import RelPlan.Proofs.Predicate.Names
import RelPlan.Query.Parser

/-!
# Queries as they are written

What holds of every query that is read from a text, whatever the schema: nothing is done to its
tables before they are joined, every join equates two columns, and no column that it reads has a
dot in one of its parts.
-/

namespace RelPlan

/-- An identifier has no dot in it. -/
theorem not_mem_of_isIdentifierChars {cs : List Char} (h : isIdentifierChars cs = true) :
    '.' ∉ cs := by
  have hstart : Text.isNameStart '.' = false := by decide
  have hpart : (Text.isAlphanumeric '.' || '.' == '_') = false := by decide
  cases cs with
  | nil => simp
  | cons first rest =>
    rw [isIdentifierChars, Bool.and_eq_true] at h
    intro hmem
    rcases List.mem_cons.mp hmem with rfl | hrest
    · simp [hstart] at h
    · exact absurd (List.all_eq_true.mp h.2 '.' hrest) (Bool.eq_false_iff.mp hpart)

/-- A column whose parts are identifiers has no dot in them. -/
theorem ColumnRef.isUndotted_qualified {table name : List Char}
    (htable : isIdentifierChars table = true) (hname : isIdentifierChars name = true) :
    (ColumnRef.qualified (String.ofList table) (String.ofList name)).IsUndotted := by
  constructor
  · simpa [ColumnRef.qualified] using not_mem_of_isIdentifierChars hname
  · simpa [ColumnRef.qualified] using not_mem_of_isIdentifierChars htable

namespace Query

/-! ## What is read -/

/-- A column is read from one identifier, or from two with a dot between them, and from nothing
else. -/
theorem readColumn_eq_ok_iff {schema : Schema} {entry : List Char} {column : ColumnRef} :
    readColumn schema entry = .ok column ↔
      schema.isReserved (String.ofList entry) = false ∧ (∀ c ∈ entry, Text.isBlank c = false) ∧
        ((∃ table name, Text.splitAt '.' entry = [table, name] ∧ isIdentifierChars table = true ∧
            isIdentifierChars name = true ∧ schema.isReserved (String.ofList name) = false ∧
            column = .qualified (String.ofList table) (String.ofList name)) ∨
          (isIdentifierChars entry = true ∧ column = .bare (String.ofList entry))) := by
  constructor
  · intro h
    unfold readColumn at h
    dsimp only at h
    split at h
    · simp at h
    · next hreserved =>
      split at h
      · simp at h
      · next hblank =>
        refine ⟨by simpa using hreserved, by simpa using hblank, ?_⟩
        split at h
        · split at h
          · next table name hsplit =>
            split at h
            · next hparts =>
              obtain ⟨htable, hname⟩ := Bool.and_eq_true_iff.mp hparts
              split at h
              · simp at h
              · next hfree =>
                cases h
                exact .inl ⟨table, name, hsplit, htable, hname, by simpa using hfree, rfl⟩
            · simp at h
          · simp at h
        · split at h
          · next hname =>
            cases h
            exact .inr ⟨hname, rfl⟩
          · simp at h
  · rintro ⟨hreserved, hblank, hname⟩
    have hnone : entry.any Text.isBlank = false := by simpa using hblank
    rcases hname with ⟨table, name, hsplit, htable, hname, hfree, rfl⟩ | ⟨hname, rfl⟩
    · have hdot : '.' ∈ entry := by
        rw [← Text.intercalate_splitAt '.' entry, hsplit]
        simp [List.intercalate]
      simp [readColumn, hreserved, hnone, hdot, hsplit, htable, hname, hfree]
    · have hdot := not_mem_of_isIdentifierChars hname
      simp [readColumn, hreserved, hnone, hdot, hname]

/-- A star is no column. -/
theorem readColumn_star (schema : Schema) (column : ColumnRef) :
    readColumn schema ['*'] ≠ .ok column := by
  have hsplit : Text.splitAt '.' ['*'] = [['*']] := by decide
  have hname : isIdentifierChars ['*'] = false := by decide
  simp [readColumn_eq_ok_iff, hsplit, hname]

/-- The list of columns is a star, or each entry between the commas is read as a column. -/
theorem readSelect_eq_ok_iff {schema : Schema} {text : List Char} {select : SelectList} :
    readSelect schema text = .ok select ↔
      ((Text.splitAt ',' text).map Text.trimChars = [['*']] ∧ select = .all) ∨
        ∃ columns, ((Text.splitAt ',' text).map Text.trimChars).mapM (readColumn schema) =
          .ok columns ∧ select = .columns columns := by
  constructor
  · intro h
    unfold readSelect at h
    dsimp only at h
    split at h
    · next hstar =>
      cases h
      exact .inl ⟨hstar, rfl⟩
    · split at h
      · simp at h
      · obtain ⟨columns, hcolumns, rfl⟩ := map_eq_ok_iff.mp h
        exact .inr ⟨columns, hcolumns, rfl⟩
  · rintro (⟨hstar, rfl⟩ | ⟨columns, hcolumns, rfl⟩)
    · simp [readSelect, hstar]
    · have hmem : ['*'] ∉ (Text.splitAt ',' text).map Text.trimChars := by
        intro hstar
        obtain ⟨column, hread⟩ := exists_eq_ok_of_mapM hcolumns hstar
        exact readColumn_star schema column hread
      have hone : (Text.splitAt ',' text).map Text.trimChars ≠ [['*']] := by
        intro heq
        simp [heq] at hmem
      have hcontains : ((Text.splitAt ',' text).map Text.trimChars).contains ['*'] = false := by
        simpa using hmem
      rw [readSelect, if_neg hone, hcontains, hcolumns]
      rfl

/-- A join is read if its names are identifiers that the schema has, and from nothing but these. -/
theorem readJoin_eq_ok_iff {schema : Schema} {clause : List Char} {words : Clause.JoinWords}
    {join : Join} :
    readJoin schema clause words = .ok join ↔
      isIdentifier (String.ofList words.table) = true ∧
      badName? [words.leftTable, words.leftColumn, words.rightTable, words.rightColumn] = none ∧
      schema.hasTable (String.ofList words.table) = true ∧
      unknownColumn? schema
        [.qualified (String.ofList words.leftTable) (String.ofList words.leftColumn),
          .qualified (String.ofList words.rightTable) (String.ofList words.rightColumn)] = none ∧
      join = .ofTable (String.ofList words.table)
        [.compare
          ⟨.column (.qualified (String.ofList words.leftTable) (String.ofList words.leftColumn)),
            .eq,
            .column (.qualified (String.ofList words.rightTable)
              (String.ofList words.rightColumn))⟩] := by
  constructor
  · intro h
    unfold readJoin at h
    dsimp only at h
    split at h
    · simp at h
    · next htable =>
      split at h
      · simp at h
      · next hnames =>
        split at h
        · simp at h
        · next hschema =>
          split at h
          · simp at h
          · next hcolumns =>
            cases h
            exact ⟨by simpa using htable, hnames, by simpa using hschema, hcolumns, rfl⟩
  · rintro ⟨htable, hnames, hschema, hcolumns, rfl⟩
    simp only [readJoin, htable, hnames, hschema, hcolumns]
    rfl

/-- A table is accepted if its name is an identifier and the schema has it. -/
theorem checkTable_eq_ok_iff {schema : Schema} {table : String} :
    checkTable schema table = .ok () ↔
      isIdentifier table = true ∧ schema.hasTable table = true := by
  unfold checkTable
  split
  · next hname => simp_all
  · split <;> simp_all

/-- Columns are accepted if nothing is wrong with any of them. -/
theorem checkColumns_eq_ok_iff {schema : Schema} {tables : List String}
    {columns : List ColumnRef} :
    checkColumns schema tables columns = .ok () ↔
      ∀ column ∈ columns, columnFault? schema tables column = none := by
  induction columns with
  | nil => simp [checkColumns]
  | cons column columns ih =>
    rw [checkColumns, List.forall_mem_cons]
    cases hfault : columnFault? schema tables column with
    | some fault => simp
    | none => simpa using ih

/-- A condition is read from whatever is behind its word, if that is not blank. -/
theorem readFilter_eq_ok_iff {text : Option (List Char)} {filter : Conjunction} :
    readFilter text = .ok filter ↔
      (∀ condition ∈ text, Text.trimChars condition ≠ []) ∧
        filter = text.elim [] fun condition => Condition.ofChars (Text.trimChars condition) := by
  cases text with
  | none =>
    rw [readFilter, Except.ok.injEq, eq_comm]
    simp
  | some condition =>
    simp only [readFilter, List.isEmpty_iff, Option.mem_def, Option.some.injEq, forall_eq',
      Option.elim_some]
    split
    · next hempty => simp [hempty]
    · next hne =>
      rw [Except.ok.injEq, eq_comm]
      exact ⟨fun h => ⟨hne, h⟩, fun h => h.2⟩

/-- A query is made up of what is read from its clauses. -/
theorem ofOutline_eq_ok_iff [Text.WordClass] {schema : Schema} {found : Clause.Outline}
    {query : Query} :
    ofOutline schema found = .ok query ↔
      ∃ select joins filter, readSelect schema found.select = .ok select ∧
        checkTable schema (String.ofList found.table) = .ok () ∧
        readJoins schema found.joins = .ok joins ∧ readFilter found.filter = .ok filter ∧
        query = .ofTable select (String.ofList found.table) joins filter := by
  constructor
  · intro h
    obtain ⟨select, hselect, h⟩ := bind_eq_ok_iff.mp h
    obtain ⟨_, htable, h⟩ := bind_eq_ok_iff.mp h
    obtain ⟨joins, hjoins, h⟩ := bind_eq_ok_iff.mp h
    obtain ⟨filter, hfilter, h⟩ := bind_eq_ok_iff.mp h
    cases h
    exact ⟨select, joins, filter, hselect, htable, hjoins, hfilter, rfl⟩
  · rintro ⟨select, joins, filter, hselect, htable, hjoins, hfilter, rfl⟩
    simp only [ofOutline, hselect, htable, hjoins, hfilter]
    rfl

/-- A text is read as a query if its clauses are and nothing is wrong with the columns. -/
theorem ofCanonical_eq_ok_iff [Text.WordClass] {schema : Schema} {text : List Char}
    {query : Query} :
    ofCanonical schema text = .ok query ↔
      ∃ found, outline text = .ok found ∧ ofOutline schema found = .ok query ∧
        checkReferences schema query = .ok () := by
  constructor
  · intro h
    obtain ⟨found, hfound, h⟩ := bind_eq_ok_iff.mp h
    obtain ⟨read, hread, h⟩ := bind_eq_ok_iff.mp h
    obtain ⟨_, hreferences, h⟩ := bind_eq_ok_iff.mp h
    cases h
    exact ⟨found, hfound, hread, hreferences⟩
  · rintro ⟨found, hfound, hread, hreferences⟩
    refine bind_eq_ok_iff.mpr ⟨found, hfound, bind_eq_ok_iff.mpr ⟨query, hread, ?_⟩⟩
    exact bind_eq_ok_iff.mpr ⟨(), hreferences, rfl⟩

/-! ## Queries -/

/-- A query as it is written. -/
structure IsWritten (query : Query) : Prop where
  plain : ∀ source ∈ query.sources, source.access = .plain
  conditioned : ∀ join ∈ query.joins, join.hasCondition = true
  undotted : ∀ column ∈ query.references, column.IsUndotted

/-- A column that is asked for has no dot in one of its parts. -/
theorem isUndotted_of_readColumn {schema : Schema} {entry : List Char} {column : ColumnRef}
    (h : readColumn schema entry = .ok column) : column.IsUndotted := by
  obtain ⟨-, -, ⟨table, name, -, htable, hname, -, rfl⟩ | ⟨hname, rfl⟩⟩ := readColumn_eq_ok_iff.mp h
  · exact ColumnRef.isUndotted_qualified htable hname
  · constructor
    · simpa [ColumnRef.bare] using not_mem_of_isIdentifierChars hname
    · simp [ColumnRef.bare]

/-- The columns that are asked for have no dots in their parts. -/
theorem isUndotted_of_readSelect {schema : Schema} {text : List Char} {select : SelectList}
    (h : readSelect schema text = .ok select) {column : ColumnRef}
    (hcolumn : column ∈ select.named) : column.IsUndotted := by
  rcases readSelect_eq_ok_iff.mp h with ⟨-, rfl⟩ | ⟨columns, hcolumns, rfl⟩
  · simp [SelectList.named] at hcolumn
  · obtain ⟨entry, -, hentry⟩ := exists_of_mem_mapM hcolumns hcolumn
    exact isUndotted_of_readColumn hentry

/-- A join that is read equates two columns without dots in their parts. -/
theorem exists_of_readJoin {schema : Schema} {clause : List Char} {words : Clause.JoinWords}
    {join : Join} (h : readJoin schema clause words = .ok join) :
    ∃ left right : ColumnRef, left.IsUndotted ∧ right.IsUndotted ∧
      join = .ofTable join.table [.compare ⟨.column left, .eq, .column right⟩] := by
  obtain ⟨-, hnames, -, -, rfl⟩ := readJoin_eq_ok_iff.mp h
  have hall := List.find?_eq_none.mp hnames
  simp only [Bool.not_eq_true', Bool.not_eq_false, List.forall_mem_cons] at hall
  obtain ⟨hleftTable, hleftColumn, hrightTable, hrightColumn, -⟩ := hall
  exact ⟨_, _, ColumnRef.isUndotted_qualified hleftTable hleftColumn,
    ColumnRef.isUndotted_qualified hrightTable hrightColumn, rfl⟩

/-- The columns of a condition that is read have no dots in their parts. -/
theorem isUndotted_of_readFilter {text : Option (List Char)} {filter : Conjunction}
    (h : readFilter text = .ok filter) {column : ColumnRef} (hcolumn : column ∈ filter.columns) :
    column.IsUndotted := by
  obtain ⟨-, rfl⟩ := readFilter_eq_ok_iff.mp h
  cases text with
  | none => simp [Conjunction.columns] at hcolumn
  | some condition => exact Condition.isUndotted_of_ofChars hcolumn

/-- A query that some clauses describe is as it is written. -/
theorem isWritten_of_ofOutline [Text.WordClass] {schema : Schema} {outline : Clause.Outline}
    {query : Query} (h : ofOutline schema outline = .ok query) : query.IsWritten := by
  obtain ⟨select, joins, filter, hselect, -, hjoins, hfilter, rfl⟩ := ofOutline_eq_ok_iff.mp h
  have hjoin {join : Join} (hmem : join ∈ joins) :
      ∃ left right : ColumnRef, left.IsUndotted ∧ right.IsUndotted ∧
        join = .ofTable join.table [.compare ⟨.column left, .eq, .column right⟩] := by
    obtain ⟨_, -, hread⟩ := exists_of_mem_mapM hjoins hmem
    exact exists_of_readJoin hread
  constructor
  · intro source hsource
    rcases List.mem_cons.mp hsource with rfl | hmem
    · rfl
    · obtain ⟨join, hread, rfl⟩ := List.mem_map.mp hmem
      obtain ⟨_, _, -, -, heq⟩ := hjoin hread
      rw [heq]
      rfl
  · intro join hmem
    obtain ⟨_, _, -, -, heq⟩ := hjoin hmem
    rw [heq]
    rfl
  · intro column hcolumn
    simp only [references, ofTable, Access.plain, List.mem_append, List.mem_flatMap] at hcolumn
    rcases hcolumn with ((hnamed | hcondition) | hnone) | ⟨join, hmem, hcolumn⟩
    · exact isUndotted_of_readSelect hselect hnamed
    · exact isUndotted_of_readFilter hfilter hcondition
    · simp [Conjunction.columns] at hnone
    · obtain ⟨left, right, hleft, hright, heq⟩ := hjoin hmem
      rw [heq] at hcolumn
      simp only [Join.ofTable, Access.plain, Conjunction.columns, List.flatMap_cons,
        List.flatMap_nil, List.append_nil, Predicate.columns, Comparison.columns,
        Operand.column?, Option.toList_some, List.mem_append, List.mem_singleton,
        List.not_mem_nil, or_false] at hcolumn
      rcases hcolumn with rfl | rfl
      · exact hleft
      · exact hright

/-- A query that is read from a text is as it is written. -/
theorem isWritten_of_ofText [Text.WordClass] {schema : Schema} {text : String} {query : Query}
    (h : ofText schema text = .ok query) : query.IsWritten := by
  obtain ⟨outline, -, hread, -⟩ := ofCanonical_eq_ok_iff.mp h
  exact isWritten_of_ofOutline hread

end Query

end RelPlan
