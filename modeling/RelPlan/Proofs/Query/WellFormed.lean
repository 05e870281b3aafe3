import RelPlan.Proofs.Predicate.Shape
import RelPlan.Proofs.Query.Parts

/-!
# Well-formed queries

What holds of every query that is read from a text, in terms of the schema: its columns and tables
have names that it allows, its joins equate columns that it has, and so do its references to columns
if the schema is closed (`Query.isWellFormed_of_ofText`). A query has a condition if and only if its
text has one with more than the word `AND` in it (`Query.hasFilter_iff`).
-/

namespace RelPlan

/-! ## Parts of well-formed queries -/

/-- A column that may be asked for by name. -/
structure ColumnRef.IsNameable (schema : Schema) (column : ColumnRef) : Prop where
  table : ∀ table ∈ column.table, isIdentifier table = true
  name : isIdentifier column.name = true
  unreserved : schema.isReserved column.name = false

/-- Whether the schema has the column, in its own table or else in one of those that are given. -/
def ColumnRef.IsKnown (schema : Schema) (tables : List String) (column : ColumnRef) : Prop :=
  match column.table with
  | some table => schema.hasColumn table column.name = true
  | none => ∃ table ∈ tables, schema.hasColumn table column.name = true

/-- What may be asked for: every column, or at least one by name. -/
inductive SelectList.IsNameable (schema : Schema) : SelectList → Prop
  | all : IsNameable schema .all
  | columns {refs : List ColumnRef} (hne : refs ≠ [])
      (hrefs : ∀ ref ∈ refs, ref.IsNameable schema) :
      IsNameable schema (.columns refs)

/-- Whether the condition of a join is one equality of two columns that the schema has in their
tables. -/
def Join.Equates (schema : Schema) (join : Join) : Prop :=
  ∃ leftTable leftColumn rightTable rightColumn,
    join.condition = [.compare ⟨.column (.qualified leftTable leftColumn), .eq,
      .column (.qualified rightTable rightColumn)⟩] ∧
    schema.hasColumn leftTable leftColumn = true ∧ schema.hasColumn rightTable rightColumn = true

namespace Query

/-- A query as it can be read where the schema is known. -/
structure IsWellFormed (schema : Schema) (query : Query) : Prop where
  select : query.select.IsNameable schema
  tables : ∀ table ∈ query.tables, isIdentifier table = true ∧ schema.hasTable table = true
  equates : ∀ join ∈ query.joins, join.Equates schema
  plain : ∀ source ∈ query.sources, source.access = .plain
  conjuncts : ∀ predicate ∈ query.filter, predicate.IsConjunct
  known : schema.isClosed = true →
    ∀ column ∈ query.select.named ++ query.filter.columns, column.IsKnown schema query.tables

/-! ## Reading well-formed queries -/

/-- A column that is read may be asked for by name. -/
theorem isNameable_of_readColumn {schema : Schema} {entry : List Char} {column : ColumnRef}
    (h : readColumn schema entry = .ok column) : column.IsNameable schema := by
  obtain ⟨hentry, -, ⟨table, name, -, htable, hname, hfree, rfl⟩ | ⟨hname, rfl⟩⟩ :=
    readColumn_eq_ok_iff.mp h
  · exact ⟨by simpa [ColumnRef.qualified, isIdentifier] using htable,
      by simpa [ColumnRef.qualified, isIdentifier] using hname, hfree⟩
  · exact ⟨by simp [ColumnRef.bare], by simpa [ColumnRef.bare, isIdentifier] using hname, hentry⟩

/-- What is read as a list of columns may be asked for. -/
theorem isNameable_of_readSelect {schema : Schema} {text : List Char} {select : SelectList}
    (h : readSelect schema text = .ok select) : select.IsNameable schema := by
  rcases readSelect_eq_ok_iff.mp h with ⟨-, rfl⟩ | ⟨columns, hcolumns, rfl⟩
  · exact .all
  · refine .columns ?_ fun column hcolumn => ?_
    · have hlength := (forall₂_of_mapM hcolumns).length_eq
      rw [List.length_map] at hlength
      exact List.ne_nil_of_length_pos
        (hlength ▸ List.length_pos_iff.mpr (Text.splitAt_ne_nil ',' text))
    · obtain ⟨entry, -, hentry⟩ := exists_of_mem_mapM hcolumns hcolumn
      exact isNameable_of_readColumn hentry

/-- A join that is read equates columns that the schema has, and it has the joined table. -/
theorem equates_of_readJoin {schema : Schema} {clause : List Char} {words : Clause.JoinWords}
    {join : Join} (h : readJoin schema clause words = .ok join) :
    join.Equates schema ∧ isIdentifier join.table = true ∧ schema.hasTable join.table = true := by
  obtain ⟨hname, -, htable, hcolumns, rfl⟩ := readJoin_eq_ok_iff.mp h
  have hall := List.find?_eq_none.mp hcolumns
  simp only [Bool.not_eq_true', Bool.not_eq_false, List.forall_mem_cons] at hall
  exact ⟨⟨_, _, _, _, rfl, hall.1, hall.2.1⟩, hname, htable⟩

/-- A closed schema has the columns with which nothing is wrong. -/
theorem isKnown_of_columnFault? {schema : Schema} {tables : List String} {column : ColumnRef}
    (hclosed : schema.isClosed = true) (h : columnFault? schema tables column = none) :
    column.IsKnown schema tables := by
  rw [columnFault?, hclosed] at h
  unfold ColumnRef.IsKnown
  cases htable : column.table with
  | some table => simpa [htable] using h
  | none => simpa [htable] using h

/-- A query that is read from a text is well-formed. -/
theorem isWellFormed_of_ofText [Text.WordClass] {schema : Schema} {text : String} {query : Query}
    (h : ofText schema text = .ok query) : query.IsWellFormed schema := by
  have hplain := (isWritten_of_ofText h).plain
  obtain ⟨found, -, hread, hreferences⟩ := ofCanonical_eq_ok_iff.mp h
  obtain ⟨select, joins, filter, hselect, htable, hjoins, hfilter, rfl⟩ :=
    ofOutline_eq_ok_iff.mp hread
  have hjoin {join : Join} (hmem : join ∈ joins) : join.Equates schema ∧
      isIdentifier join.table = true ∧ schema.hasTable join.table = true := by
    obtain ⟨_, -, hclause⟩ := exists_of_mem_mapM hjoins hmem
    exact equates_of_readJoin hclause
  refine ⟨isNameable_of_readSelect hselect, ?_, fun join hmem => (hjoin hmem).1, hplain, ?_, ?_⟩
  · rw [tables_ofTable, List.forall_mem_cons, List.forall_mem_map]
    exact ⟨checkTable_eq_ok_iff.mp htable, fun join hmem => (hjoin hmem).2⟩
  · rw [ofText_of_readFilter hfilter]
    exact fun predicate hmem => Conjunction.isConjunct_of_mem_ofText hmem
  · intro hclosed column hcolumn
    exact isKnown_of_columnFault? hclosed (checkColumns_eq_ok_iff.mp hreferences column hcolumn)

/-- A closed schema with a table that lists its columns and one that does not. -/
def listedSchema : Schema := (Schema.standard.addTable "A" ["ID", "NOME"]).addTable "B" []

/-- A query with a join, columns with and without a table, and text that is kept verbatim. -/
def listed : Query :=
  .ofTable (.columns [.qualified "A" "NOME", .bare "ID"]) "A"
    [.ofTable "B" [.compare ⟨.column (.qualified "A" "ID"), .eq, .column (.qualified "B" "Y")⟩]]
    [.verbatim "A.NOME + 1 = 2" [.qualified "A" "NOME"],
      .or [.not (.compare ⟨.column (.bare "NOME"), .like, .literal (.string "X")⟩),
        .and [.isNull (.column (.qualified "B" "Z")) true,
          .compare ⟨.column (.bare "ID"), .greaterEq, .literal (.number "-1")⟩]]]

/-- The schema is closed, and it accepts a text that is read as this query. -/
theorem isWellFormed_listed :
    ofText listedSchema ("select a.nome, id from a inner join b on a.id = b.y where " ++
        "a.nome + 1 = 2 and (nome not like 'x' or b.z is not null and id >= -1);") = .ok listed ∧
      listedSchema.isClosed = true ∧ listed.IsWellFormed listedSchema := by
  have hread : ofText listedSchema ("select a.nome, id from a inner join b on a.id = b.y where " ++
      "a.nome + 1 = 2 and (nome not like 'x' or b.z is not null and id >= -1);") = .ok listed := by
    decide +kernel
  exact ⟨hread, by decide +kernel, isWellFormed_of_ofText hread⟩

/-! ## Conditions of queries -/

/-- A text stands for no predicates if and only if it has no tokens but `AND`s, so a query has a
condition if and only if there is one in its text that has others. -/
theorem hasFilter_iff [Text.WordClass] {schema : Schema} {text : String} {query : Query}
    (h : ofText schema text = .ok query) :
    (∀ condition, Conjunction.ofText condition = [] ↔ Condition.isVoid condition.toList = true) ∧
      ∃ found, outline (canonical text) = .ok found ∧
        (query.hasFilter = true ↔
          ∃ condition ∈ found.filter, Condition.isVoid condition = false) := by
  refine ⟨fun _ => Conjunction.ofText_eq_nil_iff, ?_⟩
  obtain ⟨found, hfound, hread, -⟩ := ofCanonical_eq_ok_iff.mp h
  obtain ⟨select, joins, filter, -, -, -, hfilter, rfl⟩ := ofOutline_eq_ok_iff.mp hread
  refine ⟨found, hfound, ?_⟩
  have hempty : filter = [] ↔ Condition.isVoid (found.filter.getD []) = true := by
    rw [ofText_of_readFilter hfilter, Conjunction.ofText_eq_nil_iff, String.toList_ofList]
  have hnil : Condition.isVoid [] = true := Condition.isVoid_iff.mpr (by simp)
  cases hcondition : found.filter with
  | none => simp [hasFilter, ofTable, hempty, hcondition, hnil]
  | some condition => simp [hasFilter, ofTable, hempty, hcondition]

/-- An `AND` before a condition does not count. -/
theorem hasFilter_of_and_name :
    ofText .standard "SELECT * FROM T WHERE AND X;" =
        .ok (.ofTable .all "T" [] [.verbatim "X" [.bare "X"]]) ∧
      ∃ found, outline (canonical "SELECT * FROM T WHERE AND X;") = .ok found ∧
        ∃ condition ∈ found.filter, Condition.isVoid condition = false := by
  have hread : ofText .standard "SELECT * FROM T WHERE AND X;" =
      .ok (.ofTable .all "T" [] [.verbatim "X" [.bare "X"]]) := by
    decide +kernel
  obtain ⟨-, found, hfound, hfilter⟩ := hasFilter_iff hread
  exact ⟨hread, found, hfound, hfilter.mp rfl⟩

/-- A condition that is nothing but an `AND` is dropped. -/
theorem not_hasFilter_of_and :
    outline (canonical "SELECT * FROM T WHERE AND;") =
        .ok ⟨⟨['T'], [], some ['A', 'N', 'D']⟩, ['*']⟩ ∧
      ofText .standard "SELECT * FROM T WHERE AND;" = .ok (.ofTable .all "T" [] []) ∧
      (ofTable .all "T" [] []).hasFilter = false ∧ Conjunction.ofText "AND" = [] := by
  decide +kernel

end Query

end RelPlan
