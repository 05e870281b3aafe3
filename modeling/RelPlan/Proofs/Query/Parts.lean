import RelPlan.Proofs.Query.Clauses
import RelPlan.Proofs.Query.Reading
import RelPlan.Proofs.Text.Upper

/-!
# Parts of queries that were read

A query that is read from a text is made up of parts, each of which is accepted on its own and made
of characters of the text in upper case (`Query.exists_isReadAs`).
-/

namespace RelPlan

open Text

/-! ## Columns and joins -/

/-- A field of a text is made of its characters, and the separator is not one of them. -/
theorem Text.sublist_of_mem_splitAt {separator : Char} {cs field : List Char}
    (h : field ∈ splitAt separator cs) : field.Sublist cs ∧ separator ∉ field := by
  induction cs generalizing field with
  | nil => simp_all [splitAt]
  | cons c cs ih =>
    obtain ⟨first, others, heq⟩ := List.exists_cons_of_ne_nil (splitAt_ne_nil separator cs)
    rw [splitAt, heq] at h
    dsimp only at h
    rw [heq] at ih
    split at h
    · rcases List.mem_cons.mp h with rfl | hmem
      · simp
      · exact ⟨(ih hmem).1.cons c, (ih hmem).2⟩
    · next hc =>
      rcases List.mem_cons.mp h with rfl | hmem
      · obtain ⟨hsublist, hfirst⟩ := ih List.mem_cons_self
        exact ⟨hsublist.cons_cons c, by simp [hfirst, Ne.symm hc]⟩
      · obtain ⟨hsublist, hfield⟩ := ih (List.mem_cons_of_mem _ hmem)
        exact ⟨hsublist.cons c, hfield⟩

namespace Query

/-- A column is read from its own text, which has no white space. -/
theorem text_of_readColumn {schema : Schema} {entry : List Char} {column : ColumnRef}
    (h : readColumn schema entry = .ok column) :
    column.text.toList = entry ∧ entry ≠ [] ∧ ∀ c ∈ entry, isBlank c = false := by
  obtain ⟨-, hblank, ⟨table, name, hsplit, -, -, -, rfl⟩ | ⟨hname, rfl⟩⟩ :=
    readColumn_eq_ok_iff.mp h
  · have hentry := intercalate_splitAt '.' entry
    rw [hsplit] at hentry
    refine ⟨?_, ?_, hblank⟩
    · simpa [ColumnRef.text, ColumnRef.qualified, List.intercalate] using hentry
    · rw [← hentry]
      simp [List.intercalate]
  · refine ⟨by simp [ColumnRef.text, ColumnRef.bare], ?_, hblank⟩
    rintro rfl
    exact absurd hname (by decide)

/-- A join that is read depends on nothing but the words of its clause. -/
theorem eq_join_of_readJoin {schema : Schema} {clause : List Char} {words : Clause.JoinWords}
    {join : Join} (h : readJoin schema clause words = .ok join) :
    join = words.join ∧ ∀ other, readJoin schema other words = .ok words.join := by
  obtain ⟨htable, hnames, hschema, hcolumns, rfl⟩ := readJoin_eq_ok_iff.mp h
  exact ⟨rfl, fun other => readJoin_eq_ok_iff.mpr ⟨htable, hnames, hschema, hcolumns, rfl⟩⟩

/-- The condition that is read is what its text stands for. -/
theorem ofText_of_readFilter {condition : Option (List Char)} {filter : Conjunction}
    (h : readFilter condition = .ok filter) :
    filter = Conjunction.ofText (String.ofList (condition.getD [])) := by
  obtain ⟨-, rfl⟩ := readFilter_eq_ok_iff.mp h
  cases condition with
  | none => rfl
  | some condition => simp [Conjunction.ofText]

variable [WordClass]

/-- The entries of a list of columns that was read stand in it, and each column is read from its own
text. -/
theorem entries_of_readSelect {schema : Schema} {text : List Char} {select : SelectList}
    (hchars : ∀ c ∈ text, Clause.isSelectChar c = true) (h : readSelect schema text = .ok select) :
    select.entries ≠ [] ∧
      (∀ entry ∈ select.entries, Clause.IsEntry entry ∧ entry.Sublist text) ∧
      ∀ column ∈ select.named, readColumn schema column.text.toList = .ok column := by
  have hfields : ∀ field ∈ (splitAt ',' text).map trimChars,
      field.Sublist text ∧ ',' ∉ field ∧ trimChars field = field := by
    simp only [List.forall_mem_map]
    intro field hfield
    obtain ⟨hsublist, hcomma⟩ := sublist_of_mem_splitAt hfield
    have htrim := (isInfix_trimChars field).sublist
    exact ⟨htrim.trans hsublist, fun hmem => hcomma (htrim.subset hmem), trimChars_trimChars field⟩
  rcases readSelect_eq_ok_iff.mp h with ⟨hstar, rfl⟩ | ⟨columns, hcolumns, rfl⟩
  · rw [hstar] at hfields
    have hsublist := (List.forall_mem_singleton.mp hfields).1
    exact ⟨List.cons_ne_nil _ _, List.forall_mem_singleton.mpr ⟨Clause.isEntry_star, hsublist⟩,
      by simp [SelectList.named]⟩
  · have hentries : (SelectList.columns columns).entries = (splitAt ',' text).map trimChars :=
      map_eq_of_mapM hcolumns fun entry column hread => (text_of_readColumn hread).1
    refine ⟨?_, ?_, ?_⟩
    · rw [hentries]
      simpa using splitAt_ne_nil ',' text
    · rw [← hentries] at hfields
      intro entry hentry
      obtain ⟨hsublist, hcomma, htrim⟩ := hfields entry hentry
      obtain ⟨column, hcolumn, rfl⟩ := List.mem_map.mp hentry
      obtain ⟨read, -, hread⟩ := exists_of_mem_mapM hcolumns hcolumn
      obtain ⟨rfl, hne, -⟩ := text_of_readColumn hread
      exact ⟨⟨hne, htrim, fun c hc => hchars c (hsublist.subset hc), hcomma⟩, hsublist⟩
    · intro column hcolumn
      obtain ⟨read, -, hread⟩ := exists_of_mem_mapM hcolumns hcolumn
      rwa [(text_of_readColumn hread).1]

/-- The joins that are read are those of the words of the clauses. -/
theorem eq_map_of_readJoins {schema : Schema} {text : List Char} {joins : List Join}
    (h : readJoins schema text = .ok joins) :
    joins = ((Clause.joinsIn text).map (·.2)).map (·.join) ∧
      ∀ words ∈ (Clause.joinsIn text).map (·.2), ∀ clause,
        readJoin schema clause words = .ok words.join := by
  constructor
  · rw [List.map_map]
    exact eq_map_of_mapM h fun clause join hread => (eq_join_of_readJoin hread).1
  · simp only [List.forall_mem_map]
    intro clause hclause
    obtain ⟨join, hread⟩ := exists_eq_ok_of_mapM h hclause
    exact (eq_join_of_readJoin hread).2

/-! ## Queries -/

/-- What is written between the words and signs of a query, besides its condition. -/
def Parts.written (parts : Parts) : List (List Char) :=
  parts.select.entries ++ parts.table :: parts.joins.flatMap (·.names)

/-- The query has been read as these parts and the condition that a text stands for. -/
structure IsReadAs (schema : Schema) (query : Query) (parts : Parts) (condition : String) :
    Prop where
  accepted : parts.IsAccepted schema
  unfiltered : parts.filter = none
  query_eq : query = { parts.query with filter := Conjunction.ofText condition }
  references : checkReferences schema query = .ok ()
  upper : ∀ part ∈ parts.written, ∀ c ∈ part, IsUpper c
  upper_condition : ∀ c ∈ condition.toList, IsUpper c

/-- The clauses of a text in upper case are made of its characters. -/
theorem isFrom_of_outline {text : List Char} {found : Clause.Outline}
    (h : outline text = .ok found) : found.IsFrom (trimChars (dropTerminators text)) := by
  unfold outline at h
  split at h
  · simp at h
  · split at h
    · simp at h
    · dsimp only at h
      split at h
      · next found' houtline =>
        cases h
        exact Clause.isFrom_of_outline? houtline
      · simp at h

/-- The parts that the clauses of a query are read as, besides its condition. -/
def Parts.ofOutline (found : Clause.Outline) (select : SelectList) : Parts :=
  ⟨select, found.table, (Clause.joinsIn found.joins).map (·.2), none⟩

section Outline

variable {schema : Schema} {found : Clause.Outline} {text : List Char} {select : SelectList}
  (hfound : found.IsFrom text) (hselect : readSelect schema found.select = .ok select)

include hfound hselect

/-- What is read from clauses is accepted on its own. -/
theorem Parts.isAccepted_ofOutline {joins : List Join}
    (htable : checkTable schema (String.ofList found.table) = .ok ())
    (hjoins : readJoins schema found.joins = .ok joins) :
    (ofOutline found select).IsAccepted schema where
  columns_ne_nil := (entries_of_readSelect hfound.select hselect).1
  entry entry hentry := ((entries_of_readSelect hfound.select hselect).2.1 entry hentry).1
  column := (entries_of_readSelect hfound.select hselect).2.2
  table := hfound.table
  checked := htable
  words := by
    refine List.forall_mem_map.mpr fun clause hclause => ?_
    exact Clause.JoinWords.isWordy_iff.mpr fun name hname =>
      (Clause.names_of_mem_joinsIn hclause name hname).1
  join := (eq_map_of_readJoins hjoins).2
  filter := by simp [ofOutline]

/-- What is written between the words and signs of a query stands in its text. -/
theorem Parts.sublist_of_mem_written_ofOutline :
    ∀ part ∈ (ofOutline found select).written, part.Sublist text := by
  rw [written, List.forall_mem_append, List.forall_mem_cons]
  refine ⟨fun entry hentry => ?_, hfound.table_sublist, fun name hname => ?_⟩
  · have hentries := (entries_of_readSelect hfound.select hselect).2.1
    exact (hentries entry hentry).2.trans hfound.select_sublist
  · obtain ⟨words, hwords, hname⟩ := List.mem_flatMap.mp hname
    obtain ⟨clause, hclause, rfl⟩ := List.mem_map.mp hwords
    exact (Clause.names_of_mem_joinsIn hclause name hname).2.trans hfound.joins_sublist

end Outline

/-- A query that was read is made up of parts of the text in upper case. -/
theorem exists_isReadAs {schema : Schema} {text : String} {query : Query}
    (h : ofText schema text = .ok query) :
    ∃ parts condition, IsReadAs schema query parts condition ∧
      condition.toList.Sublist (trimChars (dropTerminators (canonical text))) := by
  obtain ⟨found, houtline, hread, hreferences⟩ := ofCanonical_eq_ok_iff.mp h
  obtain ⟨select, joins, filter, hselect, htable, hjoins, hfilter, rfl⟩ :=
    ofOutline_eq_ok_iff.mp hread
  have hfound := isFrom_of_outline houtline
  have hbody : (trimChars (dropTerminators (canonical text))).Sublist (canonical text) :=
    (isInfix_trimChars _).sublist.trans (dropTerminators_sublist _)
  have hupper {part : List Char}
      (hpart : part.Sublist (trimChars (dropTerminators (canonical text)))) :
      ∀ c ∈ part, IsUpper c := fun c hc =>
    isUpper_of_mem_upperChars ((hpart.trans hbody).subset hc)
  refine ⟨.ofOutline found select, String.ofList (found.filter.getD []), ?_, ?_⟩
  · refine ⟨Parts.isAccepted_ofOutline hfound hselect htable hjoins, rfl, ?_, hreferences, ?_, ?_⟩
    · rw [(eq_map_of_readJoins hjoins).1, ofText_of_readFilter hfilter]
      rfl
    · exact fun part hpart =>
        hupper (Parts.sublist_of_mem_written_ofOutline hfound hselect part hpart)
    · rw [String.toList_ofList]
      exact hupper hfound.filter_sublist
  · rw [String.toList_ofList]
    exact hfound.filter_sublist

end Query

end RelPlan
