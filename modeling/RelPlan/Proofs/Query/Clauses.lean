import RelPlan.Proofs.Query.Layout

/-!
# What clauses are made of

The clauses that are found in a text are made of its characters, in the same order, the list of
columns has no other characters than it may have, and the table is a word
(`Clause.isFrom_of_outline?`).
-/

namespace RelPlan

open Text

namespace Clause

/-! ## Conditions and blank lists -/

/-- A condition is made of the characters behind its word. -/
theorem sublist_of_run_conditionText {gap cs condition rest : List Char}
    (h : (conditionText gap).run cs = some (condition, rest)) : condition.Sublist (gap ++ cs) := by
  match cs with
  | [] =>
    replace h : (if 2 ≤ gap.length then gap.getLast?.map fun c => ([c], []) else none) =
      some (condition, rest) := h
    split at h
    · obtain ⟨c, hc, heq⟩ := Option.map_eq_some_iff.mp h
      cases heq
      simpa using List.mem_of_getLast? hc
    · simp at h
  | [c] =>
    cases h
    exact List.sublist_append_right _ _
  | c :: d :: cs =>
    replace h : (if (c :: d :: cs).getLast? = some ';' then
      some ((c :: d :: cs).dropLast, [';']) else some (c :: d :: cs, [])) =
      some (condition, rest) := h
    split at h <;> cases h
    · exact (List.dropLast_sublist _).trans (List.sublist_append_right _ _)
    · exact List.sublist_append_right _ _

/-- The condition of a query is made of the characters of its text. -/
theorem sublist_of_run_whereClause {cs condition rest : List Char}
    (h : whereClause.run cs = some (condition, rest)) : condition.Sublist cs := by
  simp only [whereClause, Reader.run_bind_eq_some_iff] at h
  obtain ⟨_, _, hbefore, _, _, hwhere, gap, _, hbehind, hcondition⟩ := h
  rw [← Reader.append_of_run_some hbefore, ← Reader.append_of_run_literal hwhere]
  refine ((sublist_of_run_conditionText hcondition).trans ?_).trans
    ((List.sublist_append_right _ _).trans (List.sublist_append_right _ _))
  rw [Reader.append_of_run_some hbehind]

/-- If a list of columns is taken from white space then it is one of its characters. -/
theorem exists_of_blankSelect? {gap select : List Char} (h : blankSelect? gap = some select) :
    ∃ c ∈ gap, select = [c] := by
  unfold blankSelect? at h
  split at h
  · next _ c _ _ hreverse =>
    refine ⟨c, ?_, (Option.some.inj h).symm⟩
    rw [← List.mem_reverse, hreverse]
    simp
  · simp at h

variable [WordClass]

/-! ## Join clauses -/

/-- What is read as a word is one. -/
theorem isWordRun_of_run_word {cs word rest : List Char}
    (h : Reader.word.run cs = some (word, rest)) : IsWordRun word :=
  ⟨Reader.ne_nil_of_run_some h, Reader.all_of_run_some h⟩

/-- A table and a column with a dot between them are words. -/
theorem isWordRun_of_run_pair {cs rest : List Char} {words : List Char × List Char}
    (h : pair.run cs = some (words, rest)) : IsWordRun words.1 ∧ IsWordRun words.2 := by
  simp only [pair, Reader.run_bind_eq_some_iff, Reader.run_pure_eq_some_iff] at h
  obtain ⟨_, _, htable, _, _, -, _, _, hcolumn, rfl, -⟩ := h
  exact ⟨isWordRun_of_run_word htable, isWordRun_of_run_word hcolumn⟩

/-- The table of a join clause is a word in its text. -/
theorem isWordRun_of_run_joinTable {cs rest text table : List Char}
    (h : joinTable.run cs = some ((text, table), rest)) : IsWordRun table ∧ table.Sublist text := by
  simp only [joinTable, Reader.run_bind_eq_some_iff, Reader.run_pure_eq_some_iff,
    Prod.mk.injEq] at h
  obtain ⟨_, _, htable, _, _, -, _, _, -, _, _, -, ⟨rfl, rfl⟩, -⟩ := h
  exact ⟨isWordRun_of_run_word htable, by simp⟩

/-- The names of a join clause are words in its text. -/
theorem names_of_run_joinClause {cs rest text : List Char} {words : JoinWords}
    (h : joinClause.run cs = some ((text, words), rest)) :
    ∀ name ∈ words.names, IsWordRun name ∧ name.Sublist text := by
  simp only [joinClause, Reader.run_bind_eq_some_iff, Reader.run_pure_eq_some_iff, Prod.exists,
    Prod.mk.injEq] at h
  obtain ⟨opening, _, -, head, table, _, htable, leftTable, leftColumn, _, hleft, sign, _, -,
    rightTable, rightColumn, _, hright, ⟨rfl, rfl⟩, -⟩ := h
  obtain ⟨htableWord, htableText⟩ := isWordRun_of_run_joinTable htable
  obtain ⟨hleftTable, hleftColumn⟩ := isWordRun_of_run_pair hleft
  obtain ⟨hrightTable, hrightColumn⟩ := isWordRun_of_run_pair hright
  simp only [JoinWords.names, List.forall_mem_cons, List.not_mem_nil, false_implies, implies_true,
    and_true]
  have hpart (front part back : List Char) : part.Sublist (front ++ part ++ back) := by simp
  refine ⟨⟨htableWord, ?_⟩, ⟨hleftTable, ?_⟩, ⟨hleftColumn, ?_⟩, ⟨hrightTable, ?_⟩, hrightColumn,
    ?_⟩
  · simpa using htableText.trans (hpart opening head (leftTable ++ ['.'] ++ leftColumn ++ sign ++
      rightTable ++ ['.'] ++ rightColumn))
  · simpa using hpart (opening ++ head) leftTable
      (['.'] ++ leftColumn ++ sign ++ rightTable ++ ['.'] ++ rightColumn)
  · simpa using hpart (opening ++ head ++ leftTable ++ ['.']) leftColumn
      (sign ++ rightTable ++ ['.'] ++ rightColumn)
  · simpa using hpart (opening ++ head ++ leftTable ++ ['.'] ++ leftColumn ++ sign) rightTable
      (['.'] ++ rightColumn)
  · simpa using hpart
      (opening ++ head ++ leftTable ++ ['.'] ++ leftColumn ++ sign ++ rightTable ++ ['.'])
      rightColumn []

/-- A join clause that is found in a text is read somewhere in it. -/
theorem exists_of_mem_findJoins {skipped : Nat} {cs : List Char} {found : List Char × JoinWords}
    (h : found ∈ findJoins skipped cs) :
    ∃ start rest, start <:+ cs ∧ joinClause.run start = some (found, rest) := by
  induction cs generalizing skipped with
  | nil => simp [findJoins] at h
  | cons c cs ih =>
    have hlater {skipped : Nat} (h : found ∈ findJoins skipped cs) :
        ∃ start rest, start <:+ c :: cs ∧ joinClause.run start = some (found, rest) := by
      obtain ⟨start, rest, hsuffix, hrun⟩ := ih h
      exact ⟨start, rest, hsuffix.trans (List.suffix_cons c cs), hrun⟩
    unfold findJoins at h
    split at h
    · exact hlater h
    · split at h
      · next text words rest hrun =>
        rcases List.mem_cons.mp h with rfl | hmem
        · exact ⟨c :: cs, rest, List.suffix_refl _, hrun⟩
        · exact hlater hmem
      · exact hlater h

/-- The names in the join clauses of a text are words in it. -/
theorem names_of_mem_joinsIn {text : List Char} {found : List Char × JoinWords}
    (h : found ∈ joinsIn text) : ∀ name ∈ found.2.names, IsWordRun name ∧ name.Sublist text := by
  obtain ⟨start, rest, hsuffix, hrun⟩ := exists_of_mem_findJoins h
  intro name hname
  obtain ⟨hword, hsublist⟩ := names_of_run_joinClause hrun name hname
  have hfront : found.1 <+: start := ⟨rest, append_of_run_joinClause hrun⟩
  exact ⟨hword, hsublist.trans (hfront.sublist.trans hsuffix.sublist)⟩

/-- A join clause and the white space before it are what is taken off the text. -/
theorem append_of_run_nextJoin {cs text rest : List Char}
    (h : nextJoin.run cs = some (text, rest)) : text ++ rest = cs := by
  simp only [nextJoin, Reader.run_bind_eq_some_iff, Reader.run_pure_eq_some_iff, Prod.exists] at h
  obtain ⟨gap, _, hgap, _, _, _, hclause, rfl, rfl⟩ := h
  rw [← Reader.append_of_run_some hgap, ← append_of_run_joinClause hclause, List.append_assoc]

/-- The join clauses that are read and what is left are the text. -/
theorem flatten_append_repeatedRun_nextJoin (cs : List Char) :
    (Reader.repeatedRun nextJoin shortens_nextJoin cs).1.flatten ++
      (Reader.repeatedRun nextJoin shortens_nextJoin cs).2 = cs := by
  fun_induction Reader.repeatedRun nextJoin shortens_nextJoin cs with
  | case1 cs value rest hrun _ others ih =>
    rw [List.flatten_cons, List.append_assoc, ih, append_of_run_nextJoin hrun]
  | case2 cs hrun => rfl

/-- The join clauses are what is taken off the text. -/
theorem append_of_run_joinClauses {cs joins rest : List Char}
    (h : joinClauses.run cs = some (joins, rest)) : joins ++ rest = cs := by
  obtain ⟨clauses, hclauses, rfl⟩ := run_joinClauses_eq_some_iff.mp h
  have hall := flatten_append_repeatedRun_nextJoin cs
  rwa [hclauses] at hall

/-! ## All clauses -/

/-- Whether the clauses of a query are made of the characters of a text, in the same order. -/
structure Outline.IsFrom (found : Outline) (text : List Char) : Prop where
  select : ∀ c ∈ found.select, isSelectChar c = true
  table : IsWordRun found.table
  sublist : (found.select ++ (found.table ++ (found.joins ++ found.filter.getD []))).Sublist text

namespace Outline.IsFrom

variable {found : Outline} {text : List Char}

/-- The list of columns is made of the characters of the text. -/
theorem select_sublist (h : found.IsFrom text) : found.select.Sublist text :=
  (List.sublist_append_left _ _).trans h.sublist

/-- The clauses behind the list of columns are made of the characters of the text. -/
theorem source_sublist (h : found.IsFrom text) :
    (found.table ++ (found.joins ++ found.filter.getD [])).Sublist text :=
  (List.sublist_append_right _ _).trans h.sublist

/-- The first table is made of the characters of the text. -/
theorem table_sublist (h : found.IsFrom text) : found.table.Sublist text :=
  (List.sublist_append_left _ _).trans h.source_sublist

/-- The joins are made of the characters of the text. -/
theorem joins_sublist (h : found.IsFrom text) : found.joins.Sublist text :=
  ((List.sublist_append_left _ _).trans (List.sublist_append_right _ _)).trans h.source_sublist

/-- The condition is made of the characters of the text. -/
theorem filter_sublist (h : found.IsFrom text) : (found.filter.getD []).Sublist text :=
  ((List.sublist_append_right _ _).trans (List.sublist_append_right _ _)).trans h.source_sublist

end Outline.IsFrom

/-- The clauses from the word `FROM` on are made of the characters of the text. -/
theorem isFrom_of_run_source {cs rest : List Char} {found : Source}
    (h : source.run cs = some (found, rest)) : Outline.IsFrom ⟨found, []⟩ cs := by
  simp only [source, Reader.run_bind_eq_some_iff, Reader.run_pure_eq_some_iff] at h
  obtain ⟨_, _, hfrom, _, _, hgap, table, _, htable, joins, behind, hjoins, filter, _, hfilter,
    _, _, -, _, _, -, rfl, -⟩ := h
  refine ⟨by simp, isWordRun_of_run_word htable, ?_⟩
  have hcondition : (filter.getD []).Sublist behind := by
    rw [Reader.run_optional] at hfilter
    split at hfilter
    · next hwhere =>
      cases hfilter
      exact sublist_of_run_whereClause hwhere
    · cases hfilter
      exact List.nil_sublist _
  rw [← Reader.append_of_run_literal hfrom, ← Reader.append_of_run_some hgap,
    ← Reader.append_of_run_some htable, ← append_of_run_joinClauses hjoins]
  exact ((((List.Sublist.refl _).append hcondition).append_left _).trans
    (List.sublist_append_right _ _)).trans (List.sublist_append_right _ _)

/-- Where a text splits there is a list of columns, white space and then the clauses. -/
theorem exists_append_of_splitSelect {cs select : List Char} {found : Source}
    (h : splitSelect cs = some (select, found)) :
    ∃ blank behind rest, cs = select ++ blank :: behind ∧
      (∀ c ∈ select, isSelectChar c = true) ∧ source.run behind = some (found, rest) := by
  induction cs generalizing select with
  | nil => simp [splitSelect] at h
  | cons c cs ih =>
    unfold splitSelect at h
    split at h
    · next hc =>
      split at h
      · next later source hlater =>
        cases h
        obtain ⟨blank, behind, rest, rfl, hselect, hrun⟩ := ih hlater
        exact ⟨blank, behind, rest, rfl, List.forall_mem_cons.mpr ⟨hc, hselect⟩, hrun⟩
      · split at h
        · obtain ⟨⟨source, rest⟩, hrun, heq⟩ := Option.map_eq_some_iff.mp h
          cases heq
          exact ⟨c, cs, rest, rfl, by simp, hrun⟩
        · simp at h
    · simp at h

/-- The clauses from the word `FROM` on are read somewhere in the text, with the list of columns
before them. -/
theorem exists_append_of_outline? {text : List Char} {found : Outline}
    (h : outline? text = some found) :
    ∃ front behind rest, text = front ++ behind ∧ found.select.Sublist front ∧
      (∀ c ∈ found.select, isSelectChar c = true) ∧
      source.run behind = some (found.toSource, rest) := by
  obtain ⟨⟨gap, rest⟩, hopening, h⟩ := Option.bind_eq_some_iff.mp h
  obtain ⟨_, _, hword, hgap⟩ := Reader.run_bind_eq_some_iff.mp hopening
  rw [← Reader.append_of_run_literal hword, ← Reader.append_of_run_some hgap]
  dsimp only at h
  split at h
  · next select source hsplit =>
    cases h
    obtain ⟨blank, behind, rest, rfl, hselect, hrun⟩ := exists_append_of_splitSelect hsplit
    refine ⟨selectWord ++ (gap ++ (select ++ [blank])), behind, rest, by simp, ?_, hselect, hrun⟩
    exact (List.sublist_append_left _ _).trans
      ((List.sublist_append_right _ _).trans (List.sublist_append_right _ _))
  · obtain ⟨⟨source, behind⟩, hrun, h⟩ := Option.bind_eq_some_iff.mp h
    obtain ⟨select, hblank, h⟩ := Option.bind_eq_some_iff.mp h
    cases h
    obtain ⟨c, hmem, rfl⟩ := exists_of_blankSelect? hblank
    have hc : isBlank c = true := Reader.all_of_run_some hgap c hmem
    refine ⟨selectWord ++ gap, rest, behind, by simp, ?_, ?_, hrun⟩
    · exact (List.singleton_sublist.mpr hmem).trans (List.sublist_append_right _ _)
    · exact List.forall_mem_singleton.mpr (isSelectChar_of_isBlank hc)

/-- The clauses of a text are made of its characters. -/
theorem isFrom_of_outline? {text : List Char} {found : Outline} (h : outline? text = some found) :
    found.IsFrom text := by
  obtain ⟨front, behind, rest, rfl, hfront, hselect, hrun⟩ := exists_append_of_outline? h
  have hsource := isFrom_of_run_source hrun
  exact ⟨hselect, hsource.table, hfront.append hsource.sublist⟩

end Clause

end RelPlan
