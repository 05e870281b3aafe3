import RelPlan.Proofs.Predicate.Content
import RelPlan.Proofs.Query.Parts
import RelPlan.Query.Printer

/-!
# Printed queries

A query that was read is printed as a text that is read as the same query, unless its condition ends
with a semicolon, which is taken for the one at the end of the query, or other clauses can begin
behind the word `FROM` (`Query.ofText_text_iff`).
-/

namespace RelPlan

open Text

/-! ## The layout of a printed query -/

/-- Printed columns are laid out with a comma and a blank between them. -/
theorem SelectList.laysList_text {select : SelectList} (hne : select.entries ≠ []) :
    Clause.LaysList select.entries select.text.toList := by
  cases select with
  | all => exact .single _
  | columns refs =>
    rw [entries, text]
    induction refs with
    | nil => exact absurd rfl hne
    | cons ref refs ih =>
      cases refs with
      | nil => exact .single _
      | cons next refs =>
        have hnone : IsBlanks [] := by decide
        have hblank : IsBlanks [' '] := by decide
        simpa using Clause.LaysList.cons hnone hblank (ih (by simp [entries]))

/-- Printed joins are laid out one after another. -/
theorem Join.laysJoins_texts (joins : List Clause.JoinWords) :
    Clause.LaysJoins joins (texts (joins.map (·.join))).toList := by
  induction joins with
  | nil => exact .nil
  | cons words joins ih =>
    have hblank : IsGap [' '] := ⟨by decide, by decide⟩
    have hclause : Clause.LaysJoin words _ :=
      .mk hblank hblank hblank hblank hblank.blanks hblank.blanks
    have hlays := Clause.LaysJoins.cons hblank hclause ih
    have hinner : " INNER JOIN ".toList =
        ' ' :: (Clause.innerWord ++ ' ' :: (Clause.joinWord ++ [' '])) := rfl
    have hon : " ON ".toList = ' ' :: (Clause.onWord ++ [' ']) := rfl
    simpa [texts, Join.text, Clause.JoinWords.join, Join.ofTable, Join.hasCondition,
      Conjunction.text, Predicate.text, Comparison.text, Operand.text, ColumnRef.text,
      ColumnRef.qualified, CompareOp.text, hinner, hon] using hlays

namespace Query

/-- The text of a query up to its condition. -/
def head (query : Query) : List Char :=
  ("SELECT " ++ query.select.text ++ " FROM " ++ query.source.table ++ Join.texts query.joins ++
    if query.hasFilter then " WHERE " else "").toList

/-- The text of a query behind the word `FROM`, without the semicolon. -/
def behindFrom (query : Query) : List Char :=
  (" " ++ query.source.table ++ Join.texts query.joins ++
    if query.hasFilter then " WHERE " ++ query.filter.text else "").toList

/-- The condition of a query as it is printed, if there is one. -/
def printedFilter (query : Query) : Option (List Char) :=
  if query.hasFilter then some query.filter.text.toList else none

/-- The text of a query goes up to its condition, and then there are the condition and a
semicolon. -/
theorem toList_text_eq_head (query : Query) :
    query.text.toList = query.head ++ (query.filter.text.toList ++ [';']) := by
  cases hfilter : query.filter with
  | nil => simp [text, head, hasFilter, hfilter, Conjunction.text, Predicate.itemTexts]
  | cons predicate others => simp [text, head, hasFilter, hfilter]

/-- The text of a query is laid out with one blank between its words. -/
theorem toList_text (query : Query) :
    query.text.toList =
      Clause.selectWord ++ ([' '] ++ (query.select.text.toList ++ ([' '] ++
        (Clause.fromWord ++ query.behindFrom)))) ++ ([] ++ [';']) := by
  have hselect : "SELECT ".toList = Clause.selectWord ++ [' '] := rfl
  have hfrom : " FROM ".toList = ' ' :: Clause.fromWord ++ [' '] := rfl
  simp [text, behindFrom, hselect, hfrom]

/-- The characters of the words and signs of a query besides its condition. -/
def signChars : List Char :=
  Clause.selectWord ++ Clause.fromWord ++ Clause.whereWord ++
    (Clause.innerWord ++ Clause.joinWord ++ Clause.onWord ++ ['.', '=']) ++ [',']

/-- A printed condition is its own upper-case form if its text was. -/
theorem isUpper_of_mem_text {text : String} (h : ∀ c ∈ text.toList, IsUpper c) :
    ∀ c ∈ (Conjunction.ofText text).text.toList, IsUpper c := by
  have hprinter : ∀ c ∈ printerChars, IsUpper c := List.all_iff_forall_prop.mp (by decide)
  intro c hc
  by_cases hmem : c ∈ printerChars
  · exact hprinter c hmem
  · have hforeign : c ∈ foreignChars (Conjunction.ofText text).text.toList :=
      List.mem_filter.mpr ⟨hc, by simpa using hmem⟩
    exact h c ((Conjunction.foreignChars_text_sublist text).subset hforeign)

section

variable [WordClass] {schema : Schema} {query : Query} {parts : Parts} {condition : String}

namespace IsReadAs

/-- A query asks for what its parts ask for. -/
theorem select_eq (h : IsReadAs schema query parts condition) : query.select = parts.select := by
  rw [h.query_eq]
  rfl

/-- The first table of a query is that of its parts. -/
theorem table_eq (h : IsReadAs schema query parts condition) :
    query.source.table = String.ofList parts.table := by
  rw [h.query_eq]
  rfl

/-- The joins of a query are those of its parts. -/
theorem joins_eq (h : IsReadAs schema query parts condition) :
    query.joins = parts.joins.map (·.join) := by
  rw [h.query_eq]
  rfl

/-- The condition of a query is read from the text that was read for it. -/
theorem filter_eq (h : IsReadAs schema query parts condition) :
    query.filter = Conjunction.ofText condition := by
  rw [h.query_eq]

/-- Behind the word `FROM` the parts are laid out. -/
theorem laysBehind (h : IsReadAs schema query parts condition) :
    { parts with filter := query.printedFilter }.LaysBehind query.behindFrom := by
  have hblank : IsGap [' '] := ⟨by decide, by decide⟩
  have hwhere : " WHERE ".toList = [' '] ++ Clause.whereWord ++ [' '] := rfl
  have hjoins := Join.laysJoins_texts parts.joins
  have hfilter : Clause.LaysFilter query.printedFilter
      (if query.hasFilter then " WHERE " ++ query.filter.text else "").toList := by
    unfold printedFilter
    split
    · rw [String.toList_append, hwhere]
      exact .some hblank hblank
    · exact .none
  have hlays : Parts.LaysBehind { parts with filter := query.printedFilter } _ :=
    .mk hblank hjoins hfilter
  rw [← h.joins_eq] at hlays
  simpa [behindFrom, h.table_eq] using hlays

/-- Besides its condition a query has the characters of its parts, white space and those of its
words and signs. -/
theorem forall_mem_head (h : IsReadAs schema query parts condition) {property : Char → Prop}
    (hblank : ∀ c, isBlank c = true → property c) (hsign : ∀ c ∈ signChars, property c)
    (hwritten : ∀ part ∈ parts.written, ∀ c ∈ part, property c) :
    ∀ c ∈ query.head, property c := by
  rw [Parts.written, List.forall_mem_append, List.forall_mem_cons] at hwritten
  rw [signChars, List.forall_mem_append, List.forall_mem_append, List.forall_mem_append,
    List.forall_mem_append, List.forall_mem_singleton] at hsign
  obtain ⟨⟨⟨⟨hselect, hfrom⟩, hwhere⟩, hjoin⟩, hcomma⟩ := hsign
  have hlist := Clause.forall_mem_laysList (SelectList.laysList_text h.accepted.columns_ne_nil)
    hblank hcomma hwritten.1
  have hjoins := Clause.forall_mem_laysJoins hblank hjoin (Join.laysJoins_texts parts.joins)
    hwritten.2.2
  have hspaced {word : List Char} (hword : ∀ c ∈ word, property c) :
      ∀ c ∈ word ++ [' '], property c :=
    List.forall_mem_append.mpr ⟨hword, List.forall_mem_singleton.mpr (hblank ' ' (by decide))⟩
  have hopening : ∀ c ∈ "SELECT ".toList, property c := hspaced hselect
  have hmiddle : ∀ c ∈ " FROM ".toList, property c :=
    List.forall_mem_cons.mpr ⟨hblank ' ' (by decide), hspaced hfrom⟩
  have hfilter : ∀ c ∈ (if query.hasFilter then " WHERE " else "").toList, property c := by
    split
    · exact List.forall_mem_cons.mpr ⟨hblank ' ' (by decide), hspaced hwhere⟩
    · simp
  rw [head, h.select_eq, h.table_eq, h.joins_eq]
  simp only [String.toList_append, String.toList_ofList, List.forall_mem_append]
  exact ⟨⟨⟨⟨⟨hopening, hlist⟩, hmiddle⟩, hwritten.2.1⟩, hjoins⟩, hfilter⟩

end IsReadAs

/-- A printed query is in upper case, without white space around it. -/
theorem IsReadAs.canonical_text (h : IsReadAs schema query parts condition) :
    canonical query.text = query.text.toList := by
  have hupper : ∀ c ∈ query.text.toList, IsUpper c := by
    rw [toList_text_eq_head, List.forall_mem_append, List.forall_mem_append, h.filter_eq]
    exact ⟨h.forall_mem_head (fun c => isUpper_of_isBlank)
        (List.all_iff_forall_prop.mp (by decide)) h.upper,
      isUpper_of_mem_text h.upper_condition, List.forall_mem_singleton.mpr (by decide)⟩
  have htrim : trimChars query.text.toList = query.text.toList := by
    refine trimChars_eq_self ?_ fun c hc => ?_
    · rw [toList_text, List.append_assoc]
      exact Clause.isWordRun_selectWord.ends _
    · rw [toList_text, List.nil_append, List.getLast?_concat] at hc
      cases hc
      decide
  rw [canonical, htrim, upperChars_eq_self hupper]

/-! ## When a printed query is read again -/

/-- A condition is read from its printed text. -/
theorem IsReadAs.query_printed (h : IsReadAs schema query parts condition) :
    { parts with filter := query.printedFilter }.query = query := by
  have hnormal : Conjunction.ofText query.filter.text = query.filter := by
    rw [h.filter_eq]
    exact Conjunction.ofText_text_of_isNormal (Conjunction.isNormal_ofText condition)
  have hfilter :
      (query.printedFilter.elim [] fun printed => Condition.ofChars (trimChars printed)) =
        query.filter := by
    unfold printedFilter
    split
    · exact hnormal
    · next hnone =>
      have hempty : query.filter = [] := by simpa [hasFilter] using hnone
      exact hempty.symm
  rw [Parts.query, hfilter, h.query_eq]
  rfl

/-- The printed parts are accepted if the condition does not end with a semicolon. -/
theorem IsReadAs.isAccepted_printed (h : IsReadAs schema query parts condition)
    (hlast : query.filter.text.toList.getLast? ≠ some ';') :
    { parts with filter := query.printedFilter }.IsAccepted schema where
  columns_ne_nil := h.accepted.columns_ne_nil
  entry := h.accepted.entry
  column := h.accepted.column
  table := h.accepted.table
  checked := h.accepted.checked
  words := h.accepted.words
  join := h.accepted.join
  filter := by
    intro printed hprinted
    dsimp only [printedFilter] at hprinted
    split at hprinted
    · next hfilter =>
      cases hprinted
      have hne : query.filter ≠ [] := by simpa [hasFilter] using hfilter
      have hsolid : IsSolid query.filter.text.toList := by
        rw [h.filter_eq] at hne ⊢
        exact (Conjunction.isNormal_ofText condition).isSolid hne
      exact ⟨hsolid.ne_nil, hsolid.trimmed, hlast⟩
    · simp at hprinted

/-- A printed query is read as the same query if its condition does not end with a semicolon and no
other clauses can begin in it. -/
theorem IsReadAs.ofText_text (h : IsReadAs schema query parts condition)
    (hlast : query.filter.text.toList.getLast? ≠ some ';')
    (hnone : Clause.splitSelect query.behindFrom = none) :
    ofText schema query.text = .ok query := by
  have hblank : IsGap [' '] := ⟨by decide, by decide⟩
  have hlist := SelectList.laysList_text h.accepted.columns_ne_nil
  have hquery := h.query_printed
  have hread := ofCanonical_of_lays (h.isAccepted_printed hlast) hblank hlist hblank h.laysBehind
    (by decide : IsBlanks []) hnone (hquery.symm ▸ h.references)
  rw [ofText, h.canonical_text, toList_text, h.select_eq, hread, hquery]

/-- Besides its condition there is no semicolon in a query. -/
theorem IsReadAs.semicolon_not_mem_head (h : IsReadAs schema query parts condition) :
    ';' ∉ query.head := by
  have hother {kind : Char → Bool} (hkind : kind ';' = false) {part : List Char}
      (hpart : ∀ c ∈ part, kind c = true) : ∀ c ∈ part, c ≠ ';' := by
    rintro c hc rfl
    simp [hpart ';' hc] at hkind
  have hsemicolon : isWord ';' = false := isWord_eq_false (by decide)
  have hblank : ∀ c, isBlank c = true → c ≠ ';' := by
    rintro _ hblank rfl
    exact absurd hblank (by decide)
  have hwritten : ∀ part ∈ parts.written, ∀ c ∈ part, c ≠ ';' := by
    rw [Parts.written, List.forall_mem_append, List.forall_mem_cons]
    refine ⟨fun entry hentry => ?_, ?_, fun name hname => ?_⟩
    · exact hother (Clause.isSelectChar_eq_false (by decide) (by decide))
        (h.accepted.entry entry hentry).select
    · exact hother hsemicolon h.accepted.table.word
    · obtain ⟨words, hmem, hname⟩ := List.mem_flatMap.mp hname
      have hword := Clause.JoinWords.isWordy_iff.mp (h.accepted.words words hmem) name hname
      exact hother hsemicolon hword.word
  exact fun hmem => h.forall_mem_head hblank (List.all_iff_forall_prop.mp (by decide)) hwritten ';'
    hmem rfl

/-- The condition of a printed query that is read as the same query does not end with a semicolon:
that one would be taken off, and the condition can have no more of the other ones than before. -/
theorem IsReadAs.getLast?_ne (h : IsReadAs schema query parts condition)
    (hread : ofText schema query.text = .ok query) :
    query.filter.text.toList.getLast? ≠ some ';' := by
  intro hlast
  obtain ⟨front, hfront⟩ := List.getLast?_eq_some_iff.mp hlast
  obtain ⟨_, again, hagain, hsublist⟩ := exists_isReadAs hread
  have hdrop : dropTerminators query.text.toList = dropTerminators (query.head ++ front) := by
    rw [toList_text_eq_head, hfront, ← List.append_assoc, dropTerminators_append,
      ← List.append_assoc, dropTerminators_append]
  have hhead : query.head.count ';' = 0 := List.count_eq_zero.mpr h.semicolon_not_mem_head
  have hle : again.toList.count ';' ≤ (query.head ++ front).count ';' := by
    rw [h.canonical_text, hdrop] at hsublist
    have hbody := (isInfix_trimChars (dropTerminators (query.head ++ front))).sublist
    exact (hsublist.trans (hbody.trans (dropTerminators_sublist _))).count_le ';'
  have hcount := Conjunction.count_text_le (c := ';') (by decide) again
  rw [← hagain.filter_eq, hfront, List.count_append, List.count_singleton_self] at hcount
  rw [List.count_append, hhead] at hle
  omega

/-- Behind the last entry of a list of columns white space stays inside if there are more words. -/
theorem exists_blank_mem_splitAt {entries : List (List Char)} {list : List Char}
    (hlist : Clause.LaysList entries list) (hentries : ∀ entry ∈ entries, Clause.IsEntry entry)
    {front : List Char} (hfront : IsBlanks front) (more : List Char) :
    ∃ field ∈ splitAt ',' (front ++ (list ++ ([' '] ++ (Clause.fromWord ++ more)))),
      ' ' ∈ trimChars field := by
  induction hlist generalizing front with
  | single entry =>
    have hentry := List.forall_mem_singleton.mp hentries
    obtain ⟨first, others, hmore⟩ := List.exists_cons_of_ne_nil (splitAt_ne_nil ',' more)
    have hcomma : ',' ∉ front ++ (entry ++ ([' '] ++ Clause.fromWord)) := by
      have hfrom : ',' ∉ Clause.fromWord := by decide
      simp [Clause.comma_not_mem_blanks hfront, hentry.comma, hfrom]
    have hsplit := splitAt_append hcomma hmore
    simp only [List.append_assoc] at hsplit
    rw [hsplit]
    refine ⟨_, List.mem_cons_self, ?_⟩
    obtain ⟨before, behind, hbefore, hbehind, heq⟩ :=
      exists_eq_append_trimChars (Clause.fromWord ++ first)
    have hne : trimChars (Clause.fromWord ++ first) ≠ [] := by
      intro hnil
      rw [hnil, List.append_nil] at heq
      have hblank := (hbefore.append hbehind) 'F' (heq ▸ List.mem_cons_self)
      exact absurd hblank (by decide)
    have hsolid := (IsSolid.mk hentry.ne_nil hentry.trimmed).append
      (IsSolid.mk hne (trimChars_trimChars _)) ([' '] ++ before)
    rw [trimChars_append_left hfront, heq, ← List.append_assoc [' '], ← List.append_assoc [' '],
      ← List.append_assoc entry, trimChars_append_right hbehind, hsolid.trimmed]
    simp
  | @cons entry before behind rest others hbefore hbehind hrest ih =>
    rw [List.forall_mem_cons] at hentries
    obtain ⟨field, hfield, hblank⟩ := ih hentries.2 hbehind
    refine ⟨field, ?_, hblank⟩
    have hcomma : ',' ∉ front ++ (entry ++ before) := by
      simp [Clause.comma_not_mem_blanks hfront, Clause.comma_not_mem_blanks hbefore,
        hentries.1.comma]
    have hsplit := splitAt_append_cons hcomma
      (behind ++ (rest ++ ([' '] ++ (Clause.fromWord ++ more))))
    simp only [List.append_assoc, List.cons_append] at hsplit hfield ⊢
    rw [hsplit]
    exact List.mem_cons_of_mem _ hfield

/-- White space inside an entry is refused. -/
theorem readSelect_ne_ok {schema : Schema} {entries : List (List Char)} {list : List Char}
    (hlist : Clause.LaysList entries list) (hentries : ∀ entry ∈ entries, Clause.IsEntry entry)
    (more : List Char) (select : SelectList) :
    readSelect schema (list ++ ([' '] ++ (Clause.fromWord ++ more))) ≠ .ok select := by
  intro h
  have hnone : IsBlanks [] := by decide
  obtain ⟨field, hfield, hblank⟩ := exists_blank_mem_splitAt hlist hentries hnone more
  have hmem := List.mem_map_of_mem (f := trimChars) hfield
  rw [List.nil_append] at hmem
  rcases readSelect_eq_ok_iff.mp h with ⟨hstar, -⟩ | ⟨columns, hcolumns, -⟩
  · rw [hstar, List.mem_singleton] at hmem
    rw [hmem] at hblank
    exact absurd hblank (by decide)
  · obtain ⟨column, hread⟩ := exists_eq_ok_of_mapM hcolumns hmem
    exact absurd ((text_of_readColumn hread).2.2 ' ' hblank) (by decide)

/-- In a printed query that is read as the same query no other clauses can begin. -/
theorem IsReadAs.splitSelect_eq_none (h : IsReadAs schema query parts condition)
    (hlast : query.filter.text.toList.getLast? ≠ some ';')
    (hread : ofText schema query.text = .ok query) :
    Clause.splitSelect query.behindFrom = none := by
  cases hsplit : Clause.splitSelect query.behindFrom with
  | none => rfl
  | some found =>
    obtain ⟨more, source⟩ := found
    have hblank : IsGap [' '] := ⟨by decide, by decide⟩
    have hlist := SelectList.laysList_text h.accepted.columns_ne_nil
    have hsolid := (((endsSolid_of_laysBehind (h.isAccepted_printed hlast) h.laysBehind).append
      Clause.fromWord).append [' ']).append parts.select.text.toList
    obtain ⟨hne, hends⟩ := Clause.ends_of_laysList hlist h.accepted.entry
    have hfrom : ∀ c ∈ [' '] ++ Clause.fromWord, Clause.isSelectChar c = true :=
      List.forall_mem_cons.mpr ⟨Clause.isSelectChar_of_isBlank (by decide), fun c hc =>
        Clause.isSelectChar_of_isWord (Clause.isWordRun_fromWord.word c hc)⟩
    have hselect : ∀ c ∈ parts.select.text.toList ++ ([' '] ++ Clause.fromWord),
        Clause.isSelectChar c = true :=
      List.forall_mem_append.mpr
        ⟨Clause.isSelectChar_of_laysList hlist h.accepted.entry, hfrom⟩
    have hlater := Clause.splitSelect_append hselect hsplit
    simp only [List.append_assoc] at hlater
    have houtline := outline_of_outline? hblank hsolid (by decide : IsBlanks [])
      (Clause.outline?_of_splitSelect hblank (hends.append hne _) hlater)
    rw [ofText, h.canonical_text, toList_text, h.select_eq] at hread
    obtain ⟨found, hfound, hquery, -⟩ := ofCanonical_eq_ok_iff.mp hread
    cases houtline.symm.trans hfound
    obtain ⟨select, _, _, hrefused, -⟩ := ofOutline_eq_ok_iff.mp hquery
    exact absurd hrefused (readSelect_ne_ok hlist h.accepted.entry more select)

end

/-- A query that was read is printed as a text that is read as the same query exactly if its
condition does not end with a semicolon and no other clauses can begin behind the word `FROM`. -/
theorem ofText_text_iff [WordClass] {schema : Schema} {text : String} {query : Query}
    (h : ofText schema text = .ok query) :
    ofText schema query.text = .ok query ↔
      query.filter.text.toList.getLast? ≠ some ';' ∧
        Clause.splitSelect query.behindFrom = none := by
  obtain ⟨parts, condition, hparts, -⟩ := exists_isReadAs h
  constructor
  · intro hread
    have hlast := hparts.getLast?_ne hread
    exact ⟨hlast, hparts.splitSelect_eq_none hlast hread⟩
  · rintro ⟨hlast, hnone⟩
    exact hparts.ofText_text hlast hnone

/-- A query with a condition of which the first part is kept verbatim. -/
def kept : Query :=
  .ofTable (.columns [.bare "A"]) "T" []
    [.verbatim "A + 1 = 2" [.bare "A"], .compare ⟨.column (.bare "B"), .eq, .literal (.number "3")⟩]

/-- Text that is kept verbatim is read again. -/
theorem ofText_text_kept :
    ofText .standard "select a from t where a + 1 = 2 and b = 3 and;" = .ok kept ∧
      ofText .standard kept.text = .ok kept := by
  have hread : ofText .standard "select a from t where a + 1 = 2 and b = 3 and;" = .ok kept := by
    decide +kernel
  exact ⟨hread, (ofText_text_iff hread).mpr ⟨by decide +kernel, by decide +kernel⟩⟩

/-- The semicolon at the end of a condition is read as the end of the query. -/
theorem ofText_text_semicolon :
    ofText .standard "SELECT * FROM T WHERE A ; AND;" =
        .ok (.ofTable .all "T" [] [.verbatim "A ;" [.bare "A"]]) ∧
      ofText .standard (ofTable .all "T" [] [.verbatim "A ;" [.bare "A"]]).text =
        .ok (.ofTable .all "T" [] [.verbatim "A" [.bare "A"]]) := by
  decide +kernel

/-- A later `FROM` takes the first one into the list of columns. -/
example :
    ofText .standard "SELECT * FROM T WHERE FROM X AND;" =
        .ok (.ofTable .all "T" [] [.verbatim "FROM X" [.bare "FROM", .bare "X"]]) ∧
      ofText .standard (ofTable .all "T" []
          [.verbatim "FROM X" [.bare "FROM", .bare "X"]]).text =
        .error (.column "* FROM T WHERE" .blankInside) := by
  decide +kernel

end Query

end RelPlan
