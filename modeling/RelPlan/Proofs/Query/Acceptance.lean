import RelPlan.Proofs.Predicate.Printing
import RelPlan.Proofs.Query.Reading
import RelPlan.Proofs.Query.Written
import RelPlan.Proofs.Text.Upper

/-!
# Every layout is accepted

The open schema with the standard reserved words accepts every text that lays out a query whose
names are plain, with any white space between its words and any case of its ASCII letters, and the
text is read as just that query (`Query.ofText_of_lays`). Names are made of letters and words of
word characters, so this is under the assumption that every letter is a word character, as the
library of patterns documents.
-/

namespace RelPlan

open Text

/-! ## Letters as word characters -/

/-- The listed word characters together with all letters. -/
abbrev Text.WordClass.lettered : WordClass :=
  .ofRanges (wordRanges ++ alphabeticRanges) (by decide +kernel)

/-- Every letter is among them. -/
theorem Text.WordClass.contains_lettered {c : Char} (h : isAlphabetic c = true) :
    lettered.contains c = true := by
  change (c.isAlphanum || c == '_' ||
    (isBeyondAscii c && (wordRanges ++ alphabeticRanges).any _)) = true
  rw [List.any_append]
  simp only [isAlphabetic, Char.isAlphanum, Bool.or_eq_true, Bool.and_eq_true] at h ⊢
  rcases h with halpha | ⟨hbeyond, hlisted⟩
  · exact .inl (.inl (.inl halpha))
  · exact .inr ⟨hbeyond, .inr hlisted⟩

/-! ## Plain names -/

/-- Whether the name may stand everywhere in a query: it is made of letters in upper case, digits
and underscores, and it is no reserved word. -/
structure IsPlainName (name : List Char) : Prop where
  spelling : Lexer.isWord name = true
  upper : upperChars name = name
  free : Schema.standard.isReserved (String.ofList name) = false

namespace IsPlainName

variable {name : List Char}

/-- A plain name is not empty. -/
theorem ne_nil (h : IsPlainName name) : name ≠ [] := by
  rintro rfl
  exact absurd h.spelling (by decide)

/-- A plain name is an identifier. -/
theorem isIdentifierChars (h : IsPlainName name) : isIdentifierChars name = true := by
  have hname := h.spelling
  cases name with
  | nil => exact absurd rfl h.ne_nil
  | cons first rest =>
    obtain ⟨hfirst, hrest⟩ := Bool.and_eq_true_iff.mp hname
    refine Bool.and_eq_true_iff.mpr ⟨hfirst, List.all_eq_true.mpr fun c hc => ?_⟩
    have hpart := List.all_eq_true.mp hrest c hc
    simp only [Lexer.isNamePart, isNameStart, Bool.or_eq_true] at hpart
    simp only [isAlphanumeric, isNumeric, Bool.or_eq_true]
    tauto

/-- A plain name is in upper case. -/
theorem isUpper (h : IsPlainName name) : ∀ c ∈ name, IsUpper c := by
  intro c hc
  rw [← h.upper] at hc
  exact isUpper_of_mem_upperChars hc

/-- The word `FROM` is reserved. -/
theorem ne_fromWord (h : IsPlainName name) : name ≠ Clause.fromWord := by
  rintro rfl
  exact absurd h.free (by decide)

/-- The characters of a plain name are letters, underscores and ASCII digits. -/
theorem isNamePart (h : IsPlainName name) : ∀ c ∈ name, Lexer.isNamePart c = true := by
  have hname := h.spelling
  cases name with
  | nil => exact absurd rfl h.ne_nil
  | cons first rest =>
    obtain ⟨hfirst, hrest⟩ := Bool.and_eq_true_iff.mp hname
    exact List.forall_mem_cons.mpr
      ⟨Lexer.isNamePart_of_isNameStart hfirst, List.all_eq_true.mp hrest⟩

/-- A plain name is a word if all letters are word characters. -/
theorem isWordRun [WordClass] (hletters : ∀ c, isAlphabetic c = true → isWord c = true)
    (h : IsPlainName name) : IsWordRun name := by
  refine ⟨h.ne_nil, fun c hc => ?_⟩
  have hpart := h.isNamePart c hc
  simp only [Lexer.isNamePart, isNameStart, Bool.or_eq_true, beq_iff_eq] at hpart
  rcases hpart with (hletter | rfl) | hdigit
  · exact hletters c hletter
  · exact isWord_of_ascii (by decide)
  · exact isWord_of_isDigit hdigit

end IsPlainName

/-- No reserved word of the standard schema has a dot in it. -/
theorem Schema.not_isReserved_of_dot_mem {cs : List Char} (h : '.' ∈ cs)
    (hupper : upperChars cs = cs) : Schema.standard.isReserved (String.ofList cs) = false := by
  have hwords : ∀ word ∈ Schema.standardWords, '.' ∉ word.toList := by decide
  rw [Schema.isReserved, Bool.eq_false_iff]
  intro hmem
  have hword : upper (String.ofList cs) ∈ Schema.standardWords := by
    simpa [Schema.standard] using hmem
  refine hwords _ hword ?_
  simpa [upper, hupper] using h

/-! ## Plain columns -/

/-- The names in a column. -/
def ColumnRef.names (column : ColumnRef) : List (List Char) :=
  (column.table.toList ++ [column.name]).map String.toList

section Column

variable {column : ColumnRef} (h : ∀ name ∈ column.names, IsPlainName name)

/-- The text of a column is made of the characters of its names, with a dot between them. -/
theorem ColumnRef.eq_dot_or_mem_names :
    ∀ c ∈ column.text.toList, c = '.' ∨ ∃ name ∈ column.names, c ∈ name := by
  obtain ⟨table, name⟩ := column
  intro c hc
  cases table with
  | none => exact .inr ⟨name.toList, by simp [names], hc⟩
  | some table =>
    simp only [text, String.toList_append, List.mem_append] at hc
    rcases hc with (htable | hdot) | hname
    · exact .inr ⟨table.toList, by simp [names], htable⟩
    · exact .inl (by simpa using hdot)
    · exact .inr ⟨name.toList, by simp [names], hname⟩

include h

/-- The text of a column with plain names is in upper case. -/
theorem ColumnRef.isUpper_of_mem_text : ∀ c ∈ column.text.toList, IsUpper c := by
  intro c hc
  rcases eq_dot_or_mem_names c hc with rfl | ⟨name, hname, hmem⟩
  · decide
  · exact (h name hname).isUpper c hmem

/-- There is no white space in the text of a column with plain names. -/
theorem ColumnRef.isBlank_of_mem_text : ∀ c ∈ column.text.toList, isBlank c = false := by
  intro c hc
  rcases eq_dot_or_mem_names c hc with rfl | ⟨name, hname, hmem⟩
  · decide
  · exact Bool.eq_false_iff.mpr
      (Lexer.not_isBlank_of_isNamePart ((h name hname).isNamePart c hmem))

/-- A column with plain names is an entry of the list of columns if all letters are word
characters. -/
theorem Clause.isEntry_text [WordClass]
    (hletters : ∀ c, isAlphabetic c = true → isWord c = true) : IsEntry column.text.toList := by
  have hblank := ColumnRef.isBlank_of_mem_text h
  have hchars : ∀ c ∈ column.text.toList, c = '.' ∨ isWord c = true := fun c hc =>
    (ColumnRef.eq_dot_or_mem_names c hc).imp_right fun ⟨name, hname, hmem⟩ =>
      ((h name hname).isWordRun hletters).word c hmem
  refine ⟨fun hnil => ?_, ?_, fun c hc => ?_, fun hcomma => ?_⟩
  · have hname := (h column.name.toList (by simp [ColumnRef.names])).ne_nil
    cases htable : column.table <;> simp [ColumnRef.text, htable] at hnil hname
    exact hname hnil
  · exact trimChars_eq_self (fun c hc => hblank c (List.mem_of_mem_head? hc))
      fun c hc => hblank c (List.mem_of_getLast? hc)
  · rcases hchars c hc with rfl | hword
    · simp [isSelectChar]
    · exact isSelectChar_of_isWord hword
  · rcases hchars ',' hcomma with hdot | hword
    · exact absurd hdot (by decide)
    · simp [isWord_eq_false (c := ',') (by decide)] at hword

/-- A column with plain names is read from its text. -/
theorem Query.readColumn_text : readColumn .standard column.text.toList = .ok column := by
  have hblank := ColumnRef.isBlank_of_mem_text h
  have hupper : upperChars column.text.toList = column.text.toList :=
    upperChars_eq_self (ColumnRef.isUpper_of_mem_text h)
  obtain ⟨table, name⟩ := column
  have hname : IsPlainName name.toList := h _ (by simp [ColumnRef.names])
  cases table with
  | none =>
    have htext : (ColumnRef.text ⟨none, name⟩).toList = name.toList := rfl
    rw [htext] at hblank ⊢
    refine readColumn_eq_ok_iff.mpr ⟨hname.free, hblank, .inr ⟨hname.isIdentifierChars, ?_⟩⟩
    rw [String.ofList_toList, ColumnRef.bare]
  | some table =>
    have htable : IsPlainName table.toList := h _ (by simp [ColumnRef.names])
    have htext :
        (ColumnRef.text ⟨some table, name⟩).toList = table.toList ++ '.' :: name.toList := by
      simp [ColumnRef.text]
    rw [htext] at hblank hupper ⊢
    have hsplit :
        splitAt '.' (table.toList ++ '.' :: name.toList) = [table.toList, name.toList] := by
      rw [splitAt_append_cons (not_mem_of_isIdentifierChars htable.isIdentifierChars),
        splitAt_of_not_mem (not_mem_of_isIdentifierChars hname.isIdentifierChars)]
    have hentry := Schema.not_isReserved_of_dot_mem (by simp) hupper
    refine readColumn_eq_ok_iff.mpr ⟨hentry, hblank, .inl ⟨table.toList, name.toList, hsplit,
      htable.isIdentifierChars, hname.isIdentifierChars, hname.free, ?_⟩⟩
    rw [String.ofList_toList, String.ofList_toList, ColumnRef.qualified]

end Column

/-! ## Plain parts -/

/-- Whether the condition may stand behind `WHERE`: something is left of it without the white space
around it, which does not end with a semicolon, and there is no `FROM` in it. -/
structure IsPlainCondition (condition : List Char) : Prop where
  ne_nil : trimChars condition ≠ []
  last : (trimChars condition).getLast? ≠ some ';'
  no_from : ¬ Clause.fromWord <:+: upperChars condition

namespace Query.Parts

/-- The names in the parts of a query. -/
def names (parts : Parts) : List (List Char) :=
  parts.select.named.flatMap ColumnRef.names ++ parts.table :: parts.joins.flatMap (·.names)

/-- Whether the parts are a list of columns that is not empty, plain names and a plain condition. -/
structure IsPlain (parts : Parts) : Prop where
  columns_ne_nil : parts.select ≠ .columns []
  name : ∀ name ∈ parts.names, IsPlainName name
  condition : ∀ condition ∈ parts.filter, IsPlainCondition condition

/-- The parts with the condition in upper case, without white space around it. -/
def raised (parts : Parts) : Parts :=
  { parts with filter := parts.filter.map fun condition => trimChars (upperChars condition) }

end Query.Parts

namespace Query.Parts.IsPlain

variable {parts : Parts}

/-- The names in the list of columns are plain. -/
theorem column (h : parts.IsPlain) :
    ∀ column ∈ parts.select.named, ∀ name ∈ column.names, IsPlainName name := by
  intro column hcolumn name hname
  exact h.name name (List.mem_append_left _ (List.mem_flatMap.mpr ⟨column, hcolumn, hname⟩))

/-- The name of the table is plain. -/
theorem table (h : parts.IsPlain) : IsPlainName parts.table :=
  h.name parts.table (List.mem_append_right _ List.mem_cons_self)

/-- The names in the join clauses are plain. -/
theorem joins (h : parts.IsPlain) : ∀ name ∈ parts.joins.flatMap (·.names), IsPlainName name :=
  fun name hname => h.name name (List.mem_append_right _ (List.mem_cons_of_mem _ hname))

/-- The names in each join clause are plain. -/
theorem join (h : parts.IsPlain) :
    ∀ words ∈ parts.joins, ∀ name ∈ words.names, IsPlainName name :=
  fun words hwords name hname => h.joins name (List.mem_flatMap.mpr ⟨words, hwords, hname⟩)

/-- The list of columns has an entry for each of its columns, or it is a star, which is one. -/
theorem isEntry [WordClass] (hletters : ∀ c, isAlphabetic c = true → isWord c = true)
    (h : parts.IsPlain) : ∀ entry ∈ parts.select.entries, Clause.IsEntry entry := by
  have hcolumn := h.column
  cases hselect : parts.select with
  | all => exact List.forall_mem_singleton.mpr Clause.isEntry_star
  | columns refs =>
    rw [hselect] at hcolumn
    intro entry hentry
    obtain ⟨column, hmem, rfl⟩ := List.mem_map.mp hentry
    exact Clause.isEntry_text (hcolumn column hmem) hletters

end Query.Parts.IsPlain

/-- A plain condition in upper case, without the white space around it, is cut out whole. -/
theorem IsPlainCondition.isCut {condition : List Char} (h : IsPlainCondition condition) :
    Clause.IsCut (trimChars (upperChars condition)) where
  ne_nil := by
    rw [trimChars_upperChars]
    obtain ⟨c, cs, heq⟩ := List.exists_cons_of_ne_nil h.ne_nil
    rw [heq]
    exact List.append_ne_nil_of_left_ne_nil (upperChar_ne_nil c) _
  trimmed := trimChars_trimChars _
  last := by
    rw [trimChars_upperChars]
    exact getLast?_upperChars_ne h.last

namespace Query

/-- The standard schema is open. -/
theorem not_isClosed_standard : Schema.standard.isClosed = false := by decide

/-- A join with plain names is read. -/
theorem readJoin_of_names {words : Clause.JoinWords}
    (h : ∀ name ∈ words.names, IsPlainName name) (clause : List Char) :
    readJoin .standard clause words = .ok words.join := by
  have hidentifier : ∀ name ∈ words.names, isIdentifierChars name = true :=
    fun name hname => (h name hname).isIdentifierChars
  rw [Clause.JoinWords.names, List.forall_mem_cons] at hidentifier
  have htable : isIdentifier (String.ofList words.table) = true := by
    simpa [isIdentifier] using hidentifier.1
  have hnames :
      badName? [words.leftTable, words.leftColumn, words.rightTable, words.rightColumn] = none := by
    simpa [badName?] using hidentifier.2
  have hcolumns (columns : List ColumnRef) : unknownColumn? .standard columns = none := by
    simp [unknownColumn?, Schema.hasColumn_of_not_isClosed not_isClosed_standard]
  have hschema := Schema.hasTable_of_not_isClosed not_isClosed_standard (String.ofList words.table)
  exact readJoin_eq_ok_iff.mpr ⟨htable, hnames, hschema, hcolumns _, rfl⟩

/-- The open schema has nothing against the columns of a query. -/
theorem checkReferences_standard (query : Query) : checkReferences .standard query = .ok () :=
  checkColumns_eq_ok_iff.mpr fun column _ => by rw [columnFault?, not_isClosed_standard]; rfl

/-- Plain parts are accepted if all letters are word characters. -/
theorem Parts.IsPlain.isAccepted [WordClass]
    (hletters : ∀ c, isAlphabetic c = true → isWord c = true) {parts : Parts} (h : parts.IsPlain) :
    parts.raised.IsAccepted .standard where
  columns_ne_nil hnil := by
    cases hselect : parts.select with
    | all => simp [Parts.raised, hselect, SelectList.entries] at hnil
    | columns refs =>
      have hrefs : refs = [] := by simpa [Parts.raised, hselect, SelectList.entries] using hnil
      exact h.columns_ne_nil (hrefs ▸ hselect)
  entry entry hmem := h.isEntry hletters entry hmem
  column column hmem := readColumn_text (h.column column hmem)
  table := h.table.isWordRun hletters
  checked := by
    have hidentifier : isIdentifier (String.ofList parts.table) = true := by
      simpa [isIdentifier] using h.table.isIdentifierChars
    show checkTable .standard (String.ofList parts.table) = .ok ()
    rw [checkTable, hidentifier, Schema.hasTable_of_not_isClosed not_isClosed_standard]
    rfl
  words words hmem := Clause.JoinWords.isWordy_iff.mpr fun name hname =>
    (h.join words hmem name hname).isWordRun hletters
  join words hmem clause := readJoin_of_names (h.join words hmem) clause
  filter condition hmem := by
    obtain ⟨written, hwritten, rfl⟩ := Option.map_eq_some_iff.mp hmem
    exact (h.condition written hwritten).isCut

end Query

/-! ## Where the clauses begin -/

section Start

variable [WordClass] (hletters : ∀ c, isAlphabetic c = true → isWord c = true)

namespace Clause

include hletters

/-- No clauses begin in a join clause. -/
theorem splitSelect_laysJoin {words : JoinWords} {blanks clause : List Char}
    (h : ∀ name ∈ words.names, IsPlainName name) (hblanks : IsGap blanks)
    (hclause : LaysJoin words clause) (rest : List Char) :
    splitSelect (blanks ++ (clause ++ rest)) = none := by
  simp only [JoinWords.names, List.forall_mem_cons] at h
  obtain ⟨htableName, hleftTable, hleftColumn, -⟩ := h
  cases hclause with
  | @mk inner join table on before behind hinner hjoin htable hon hbefore hbehind =>
    simp only [List.append_assoc, List.singleton_append]
    have hequals : isSelectChar '=' = false := isSelectChar_eq_false (by decide) (by decide)
    have hsign := splitSelect_blanks_cons hbefore hequals (by decide)
      (behind ++ (words.rightTable ++ '.' :: (words.rightColumn ++ rest)))
    have hpair : splitSelect ('.' :: (words.leftColumn ++ (before ++ '=' :: (behind ++
        (words.rightTable ++ '.' :: (words.rightColumn ++ rest)))))) = none :=
      splitSelect_cons_eq_none (splitSelect_word_append (hleftColumn.isWordRun hletters).word hsign)
        fun hblank => absurd hblank (by decide)
    have hcondition := splitSelect_blanks_word hon.blanks (hleftTable.isWordRun hletters)
      hleftTable.ne_fromWord (ends_cons (isWord_eq_false (by decide)) _) hpair
    have honWord := splitSelect_blanks_word htable.blanks isWordRun_onWord (by decide) (hon.ends _)
      hcondition
    have htableWord := splitSelect_blanks_word hjoin.blanks (htableName.isWordRun hletters)
      htableName.ne_fromWord (htable.ends _) honWord
    have hjoinWord := splitSelect_blanks_word hinner.blanks isWordRun_joinWord (by decide)
      (hjoin.ends _) htableWord
    exact splitSelect_blanks_word hblanks.blanks isWordRun_innerWord (by decide) (hinner.ends _)
      hjoinWord

/-- No clauses begin in join clauses if none begin behind them. -/
theorem splitSelect_laysJoins {joins : List JoinWords} {laid rest : List Char}
    (h : LaysJoins joins laid) (hnames : ∀ name ∈ joins.flatMap (·.names), IsPlainName name)
    (hrest : splitSelect rest = none) : splitSelect (laid ++ rest) = none := by
  cases h with
  | nil => exact hrest
  | cons hgap hclause _ =>
    rw [List.flatMap_cons, List.forall_mem_append] at hnames
    rw [List.append_assoc, List.append_assoc]
    exact splitSelect_laysJoin hletters hnames.1 hgap hclause _

omit hletters in
/-- No clauses begin in a condition without `FROM`, or before it. -/
theorem splitSelect_laysFilter {filter : Option (List Char)} {laid : List Char}
    (h : LaysFilter filter laid)
    (hfilter : ∀ condition ∈ filter, ¬ fromWord <:+: condition) : splitSelect laid = none := by
  cases h with
  | none => rfl
  | @some condition before behind hbefore hbehind =>
    have hno := hfilter condition rfl
    have hrun : source.run condition = none :=
      run_source_of_not_isPrefix fun hfront => hno hfront.isInfix
    rw [List.append_assoc, List.append_assoc]
    exact splitSelect_blanks_word hbefore.blanks isWordRun_whereWord (by decide) (hbehind.ends _)
      (splitSelect_blanks_append hbehind.blanks hrun (splitSelect_of_not_isInfix hno))

end Clause

include hletters in
/-- No clauses begin behind the word `FROM` of a query with plain parts. -/
theorem Query.Parts.IsPlain.splitSelect_eq_none {parts : Parts} (h : parts.IsPlain)
    {behind : List Char} (hbehind : parts.raised.LaysBehind behind) :
    Clause.splitSelect behind = none := by
  cases hbehind with
  | @mk gap joins filter hgap hjoins hfilter =>
    have hends := Clause.ends_of_laysJoins hjoins (Clause.ends_of_laysFilter hfilter)
    have hcondition : Clause.splitSelect filter = none := by
      refine Clause.splitSelect_laysFilter hfilter fun condition hmem hwithin => ?_
      obtain ⟨written, hwritten, rfl⟩ := Option.map_eq_some_iff.mp hmem
      exact (h.condition written hwritten).no_from (hwithin.trans (isInfix_trimChars _))
    exact Clause.splitSelect_blanks_word hgap.blanks (h.table.isWordRun hletters)
      h.table.ne_fromWord hends (Clause.splitSelect_laysJoins hletters hjoins h.joins hcondition)

end Start

/-! ## Layouts in upper case -/

namespace Clause

/-- A condition in upper case is laid out without the white space behind it. -/
theorem exists_laysFilter_upper {filter : Option (List Char)} {laid : List Char}
    (h : LaysFilter filter laid) :
    ∃ raised blanks, IsBlanks blanks ∧ upperChars laid = raised ++ blanks ∧
      LaysFilter (filter.map fun condition => trimChars (upperChars condition)) raised := by
  cases h with
  | none => exact ⟨[], [], by simp [IsBlanks], rfl, .none⟩
  | @some condition before behind hbefore hbehind =>
    obtain ⟨front, back, hfront, hback, heq⟩ := exists_eq_append_trimChars (upperChars condition)
    have hwhere : upperChars whereWord = whereWord := by decide
    have hgap : IsGap (behind ++ front) :=
      ⟨List.append_ne_nil_of_left_ne_nil hbehind.ne_nil _, hbehind.blanks.append hfront⟩
    refine ⟨_, back, hback, ?_, .some hbefore hgap⟩
    rw [upperChars_append, upperChars_append, upperChars_append, hwhere,
      upperChars_of_isBlanks hbefore.blanks, upperChars_of_isBlanks hbehind.blanks]
    conv_lhs => rw [heq]
    simp only [List.append_assoc]

end Clause

namespace Query

variable {parts : Parts}

/-- The clauses from the word `FROM` on in upper case lay out the parts in upper case. -/
theorem Parts.IsPlain.exists_laysBehind (h : parts.IsPlain) {behind : List Char}
    (hbehind : parts.LaysBehind behind) :
    ∃ raised blanks, IsBlanks blanks ∧ upperChars behind = raised ++ blanks ∧
      parts.raised.LaysBehind raised := by
  cases hbehind with
  | @mk gap joins filter hgap hjoins hfilter =>
    obtain ⟨raised, blanks, hblanks, heq, hraised⟩ := Clause.exists_laysFilter_upper hfilter
    have hjoinChars := Clause.forall_mem_laysJoins (fun c => isUpper_of_isBlank)
      (List.all_iff_forall_prop.mp (by decide)) hjoins
      fun name hname => (h.joins name hname).isUpper
    refine ⟨_, blanks, hblanks, ?_, .mk hgap hjoins hraised⟩
    rw [upperChars_append, upperChars_append, upperChars_append, heq,
      upperChars_of_isBlanks hgap.blanks, h.table.upper, upperChars_eq_self hjoinChars]
    simp only [Parts.raised, List.append_assoc]

/-- The entries of the list of columns are in upper case. -/
theorem Parts.IsPlain.isUpper_of_mem_entries (h : parts.IsPlain) :
    ∀ entry ∈ parts.select.entries, ∀ c ∈ entry, IsUpper c := by
  have hcolumn := h.column
  cases hselect : parts.select with
  | all =>
    exact List.forall_mem_singleton.mpr (List.forall_mem_singleton.mpr (by decide : IsUpper '*'))
  | columns refs =>
    rw [hselect] at hcolumn
    exact List.forall_mem_map.mpr fun column hmem =>
      ColumnRef.isUpper_of_mem_text (hcolumn column hmem)

/-- Without the white space around it a query begins with its first word and ends with its
semicolon. -/
theorem Parts.Lays.exists_trimChars {laid : List Char} (h : parts.Lays laid) :
    ∃ body before, parts.LaysBody body ∧ IsBlanks before ∧
      trimChars laid = body ++ (before ++ [';']) := by
  obtain ⟨hbody, hfront, hbefore, hback⟩ := h
  refine ⟨_, _, hbody, hbefore, ?_⟩
  rw [trimChars_append_right hback, trimChars_append_left hfront]
  refine trimChars_eq_self ?_ fun c hc => ?_
  · cases hbody
    rw [List.append_assoc]
    exact Clause.isWordRun_selectWord.ends _
  · rw [← List.append_assoc, List.getLast?_concat] at hc
    cases hc
    decide

/-- The query of the parts in upper case has the condition that is read from the text in upper
case. -/
theorem Parts.query_raised (parts : Parts) :
    parts.raised.query =
      .ofTable parts.select (String.ofList parts.table) (parts.joins.map (·.join))
        (parts.filter.elim [] fun condition =>
          Conjunction.ofText (upper (String.ofList condition))) := by
  cases hfilter : parts.filter with
  | none => simp [query, raised, hfilter]
  | some condition => simp [query, raised, hfilter, Conjunction.ofText, upper]

/-- A text that lays out plain parts, in any case of its ASCII letters, is read as their query if
all letters are word characters. -/
theorem ofText_of_lays [WordClass] (hletters : ∀ c, isAlphabetic c = true → isWord c = true)
    (h : parts.IsPlain) {laid : List Char} (hlays : parts.Lays laid)
    {text : String} (htext : text.toList.map Char.toUpper = laid.map Char.toUpper) :
    ofText .standard text =
      .ok (.ofTable parts.select (String.ofList parts.table) (parts.joins.map (·.join))
        (parts.filter.elim [] fun condition =>
          Conjunction.ofText (upper (String.ofList condition)))) := by
  have hcanonical : canonical text = upperChars (trimChars laid) := by
    refine upperChars_eq_of_map_toUpper_eq ?_
    rw [← trimChars_map isBlank_toUpper, htext, trimChars_map isBlank_toUpper]
  obtain ⟨body, before, hbody, hbefore, htrim⟩ := hlays.exists_trimChars
  rw [ofText, hcanonical, htrim, ← Parts.query_raised]
  cases hbody with
  | @mk opening list gap behind hopening hlist hgap hbehind =>
    obtain ⟨raised, blanks, hblanks, hupper, hraised⟩ := h.exists_laysBehind hbehind
    have hread := ofCanonical_of_lays (h.isAccepted hletters) hopening hlist hgap hraised
      (hblanks.append hbefore) (h.splitSelect_eq_none hletters hraised) (checkReferences_standard _)
    have hselect : upperChars Clause.selectWord = Clause.selectWord := by decide
    have hfrom : upperChars Clause.fromWord = Clause.fromWord := by decide
    have hsemicolon : upperChars [';'] = [';'] := by decide
    have hentries := Clause.forall_mem_laysList hlist (fun c => isUpper_of_isBlank) (by decide)
      h.isUpper_of_mem_entries
    simp only [upperChars_append, hselect, hfrom, hsemicolon, hupper,
      upperChars_of_isBlanks hopening.blanks, upperChars_of_isBlanks hgap.blanks,
      upperChars_of_isBlanks hbefore, upperChars_eq_self hentries]
    simpa only [List.append_assoc] using hread

/-- The parts of a query with a join and a condition. -/
def Parts.joined : Parts :=
  ⟨.columns [.bare "A", .qualified "T" "B"], "T".toList,
    [⟨"J".toList, "T".toList, "X".toList, "J".toList, "Y".toList⟩], some "a > 1 ".toList⟩

/-- A query in small letters over two lines is read. -/
theorem ofText_of_lays_joined :
    (∀ c, isAlphabetic c = true → WordClass.lettered.contains c = true) ∧
      Parts.joined.IsPlain ∧
      Parts.joined.Lays "\tSELECT  A ,T.B FROM T\nINNER JOIN J ON T.X= J.Y WHERE a > 1 ; ".toList ∧
      @ofText .lettered .standard
          "\tselect  a ,t.b from t\ninner join j on t.x= j.y where a > 1 ; " =
        .ok (.ofTable (.columns [.bare "A", .qualified "T" "B"]) "T"
          [.ofTable "J"
            [.compare ⟨.column (.qualified "T" "X"), .eq, .column (.qualified "J" "Y")⟩]]
          (Conjunction.ofText (upper "a > 1 "))) := by
  have hplain : Parts.joined.IsPlain := by
    refine ⟨by decide, fun name hname => ?_, fun condition hcondition => ?_⟩
    · have hall : ∀ name ∈ Parts.joined.names, Lexer.isWord name = true ∧
          upperChars name = name ∧ Schema.standard.isReserved (String.ofList name) = false := by
        decide +kernel
      obtain ⟨hspelling, hupper, hfree⟩ := hall name hname
      exact ⟨hspelling, hupper, hfree⟩
    · cases hcondition
      exact ⟨by decide +kernel, by decide +kernel, by decide +kernel⟩
  have hblank : IsGap [' '] := ⟨by decide, by decide⟩
  have hline : IsGap ['\n'] := ⟨by decide, by decide⟩
  have hnone : IsBlanks [] := by decide
  have htab : IsBlanks ['\t'] := by decide
  have hlist : Clause.LaysList Parts.joined.select.entries "A ,T.B".toList :=
    .cons hblank.blanks hnone (.single _)
  have hjoins : Clause.LaysJoins Parts.joined.joins "\nINNER JOIN J ON T.X= J.Y".toList :=
    .cons hline (.mk hblank hblank hblank hblank hnone hblank.blanks) .nil
  have hbehind :
      Parts.joined.LaysBehind " T\nINNER JOIN J ON T.X= J.Y WHERE a > 1 ".toList :=
    .mk hblank hjoins (.some hblank hblank)
  have hopening : IsGap "  ".toList := ⟨by decide, by decide⟩
  have hlays : Parts.joined.Lays
      "\tSELECT  A ,T.B FROM T\nINNER JOIN J ON T.X= J.Y WHERE a > 1 ; ".toList :=
    .mk (.mk hopening hlist hblank hbehind) htab hnone hblank.blanks
  exact ⟨fun c => WordClass.contains_lettered, hplain, hlays,
    @ofText_of_lays _ .lettered (fun c => WordClass.contains_lettered) hplain _ hlays _ (by decide)⟩

end Query

end RelPlan
