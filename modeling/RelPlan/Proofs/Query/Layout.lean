import Mathlib.Data.List.Infix
import RelPlan.Proofs.Text.Blank
import RelPlan.Proofs.Text.Reader
import RelPlan.Query.Clause

/-!
# Layouts of queries

How the clauses of a query may be laid out, with any white space between their words, and that
their words are found again: the join clauses (`Clause.map_joinsIn`), the clauses from the word
`FROM` on (`Clause.run_source`), and all clauses of a query in which no others can begin at a later
`FROM` (`Clause.exists_splitSelect`, `Clause.outline?_of_splitSelect`).
-/

namespace RelPlan

namespace Text

/-- Whether there is white space and nothing else. -/
structure IsGap (cs : List Char) : Prop where
  ne_nil : cs ≠ []
  blanks : IsBlanks cs

variable {cs : List Char}

namespace Reader

/-- White space is read up to where it ends. -/
theorem run_gap (h : IsGap cs) {rest : List Char} (hrest : Ends isBlank rest) :
    gap.run (cs ++ rest) = .some (cs, rest) :=
  run_some_append h.ne_nil h.blanks hrest

/-- White space is read up to where it ends, and it may be empty. -/
theorem run_blanks (h : IsBlanks cs) {rest : List Char} (hrest : Ends isBlank rest) :
    blanks.run (cs ++ rest) = .some (cs, rest) :=
  run_many_append h hrest

end Reader

end Text

namespace Clause

open Text

/-! ## Layouts -/

/-- The names in a join clause. -/
def JoinWords.names (words : JoinWords) : List (List Char) :=
  [words.table, words.leftTable, words.leftColumn, words.rightTable, words.rightColumn]

/-- The text lays out a join clause. -/
inductive LaysJoin (words : JoinWords) : List Char → Prop
  | mk {inner join table on before behind : List Char} (hinner : IsGap inner) (hjoin : IsGap join)
      (htable : IsGap table) (hon : IsGap on) (hbefore : IsBlanks before)
      (hbehind : IsBlanks behind) :
      LaysJoin words (innerWord ++ inner ++ joinWord ++ join ++
        (words.table ++ table ++ onWord ++ on) ++ words.leftTable ++ ['.'] ++ words.leftColumn ++
        (before ++ ['='] ++ behind) ++ words.rightTable ++ ['.'] ++ words.rightColumn)

/-- The text lays out join clauses, each after white space. -/
inductive LaysJoins : List JoinWords → List Char → Prop
  | nil : LaysJoins [] []
  | cons {words : JoinWords} {others : List JoinWords} {gap clause rest : List Char}
      (hgap : IsGap gap) (hclause : LaysJoin words clause) (hrest : LaysJoins others rest) :
      LaysJoins (words :: others) (gap ++ clause ++ rest)

/-- The text lays out the condition of a query, after white space, or there is none. -/
inductive LaysFilter : Option (List Char) → List Char → Prop
  | none : LaysFilter none []
  | some {condition before behind : List Char} (hbefore : IsGap before) (hbehind : IsGap behind) :
      LaysFilter (some condition) (before ++ whereWord ++ behind ++ condition)

/-- Whether a condition has no white space around it, and no semicolon at its end. -/
structure IsCut (condition : List Char) : Prop where
  ne_nil : condition ≠ []
  trimmed : trimChars condition = condition
  last : condition.getLast? ≠ some ';'

section

variable {property : Char → Prop} (hblank : ∀ c, isBlank c = true → property c)
  (hsign : ∀ c ∈ innerWord ++ joinWord ++ onWord ++ ['.', '='], property c)

include hblank hsign

/-- A join clause has the characters of its names, white space and those of its words and signs. -/
theorem forall_mem_laysJoin {words : JoinWords} {clause : List Char} (h : LaysJoin words clause)
    (hnames : ∀ name ∈ words.names, ∀ c ∈ name, property c) : ∀ c ∈ clause, property c := by
  have hblanks {blanks : List Char} (h : IsBlanks blanks) : ∀ c ∈ blanks, property c :=
    fun c hc => hblank c (h c hc)
  simp only [JoinWords.names, List.forall_mem_cons] at hnames
  obtain ⟨htableName, hleftTable, hleftColumn, hrightTable, hrightColumn, -⟩ := hnames
  cases h with
  | mk hinner hjoin htable hon hbefore hbehind =>
    simp only [List.append_assoc, List.forall_mem_append, List.forall_mem_cons] at hsign ⊢
    obtain ⟨hinnerWord, hjoinWord, honWord, hdot, hequals, hnil⟩ := hsign
    exact ⟨hinnerWord, hblanks hinner.blanks, hjoinWord, hblanks hjoin.blanks, htableName,
      hblanks htable.blanks, honWord, hblanks hon.blanks, hleftTable, ⟨hdot, hnil⟩, hleftColumn,
      hblanks hbefore, ⟨hequals, hnil⟩, hblanks hbehind, hrightTable, ⟨hdot, hnil⟩, hrightColumn⟩

/-- Join clauses have the characters of their names, white space and those of their words and
signs. -/
theorem forall_mem_laysJoins {joins : List JoinWords} {laid : List Char} (h : LaysJoins joins laid)
    (hnames : ∀ name ∈ joins.flatMap (·.names), ∀ c ∈ name, property c) :
    ∀ c ∈ laid, property c := by
  induction h with
  | nil => simp
  | cons hgap hclause _ ih =>
    rw [List.flatMap_cons, List.forall_mem_append] at hnames
    simp only [List.forall_mem_append]
    exact ⟨⟨fun c hc => hblank c (hgap.blanks c hc),
      forall_mem_laysJoin hblank hsign hclause hnames.1⟩, ih hnames.2⟩

end

/-- A join clause begins with its first word. -/
theorem exists_cons_of_laysJoin {words : JoinWords} {clause : List Char}
    (h : LaysJoin words clause) : ∃ rest, clause = 'I' :: rest := by
  cases h
  exact ⟨_, rfl⟩

/-- A join clause does not begin with white space. -/
theorem ends_isBlank_of_laysJoin {words : JoinWords} {clause : List Char}
    (h : LaysJoin words clause) (rest : List Char) : Ends isBlank (clause ++ rest) := by
  obtain ⟨more, rfl⟩ := exists_cons_of_laysJoin h
  exact ends_cons (by decide) _

/-- The sign between the columns of a join clause is read with the white space around it. -/
theorem run_equalsSign {before behind rest : List Char} (hbefore : IsBlanks before)
    (hbehind : IsBlanks behind) (hrest : Ends isBlank rest) :
    equalsSign.run (before ++ (['='] ++ (behind ++ rest))) =
      some (before ++ ['='] ++ behind, rest) := by
  have hequals : Ends isBlank (['='] ++ (behind ++ rest)) := ends_cons (by decide) _
  rw [equalsSign, Reader.run_bind_of_run (Reader.run_blanks hbefore hequals),
    Reader.run_bind_of_run (Reader.run_literal_append _ _),
    Reader.run_bind_of_run (Reader.run_blanks hbehind hrest)]
  rfl

/-- A text without white space around it does not begin with some. -/
theorem ends_of_trimChars {cs : List Char} (h : trimChars cs = cs) : Ends isBlank cs := by
  intro c hc
  rw [← h] at hc
  exact isBlank_of_mem_head?_trimChars hc

/-- A condition behind its word is read. -/
theorem run_conditionText {condition : List Char} (h : IsCut condition) (gap : List Char) :
    (conditionText gap).run condition = some (condition, []) := by
  match condition, h with
  | [], h => exact absurd rfl h.ne_nil
  | [c], _ => rfl
  | c :: d :: rest, h => exact if_neg h.last

end Clause

variable [Text.WordClass]

/-! ## Words -/

namespace Text

/-- Whether there are word characters and nothing else. -/
structure IsWordRun (cs : List Char) : Prop where
  ne_nil : cs ≠ []
  word : ∀ c ∈ cs, isWord c = true

variable {cs : List Char}

/-- White space does not begin with a word character. -/
theorem IsBlanks.ends (h : IsBlanks cs) : Ends isWord cs :=
  fun c hc => isWord_of_isBlank (h c (List.mem_of_mem_head? hc))

/-- A word is not read on into the white space behind it. -/
theorem IsGap.ends (h : IsGap cs) (rest : List Char) : Ends isWord (cs ++ rest) :=
  h.blanks.ends.append h.ne_nil rest

/-- White space is not read on into the word behind it. -/
theorem IsWordRun.ends (h : IsWordRun cs) (rest : List Char) : Ends isBlank (cs ++ rest) := by
  refine Ends.append (fun c hc => ?_) h.ne_nil rest
  exact isBlank_of_isWord (h.word c (List.mem_of_mem_head? hc))

/-- ASCII letters, digits and underscores are a word. -/
theorem isWordRun_of_ascii {cs : List Char} (hne : cs ≠ [])
    (h : (cs.all fun c => !isBeyondAscii c && (c.isAlphanum || c == '_')) = true) :
    IsWordRun cs := by
  refine ⟨hne, fun c hc => ?_⟩
  obtain ⟨hascii, hword⟩ := Bool.and_eq_true_iff.mp (List.all_eq_true.mp h c hc)
  rw [isWord_of_ascii (by simpa using hascii), hword]

/-- A word is read up to where it ends. -/
theorem Reader.run_word (h : IsWordRun cs) {rest : List Char} (hrest : Ends isWord rest) :
    word.run (cs ++ rest) = .some (cs, rest) :=
  run_some_append h.ne_nil h.word hrest

end Text

namespace Clause

open Text

/-- The word `SELECT` is a word. -/
theorem isWordRun_selectWord : IsWordRun selectWord :=
  isWordRun_of_ascii (by decide) (by decide)

/-- The word `FROM` is a word. -/
theorem isWordRun_fromWord : IsWordRun fromWord :=
  isWordRun_of_ascii (by decide) (by decide)

/-- The word `JOIN` is a word. -/
theorem isWordRun_joinWord : IsWordRun joinWord :=
  isWordRun_of_ascii (by decide) (by decide)

/-- The word `INNER` is a word. -/
theorem isWordRun_innerWord : IsWordRun innerWord :=
  isWordRun_of_ascii (by decide) (by decide)

/-- The word `ON` is a word. -/
theorem isWordRun_onWord : IsWordRun onWord :=
  isWordRun_of_ascii (by decide) (by decide)

/-- The word `WHERE` is a word. -/
theorem isWordRun_whereWord : IsWordRun whereWord :=
  isWordRun_of_ascii (by decide) (by decide)

/-! ## Join clauses -/

/-- Whether the words of a join clause are words. -/
structure JoinWords.IsWordy (words : JoinWords) : Prop where
  table : IsWordRun words.table
  leftTable : IsWordRun words.leftTable
  leftColumn : IsWordRun words.leftColumn
  rightTable : IsWordRun words.rightTable
  rightColumn : IsWordRun words.rightColumn

/-- The words of a join clause are words exactly if each of its names is one. -/
theorem JoinWords.isWordy_iff {words : JoinWords} :
    words.IsWordy ↔ ∀ name ∈ words.names, IsWordRun name := by
  simp only [names, List.forall_mem_cons]
  exact ⟨fun h => ⟨h.table, h.leftTable, h.leftColumn, h.rightTable, h.rightColumn, by simp⟩,
    fun h => ⟨h.1, h.2.1, h.2.2.1, h.2.2.2.1, h.2.2.2.2.1⟩⟩

/-- A table and a column with a dot between them are read. -/
theorem run_pair {table column rest : List Char} (htable : IsWordRun table)
    (hcolumn : IsWordRun column) (hrest : Ends isWord rest) :
    pair.run (table ++ (['.'] ++ (column ++ rest))) = some ((table, column), rest) := by
  have hdot : Ends isWord (['.'] ++ (column ++ rest)) :=
    ends_cons (isWord_eq_false (by decide)) _
  rw [pair, Reader.run_bind_of_run (Reader.run_word htable hdot),
    Reader.run_bind_of_run (Reader.run_literal_append _ _),
    Reader.run_bind_of_run (Reader.run_word hcolumn hrest)]
  rfl

section

variable {rest : List Char}

/-- The words that open a join clause are read. -/
theorem run_joinOpening {inner join : List Char} (hinner : IsGap inner) (hjoin : IsGap join)
    (hrest : Ends isBlank rest) :
    joinOpening.run (innerWord ++ (inner ++ (joinWord ++ (join ++ rest)))) =
      some (innerWord ++ inner ++ joinWord ++ join, rest) := by
  rw [joinOpening, Reader.run_bind_of_run (Reader.run_literal_append _ _),
    Reader.run_bind_of_run (Reader.run_gap hinner (isWordRun_joinWord.ends _)),
    Reader.run_bind_of_run (Reader.run_literal_append _ _),
    Reader.run_bind_of_run (Reader.run_gap hjoin hrest)]
  rfl

/-- The table of a join clause is read with the word behind it. -/
theorem run_joinTable {name table on : List Char} (hname : IsWordRun name) (htable : IsGap table)
    (hon : IsGap on) (hrest : Ends isBlank rest) :
    joinTable.run (name ++ (table ++ (onWord ++ (on ++ rest)))) =
      some ((name ++ table ++ onWord ++ on, name), rest) := by
  rw [joinTable, Reader.run_bind_of_run (Reader.run_word hname (htable.ends _)),
    Reader.run_bind_of_run (Reader.run_gap htable (isWordRun_onWord.ends _)),
    Reader.run_bind_of_run (Reader.run_literal_append _ _),
    Reader.run_bind_of_run (Reader.run_gap hon hrest)]
  rfl

/-- A join clause that is laid out is read. -/
theorem run_joinClause {words : JoinWords} {clause : List Char} (hwords : words.IsWordy)
    (hclause : LaysJoin words clause) (hrest : Ends isWord rest) :
    joinClause.run (clause ++ rest) = some ((clause, words), rest) := by
  cases hclause with
  | @mk inner join table on before behind hinner hjoin htable hon hbefore hbehind =>
    have hequals (rest : List Char) : Ends isWord (before ++ (['='] ++ rest)) := by
      cases before with
      | nil => exact ends_cons (isWord_eq_false (by decide)) _
      | cons c before => exact hbefore.ends.append (List.cons_ne_nil _ _) _
    simp only [List.append_assoc]
    rw [joinClause,
      Reader.run_bind_of_run (run_joinOpening hinner hjoin (hwords.table.ends _)),
      Reader.run_bind_of_run (run_joinTable hwords.table htable hon (hwords.leftTable.ends _)),
      Reader.run_bind_of_run (run_pair hwords.leftTable hwords.leftColumn (hequals _)),
      Reader.run_bind_of_run (run_equalsSign hbefore hbehind (hwords.rightTable.ends _)),
      Reader.run_bind_of_run (run_pair hwords.rightTable hwords.rightColumn hrest)]
    simp only [List.append_assoc]
    rfl

end

/-- Nothing but its first word begins a join clause. -/
theorem run_joinClause_eq_none {cs : List Char} (h : cs.head? ≠ some 'I') :
    joinClause.run cs = none := by
  have hopening : joinOpening.run cs = none :=
    Reader.run_bind_of_run_eq_none (Reader.run_literal_eq_none h)
  exact Reader.run_bind_of_run_eq_none hopening

/-- A join clause that is laid out is read with the white space before it. -/
theorem run_nextJoin {words : JoinWords} {gap clause rest : List Char} (hgap : IsGap gap)
    (hwords : words.IsWordy) (hclause : LaysJoin words clause) (hrest : Ends isWord rest) :
    nextJoin.run (gap ++ (clause ++ rest)) = some (gap ++ clause, rest) := by
  rw [nextJoin, Reader.run_bind_of_run (Reader.run_gap hgap (ends_isBlank_of_laysJoin hclause _)),
    Reader.run_bind_of_run (run_joinClause hwords hclause hrest)]
  rfl

/-- The join clauses that are read are those that are read one after another. -/
theorem run_joinClauses_eq_some_iff {cs joins rest : List Char} :
    joinClauses.run cs = some (joins, rest) ↔
      ∃ clauses, Reader.repeatedRun nextJoin shortens_nextJoin cs = (clauses, rest) ∧
        clauses.flatten = joins := by
  simp only [joinClauses, Reader.run_bind_eq_some_iff, Reader.run_pure_eq_some_iff]
  constructor
  · rintro ⟨clauses, _, hclauses, rfl, rfl⟩
    exact ⟨clauses, Option.some.inj hclauses, rfl⟩
  · rintro ⟨clauses, hclauses, rfl⟩
    exact ⟨clauses, rest, congrArg some hclauses, rfl, rfl⟩

section Joins

variable {joins : List JoinWords} {laid rest : List Char}

/-- Join clauses are not read on into what is behind them. -/
theorem ends_of_laysJoins (h : LaysJoins joins laid) (hrest : Ends isWord rest) :
    Ends isWord (laid ++ rest) := by
  cases h with
  | nil => exact hrest
  | cons hgap _ _ =>
    rw [List.append_assoc, List.append_assoc]
    exact hgap.ends _

/-- Join clauses that are laid out are read. -/
theorem run_joinClauses (h : LaysJoins joins laid) (hwords : ∀ words ∈ joins, words.IsWordy)
    (hrest : Ends isWord rest) (hnone : nextJoin.run rest = none) :
    joinClauses.run (laid ++ rest) = some (laid, rest) := by
  rw [run_joinClauses_eq_some_iff]
  induction h with
  | nil => exact ⟨[], Reader.repeatedRun_of_run_eq_none _ hnone, rfl⟩
  | @cons words others gap clause behind hgap hclause hbehind ih =>
    rw [List.forall_mem_cons] at hwords
    obtain ⟨texts, hrun, rfl⟩ := ih hwords.2
    have hnext := run_nextJoin hgap hwords.1 hclause (ends_of_laysJoins hbehind hrest)
    refine ⟨(gap ++ clause) :: texts, ?_, List.flatten_cons⟩
    rw [List.append_assoc, List.append_assoc, Reader.repeatedRun_of_run _ hnext, hrun]

/-- Characters that belong to the last clause are skipped. -/
theorem findJoins_append (front rest : List Char) :
    findJoins front.length (front ++ rest) = findJoins 0 rest := by
  induction front with
  | nil => rfl
  | cons c front ih => exact ih

/-- Where no clause begins the next one is looked for. -/
theorem findJoins_blanks {blanks : List Char} (h : IsBlanks blanks) (rest : List Char) :
    findJoins 0 (blanks ++ rest) = findJoins 0 rest := by
  induction blanks with
  | nil => rfl
  | cons c blanks ih =>
    have hhead : (c :: (blanks ++ rest)).head? ≠ some 'I' := by
      intro heq
      obtain rfl := Option.some.inj heq
      exact absurd (h 'I' List.mem_cons_self) (by decide)
    rw [List.cons_append, findJoins, run_joinClause_eq_none hhead]
    exact ih fun d hd => h d (List.mem_cons_of_mem _ hd)

/-- A join clause that is laid out is the first one of a text, and the others are behind it. -/
theorem joinsIn_append {words : JoinWords} {gap clause : List Char} (hgap : IsGap gap)
    (hwords : words.IsWordy) (hclause : LaysJoin words clause) (hrest : Ends isWord rest) :
    joinsIn (gap ++ (clause ++ rest)) = (clause, words) :: joinsIn rest := by
  have hrun := run_joinClause hwords hclause hrest
  obtain ⟨more, rfl⟩ := exists_cons_of_laysJoin hclause
  rw [List.cons_append] at hrun
  rw [joinsIn, findJoins_blanks hgap.blanks, List.cons_append, findJoins, hrun]
  dsimp only
  rw [List.length_cons, Nat.add_sub_cancel, findJoins_append, joinsIn]

/-- The join clauses in a text that lays out some are these. -/
theorem map_joinsIn (h : LaysJoins joins laid) (hwords : ∀ words ∈ joins, words.IsWordy) :
    (joinsIn laid).map (·.2) = joins := by
  induction h with
  | nil => rfl
  | @cons words others gap clause behind hgap hclause hbehind ih =>
    rw [List.forall_mem_cons] at hwords
    have hends : Ends isWord behind := by
      simpa using ends_of_laysJoins hbehind (ends_nil isWord)
    rw [List.append_assoc, joinsIn_append hgap hwords.1 hclause hends, List.map_cons, ih hwords.2]

end Joins

/-! ## The clauses from the word `FROM` on -/

/-- A text that lays out a condition has no join clause before it. -/
theorem run_nextJoin_of_laysFilter {filter : Option (List Char)} {laid : List Char}
    (h : LaysFilter filter laid) : nextJoin.run laid = none := by
  cases h with
  | none => rfl
  | @some condition before behind hbefore hbehind =>
    have hends := isWordRun_whereWord.ends (behind ++ condition)
    have hhead : (whereWord ++ (behind ++ condition)).head? ≠ some 'I' := by
      show some 'W' ≠ some 'I'
      decide
    rw [List.append_assoc, List.append_assoc, nextJoin,
      Reader.run_bind_of_run (Reader.run_gap hbefore hends)]
    exact Reader.run_bind_of_run_eq_none (run_joinClause_eq_none hhead)

/-- A condition that is laid out does not begin with a word character. -/
theorem ends_of_laysFilter {filter : Option (List Char)} {laid : List Char}
    (h : LaysFilter filter laid) : Ends isWord laid := by
  cases h with
  | none => exact ends_nil _
  | some hbefore _ =>
    rw [List.append_assoc, List.append_assoc]
    exact hbefore.ends _

/-- A condition that is laid out is read, if there is one. -/
theorem run_optional_whereClause {filter : Option (List Char)} {laid : List Char}
    (h : LaysFilter filter laid) (hcut : ∀ condition ∈ filter, IsCut condition) :
    (optional whereClause).run laid = some (filter, []) := by
  rw [Reader.run_optional]
  cases h with
  | none => rfl
  | @some condition before behind hbefore hbehind =>
    have hcondition := hcut condition rfl
    have hwhere : whereClause.run (before ++ whereWord ++ behind ++ condition) =
        some (condition, []) := by
      rw [List.append_assoc, List.append_assoc, whereClause,
        Reader.run_bind_of_run (Reader.run_gap hbefore (isWordRun_whereWord.ends _)),
        Reader.run_bind_of_run (Reader.run_literal_append _ _),
        Reader.run_bind_of_run (Reader.run_gap hbehind (ends_of_trimChars hcondition.trimmed))]
      exact run_conditionText hcondition behind
    rw [hwhere]

/-- The clauses from the word `FROM` on are read. -/
theorem run_source {table gap laidJoins laidFilter : List Char} {joins : List JoinWords}
    {filter : Option (List Char)} (hgap : IsGap gap) (htable : IsWordRun table)
    (hjoins : LaysJoins joins laidJoins) (hwords : ∀ words ∈ joins, words.IsWordy)
    (hfilter : LaysFilter filter laidFilter) (hcut : ∀ condition ∈ filter, IsCut condition) :
    source.run (fromWord ++ (gap ++ (table ++ (laidJoins ++ laidFilter)))) =
      some (⟨table, laidJoins, filter⟩, []) := by
  have hends := ends_of_laysFilter hfilter
  have hsemicolon : (optional (Reader.literal [';'])).run [] = some (none, []) := by
    rw [Reader.run_optional]
    rfl
  rw [source, Reader.run_bind_of_run (Reader.run_literal_append _ _),
    Reader.run_bind_of_run (Reader.run_gap hgap (htable.ends _)),
    Reader.run_bind_of_run (Reader.run_word htable (ends_of_laysJoins hjoins hends)),
    Reader.run_bind_of_run
      (run_joinClauses hjoins hwords hends (run_nextJoin_of_laysFilter hfilter)),
    Reader.run_bind_of_run (run_optional_whereClause hfilter hcut),
    Reader.run_bind_of_run hsemicolon]
  rfl

/-! ## Where the clauses begin -/

/-- Characters that may stand in the list of columns belong to it before the clauses. -/
theorem splitSelect_append {front rest select : List Char} {source : Source}
    (hfront : ∀ c ∈ front, isSelectChar c = true)
    (h : splitSelect rest = some (select, source)) :
    splitSelect (front ++ rest) = some (front ++ select, source) := by
  induction front with
  | nil => exact h
  | cons c front ih =>
    rw [List.cons_append, splitSelect, if_pos (hfront c List.mem_cons_self),
      ih fun d hd => hfront d (List.mem_cons_of_mem _ hd)]
    rfl

/-- The clauses begin behind the last white-space character before them, unless they can begin
later on. -/
theorem splitSelect_cons {c : Char} {cs rest : List Char} {found : Source}
    (hblank : isBlank c = true) (hrun : source.run cs = some (found, rest))
    (hnone : splitSelect cs = none) : splitSelect (c :: cs) = some ([], found) := by
  rw [splitSelect, if_pos (isSelectChar_of_isBlank hblank), hnone, if_pos hblank, hrun]
  rfl

/-- No clauses begin in a text if none begin behind its first character. -/
theorem splitSelect_cons_eq_none {c : Char} {cs : List Char} (hcs : splitSelect cs = none)
    (hrun : isBlank c = true → source.run cs = none) : splitSelect (c :: cs) = none := by
  rw [splitSelect, hcs]
  cases hblank : isBlank c with
  | false => simp
  | true => simp [hrun hblank]

/-- No clauses begin inside a word. -/
theorem splitSelect_word_append {word rest : List Char} (hword : ∀ c ∈ word, isWord c = true)
    (hrest : splitSelect rest = none) : splitSelect (word ++ rest) = none := by
  induction word with
  | nil => exact hrest
  | cons c word ih =>
    rw [List.forall_mem_cons] at hword
    refine splitSelect_cons_eq_none (ih hword.2) fun hblank => ?_
    simp [isBlank_of_isWord hword.1] at hblank

/-- No clauses begin with another character than the word `FROM` does. -/
theorem run_source_eq_none {cs : List Char} (h : cs.head? ≠ some 'F') : source.run cs = none :=
  Reader.run_bind_of_run_eq_none (Reader.run_literal_eq_none h)

/-- No clauses begin with anything but the word `FROM`. -/
theorem run_source_of_not_isPrefix {cs : List Char} (h : ¬ fromWord <+: cs) :
    source.run cs = none := by
  cases hliteral : (Reader.literal fromWord).run cs with
  | none => exact Reader.run_bind_of_run_eq_none hliteral
  | some read => exact absurd ⟨_, Reader.append_of_run_literal hliteral⟩ h

/-- No clauses begin behind white space if none can begin with what is behind it. -/
theorem splitSelect_blanks_append {blanks rest : List Char} (h : IsBlanks blanks)
    (hrun : source.run rest = none) (hrest : splitSelect rest = none) :
    splitSelect (blanks ++ rest) = none := by
  induction blanks with
  | nil => exact hrest
  | cons c blanks ih =>
    have hblanks : IsBlanks blanks := fun d hd => h d (List.mem_cons_of_mem _ hd)
    have hbehind : source.run (blanks ++ rest) = none := by
      cases blanks with
      | nil => exact hrun
      | cons d blanks =>
        refine run_source_eq_none fun heq => ?_
        obtain rfl := Option.some.inj heq
        exact absurd (hblanks 'F' List.mem_cons_self) (by decide)
    exact splitSelect_cons_eq_none (ih hblanks) fun _ => hbehind

/-- No clauses begin at another word than `FROM`. -/
theorem run_source_of_ne {word rest : List Char} (hword : IsWordRun word) (hne : word ≠ fromWord)
    (hrest : Ends isWord rest) : source.run (word ++ rest) = none := by
  cases hliteral : (Reader.literal fromWord).run (word ++ rest) with
  | none => exact Reader.run_bind_of_run_eq_none hliteral
  | some read =>
    obtain ⟨⟨⟩, behind⟩ := read
    have hsplit := Reader.append_of_run_literal hliteral
    have hgap : Reader.gap.run behind = none := by
      cases behind with
      | nil => rfl
      | cons c behind =>
        refine Reader.run_some_eq_none (ends_cons ?_ behind)
        cases hblank : isBlank c with
        | false => rfl
        | true =>
          -- The word would end behind `FROM`.
          have hends : Ends isWord (c :: behind) := ends_cons (isWord_of_isBlank hblank) behind
          have hfrom := (takeWhile_append_of_ends hends fromWord).1
          rw [hsplit, (takeWhile_append_of_ends hrest word).1,
            List.takeWhile_eq_self_iff.mpr hword.word,
            List.takeWhile_eq_self_iff.mpr isWordRun_fromWord.word] at hfrom
          exact absurd hfrom hne
    rw [source, Reader.run_bind_of_run hliteral]
    exact Reader.run_bind_of_run_eq_none hgap

/-- No clauses begin behind white space at another word than `FROM`, and none in that word. -/
theorem splitSelect_blanks_word {blanks word rest : List Char} (hblanks : IsBlanks blanks)
    (hword : IsWordRun word) (hne : word ≠ fromWord) (hends : Ends isWord rest)
    (hrest : splitSelect rest = none) : splitSelect (blanks ++ (word ++ rest)) = none :=
  splitSelect_blanks_append hblanks (run_source_of_ne hword hne hends)
    (splitSelect_word_append hword.word hrest)

/-- No clauses begin at or behind a character that may not stand in the list of columns. -/
theorem splitSelect_blanks_cons {blanks : List Char} (hblanks : IsBlanks blanks) {c : Char}
    (hselect : isSelectChar c = false) (hc : c ≠ 'F') (rest : List Char) :
    splitSelect (blanks ++ c :: rest) = none := by
  refine splitSelect_blanks_append hblanks (run_source_eq_none (by simpa using hc)) ?_
  rw [splitSelect, hselect]
  rfl

/-- No clauses begin in a text without the word `FROM`. -/
theorem splitSelect_of_not_isInfix {cs : List Char} (h : ¬ fromWord <:+: cs) :
    splitSelect cs = none := by
  induction cs with
  | nil => rfl
  | cons c cs ih =>
    have hcs : ¬ fromWord <:+: cs :=
      fun hwithin => h (hwithin.trans (List.suffix_cons c cs).isInfix)
    have hrun : source.run cs = none := run_source_of_not_isPrefix fun hfront => hcs hfront.isInfix
    exact splitSelect_cons_eq_none (ih hcs) fun _ => hrun

/-! ## All clauses -/

/-- The clauses of a query are found where the list of columns before them ends. -/
theorem outline?_of_splitSelect {opening rest select : List Char} {found : Source}
    (hopening : IsGap opening) (hends : Ends isBlank rest)
    (h : splitSelect rest = some (select, found)) :
    outline? (selectWord ++ (opening ++ rest)) = some ⟨found, select⟩ := by
  have hwords : (do Reader.literal selectWord; Reader.gap : Reader (List Char)).run
      (selectWord ++ (opening ++ rest)) = some (opening, rest) := by
    rw [Reader.run_bind_of_run (Reader.run_literal_append _ _)]
    exact Reader.run_gap hopening hends
  rw [outline?, hwords]
  simp only [Option.bind_eq_bind, Option.bind_some, h]
  rfl

/-- The list of columns goes up to the white space before `FROM` if no clauses begin later on. -/
theorem exists_splitSelect {list gap behind : List Char} {found : Source}
    (hlist : ∀ c ∈ list, isSelectChar c = true) (hgap : IsGap gap)
    (hrun : source.run (fromWord ++ behind) = some (found, []))
    (hnone : splitSelect behind = none) :
    ∃ blanks, IsBlanks blanks ∧
      splitSelect (list ++ (gap ++ (fromWord ++ behind))) = some (list ++ blanks, found) := by
  obtain ⟨front, last, rfl⟩ : ∃ front last, gap = front ++ [last] := by
    rcases List.eq_nil_or_concat gap with rfl | ⟨front, last, heq⟩
    · exact absurd rfl hgap.ne_nil
    · exact ⟨front, last, by rw [heq, List.concat_eq_append]⟩
  have hblanks : IsBlanks (front ++ [last]) := hgap.blanks
  have hlast : isBlank last = true := hblanks last List.mem_concat_self
  have hfront : IsBlanks front := fun c hc => hblanks c (List.mem_append_left _ hc)
  have hfrom : splitSelect (fromWord ++ behind) = none :=
    splitSelect_word_append isWordRun_fromWord.word hnone
  have hselect : ∀ c ∈ list ++ front, isSelectChar c = true := by
    rw [List.forall_mem_append]
    exact ⟨hlist, fun c hc => isSelectChar_of_isBlank (hfront c hc)⟩
  have hsplit := splitSelect_append hselect (splitSelect_cons hlast hrun hfrom)
  refine ⟨front, hfront, ?_⟩
  simpa using hsplit

end Clause

end RelPlan
