import RelPlan.Proofs.Except
import RelPlan.Proofs.Query.Layout
import RelPlan.Proofs.Query.Written

/-!
# Reading queries that are laid out

A text in upper case that lays out the parts of a query, each of which is accepted on its own, is
read as the query that is made up of these parts (`Query.ofCanonical_of_lays`).
-/

namespace RelPlan

open Text

/-! ## Lists of columns -/

namespace Text

section

variable {separator : Char} {front : List Char}

/-- Characters before all separators belong to the first field. -/
theorem splitAt_append (h : separator ∉ front) {rest first : List Char} {others : List (List Char)}
    (hrest : splitAt separator rest = first :: others) :
    splitAt separator (front ++ rest) = (front ++ first) :: others := by
  induction front with
  | nil => exact hrest
  | cons c front ih =>
    rw [List.mem_cons, not_or] at h
    rw [List.cons_append, splitAt, ih h.2]
    exact if_neg (Ne.symm h.1)

/-- A text without separators is one field. -/
theorem splitAt_of_not_mem (h : separator ∉ front) : splitAt separator front = [front] := by
  have hnil : splitAt separator [] = [[]] := rfl
  have hsplit := splitAt_append h hnil
  rwa [List.append_nil] at hsplit

/-- The first field goes up to the first separator. -/
theorem splitAt_append_cons (h : separator ∉ front) (rest : List Char) :
    splitAt separator (front ++ separator :: rest) = front :: splitAt separator rest := by
  have hrest : splitAt separator (separator :: rest) = [] :: splitAt separator rest := by
    obtain ⟨field, fields, hfields⟩ := List.exists_cons_of_ne_nil (splitAt_ne_nil separator rest)
    rw [splitAt, hfields]
    exact if_pos rfl
  rw [splitAt_append h hrest, List.append_nil]

end

end Text

namespace Clause

/-- The text lays out entries with commas between them. -/
inductive LaysList : List (List Char) → List Char → Prop
  | single (entry : List Char) : LaysList [entry] entry
  | cons {entry before behind rest : List Char} {others : List (List Char)}
      (hbefore : IsBlanks before) (hbehind : IsBlanks behind) (hrest : LaysList others rest) :
      LaysList (entry :: others) (entry ++ (before ++ ',' :: (behind ++ rest)))

/-- There is no comma in white space. -/
theorem comma_not_mem_blanks {blanks : List Char} (h : IsBlanks blanks) : ',' ∉ blanks :=
  fun hmem => absurd (h ',' hmem) (by decide)

/-- A list has the characters of its entries, white space and commas. -/
theorem forall_mem_laysList {entries : List (List Char)} {laid : List Char}
    {property : Char → Prop} (h : LaysList entries laid)
    (hblank : ∀ c, isBlank c = true → property c) (hcomma : property ',')
    (hentries : ∀ entry ∈ entries, ∀ c ∈ entry, property c) : ∀ c ∈ laid, property c := by
  induction h with
  | single entry => exact List.forall_mem_singleton.mp hentries
  | cons hbefore hbehind _ ih =>
    rw [List.forall_mem_cons] at hentries
    simp only [List.forall_mem_append, List.forall_mem_cons]
    exact ⟨hentries.1, fun c hc => hblank c (hbefore c hc), hcomma,
      fun c hc => hblank c (hbehind c hc), ih hentries.2⟩

/-! ## How a query ends -/

/-- Whether a text ends with a character that is neither white space nor a semicolon. -/
def EndsSolid (cs : List Char) : Prop :=
  ∃ front last, cs = front ++ [last] ∧ isBlank last = false ∧ last ≠ ';'

/-- How a text ends does not depend on what is before it. -/
theorem EndsSolid.append {second : List Char} (h : EndsSolid second) (first : List Char) :
    EndsSolid (first ++ second) := by
  obtain ⟨front, last, rfl, hlast⟩ := h
  exact ⟨first ++ front, last, by simp, hlast⟩

/-- A text ends solid if its last character is neither blank nor a semicolon. -/
theorem endsSolid_of_getLast? {cs : List Char} (hne : cs ≠ [])
    (h : ∀ c ∈ cs.getLast?, isBlank c = false ∧ c ≠ ';') : EndsSolid cs := by
  rcases List.eq_nil_or_concat cs with rfl | ⟨front, last, heq⟩
  · exact absurd rfl hne
  · rw [List.concat_eq_append] at heq
    exact ⟨front, last, heq, h last (by simp [heq])⟩

/-- A condition that is cut out ends solid. -/
theorem endsSolid_of_isCut {condition : List Char} (h : IsCut condition) : EndsSolid condition := by
  refine endsSolid_of_getLast? h.ne_nil fun c hc => ⟨?_, fun heq => h.last (heq ▸ hc)⟩
  rw [← h.trimmed] at hc
  exact isBlank_of_mem_getLast?_trimChars hc

/-- A text with a condition behind it ends solid if it does so without one. -/
theorem endsSolid_of_laysFilter {filter : Option (List Char)} {laid front : List Char}
    (h : LaysFilter filter laid) (hcut : ∀ condition ∈ filter, IsCut condition)
    (hfront : EndsSolid front) : EndsSolid (front ++ laid) := by
  cases h with
  | none => simpa using hfront
  | some _ _ => exact ((endsSolid_of_isCut (hcut _ rfl)).append _).append front

end Clause

namespace Query

/-- A semicolon at the end is taken off. -/
theorem dropTerminators_append (cs : List Char) :
    dropTerminators (cs ++ [';']) = dropTerminators cs := by
  rw [dropTerminators, List.reverse_concat, List.dropWhile_cons, if_pos (beq_self_eq_true ';'),
    ← dropTerminators]

/-- Nothing is dropped from a text that does not end with a semicolon. -/
theorem dropTerminators_eq_self {cs : List Char} (h : cs.getLast? ≠ some ';') :
    dropTerminators cs = cs := by
  rw [← List.head?_reverse] at h
  rw [dropTerminators]
  cases hreverse : cs.reverse with
  | nil => rw [List.reverse_eq_nil_iff.mp hreverse]; rfl
  | cons c rest =>
    have hc : ¬ (c == ';') = true := by simpa [hreverse] using h
    rw [List.dropWhile_cons, if_neg hc, ← hreverse, List.reverse_reverse]

/-- Without the semicolons at its end a text has no other characters. -/
theorem dropTerminators_sublist (cs : List Char) : (dropTerminators cs).Sublist cs := by
  have hreverse := (List.dropWhile_sublist (· == ';') (l := cs.reverse)).reverse
  rwa [List.reverse_reverse] at hreverse

/-- The semicolon at the end of a query and the white space before it are taken off. -/
theorem trimChars_dropTerminators {body before : List Char} (h : Clause.EndsSolid body)
    (hbefore : IsBlanks before) :
    trimChars (dropTerminators (body ++ (before ++ [';']))) = trimChars body := by
  have hlast : (body ++ before).getLast? ≠ some ';' := by
    rcases List.eq_nil_or_concat before with rfl | ⟨front, last, rfl⟩
    · obtain ⟨front, last, rfl, -, hne⟩ := h
      simpa using hne
    · have hblank := hbefore last (by simp)
      rw [List.concat_eq_append, ← List.append_assoc, List.getLast?_concat]
      rintro ⟨⟩
      exact absurd hblank (by decide)
  rw [← List.append_assoc, dropTerminators_append, dropTerminators_eq_self hlast,
    trimChars_append_right hbefore]

end Query

variable [Text.WordClass]

/-! ## Entries of the list of columns -/

namespace Clause

/-- Whether an entry has no white space around it and no comma inside. -/
structure IsEntry (entry : List Char) : Prop where
  ne_nil : entry ≠ []
  trimmed : trimChars entry = entry
  select : ∀ c ∈ entry, isSelectChar c = true
  comma : ',' ∉ entry

/-- A star is an entry. -/
theorem isEntry_star : IsEntry ['*'] where
  ne_nil := List.cons_ne_nil _ _
  trimmed := by decide
  select := by simp [isSelectChar]
  comma := by decide

section List

variable {entries : List (List Char)} {laid : List Char}

/-- Entries that are laid out are found between the commas. -/
theorem map_trimChars_splitAt (h : LaysList entries laid)
    (hentries : ∀ entry ∈ entries, IsEntry entry) {front back : List Char}
    (hfront : IsBlanks front) (hback : IsBlanks back) :
    (splitAt ',' (front ++ (laid ++ back))).map trimChars = entries := by
  induction h generalizing front with
  | single entry =>
    have hentry := List.forall_mem_singleton.mp hentries
    rw [splitAt_of_not_mem (by
      simp [comma_not_mem_blanks hfront, comma_not_mem_blanks hback, hentry.comma])]
    rw [List.map_singleton, trimChars_append_left hfront, trimChars_append_right hback,
      hentry.trimmed]
  | @cons entry before behind rest others hbefore hbehind hrest ih =>
    rw [List.forall_mem_cons] at hentries
    have hsplit : front ++ (entry ++ (before ++ ',' :: (behind ++ rest)) ++ back) =
        (front ++ (entry ++ before)) ++ ',' :: (behind ++ (rest ++ back)) := by simp
    rw [hsplit, splitAt_append_cons (by
      simp [comma_not_mem_blanks hfront, comma_not_mem_blanks hbefore, hentries.1.comma])]
    rw [List.map_cons, trimChars_append_left hfront, trimChars_append_right hbefore,
      hentries.1.trimmed, ih hentries.2 hbehind]

/-- Entries that are laid out may stand in the list of columns. -/
theorem isSelectChar_of_laysList (h : LaysList entries laid)
    (hentries : ∀ entry ∈ entries, IsEntry entry) : ∀ c ∈ laid, isSelectChar c = true :=
  forall_mem_laysList h (fun c => isSelectChar_of_isBlank) (by simp [isSelectChar])
    fun entry hentry => (hentries entry hentry).select

/-- Entries that are laid out do not begin with white space. -/
theorem ends_of_laysList (h : LaysList entries laid) (hentries : ∀ entry ∈ entries, IsEntry entry) :
    laid ≠ [] ∧ Ends isBlank laid := by
  cases h with
  | single entry =>
    have hentry := List.forall_mem_singleton.mp hentries
    exact ⟨hentry.ne_nil, ends_of_trimChars hentry.trimmed⟩
  | cons hbefore hbehind _ =>
    have hentry := hentries _ List.mem_cons_self
    exact ⟨List.append_ne_nil_of_left_ne_nil hentry.ne_nil _,
      (ends_of_trimChars hentry.trimmed).append hentry.ne_nil _⟩

end List

end Clause

/-! ## Parts of queries -/

/-- The entries of a list of columns. -/
def SelectList.entries : SelectList → List (List Char)
  | all => [['*']]
  | columns refs => refs.map fun ref => ref.text.toList

/-- The join that the words of a clause describe. -/
def Clause.JoinWords.join (words : JoinWords) : Join :=
  .ofTable (String.ofList words.table)
    [.compare
      ⟨.column (.qualified (String.ofList words.leftTable) (String.ofList words.leftColumn)), .eq,
        .column (.qualified (String.ofList words.rightTable) (String.ofList words.rightColumn))⟩]

namespace Query

/-- The parts that a query is written with. -/
structure Parts where
  select : SelectList
  table : List Char
  joins : List Clause.JoinWords
  filter : Option (List Char)

namespace Parts

/-- The query that is made up of the parts. -/
def query (parts : Parts) : Query :=
  .ofTable parts.select (String.ofList parts.table) (parts.joins.map (·.join))
    (parts.filter.elim [] fun condition => Condition.ofChars (trimChars condition))

/-- The text lays out the parts behind the word `FROM`. -/
inductive LaysBehind (parts : Parts) : List Char → Prop
  | mk {gap joins filter : List Char} (hgap : IsGap gap)
      (hjoins : Clause.LaysJoins parts.joins joins)
      (hfilter : Clause.LaysFilter parts.filter filter) :
      LaysBehind parts (gap ++ (parts.table ++ (joins ++ filter)))

/-- The text lays out the parts, without the white space around it and the semicolon at its end. -/
inductive LaysBody (parts : Parts) : List Char → Prop
  | mk {opening list gap behind : List Char} (hopening : IsGap opening)
      (hlist : Clause.LaysList parts.select.entries list) (hgap : IsGap gap)
      (hbehind : LaysBehind parts behind) :
      LaysBody parts
        (Clause.selectWord ++ (opening ++ (list ++ (gap ++ (Clause.fromWord ++ behind)))))

/-- The text lays out the parts with white space around it and before the semicolon. -/
inductive Lays (parts : Parts) : List Char → Prop
  | mk {body front before back : List Char} (hbody : LaysBody parts body) (hfront : IsBlanks front)
      (hbefore : IsBlanks before) (hback : IsBlanks back) :
      Lays parts (front ++ (body ++ (before ++ [';'])) ++ back)

/-- Whether each of the parts is accepted on its own. -/
structure IsAccepted (schema : Schema) (parts : Parts) : Prop where
  columns_ne_nil : parts.select.entries ≠ []
  entry : ∀ entry ∈ parts.select.entries, Clause.IsEntry entry
  column : ∀ column ∈ parts.select.named,
    readColumn schema column.text.toList = .ok column
  table : IsWordRun parts.table
  checked : checkTable schema (String.ofList parts.table) = .ok ()
  words : ∀ words ∈ parts.joins, words.IsWordy
  join : ∀ words ∈ parts.joins, ∀ clause, readJoin schema clause words = .ok words.join
  filter : ∀ condition ∈ parts.filter, Clause.IsCut condition

end Parts

/-- Entries that are laid out are read as the list of columns. -/
theorem readSelect_of_lays {schema : Schema} {parts : Parts} (h : parts.IsAccepted schema)
    {list blanks : List Char} (hlist : Clause.LaysList parts.select.entries list)
    (hblanks : IsBlanks blanks) : readSelect schema (list ++ blanks) = .ok parts.select := by
  have hnone : IsBlanks [] := by simp [IsBlanks]
  have hentries := Clause.map_trimChars_splitAt hlist h.entry hnone hblanks
  rw [List.nil_append] at hentries
  have hcolumn := h.column
  rw [readSelect_eq_ok_iff, hentries]
  cases hselect : parts.select with
  | all => exact .inl ⟨rfl, rfl⟩
  | columns refs =>
    rw [hselect] at hcolumn
    have hread : refs.mapM (readColumn schema ∘ fun column => column.text.toList) =
        .ok (refs.map id) := mapM_eq_ok hcolumn
    rw [List.map_id, ← List.mapM_map] at hread
    exact .inr ⟨refs, hread, rfl⟩

/-- Join clauses that are laid out are read as the joins. -/
theorem readJoins_of_lays {schema : Schema} {parts : Parts} (h : parts.IsAccepted schema)
    {joins : List Char} (hjoins : Clause.LaysJoins parts.joins joins) :
    readJoins schema joins = .ok (parts.joins.map (·.join)) := by
  have hwords := Clause.map_joinsIn hjoins h.words
  have hread : ∀ found ∈ Clause.joinsIn joins,
      readJoin schema found.1 found.2 = .ok found.2.join := by
    intro found hmem
    refine h.join found.2 ?_ found.1
    rw [← hwords]
    exact List.mem_map_of_mem hmem
  rw [readJoins, mapM_eq_ok hread, ← hwords, List.map_map]
  rfl

/-- A condition is read, if there is one. -/
theorem readFilter_of_isAccepted {schema : Schema} {parts : Parts} (h : parts.IsAccepted schema) :
    readFilter parts.filter =
      .ok (parts.filter.elim [] fun condition => Condition.ofChars (trimChars condition)) := by
  refine readFilter_eq_ok_iff.mpr ⟨fun condition hcondition => ?_, rfl⟩
  have hcut := h.filter condition hcondition
  rw [hcut.trimmed]
  exact hcut.ne_nil

end Query

/-! ## Whole queries -/

namespace Clause

/-- A word ends solid. -/
theorem endsSolid_of_isWordRun {word : List Char} (h : IsWordRun word) : EndsSolid word := by
  refine endsSolid_of_getLast? h.ne_nil fun c hc => ?_
  have hword := h.word c (List.mem_of_getLast? hc)
  refine ⟨isBlank_of_isWord hword, ?_⟩
  rintro rfl
  rw [isWord_eq_false (by decide)] at hword
  exact absurd hword Bool.false_ne_true

/-- A text with join clauses behind it ends solid if it does so without them. -/
theorem endsSolid_of_laysJoins {joins : List JoinWords} {laid front : List Char}
    (h : LaysJoins joins laid) (hwords : ∀ words ∈ joins, words.IsWordy)
    (hfront : EndsSolid front) : EndsSolid (front ++ laid) := by
  induction h generalizing front with
  | nil => simpa using hfront
  | @cons words others gap clause rest hgap hclause hrest ih =>
    rw [List.forall_mem_cons] at hwords
    have hsolid : EndsSolid clause := by
      cases hclause
      exact (endsSolid_of_isWordRun hwords.1.rightColumn).append _
    rw [← List.append_assoc]
    exact ih hwords.2 ((hsolid.append gap).append front)

end Clause

namespace Query

/-- A query does not end with white space or a semicolon. -/
theorem endsSolid_of_laysBehind {schema : Schema} {parts : Parts} (h : parts.IsAccepted schema)
    {behind : List Char} (hbehind : parts.LaysBehind behind) : Clause.EndsSolid behind := by
  cases hbehind with
  | @mk gap joins filter hgap hjoins hfilter =>
    have htable := Clause.endsSolid_of_isWordRun h.table
    rw [← List.append_assoc parts.table]
    exact (Clause.endsSolid_of_laysFilter hfilter h.filter
      (Clause.endsSolid_of_laysJoins hjoins h.words htable)).append gap

/-- The clauses of a text that begins with `SELECT` and ends with a semicolon are those of the text
between. -/
theorem outline_of_outline? {opening rest before : List Char} {found : Clause.Outline}
    (hopening : IsGap opening) (hrest : Clause.EndsSolid rest) (hbefore : IsBlanks before)
    (h : Clause.outline? (Clause.selectWord ++ (opening ++ rest)) = some found) :
    outline (Clause.selectWord ++ (opening ++ rest) ++ (before ++ [';'])) = .ok found := by
  have hlast :
      (Clause.selectWord ++ (opening ++ rest) ++ (before ++ [';'])).getLast? = some ';' := by
    rw [← List.append_assoc, List.getLast?_concat]
  have hselect :
      opensWithSelect (Clause.selectWord ++ (opening ++ rest) ++ (before ++ [';'])) = true := by
    obtain ⟨c, cs, rfl⟩ := List.exists_cons_of_ne_nil hopening.ne_nil
    have hc : isBlank c = true := hopening.blanks c List.mem_cons_self
    rw [List.append_assoc]
    simp [opensWithSelect, hc]
  have hsolid := (hrest.append opening).append Clause.selectWord
  have htrim : trimChars (Clause.selectWord ++ (opening ++ rest)) =
      Clause.selectWord ++ (opening ++ rest) := by
    refine trimChars_eq_self (Clause.isWordRun_selectWord.ends _) ?_
    obtain ⟨front, last, heq, hblank, -⟩ := hsolid
    rw [heq, List.getLast?_concat]
    simpa using hblank
  rw [outline, if_neg (not_not.mpr hlast), hselect]
  simp only [trimChars_dropTerminators hsolid hbefore, htrim, h]
  rfl

/-- Behind the word `FROM` the parts are found again. -/
theorem exists_run_source {schema : Schema} {parts : Parts} (h : parts.IsAccepted schema)
    {behind : List Char} (hbehind : parts.LaysBehind behind) :
    ∃ joins, Clause.LaysJoins parts.joins joins ∧
      Clause.source.run (Clause.fromWord ++ behind) =
        some (⟨parts.table, joins, parts.filter⟩, []) := by
  cases hbehind with
  | @mk gap joins filter hgap hjoins hfilter =>
    exact ⟨joins, hjoins, Clause.run_source hgap h.table hjoins h.words hfilter h.filter⟩

/-- A text that lays out parts which are accepted is read as their query, if no clauses can begin
behind its word `FROM`. -/
theorem ofCanonical_of_lays {schema : Schema} {parts : Parts} (h : parts.IsAccepted schema)
    {opening list gap behind before : List Char} (hopening : IsGap opening)
    (hlist : Clause.LaysList parts.select.entries list) (hgap : IsGap gap)
    (hbehind : parts.LaysBehind behind) (hbefore : IsBlanks before)
    (hnone : Clause.splitSelect behind = none)
    (hreferences : checkReferences schema parts.query = .ok ()) :
    ofCanonical schema (Clause.selectWord ++ (opening ++ (list ++ (gap ++
      (Clause.fromWord ++ behind)))) ++ (before ++ [';'])) = .ok parts.query := by
  obtain ⟨joins, hjoins, hrun⟩ := exists_run_source h hbehind
  obtain ⟨hne, hends⟩ := Clause.ends_of_laysList hlist h.entry
  obtain ⟨blanks, hblanks, hsplit⟩ := Clause.exists_splitSelect
    (Clause.isSelectChar_of_laysList hlist h.entry) hgap hrun hnone
  have houtline := Clause.outline?_of_splitSelect hopening (hends.append hne _) hsplit
  have hsolid :=
    (((endsSolid_of_laysBehind h hbehind).append Clause.fromWord).append gap).append list
  have hread : ofOutline schema ⟨⟨parts.table, joins, parts.filter⟩, list ++ blanks⟩ =
      .ok parts.query :=
    ofOutline_eq_ok_iff.mpr ⟨_, _, _, readSelect_of_lays h hlist hblanks, h.checked,
      readJoins_of_lays h hjoins, readFilter_of_isAccepted h, rfl⟩
  exact ofCanonical_eq_ok_iff.mpr
    ⟨_, outline_of_outline? hopening hsolid hbefore houtline, hread, hreferences⟩

end Query

end RelPlan
