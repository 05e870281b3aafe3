import RelPlan.Proofs.Query.Clauses

/-!
# Where join clauses begin

The words that open a join clause may be at several places of a text, and all of them are found,
from left to right (`Clause.map_findKeywords`, `Clause.mem_joinStarts_iff`). A clause is in place
where it is laid out as a join clause and followed by another one, by a condition or by the end of
the text (`Clause.accepts_joinInPlace_iff`).
-/

namespace RelPlan

open Text

namespace Text.Reader

variable {α β : Type} {cs : List Char}

/-- A reader accepts a text exactly if it reads something off it. -/
theorem accepts_iff {reader : Reader α} :
    reader.accepts cs = true ↔ ∃ value rest, reader.run cs = .some (value, rest) := by
  rw [accepts, Option.isSome_iff_exists, Prod.exists]

/-- A reader with another one behind it accepts a text exactly if the other one accepts what it
leaves. -/
theorem accepts_bind_iff {first : Reader α} {next : α → Reader β} :
    (first >>= next).accepts cs = true ↔
      ∃ value rest, first.run cs = .some (value, rest) ∧ (next value).accepts rest = true := by
  simp only [accepts_iff, run_bind_eq_some_iff]
  constructor
  · rintro ⟨value, rest, read, mid, hfirst, hnext⟩
    exact ⟨read, mid, hfirst, value, rest, hnext⟩
  · rintro ⟨read, mid, hfirst, value, rest, hnext⟩
    exact ⟨value, rest, read, mid, hfirst, hnext⟩

/-- A choice reads what one of its readers can read. -/
theorem accepts_orElse (first second : Reader α) (cs : List Char) :
    (first <|> second).accepts cs = (first.accepts cs || second.accepts cs) := by
  have hrun : (first <|> second).run cs = (first.run cs <|> second.run cs) := rfl
  rw [accepts, hrun]
  cases h : first.run cs <;> simp [accepts, h]

/-- It does not matter for what a reader accepts whether its value is kept. -/
theorem accepts_discard (reader : Reader α) (cs : List Char) :
    Reader.accepts (discard reader) cs = reader.accepts cs := by
  have hrun : (discard reader).run cs = (reader.run cs).bind fun way => .some (⟨⟩, way.2) := rfl
  rw [accepts, hrun, accepts]
  cases reader.run cs <;> rfl

/-- A reader behind a fixed text accepts what begins with that text if it accepts what is behind
it. -/
theorem accepts_literal_bind_iff {text : List Char} {next : Unit → Reader β} :
    (literal text >>= next).accepts cs = true ↔
      ∃ rest, (next ()).accepts rest = true ∧ cs = text ++ rest := by
  rw [accepts_bind_iff]
  constructor
  · rintro ⟨_, rest, hrun, hnext⟩
    exact ⟨rest, hnext, (append_of_run_literal hrun).symm⟩
  · rintro ⟨rest, hnext, rfl⟩
    exact ⟨(), rest, run_literal_append text rest, hnext⟩

/-- A run that is read has at least one character, and they are of its kind. -/
theorem isGap_of_run_gap {gap rest : List Char} (h : Reader.gap.run cs = .some (gap, rest)) :
    IsGap gap :=
  ⟨ne_nil_of_run_some h, all_of_run_some h⟩

/-- A reader behind white space accepts what begins with some if it accepts what is behind all of
it. -/
theorem accepts_gap_bind_iff {next : List Char → Reader β} :
    (Reader.gap >>= next).accepts cs = true ↔
      ∃ gap rest, IsGap gap ∧ Ends isBlank rest ∧ (next gap).accepts rest = true ∧
        cs = gap ++ rest := by
  rw [accepts_bind_iff]
  constructor
  · rintro ⟨gap, rest, hrun, hnext⟩
    refine ⟨gap, rest, isGap_of_run_gap hrun, ?_, hnext, (append_of_run_some hrun).symm⟩
    rw [Reader.gap, run_some] at hrun
    split at hrun
    · simp at hrun
    · cases hrun
      exact fun c hc => isBlank_of_mem_head?_trimStart hc
  · rintro ⟨gap, rest, hgap, hrest, hnext, rfl⟩
    exact ⟨gap, rest, run_gap hgap hrest, hnext⟩

/-- A word may end exactly where no word character comes next. -/
theorem accepts_wordEnd_iff [WordClass] : wordEnd.accepts cs = true ↔ Ends isWord cs := by
  have hrun : wordEnd.run cs = if (cs.head?.map isWord).getD false then .none else .some ((), cs) :=
    rfl
  rw [accepts, hrun]
  cases cs with
  | nil => simp [ends_nil]
  | cons c cs => cases hc : isWord c <;> simp [Ends, hc]

/-- Nothing but white space is left exactly if all that is left is white space. -/
theorem accepts_blanks_finish_iff :
    Reader.accepts (do let _ ← Reader.blanks; finish) cs = true ↔ IsBlanks cs := by
  have hrun : (do let _ ← Reader.blanks; finish : Reader Unit).run cs =
      finish.run (cs.dropWhile isBlank) := rfl
  have hfinish (cs : List Char) : (finish.run cs).isSome = cs.isEmpty := by cases cs <;> rfl
  rw [accepts, hrun, hfinish, List.isEmpty_iff, List.dropWhile_eq_nil_iff, IsBlanks]

end Text.Reader

/-- Characters take at least one byte. -/
theorem Text.byteLength_pos {cs : List Char} (h : cs ≠ []) : 0 < byteLength cs := by
  obtain ⟨c, cs, rfl⟩ := List.exists_cons_of_ne_nil h
  rw [byteLength_cons]
  have := c.utf8Size_pos
  omega

variable [WordClass]

namespace Clause

/-! ## Where join clauses begin -/

/-- The text begins with the words that open a join clause. -/
def OpensJoin (cs : List Char) : Prop :=
  ∃ gap after, IsGap gap ∧ Ends isWord after ∧ cs = innerWord ++ (gap ++ (joinWord ++ after))

/-- The words that open a join are found exactly where they are. -/
theorem accepts_joinKeyword_iff {cs : List Char} :
    joinKeyword.accepts cs = true ↔ OpensJoin cs := by
  have hend (gap cs : List Char) :
      Reader.accepts (do Reader.wordEnd; return gap) cs = Reader.wordEnd.accepts cs := by
    rw [Reader.accepts, Reader.accepts, StateT.run_bind]
    cases Reader.wordEnd.run cs <;> rfl
  simp only [joinKeyword, Reader.accepts_literal_bind_iff, Reader.accepts_gap_bind_iff, hend,
    Reader.accepts_wordEnd_iff, OpensJoin]
  constructor
  · rintro ⟨_, ⟨gap, _, hgap, -, ⟨after, hafter, rfl⟩, rfl⟩, rfl⟩
    exact ⟨gap, after, hgap, hafter, rfl⟩
  · rintro ⟨gap, after, hgap, hafter, rfl⟩
    exact ⟨_, ⟨gap, _, hgap, isWordRun_joinWord.ends _, ⟨after, hafter, rfl⟩, rfl⟩, rfl⟩

/-- The words that open a join begin with an `I`. -/
theorem OpensJoin.exists_cons {cs : List Char} (h : OpensJoin cs) : ∃ rest, cs = 'I' :: rest := by
  obtain ⟨gap, after, -, -, rfl⟩ := h
  exact ⟨_, rfl⟩

/-- The words that open a join do not begin with white space. -/
theorem OpensJoin.ends {cs : List Char} (h : OpensJoin cs) : Ends isBlank cs := by
  obtain ⟨rest, rfl⟩ := h.exists_cons
  exact ends_cons (by decide) rest

instance (cs : List Char) : Decidable (OpensJoin cs) :=
  decidable_of_iff _ accepts_joinKeyword_iff

/-- A join clause begins here: the words that open one follow, and do not go on a word. -/
def StartsJoin (front rest : List Char) : Prop :=
  front.getLast?.any isWord = false ∧ OpensJoin rest

instance (front rest : List Char) : Decidable (StartsJoin front rest) :=
  inferInstanceAs (Decidable (_ ∧ _))

/-! ## Clauses that are in place -/

omit [Text.WordClass] in
/-- The words that open a join clause are read with the white space behind each. -/
theorem exists_of_run_joinOpening {cs text rest : List Char}
    (h : joinOpening.run cs = some (text, rest)) :
    ∃ inner join, IsGap inner ∧ IsGap join ∧ text = innerWord ++ inner ++ joinWord ++ join := by
  simp only [joinOpening, Reader.run_bind_eq_some_iff, Reader.run_pure_eq_some_iff] at h
  obtain ⟨_, _, -, inner, _, hinner, _, _, -, join, _, hjoin, rfl, -⟩ := h
  exact ⟨inner, join, Reader.isGap_of_run_gap hinner, Reader.isGap_of_run_gap hjoin, rfl⟩

/-- The table of a join clause is read with the word behind it and the white space around that. -/
theorem exists_of_run_joinTable {cs text name rest : List Char}
    (h : joinTable.run cs = some ((text, name), rest)) :
    ∃ table on, IsGap table ∧ IsGap on ∧ text = name ++ table ++ onWord ++ on := by
  simp only [joinTable, Reader.run_bind_eq_some_iff, Reader.run_pure_eq_some_iff,
    Prod.mk.injEq] at h
  obtain ⟨name, _, -, table, _, htable, _, _, -, on, _, hon, ⟨rfl, rfl⟩, -⟩ := h
  exact ⟨table, on, Reader.isGap_of_run_gap htable, Reader.isGap_of_run_gap hon, rfl⟩

omit [Text.WordClass] in
/-- The sign between two columns is read with the white space around it. -/
theorem exists_of_run_equalsSign {cs text rest : List Char}
    (h : equalsSign.run cs = some (text, rest)) :
    ∃ before behind, IsBlanks before ∧ IsBlanks behind ∧ text = before ++ ['='] ++ behind := by
  have hblanks {cs blanks rest : List Char} (h : Reader.blanks.run cs = some (blanks, rest)) :
      IsBlanks blanks := by
    cases h
    exact List.all_eq_true.mp List.all_takeWhile
  simp only [equalsSign, Reader.run_bind_eq_some_iff, Reader.run_pure_eq_some_iff] at h
  obtain ⟨before, _, hbefore, _, _, -, behind, _, hbehind, rfl, -⟩ := h
  exact ⟨before, behind, hblanks hbefore, hblanks hbehind, rfl⟩

/-- A join clause that is read is laid out, and its names are words. -/
theorem laysJoin_of_run_joinClause {cs clause rest : List Char} {words : JoinWords}
    (h : joinClause.run cs = some ((clause, words), rest)) :
    words.IsWordy ∧ LaysJoin words clause := by
  refine ⟨JoinWords.isWordy_iff.mpr fun name hname => (names_of_run_joinClause h name hname).1, ?_⟩
  simp only [joinClause, Reader.run_bind_eq_some_iff, Reader.run_pure_eq_some_iff, Prod.exists,
    Prod.mk.injEq] at h
  obtain ⟨_, _, hopening, _, name, _, htable, _, _, _, -, _, _, hsign, _, _, _, -,
    ⟨rfl, rfl⟩, -⟩ := h
  obtain ⟨inner, join, hinner, hjoin, rfl⟩ := exists_of_run_joinOpening hopening
  obtain ⟨table, on, htableGap, hon, rfl⟩ := exists_of_run_joinTable htable
  obtain ⟨before, behind, hbefore, hbehind, rfl⟩ := exists_of_run_equalsSign hsign
  exact .mk hinner hjoin htableGap hon hbefore hbehind

/-- The text may stand behind a join clause: another clause, a condition, or nothing but white
space. -/
def MayFollow (tail : List Char) : Prop :=
  (∃ gap after, IsGap gap ∧ OpensJoin after ∧ tail = gap ++ after) ∨
    (∃ gap after, IsGap gap ∧ Ends isWord after ∧ tail = gap ++ (whereWord ++ after)) ∨
      IsBlanks tail

/-- The text begins with a join clause that is followed by what may follow. -/
def IsInPlace (rest : List Char) : Prop :=
  ∃ words clause tail, words.IsWordy ∧ LaysJoin words clause ∧ MayFollow tail ∧
    rest = clause ++ tail

/-- What may follow a join clause does not begin with a word character. -/
theorem MayFollow.ends {tail : List Char} (h : MayFollow tail) : Ends isWord tail := by
  rcases h with ⟨gap, after, hgap, -, rfl⟩ | ⟨gap, after, hgap, -, rfl⟩ | hblanks
  · exact hgap.ends _
  · exact hgap.ends _
  · exact hblanks.ends

/-- A join clause is found to be in place exactly if it is. -/
theorem accepts_joinInPlace_iff {rest : List Char} :
    joinInPlace.accepts rest = true ↔ IsInPlace rest := by
  have hfollow (tail : List Char) : Reader.accepts ((do let _ ← Reader.gap; discard joinKeyword) <|>
      (do let _ ← Reader.gap; Reader.literal whereWord; Reader.wordEnd) <|>
      (do let _ ← Reader.blanks; Reader.finish) : Reader Unit) tail = true ↔ MayFollow tail := by
    simp only [Reader.accepts_orElse, Bool.or_eq_true, Reader.accepts_gap_bind_iff,
      Reader.accepts_discard, accepts_joinKeyword_iff, Reader.accepts_literal_bind_iff,
      Reader.accepts_wordEnd_iff, Reader.accepts_blanks_finish_iff, MayFollow]
    refine or_congr ⟨?_, ?_⟩ (or_congr ⟨?_, ?_⟩ Iff.rfl)
    · rintro ⟨gap, after, hgap, -, hopens, rfl⟩
      exact ⟨gap, after, hgap, hopens, rfl⟩
    · rintro ⟨gap, after, hgap, hopens, rfl⟩
      exact ⟨gap, after, hgap, hopens.ends, hopens, rfl⟩
    · rintro ⟨gap, _, hgap, -, ⟨after, hafter, rfl⟩, rfl⟩
      exact ⟨gap, after, hgap, hafter, rfl⟩
    · rintro ⟨gap, after, hgap, hafter, rfl⟩
      exact ⟨gap, _, hgap, isWordRun_whereWord.ends _, ⟨after, hafter, rfl⟩, rfl⟩
  rw [joinInPlace, Reader.accepts_bind_iff]
  simp only [hfollow]
  constructor
  · rintro ⟨⟨clause, words⟩, tail, hrun, hfollows⟩
    obtain ⟨hwords, hclause⟩ := laysJoin_of_run_joinClause hrun
    exact ⟨words, clause, tail, hwords, hclause, hfollows, (append_of_run_joinClause hrun).symm⟩
  · rintro ⟨words, clause, tail, hwords, hclause, hfollows, rfl⟩
    exact ⟨(clause, words), tail, run_joinClause hwords hclause hfollows.ends, hfollows⟩

instance (rest : List Char) : Decidable (IsInPlace rest) :=
  decidable_of_iff _ accepts_joinInPlace_iff

/-! ## The join clauses of a text -/

/-- The places at which join clauses begin in a text behind another one: what is before each, and
what is behind it. -/
def joinStarts (front : List Char) : List Char → List (List Char × List Char)
  | [] => []
  | c :: cs =>
    if StartsJoin front (c :: cs) then (front, c :: cs) :: joinStarts (front ++ [c]) cs
    else joinStarts (front ++ [c]) cs

/-- The second place is the first one or behind it. -/
def Reaches (start later : List Char × List Char) : Prop :=
  ∃ more, later.1 = start.1 ++ more ∧ start.2 = more ++ later.2

/-- The positions that are found are those of the places at which join clauses begin. -/
theorem map_findKeywords (front cs : List Char) :
    (findKeywords ((front.getLast?.map isWord).getD false) (byteLength front) cs).map (·.1) =
      (joinStarts front cs).map fun start => byteLength start.1 := by
  induction cs generalizing front with
  | nil => rfl
  | cons c cs ih =>
    have hothers := ih (front ++ [c])
    rw [List.getLast?_concat, byteLength_append] at hothers
    have hword : (front.getLast?.map isWord).getD false = front.getLast?.any isWord := by
      cases front.getLast? <;> rfl
    rw [findKeywords, joinStarts]
    cases hin : (front.getLast?.map isWord).getD false with
    | true =>
      have hstarts : ¬ StartsJoin front (c :: cs) := fun h => by simp [hword, h.1] at hin
      rw [if_neg hstarts]
      exact hothers
    | false =>
      by_cases hopens : joinKeyword.accepts (c :: cs) = true
      · have hstarts : StartsJoin front (c :: cs) :=
          ⟨hword.symm.trans hin, accepts_joinKeyword_iff.mp hopens⟩
        obtain ⟨gap, rest, hrun⟩ := Reader.accepts_iff.mp hopens
        rw [if_pos hstarts, hrun]
        exact congrArg (_ :: ·) hothers
      · have hstarts : ¬ StartsJoin front (c :: cs) := fun h =>
          hopens (accepts_joinKeyword_iff.mpr h.2)
        have hrun : joinKeyword.run (c :: cs) = none := by simpa [Reader.accepts] using hopens
        rw [if_neg hstarts, hrun]
        exact hothers

/-- Each place that is found comes after where the search began, and a join starts there. -/
theorem reaches_of_mem_joinStarts {front cs : List Char} {start : List Char × List Char}
    (h : start ∈ joinStarts front cs) :
    Reaches (front, cs) start ∧ StartsJoin start.1 start.2 := by
  induction cs generalizing front with
  | nil => simp [joinStarts] at h
  | cons c cs ih =>
    have hlater (h : start ∈ joinStarts (front ++ [c]) cs) :
        Reaches (front, c :: cs) start ∧ StartsJoin start.1 start.2 := by
      obtain ⟨⟨more, hfront, hrest⟩, hstarts⟩ := ih h
      exact ⟨⟨c :: more, by simp [hfront], congrArg (c :: ·) hrest⟩, hstarts⟩
    rw [joinStarts] at h
    split at h
    · next hstarts =>
      rcases List.mem_cons.mp h with rfl | hmem
      · exact ⟨⟨[], (List.append_nil _).symm, rfl⟩, hstarts⟩
      · exact hlater hmem
    · exact hlater h

/-- Each place at which a join starts is found. -/
theorem mem_joinStarts_of_startsJoin (front more : List Char) {rest : List Char}
    (h : StartsJoin (front ++ more) rest) :
    (front ++ more, rest) ∈ joinStarts front (more ++ rest) := by
  induction more generalizing front with
  | nil =>
    obtain ⟨cs, rfl⟩ := h.2.exists_cons
    rw [List.append_nil] at h ⊢
    rw [List.nil_append, joinStarts, if_pos h]
    exact List.mem_cons_self
  | cons c more ih =>
    have hlater := ih (front ++ [c]) (by simpa using h)
    rw [List.append_assoc, List.singleton_append] at hlater
    rw [List.cons_append, joinStarts]
    split
    · exact List.mem_cons_of_mem _ hlater
    · exact hlater

/-- The places that are found in a text are all at which join clauses begin. -/
theorem mem_joinStarts_iff {text front rest : List Char} :
    (front, rest) ∈ joinStarts [] text ↔ front ++ rest = text ∧ StartsJoin front rest := by
  constructor
  · intro h
    obtain ⟨⟨more, hfront, hrest⟩, hstarts⟩ := reaches_of_mem_joinStarts h
    obtain rfl : front = more := hfront
    exact ⟨hrest.symm, hstarts⟩
  · rintro ⟨rfl, hstarts⟩
    exact mem_joinStarts_of_startsJoin [] front hstarts

/-- Join clauses are found from left to right. -/
theorem pairwise_joinStarts (front cs : List Char) :
    (joinStarts front cs).Pairwise fun start later =>
      Reaches start later ∧ start.1.length < later.1.length := by
  induction cs generalizing front with
  | nil => exact List.Pairwise.nil
  | cons c cs ih =>
    rw [joinStarts]
    split
    · refine List.pairwise_cons.mpr ⟨fun later hlater => ?_, ih _⟩
      obtain ⟨⟨more, hfront, hrest⟩, -⟩ := reaches_of_mem_joinStarts hlater
      refine ⟨⟨c :: more, by simp [hfront], congrArg (c :: ·) hrest⟩, ?_⟩
      simp only [hfront, List.length_append, List.length_singleton]
      omega
    · exact ih _

/-- Behind a place the other ones are found. -/
theorem eq_joinStarts_of_eq_append {front cs : List Char} {start : List Char × List Char}
    {done others : List (List Char × List Char)}
    (h : joinStarts front cs = done ++ start :: others) :
    ∃ c rest, start.2 = c :: rest ∧ others = joinStarts (start.1 ++ [c]) rest := by
  induction cs generalizing front done with
  | nil => simp [joinStarts] at h
  | cons c cs ih =>
    rw [joinStarts] at h
    split at h
    · cases done with
      | nil =>
        obtain ⟨rfl, rfl⟩ := List.cons.inj h
        exact ⟨c, cs, rfl, rfl⟩
      | cons first done => exact ih (List.cons.inj h).2
    · exact ih h

end Clause

end RelPlan
