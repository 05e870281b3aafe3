import RelPlan.Proofs.Query.JoinStarts
import RelPlan.Proofs.Query.Parts

/-!
# Join clauses one after another

The join clauses of a query are read twice: as a whole while the clauses of the query are told
apart, and one by one when they are looked for in what was read. Both ways find the same ones:
clauses that make up the text without a gap (`Clause.Tiles`), in one way only, with the words that
are written in them (`Clause.exists_tiles_of_outline?`).
-/

namespace RelPlan

namespace Clause

open Text

section Tiling

variable [WordClass]

/-! ## Clauses that make up a text -/

/-- A join clause in a text: the white space before it, its own text, and its words. -/
structure WrittenJoin where
  gap : List Char
  text : List Char
  words : JoinWords

namespace WrittenJoin

/-- The clause with the white space before it. -/
def laid (clause : WrittenJoin) : List Char := clause.gap ++ clause.text

/-- Whether the white space is not empty and the text is a join clause with these words. -/
structure IsWritten (clause : WrittenJoin) : Prop where
  gap : IsGap clause.gap
  words : clause.words.IsWordy
  text : LaysJoin clause.words clause.text

end WrittenJoin

/-- Whether join clauses one after another make up a text. -/
structure Tiles (clauses : List WrittenJoin) (joins : List Char) : Prop where
  written : ∀ clause ∈ clauses, clause.IsWritten
  flatMap_eq : clauses.flatMap (·.laid) = joins

section

variable {clause : WrittenJoin} {clauses others : List WrittenJoin} {joins : List Char}

/-- Some clauses make up a text exactly if the first one is at its front and the others make up what
is behind it. -/
theorem tiles_cons_iff :
    Tiles (clause :: clauses) joins ↔ clause.IsWritten ∧
      ∃ behind, Tiles clauses behind ∧ joins = clause.gap ++ (clause.text ++ behind) := by
  constructor
  · rintro ⟨hwritten, rfl⟩
    obtain ⟨hclause, hclauses⟩ := List.forall_mem_cons.mp hwritten
    exact ⟨hclause, _, ⟨hclauses, rfl⟩,
      by rw [List.flatMap_cons, WrittenJoin.laid, List.append_assoc]⟩
  · rintro ⟨hclause, behind, ⟨hclauses, rfl⟩, rfl⟩
    exact ⟨List.forall_mem_cons.mpr ⟨hclause, hclauses⟩,
      by rw [List.flatMap_cons, WrittenJoin.laid, List.append_assoc]⟩

/-- A join clause is not read on into those behind it. -/
theorem Tiles.ends (h : Tiles clauses joins) : Ends isWord joins := by
  cases clauses with
  | nil =>
    obtain rfl : [] = joins := h.flatMap_eq
    exact ends_nil isWord
  | cons clause clauses =>
    obtain ⟨hclause, behind, -, rfl⟩ := tiles_cons_iff.mp h
    exact hclause.gap.ends _

/-- The clauses that are found in a text are those that make it up. -/
theorem Tiles.joinsIn_eq (h : Tiles clauses joins) :
    joinsIn joins = clauses.map fun clause => (clause.text, clause.words) := by
  induction clauses generalizing joins with
  | nil =>
    obtain rfl : [] = joins := h.flatMap_eq
    rfl
  | cons clause clauses ih =>
    obtain ⟨hclause, behind, hbehind, rfl⟩ := tiles_cons_iff.mp h
    rw [joinsIn_append hclause.gap hclause.words hclause.text hbehind.ends, ih hbehind,
      List.map_cons]

/-- There is one way only in which clauses make up a text. -/
theorem Tiles.unique (h : Tiles clauses joins) (hothers : Tiles others joins) :
    clauses = others := by
  induction clauses generalizing others joins with
  | nil =>
    obtain rfl : [] = joins := h.flatMap_eq
    cases others with
    | nil => rfl
    | cons other others =>
      obtain ⟨hother, behind, -, heq⟩ := tiles_cons_iff.mp hothers
      exact absurd (List.append_eq_nil_iff.mp heq.symm).1 hother.gap.ne_nil
  | cons clause clauses ih =>
    obtain ⟨hclause, behind, hbehind, rfl⟩ := tiles_cons_iff.mp h
    cases others with
    | nil => exact absurd (List.append_eq_nil_iff.mp hothers.flatMap_eq.symm).1 hclause.gap.ne_nil
    | cons other others =>
      obtain ⟨hother, behind', hbehind', heq⟩ := tiles_cons_iff.mp hothers
      -- The white space and the clause are read off the text in both ways.
      have hgap := Reader.run_gap hclause.gap (ends_isBlank_of_laysJoin hclause.text behind)
      rw [heq, Reader.run_gap hother.gap (ends_isBlank_of_laysJoin hother.text behind')] at hgap
      obtain ⟨hgap, htext⟩ := Prod.mk.inj (Option.some.inj hgap)
      have hrun := run_joinClause hclause.words hclause.text hbehind.ends
      rw [← htext, run_joinClause hother.words hother.text hbehind'.ends] at hrun
      obtain ⟨hread, rfl⟩ := Prod.mk.inj (Option.some.inj hrun)
      obtain ⟨htext, hwords⟩ := Prod.mk.inj hread
      rw [ih hbehind hbehind']
      cases clause
      cases other
      simp_all

end

/-! ## Clauses that are read one after another -/

/-- What is read each time is a join clause as it is written. -/
theorem exists_isWritten_of_run_nextJoin {cs value rest : List Char}
    (h : nextJoin.run cs = some (value, rest)) :
    ∃ clause : WrittenJoin, clause.IsWritten ∧ clause.laid = value := by
  simp only [nextJoin, Reader.run_bind_eq_some_iff, Reader.run_pure_eq_some_iff, Prod.exists] at h
  obtain ⟨gap, _, hgap, text, words, _, hclause, rfl, -⟩ := h
  obtain ⟨hwords, htext⟩ := laysJoin_of_run_joinClause hclause
  exact ⟨⟨gap, text, words⟩, ⟨Reader.isGap_of_run_gap hgap, hwords, htext⟩, rfl⟩

/-- What is read each time, as often as possible, are join clauses as they are written. -/
theorem exists_isWritten_of_repeatedRun (cs : List Char) :
    ∃ clauses : List WrittenJoin, (∀ clause ∈ clauses, clause.IsWritten) ∧
      clauses.map (·.laid) = (Reader.repeatedRun nextJoin shortens_nextJoin cs).1 := by
  fun_induction Reader.repeatedRun nextJoin shortens_nextJoin cs with
  | case1 cs value rest hrun _ others ih =>
    obtain ⟨clause, hclause, rfl⟩ := exists_isWritten_of_run_nextJoin hrun
    obtain ⟨clauses, hclauses, heq⟩ := ih
    exact ⟨clause :: clauses, List.forall_mem_cons.mpr ⟨hclause, hclauses⟩,
      by rw [List.map_cons, heq]⟩
  | case2 cs hrun => exact ⟨[], List.forall_mem_nil _, rfl⟩

/-- The join clauses that are read as a whole are made up of those that are read each time. -/
theorem exists_tiles_of_run_joinClauses {cs joins rest : List Char}
    (h : joinClauses.run cs = some (joins, rest)) :
    ∃ clauses, Tiles clauses joins ∧
      Reader.repeatedRun nextJoin shortens_nextJoin cs = (clauses.map (·.laid), rest) := by
  obtain ⟨texts, hrun, rfl⟩ := run_joinClauses_eq_some_iff.mp h
  obtain ⟨clauses, hwritten, heq⟩ := exists_isWritten_of_repeatedRun cs
  rw [hrun] at heq ⊢
  exact ⟨clauses, ⟨hwritten, by rw [List.flatMap_def, heq]⟩, by rw [heq]⟩

/-! ## The clauses of a query -/

/-- The joins stand behind the table, and are read there. -/
theorem exists_run_joinClauses_of_run_source {cs rest : List Char} {found : Source}
    (h : source.run cs = some (found, rest)) :
    ∃ front behind, cs = front ++ (found.table ++ (found.joins ++ behind)) ∧
      joinClauses.run (found.joins ++ behind) = some (found.joins, behind) := by
  simp only [source, Reader.run_bind_eq_some_iff, Reader.run_pure_eq_some_iff] at h
  obtain ⟨_, _, hfrom, gap, _, hgap, table, _, htable, joins, behind, hjoins, _, _, -, _, _, -,
    _, _, -, rfl, -⟩ := h
  refine ⟨fromWord ++ gap, behind, ?_, ?_⟩
  · rw [append_of_run_joinClauses hjoins, Reader.append_of_run_some htable, List.append_assoc,
      Reader.append_of_run_some hgap, Reader.append_of_run_literal hfrom]
  · rwa [append_of_run_joinClauses hjoins]

/-- The joins of a text that is laid out as a query are made up of join clauses in one way. These
are what is read each time while the joins are read as a whole, and what is found when clauses are
looked for in them. So the joins of a query that is read are those of the clauses, one of each. -/
theorem exists_tiles_of_outline? {text : List Char} {found : Outline}
    (h : outline? text = some found) :
    ∃ clauses, (∀ others, Tiles others found.joins ↔ others = clauses) ∧
      (∃ front behind, text = front ++ (found.table ++ (found.joins ++ behind)) ∧
        (Reader.repeated nextJoin shortens_nextJoin).run (found.joins ++ behind) =
          some (clauses.map (·.laid), behind)) ∧
      joinsIn found.joins = clauses.map (fun clause => (clause.text, clause.words)) ∧
      ∀ schema joins, Query.readJoins schema found.joins = .ok joins →
        joins = clauses.map (·.words.join) := by
  obtain ⟨front, cs, rest, rfl, -, -, hsource⟩ := exists_append_of_outline? h
  obtain ⟨more, behind, rfl, hjoins⟩ := exists_run_joinClauses_of_run_source hsource
  obtain ⟨clauses, htiles, hrun⟩ := exists_tiles_of_run_joinClauses hjoins
  refine ⟨clauses, fun others => ⟨fun hothers => hothers.unique htiles, fun heq => heq ▸ htiles⟩,
    ⟨front ++ more, behind, by simp, congrArg some hrun⟩, htiles.joinsIn_eq,
    fun schema joins hread => ?_⟩
  rw [(Query.eq_map_of_readJoins hread).1, htiles.joinsIn_eq, List.map_map, List.map_map]
  rfl

end Tiling

/-- Join clauses in which the names are the words of clauses, with white space of several kinds. -/
def keywordJoins : List Char :=
  " INNER JOIN INNER ON INNER.ON=JOIN.INNER\nINNER\tJOIN  ON ON ON.JOIN = INNER.ON".toList

/-- Names that are the words of clauses do not lead astray. -/
theorem exists_tiles_of_outline?_keywordJoins :
    ∃ found clauses,
      outline? ("SELECT * FROM A".toList ++ (keywordJoins ++ " WHERE A.X = 1".toList)) =
        some found ∧
      found.joins = keywordJoins ∧ Tiles clauses found.joins ∧
      clauses.map (·.words) =
        [⟨"INNER".toList, "INNER".toList, "ON".toList, "JOIN".toList, "INNER".toList⟩,
          ⟨"ON".toList, "ON".toList, "JOIN".toList, "INNER".toList, "ON".toList⟩] ∧
      Query.readJoins .standard found.joins = .ok (clauses.map (·.words.join)) := by
  have houtline :
      outline? ("SELECT * FROM A".toList ++ (keywordJoins ++ " WHERE A.X = 1".toList)) =
        some ⟨⟨"A".toList, keywordJoins, some "A.X = 1".toList⟩, "*".toList⟩ := by
    decide +kernel
  obtain ⟨clauses, htiles, -, hfound, hjoins⟩ := exists_tiles_of_outline? houtline
  refine ⟨_, clauses, houtline, rfl, (htiles clauses).mpr rfl, ?_, ?_⟩
  · have hwords := congrArg (List.map Prod.snd) hfound
    rw [List.map_map] at hwords
    refine Eq.trans hwords.symm ?_
    decide +kernel
  · cases hread : Query.readJoins .standard keywordJoins with
    | ok joins => rw [hjoins .standard joins hread]
    | error fault =>
      have hok : (Query.readJoins .standard keywordJoins).isOk = true := by decide +kernel
      rw [hread] at hok
      exact absurd hok Bool.false_ne_true

end Clause

end RelPlan
