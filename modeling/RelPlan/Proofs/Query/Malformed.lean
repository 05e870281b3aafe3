import RelPlan.Proofs.Query.JoinStarts
import RelPlan.Proofs.Text.Cuts

/-!
# Malformed join clauses

A join clause is malformed where the words that open one are and it is not in place. The first
malformed clause of a text is shown up to where it ends, and where it ends at a condition it is
shown right exactly if the word `WHERE` is between two spaces, and not between other white space
(`Clause.malformedJoin?_iff`, `Clause.malformedJoin?_of_newline`).
-/

namespace RelPlan

open Text

namespace Clause

section Search

variable [WordClass]

/-! ## Where the search stops -/

/-- The word before a condition between two spaces. -/
def spacedWhere : List Char := [' '] ++ whereWord ++ [' ']

/-- What stands from a place on up to the first one of some others, or up to the end. -/
def upTo (start : List Char × List Char) : List (List Char × List Char) → List Char
  | [] => start.2
  | next :: _ => next.1.drop start.1.length

/-- The first place at which a clause is not in place counts. -/
theorem findMalformed_eq (base : List Char × List Char) {positions : List (Nat × Nat)}
    {starts : List (List Char × List Char)}
    (hpositions : positions.map (·.1) = starts.map fun start => byteLength start.1)
    (hbase : ∀ start ∈ starts, Reaches base start) (hstarts : starts.Pairwise Reaches) :
    findMalformed (byteLength base.1) base.2 positions =
      match starts.dropWhile fun start => decide (IsInPlace start.2) with
      | [] => none
      | start :: others =>
        some (trimChars (before spacedWhere (upTo start others))) := by
  induction starts generalizing positions base with
  | nil =>
    rw [List.map_nil, List.map_eq_nil_iff] at hpositions
    rw [hpositions]
    rfl
  | cons start others ih =>
    rw [List.map_cons] at hpositions
    obtain ⟨⟨position, stop⟩, positions, rfl, hposition, hothers⟩ :=
      List.map_eq_cons_iff.mp hpositions
    obtain rfl : position = byteLength start.1 := hposition
    rw [List.forall_mem_cons] at hbase
    obtain ⟨more, hfront, hrest⟩ := hbase.1
    have hdrop : dropBytes (byteLength start.1 - byteLength base.1) base.2 = start.2 := by
      rw [hfront, byteLength_append, Nat.add_sub_cancel_left, hrest, dropBytes_append]
    rw [List.pairwise_cons] at hstarts
    unfold findMalformed
    rw [hdrop]
    by_cases hplace : IsInPlace start.2
    · rw [if_pos (accepts_joinInPlace_iff.mpr hplace), ih start hothers hstarts.1 hstarts.2,
        List.dropWhile_cons_of_pos (by simpa using hplace)]
    · rw [if_neg (fun h => hplace (accepts_joinInPlace_iff.mp h)),
        List.dropWhile_cons_of_neg (by simpa using hplace)]
      cases others with
      | nil =>
        rw [List.map_nil, List.map_eq_nil_iff] at hothers
        rw [hothers]
        rfl
      | cons next others =>
        rw [List.map_cons] at hothers
        obtain ⟨⟨later, stop⟩, positions, rfl, hlater, -⟩ := List.map_eq_cons_iff.mp hothers
        obtain ⟨clause, hnext, hclause⟩ := hstarts.1 next List.mem_cons_self
        obtain rfl : later = byteLength next.1 := hlater
        have htake : takeBytes (byteLength next.1 - byteLength start.1) start.2 =
            upTo start (next :: others) := by
          rw [upTo, hnext, byteLength_append, Nat.add_sub_cancel_left, hclause,
            takeBytes_append, List.drop_left]
        dsimp only
        rw [htake, spacedWhere]

/-! ## Where clauses end -/

/-- A join clause ends here at the latest, behind what is before it: another one begins, or nothing
is left. -/
def EndsAtJoin (front clause tail : List Char) : Prop :=
  clause ≠ [] ∧ (tail = [] ∨ StartsJoin (front ++ clause) tail)

/-- The word before a condition is here, between two characters of the given kind. -/
def IsWhere (kind : Char → Bool) (clause tail : List Char) : Prop :=
  clause.getLast?.any kind = true ∧ whereWord <+: tail ∧
    (tail.drop whereWord.length).head?.any kind = true

/-- A join clause ends here, behind what is before it: another one begins, or a condition whose
word is between characters of the given kind, or nothing is left. -/
def EndsClause (kind : Char → Bool) (front clause tail : List Char) : Prop :=
  EndsAtJoin front clause tail ∨ IsWhere kind clause tail

instance (kind : Char → Bool) (clause tail : List Char) : Decidable (IsWhere kind clause tail) :=
  inferInstanceAs (Decidable (_ ∧ _))

instance (kind : Char → Bool) (front clause tail : List Char) :
    Decidable (EndsClause kind front clause tail) :=
  inferInstanceAs (Decidable ((_ ∧ _) ∨ _))

section

variable {front rest clause tail : List Char}

/-- Neither another clause nor the end of a text is inside the word before a condition. -/
theorem EndsAtJoin.not_mem_head? (h : EndsAtJoin front clause tail) :
    ∀ c ∈ tail.head?, c ∉ spacedWhere := by
  rcases h.2 with rfl | hstarts
  · simp
  · obtain ⟨rest, rfl⟩ := hstarts.2.exists_cons
    simp [spacedWhere, whereWord]

omit [WordClass] in
/-- The word before a condition is here if it is, with a character of the kind before and behind
it. -/
theorem isWhere_iff {kind : Char → Bool} :
    IsWhere kind clause tail ↔ ∃ front first last after, kind first = true ∧ kind last = true ∧
      clause = front ++ [first] ∧ tail = whereWord ++ last :: after := by
  simp only [IsWhere, Option.any_eq_true]
  constructor
  · rintro ⟨⟨first, hfirst, hkind⟩, ⟨more, rfl⟩, last, hlast, hkindLast⟩
    obtain ⟨front, rfl⟩ := List.getLast?_eq_some_iff.mp hfirst
    rw [List.drop_left] at hlast
    obtain ⟨after, rfl⟩ := List.head?_eq_some_iff.mp hlast
    exact ⟨front, first, last, after, hkind, hkindLast, rfl, rfl⟩
  · rintro ⟨front, first, last, after, hkind, hkindLast, rfl, rfl⟩
    exact ⟨⟨first, by simp, hkind⟩, List.prefix_append _ _, last, by simp, hkindLast⟩

/-- Where the word before a condition is neither a join starts nor the text ends. -/
theorem IsWhere.not_endsAtJoin {kind : Char → Bool} (h : IsWhere kind clause tail) :
    ¬ EndsAtJoin front clause tail := by
  obtain ⟨-, -, last, after, -, -, -, rfl⟩ := isWhere_iff.mp h
  rintro ⟨-, hnil | hstarts⟩
  · simp [whereWord] at hnil
  · obtain ⟨cs, hcs⟩ := hstarts.2.exists_cons
    simp [whereWord] at hcs

/-- Where a clause ends before the end of a text, the next one is found. -/
theorem EndsAtJoin.mem_joinStarts {c : Char} {cs : List Char} (h : EndsAtJoin front clause tail)
    (htail : tail ≠ []) (happend : clause ++ tail = c :: cs) :
    (front ++ clause, tail) ∈ joinStarts (front ++ [c]) cs := by
  obtain ⟨d, clause, rfl⟩ := List.exists_cons_of_ne_nil h.1
  obtain ⟨rfl, rfl⟩ := List.cons.inj happend
  have hstarts : StartsJoin (front ++ [d] ++ clause) tail := by
    simpa using h.2.resolve_left htail
  simpa using mem_joinStarts_of_startsJoin (front ++ [d]) clause hstarts

/-- A clause goes up to where the next one begins, or up to the end. -/
theorem isFirstCut_upTo (front : List Char) (c : Char) (cs : List Char) :
    ∃ tail, IsFirstCut (EndsAtJoin front) (c :: cs)
      (upTo (front, c :: cs) (joinStarts (front ++ [c]) cs)) tail := by
  have hpair := pairwise_joinStarts (front ++ [c]) cs
  cases hothers : joinStarts (front ++ [c]) cs with
  | nil =>
    refine ⟨[], List.append_nil _, ⟨List.cons_ne_nil c cs, .inl rfl⟩, ?_⟩
    intro shorter more hmore happend hends
    rw [List.append_nil] at hends
    have hmem := hends.mem_joinStarts hmore happend.symm
    rw [hothers] at hmem
    exact List.not_mem_nil hmem
  | cons next others =>
    have hnext : next ∈ joinStarts (front ++ [c]) cs := hothers ▸ List.mem_cons_self
    obtain ⟨⟨more, hmore, hrest⟩, hstarts⟩ := reaches_of_mem_joinStarts hnext
    have hclause : upTo (front, c :: cs) (next :: others) = c :: more := by
      simp [upTo, hmore]
    rw [hclause]
    refine ⟨next.2, congrArg (c :: ·) hrest.symm, ⟨List.cons_ne_nil c more, .inr ?_⟩, ?_⟩
    · simpa [hmore] using hstarts
    · intro shorter behind hbehind happend hends
      have hcs : shorter ++ (behind ++ next.2) = c :: cs := by
        rw [← List.append_assoc, ← happend]
        exact congrArg (c :: ·) hrest.symm
      have hmem := hends.mem_joinStarts (by simp [hbehind]) hcs
      have hlength := List.length_pos_iff.mpr hbehind
      have hlong : (front ++ shorter).length < next.1.length := by
        have htotal := congrArg List.length happend
        simp only [hmore, List.length_append, List.length_cons, List.length_nil] at htotal ⊢
        omega
      rw [hothers] at hmem hpair
      rcases List.mem_cons.mp hmem with heq | hlater
      · have hsame : (front ++ shorter).length = next.1.length := congrArg (·.1.length) heq
        omega
      · have hshort : next.1.length < (front ++ shorter).length :=
          ((List.pairwise_cons.mp hpair).1 _ hlater).2
        omega

/-- The word between two spaces is all in a clause, if it begins there. -/
theorem exists_append_of_isWhere {shorter more : List Char} (hcut : EndsAtJoin front clause tail)
    (hclause : clause = shorter ++ more) (h : IsWhere (· == ' ') shorter (more ++ tail)) :
    ∃ before after, shorter = before ++ [' '] ∧ before ++ (spacedWhere ++ after) = clause := by
  obtain ⟨before, first, last, behind, hfirst, hlast, rfl, hbehind⟩ := isWhere_iff.mp h
  obtain rfl : first = ' ' := by simpa using hfirst
  obtain rfl : last = ' ' := by simpa using hlast
  have hword : (' ' :: more) ++ tail = spacedWhere ++ behind := by simp [spacedWhere, hbehind]
  obtain ⟨after, hmore, -⟩ := exists_append_of_append_eq hword hcut.not_mem_head?
  exact ⟨before, after, rfl, by rw [← hmore, hclause]; simp⟩

/-- Where the word between spaces is first in a clause, the clause ends behind its first space. -/
theorem isFirstCut_of_spacedWhere {shown after : List Char}
    (hcut : IsFirstCut (EndsAtJoin front) rest clause tail)
    (hbefore : IsFirstCut (fun _ rest => spacedWhere <+: rest) clause shown
      (spacedWhere ++ after)) :
    IsFirstCut (EndsClause (· == ' ') front) rest (shown ++ [' '])
      (whereWord ++ ' ' :: (after ++ tail)) := by
  have hclause : clause = shown ++ [' '] ++ (whereWord ++ ' ' :: after) := by
    rw [← hbefore.append]
    simp [spacedWhere]
  refine ⟨?_, .inr ?_, ?_⟩
  · rw [← hcut.append, hclause]
    simp
  · exact isWhere_iff.mpr ⟨shown, ' ', ' ', _, rfl, rfl, rfl, rfl⟩
  · intro shorter more hmore hfront hends
    have hlonger : clause = shorter ++ (more ++ (whereWord ++ ' ' :: after)) := by
      rw [hclause, hfront, List.append_assoc]
    have hends' : EndsClause (· == ' ') front shorter
        ((more ++ (whereWord ++ ' ' :: after)) ++ tail) := by simpa using hends
    rcases hends' with hjoin | hwhere
    · exact hcut.first shorter _ (by simp [hmore]) hlonger hjoin
    · obtain ⟨earlier, behind, rfl, hearlier⟩ :=
        exists_append_of_isWhere hcut.here hlonger hwhere
      obtain ⟨between, hbetween, -⟩ :=
        hbefore.exists_append hearlier (List.prefix_append _ _)
      have hlength := congrArg List.length hfront
      have hpos := List.length_pos_iff.mpr hmore
      simp only [hbetween, List.length_append, List.length_singleton] at hlength
      omega

/-- A clause that is cut off before the word between spaces ends there. -/
theorem exists_isFirstCut_before (hcut : IsFirstCut (EndsAtJoin front) rest clause tail) :
    ∃ shown behind, IsFirstCut (EndsClause (· == ' ') front) rest shown behind ∧
      trimChars (before spacedWhere clause) = trimChars shown := by
  by_cases hspaced : ∃ first second, first ++ second = clause ∧ spacedWhere <+: second
  · obtain ⟨first, second, happend, hword⟩ := hspaced
    obtain ⟨second, hbefore⟩ := isFirstCut_before happend hword
    obtain ⟨after, rfl⟩ := hbefore.here
    refine ⟨_, _, isFirstCut_of_spacedWhere hcut hbefore, ?_⟩
    rw [trimChars_append_right (by decide)]
  · have hself : before spacedWhere clause = clause :=
      before_eq_self fun first second happend hword => hspaced ⟨first, second, happend, hword⟩
    refine ⟨clause, tail, ⟨hcut.append, .inl hcut.here, ?_⟩, by rw [hself]⟩
    rintro shorter more hmore hclause (hjoin | hwhere)
    · exact hcut.first shorter more hmore hclause hjoin
    · obtain ⟨earlier, behind, -, hearlier⟩ := exists_append_of_isWhere hcut.here hclause hwhere
      exact hspaced ⟨earlier, _, hearlier, List.prefix_append _ _⟩

/-- What is cut off before the word between spaces is the clause exactly if that word ends it. -/
theorem trimChars_eq_iff {shown behind : List Char}
    (hshown : IsFirstCut (EndsClause (· == ' ') front) rest shown behind)
    (hclause : IsFirstCut (EndsClause isBlank front) rest clause tail) :
    trimChars shown = trimChars clause ↔
      (IsWhere isBlank clause tail → IsWhere (· == ' ') clause tail) := by
  have hblank {clause tail : List Char} (h : IsWhere (· == ' ') clause tail) :
      IsWhere isBlank clause tail := by
    obtain ⟨before, first, last, after, hfirst, hlast, hclause, htail⟩ := isWhere_iff.mp h
    obtain rfl : first = ' ' := by simpa using hfirst
    obtain rfl : last = ' ' := by simpa using hlast
    exact isWhere_iff.mpr ⟨before, ' ', ' ', after, by decide, by decide, hclause, htail⟩
  obtain ⟨more, rfl, hmore⟩ := hclause.exists_append hshown.append (hshown.here.imp_right hblank)
  constructor
  · intro htrim hwhere
    -- A longer clause would have the first letter of the word as well.
    have hnil : more = [] := by
      have hfilter := congrArg (List.filter (!isBlank ·)) htrim
      rw [filter_trimChars, filter_trimChars, List.filter_append] at hfilter
      cases more with
      | nil => rfl
      | cons c more =>
        obtain ⟨-, -, last, after, -, -, -, htail⟩ := isWhere_iff.mp hwhere
        obtain rfl : 'W' = c := by
          have hhead := congrArg List.head? (htail.symm.trans hmore)
          simpa [whereWord] using hhead
        have hmem : 'W' ∈ ('W' :: more).filter (!isBlank ·) :=
          List.mem_filter.mpr ⟨List.mem_cons_self, by decide⟩
        rw [List.append_cancel_left (hfilter.trans (List.append_nil _).symm)] at hmem
        exact absurd hmem List.not_mem_nil
    subst hnil
    rw [hmore] at hwhere ⊢
    rw [List.append_nil] at hshown
    exact hshown.here.resolve_left hwhere.not_endsAtJoin
  · intro hspaced
    have hhere : EndsClause (· == ' ') front clause tail := hclause.here.imp_right hspaced
    obtain ⟨others, hothers, -⟩ := hshown.exists_append hclause.append hhere
    have hnil : more = [] := (by simpa using hothers : more = [] ∧ others = []).1
    rw [hnil, List.append_nil]

end

/-! ## The first malformed clause -/

/-- A malformed join clause begins here. -/
def IsMalformed (front rest : List Char) : Prop := StartsJoin front rest ∧ ¬ IsInPlace rest

instance (front rest : List Char) : Decidable (IsMalformed front rest) :=
  inferInstanceAs (Decidable (_ ∧ _))

/-- What is shown is the first clause that is not in place, cut off before the word between
spaces. -/
theorem malformedJoin?_eq (text : List Char) :
    malformedJoin? text =
      match (joinStarts [] text).dropWhile fun start => decide (IsInPlace start.2) with
      | [] => none
      | start :: others => some (trimChars (before spacedWhere (upTo start others))) := by
  refine findMalformed_eq ([], text) (map_findKeywords [] text) ?_ ?_
  · exact fun start hstart => (reaches_of_mem_joinStarts hstart).1
  · exact (pairwise_joinStarts [] text).imp And.left

/-- No clause is shown exactly if all are in place. -/
theorem malformedJoin?_eq_none_iff {text : List Char} :
    malformedJoin? text = none ↔
      ∀ front rest, front ++ rest = text → StartsJoin front rest → IsInPlace rest := by
  have hall : (∀ start ∈ joinStarts [] text, IsInPlace start.2) ↔
      ∀ front rest, front ++ rest = text → StartsJoin front rest → IsInPlace rest := by
    simp only [Prod.forall, mem_joinStarts_iff, and_imp]
  rw [malformedJoin?_eq, ← hall]
  split
  · next hnil => simpa [List.dropWhile_eq_nil_iff] using hnil
  · next start others hstart =>
    have hmem : start ∈ joinStarts [] text :=
      (List.dropWhile_suffix _).subset (hstart ▸ List.mem_cons_self)
    have hplace : ¬ IsInPlace start.2 := by
      have hhead := List.head?_dropWhile_not (fun start => decide (IsInPlace start.2))
        (joinStarts [] text)
      simpa [hstart] using hhead
    simpa using ⟨start.1, start.2, hmem, hplace⟩

/-- The first malformed clause is shown up to where another one begins or the word before a
condition is between two spaces, or up to the end. -/
theorem exists_malformedJoin? {text front rest : List Char}
    (h : IsFirstCut IsMalformed text front rest) :
    ∃ shown behind, IsFirstCut (EndsClause (· == ' ') front) rest shown behind ∧
      malformedJoin? text = some (trimChars shown) := by
  obtain ⟨done, others, hstarts⟩ :=
    List.append_of_mem (mem_joinStarts_iff.mpr ⟨h.append, h.here.1⟩)
  have hdone : ∀ start ∈ done, IsInPlace start.2 := by
    intro start hstart
    have hmem : start ∈ joinStarts [] text := by simp [hstarts, hstart]
    have hpair := pairwise_joinStarts [] text
    rw [hstarts, List.pairwise_append] at hpair
    obtain ⟨⟨more, hfront, hrest⟩, hlength⟩ := hpair.2.2 start hstart _ List.mem_cons_self
    have hmore : more ≠ [] := by
      rintro rfl
      rw [hfront, List.append_nil] at hlength
      exact Nat.lt_irrefl _ hlength
    by_contra hplace
    exact h.first start.1 more hmore hfront
      ⟨hrest ▸ (mem_joinStarts_iff.mp hmem).2, hrest ▸ hplace⟩
  have hfirst : (joinStarts [] text).dropWhile (fun start => decide (IsInPlace start.2)) =
      (front, rest) :: others := by
    rw [hstarts, List.dropWhile_append_of_pos (by simpa using hdone),
      List.dropWhile_cons_of_neg (by simpa using h.here.2)]
  obtain ⟨c, cs, hrest, rfl⟩ := eq_joinStarts_of_eq_append hstarts
  obtain rfl : rest = c :: cs := hrest
  obtain ⟨tail, hcut⟩ := isFirstCut_upTo front c cs
  obtain ⟨shown, behind, hshown, htrim⟩ := exists_isFirstCut_before hcut
  refine ⟨shown, behind, hshown, ?_⟩
  rw [malformedJoin?_eq, hfirst, ← htrim]

/-- Every clause that begins ends somewhere. -/
theorem exists_isFirstCut_endsClause (front : List Char) {rest : List Char} (h : OpensJoin rest) :
    ∃ clause tail, IsFirstCut (EndsClause isBlank front) rest clause tail := by
  obtain ⟨cs, rfl⟩ := h.exists_cons
  exact exists_isFirstCut (List.append_nil _) (.inl ⟨List.cons_ne_nil _ _, .inl rfl⟩)

/-- Join clauses are found wherever the words that open them are, and none is shown exactly if each
of them is followed by another one, a condition or the end. Otherwise the first one that is not is
shown. What is shown goes up to the next clause, or the word before a condition, or the end, exactly
if that word, where the clause ends there, is between two spaces. -/
theorem malformedJoin?_iff (text : List Char) :
    ((joinKeywords text).map (·.1)).Pairwise (· < ·) ∧
    (∀ position, position ∈ (joinKeywords text).map (·.1) ↔
      ∃ front rest, front ++ rest = text ∧ StartsJoin front rest ∧ byteLength front = position) ∧
    (malformedJoin? text = none ↔
      ∀ front rest, front ++ rest = text → StartsJoin front rest → IsInPlace rest) ∧
    ∀ front rest, IsFirstCut IsMalformed text front rest →
      ∃ clause tail, IsFirstCut (EndsClause isBlank front) rest clause tail ∧
        (malformedJoin? text = some (trimChars clause) ↔
          (IsWhere isBlank clause tail → IsWhere (· == ' ') clause tail)) := by
  have hpositions : (joinKeywords text).map (·.1) =
      (joinStarts [] text).map fun start => byteLength start.1 := map_findKeywords [] text
  refine ⟨?_, fun position => ?_, malformedJoin?_eq_none_iff, fun front rest hmalformed => ?_⟩
  · rw [hpositions, List.pairwise_map]
    refine (pairwise_joinStarts [] text).imp ?_
    rintro start later ⟨⟨more, hfront, -⟩, hlength⟩
    rw [hfront, List.length_append] at hlength
    rw [hfront, byteLength_append]
    have hpos := byteLength_pos (List.length_pos_iff.mp (by omega : 0 < more.length))
    omega
  · rw [hpositions, List.mem_map]
    constructor
    · rintro ⟨⟨front, rest⟩, hmem, hposition⟩
      obtain ⟨happend, hstarts⟩ := mem_joinStarts_iff.mp hmem
      exact ⟨front, rest, happend, hstarts, hposition⟩
    · rintro ⟨front, rest, happend, hstarts, hposition⟩
      exact ⟨(front, rest), mem_joinStarts_iff.mpr ⟨happend, hstarts⟩, hposition⟩
  · obtain ⟨clause, tail, hclause⟩ := exists_isFirstCut_endsClause front hmalformed.here.1.2
    obtain ⟨shown, behind, hshown, hresult⟩ := exists_malformedJoin? hmalformed
    refine ⟨clause, tail, hclause, ?_⟩
    rw [hresult, Option.some.injEq, trimChars_eq_iff hshown hclause]

end Search

/-- The clause before a word `WHERE` between two spaces is shown. -/
theorem malformedJoin?_of_spaces :
    malformedJoin? "SELECT * FROM A INNER JOIN B ON A.ID > B.ID WHERE A.X = 1".toList =
      some "INNER JOIN B ON A.ID > B.ID".toList := by
  have hmalformed : IsFirstCut IsMalformed
      "SELECT * FROM A INNER JOIN B ON A.ID > B.ID WHERE A.X = 1".toList
      "SELECT * FROM A ".toList "INNER JOIN B ON A.ID > B.ID WHERE A.X = 1".toList := by
    decide +kernel
  have hends : IsFirstCut (EndsClause isBlank "SELECT * FROM A ".toList)
      "INNER JOIN B ON A.ID > B.ID WHERE A.X = 1".toList
      "INNER JOIN B ON A.ID > B.ID ".toList "WHERE A.X = 1".toList := by decide +kernel
  obtain ⟨clause, tail, hclause, hshown⟩ := (malformedJoin?_iff _).2.2.2 _ _ hmalformed
  obtain ⟨rfl, rfl⟩ := hends.unique hclause
  exact hshown.mpr fun _ => by decide +kernel

/-- The clause before a word `WHERE` behind a line break is shown with all that follows it. -/
theorem malformedJoin?_of_newline :
    IsFirstCut IsMalformed "SELECT * FROM A INNER JOIN B ON A.ID > B.ID\nWHERE A.X = 1".toList
      "SELECT * FROM A ".toList "INNER JOIN B ON A.ID > B.ID\nWHERE A.X = 1".toList ∧
    IsFirstCut (EndsClause isBlank "SELECT * FROM A ".toList)
      "INNER JOIN B ON A.ID > B.ID\nWHERE A.X = 1".toList
      "INNER JOIN B ON A.ID > B.ID\n".toList "WHERE A.X = 1".toList ∧
    malformedJoin? "SELECT * FROM A INNER JOIN B ON A.ID > B.ID\nWHERE A.X = 1".toList ≠
      some (trimChars "INNER JOIN B ON A.ID > B.ID\n".toList) ∧
    malformedJoin? "SELECT * FROM A INNER JOIN B ON A.ID > B.ID\nWHERE A.X = 1".toList =
      some "INNER JOIN B ON A.ID > B.ID\nWHERE A.X = 1".toList := by
  decide +kernel

end Clause

end RelPlan
