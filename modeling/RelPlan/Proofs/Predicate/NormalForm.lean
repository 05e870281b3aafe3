import Mathlib.Data.List.Basic
import RelPlan.Proofs.Predicate.Completeness
import RelPlan.Proofs.Predicate.Separation

/-!
# Normal forms of conditions

A condition that was read is printed as a text that stands for the same condition
(`Conjunction.ofText_text_of_isNormal`, `Conjunction.isNormal_ofText`). Each of its predicates is
printed as tokens that spell it, or it is text without a separator that is kept verbatim
(`Predicate.IsItem`), and all but the last one leave no parenthesis, range or string open
(`Predicate.IsInner`). So the printed text is cut into just these again, unless all of it follows
the grammar, and then every predicate does.
-/

namespace RelPlan

/-! ## Reading by tokens -/

/-- A predicate is spelled by at least one token. -/
theorem Parser.ne_nil_of_spells {level : Level} {predicates : List Predicate}
    {kinds : List TokenKind} (h : Spells level predicates kinds) (hor : level ≠ .orTail)
    (hand : level ≠ .andTail) : kinds ≠ [] := by
  induction h with
  | or _ _ ihfirst | and _ _ ihfirst =>
    exact List.append_ne_nil_of_left_ne_nil (ihfirst (by simp) (by simp)) _
  | orNil | orCons => exact absurd rfl hor
  | andNil | andCons => exact absurd rfl hand
  | not | parens => simp
  | simple hsimple =>
    obtain ⟨kind, others, rfl, -⟩ := exists_cons_of_spellsSimple hsimple
    exact List.cons_ne_nil _ _

namespace Condition

/-- A text whose tokens spell a predicate is not blank. -/
theorem trimChars_ne_nil_of_spells {cs : List Char} {predicate : Predicate}
    (h : Parser.Spells .or [predicate] (Lexer.kinds cs)) : Text.trimChars cs ≠ [] := by
  intro hblank
  exact Parser.ne_nil_of_spells h (by simp) (by simp) (Lexer.kinds_eq_nil_iff.mpr hblank)

/-- A segment whose tokens spell a predicate is read as that predicate. -/
theorem ofSegment_of_spells {segment : List Char} {predicate : Predicate}
    (h : Parser.Spells .or [predicate] (Lexer.kinds segment)) : ofSegment segment = predicate := by
  rw [ofSegment, ofTokens_tokens_iff.mpr h]

/-- A segment whose tokens spell no predicate is kept verbatim. -/
theorem ofSegment_of_not_spells {segment : List Char}
    (h : ∀ predicate, ¬ Parser.Spells .or [predicate] (Lexer.kinds segment)) :
    ofSegment segment = .verbatim (String.ofList segment) (scanColumns (Lexer.kinds segment)) := by
  unfold ofSegment
  dsimp only
  split
  · next predicate hpredicate => exact absurd (ofTokens_tokens_iff.mp hpredicate) (h predicate)
  · rw [Lexer.tokens, Lexer.map_kind_tokensFrom, scanColumns_append_finish]

/-- The segments of a text are its parts without the white space around them and without those
that are blank. -/
theorem segments_eq_cut (cs : List Char) :
    segments cs (Lexer.tokens cs) =
      ((cut 0 false cs).map Text.trimChars).filter (!·.isEmpty) := by
  rw [segments, Lexer.tokens, partsFrom_eq_cut]

end Condition

/-- White space around the parts of a text has no tokens. -/
theorem Condition.map_kinds_map_trimChars (parts : List (List Char)) :
    (parts.map Text.trimChars).map Lexer.kinds = parts.map Lexer.kinds := by
  rw [List.map_map]
  exact List.map_congr_left fun part _ => Lexer.kinds_trimChars part

namespace Conjunction

open Condition

/-- A text whose tokens spell a predicate stands for its conjuncts. -/
theorem ofText_of_spells {text : String} {predicate : Predicate}
    (h : Parser.Spells .or [predicate] (Lexer.kinds text.toList)) :
    ofText text = predicate.conjuncts := by
  have hne : (Text.trimChars text.toList).isEmpty = false :=
    List.isEmpty_eq_false_iff.mpr (trimChars_ne_nil_of_spells h)
  rw [← Lexer.kinds_trimChars] at h
  rw [ofText, ofChars, hne, if_neg Bool.false_ne_true]
  dsimp only
  rw [ofTokens_tokens_iff.mpr h]

/-- A text whose tokens spell no predicate stands for the conjuncts of its segments. -/
theorem ofText_of_not_spells {text : String}
    (h : ∀ predicate, ¬ Parser.Spells .or [predicate] (Lexer.kinds text.toList)) :
    ofText text =
      (segments text.toList (Lexer.tokens text.toList)).flatMap fun segment =>
        (ofSegment segment).conjuncts := by
  rw [segments_eq_cut, ← map_trimChars_cut_trimChars, ← segments_eq_cut, ofText, ofChars]
  split
  · next hempty =>
    rw [List.isEmpty_iff.mp hempty, segments_eq_cut, cut_nil]
    rfl
  · dsimp only
    split
    · next predicate hpredicate =>
      rw [ofTokens_tokens_iff, Lexer.kinds_trimChars] at hpredicate
      exact absurd hpredicate (h predicate)
    · rfl

end Conjunction

/-! ## Predicates of conditions -/

namespace Predicate

open Condition

/-- A conjunct of a condition: a predicate of the grammar, or text that does not follow it and that
has no separator. -/
inductive IsItem : Predicate → Prop
  | read {predicate : Predicate} (hreprints : predicate.Reprints)
      (hconjuncts : predicate.conjuncts = [predicate]) : IsItem predicate
  | kept {segment : List Char} {stop : Int} {ends : Bool}
      (htrim : Text.trimChars segment = segment) (hne : segment ≠ [])
      (hspells : ∀ predicate, ¬ Parser.Spells .or [predicate] (Lexer.kinds segment))
      (hpasses : Passes 0 false (Lexer.kinds segment) stop ends) : IsItem (ofSegment segment)

/-- As it stands beside others, the predicate leaves no parenthesis, range or string open. -/
structure IsInner (predicate : Predicate) : Prop where
  passes : Passes 0 false (Lexer.kinds predicate.itemText.toList) 0 false
  closed : Lexer.Closed predicate.itemText.toList

/-- Predicates of the grammar leave nothing open. -/
theorem Reprints.isInner {predicate : Predicate} (h : predicate.Reprints) : predicate.IsInner := by
  obtain ⟨kinds, hspells, hkinds, hclosed⟩ := h.item
  subst hkinds
  exact ⟨Parser.passes_of_spells hspells false (.inr ⟨Int.le_refl 0, rfl⟩), hclosed⟩

/-- Text that is kept verbatim stands beside others as it is. -/
theorem itemText_ofSegment {segment : List Char}
    (h : ∀ predicate, ¬ Parser.Spells .or [predicate] (Lexer.kinds segment)) :
    (ofSegment segment).itemText = String.ofList segment := by
  rw [ofSegment_of_not_spells h, itemText_of_not_isCompound rfl, text]

/-- A conjunct of a condition is not made up of several ones. -/
theorem IsItem.conjuncts_eq {predicate : Predicate} (h : predicate.IsItem) :
    predicate.conjuncts = [predicate] := by
  cases h with
  | read _ hconjuncts => exact hconjuncts
  | kept _ _ hspells _ =>
    rw [ofSegment_of_not_spells hspells]
    rfl

/-- A conjunct has no separator as it stands beside others. -/
theorem IsItem.passes {predicate : Predicate} (h : predicate.IsItem) :
    ∃ stop ends, Passes 0 false (Lexer.kinds predicate.itemText.toList) stop ends := by
  cases h with
  | read hreprints _ => exact ⟨0, false, hreprints.isInner.passes⟩
  | kept _ _ hspells hpasses =>
    rw [itemText_ofSegment hspells, String.toList_ofList]
    exact ⟨_, _, hpasses⟩

/-- A conjunct is read again from its text beside others, which is not blank. -/
theorem IsItem.ofSegment_itemText {predicate : Predicate} (h : predicate.IsItem) :
    Text.trimChars predicate.itemText.toList ≠ [] ∧
      ofSegment (Text.trimChars predicate.itemText.toList) = predicate := by
  cases h with
  | read hreprints _ =>
    obtain ⟨kinds, hspells, rfl, -⟩ := hreprints.item
    have hor := Parser.spells_or_of_unary hspells
    refine ⟨trimChars_ne_nil_of_spells hor, ofSegment_of_spells ?_⟩
    rwa [Lexer.kinds_trimChars]
  | kept htrim hne hspells _ =>
    rw [itemText_ofSegment hspells, String.toList_ofList, htrim]
    exact ⟨hne, rfl⟩

/-- Only a conjunct of the grammar stands beside others in parentheses. -/
theorem IsItem.itemText_eq {predicate : Predicate} (h : predicate.IsItem)
    (hnot : ∀ other, ¬ Parser.Spells .or [other] (Lexer.kinds predicate.itemText.toList)) :
    predicate.itemText = predicate.text := by
  cases h with
  | read hreprints _ =>
    obtain ⟨kinds, hitem, rfl, -⟩ := hreprints.item
    exact absurd (Parser.spells_or_of_unary hitem) (hnot _)
  | kept _ _ hspells _ => rw [itemText_ofSegment hspells, ofSegment_of_not_spells hspells, text]

end Predicate

namespace Conjunction

open Condition

/-- The predicates of the conjunction are conjuncts, and all but the last one leave nothing open. -/
structure IsNormal (conjunction : Conjunction) : Prop where
  isItem : ∀ predicate ∈ conjunction, predicate.IsItem
  isInner : ∀ predicate ∈ conjunction.dropLast, predicate.IsInner

/-- Printed conjuncts of the grammar are read as these. -/
theorem ofText_text_of_reprints {conjunction : Conjunction}
    (hreprints : ∀ predicate ∈ conjunction, predicate.Reprints)
    (hconjuncts : ∀ predicate ∈ conjunction, predicate.conjuncts = [predicate]) :
    ofText conjunction.text = conjunction := by
  cases conjunction with
  | nil => rfl
  | cons first others =>
    rw [List.forall_mem_cons] at hreprints hconjuncts
    obtain ⟨kinds, hspells, hkinds, -⟩ :=
      (Parser.reprints_conjunction hreprints.1 hreprints.2).alone
    have htext : text (first :: others) = (Parser.conjunction first others).text := by
      cases others <;> rfl
    rw [htext, ofText_of_spells (hkinds ▸ hspells), Parser.conjuncts_conjunction, hconjuncts.1,
      Predicate.itemConjuncts_eq_flatMap, List.flatMap_congr hconjuncts.2, List.flatMap_singleton',
      List.singleton_append]

/-- Printed conjuncts of which one is kept verbatim are read as these. -/
theorem ofText_text_of_isItem {conjunction : Conjunction}
    (hnormal : conjunction.IsNormal) {predicate : Predicate} (hmem : predicate ∈ conjunction)
    (hspells : ∀ other,
      ¬ Parser.Spells .or [other] (Lexer.kinds predicate.itemText.toList)) :
    ofText (Text.joinWith " AND " (Predicate.itemTexts conjunction)) = conjunction := by
  have hcut : (cut 0 false (Text.joinWith " AND " (Predicate.itemTexts conjunction)).toList).map
      Text.trimChars = conjunction.map fun item => Text.trimChars item.itemText.toList := by
    rw [Predicate.itemTexts_eq_map, map_trimChars_cut_joinWith, List.map_map]
    · rfl
    · simpa using List.ne_nil_of_mem hmem
    · simpa using fun item hitem => (hnormal.isItem item hitem).passes
    · intro text htext
      rw [← List.map_dropLast] at htext
      obtain ⟨item, hitem, rfl⟩ := List.mem_map.mp htext
      exact ⟨(hnormal.isInner item hitem).passes, (hnormal.isInner item hitem).closed⟩
  -- The text follows the grammar only if all its parts do.
  have hnot (other : Predicate) : ¬ Parser.Spells .or [other] (Lexer.kinds
      (Text.joinWith " AND " (Predicate.itemTexts conjunction)).toList) := by
    intro h
    obtain ⟨part, hpart⟩ := Parser.exists_spells_of_mem_runs h
      (Lexer.kinds predicate.itemText.toList) (by
        rw [← map_kinds_cut, ← map_kinds_map_trimChars, hcut, List.map_map, List.mem_map]
        exact ⟨predicate, hmem, Lexer.kinds_trimChars _⟩)
    exact hspells part hpart
  have hblank : (conjunction.map fun item => Text.trimChars item.itemText.toList).filter
      (!·.isEmpty) = conjunction.map fun item => Text.trimChars item.itemText.toList := by
    rw [List.filter_eq_self, List.forall_mem_map]
    simpa using fun item hitem => (hnormal.isItem item hitem).ofSegment_itemText.1
  have hread : ∀ item ∈ conjunction,
      (ofSegment (Text.trimChars item.itemText.toList)).conjuncts = [item] := by
    intro item hitem
    rw [(hnormal.isItem item hitem).ofSegment_itemText.2, (hnormal.isItem item hitem).conjuncts_eq]
  rw [ofText_of_not_spells hnot, segments_eq_cut, hcut, hblank, List.flatMap_map,
    List.flatMap_congr hread, List.flatMap_singleton']

/-- A conjunction in normal form is read from its text again. -/
theorem ofText_text_of_isNormal {conjunction : Conjunction} (h : conjunction.IsNormal) :
    ofText conjunction.text = conjunction := by
  by_cases hkept : ∃ predicate ∈ conjunction, ∀ other,
      ¬ Parser.Spells .or [other] (Lexer.kinds predicate.itemText.toList)
  · obtain ⟨predicate, hmem, hspells⟩ := hkept
    have hread := ofText_text_of_isItem h hmem hspells
    match conjunction with
    | [] => simp at hmem
    | [single] =>
      obtain rfl := List.mem_singleton.mp hmem
      rwa [Predicate.itemTexts_eq_map, List.map_singleton, Text.joinWith_singleton,
        (h.isItem predicate hmem).itemText_eq hspells] at hread
    | _ :: _ :: _ => exact hread
  · have hreprints : ∀ predicate ∈ conjunction, predicate.Reprints := by
      intro predicate hmem
      cases h.isItem predicate hmem with
      | read hreprints _ => exact hreprints
      | @kept segment _ _ _ _ hspells _ =>
        refine absurd ⟨_, hmem, ?_⟩ hkept
        rwa [Predicate.itemText_ofSegment hspells, String.toList_ofList]
    exact ofText_text_of_reprints hreprints fun predicate hmem =>
      (h.isItem predicate hmem).conjuncts_eq

end Conjunction

/-! ## Conditions that are read are in normal form -/

namespace Condition

/-- Only the last token of a text can be a string that is left open. -/
theorem openString_not_mem_dropLast_kinds (cs : List Char) :
    .openString ∉ (Lexer.kinds cs).dropLast := by
  fun_induction Lexer.kinds cs with
  | case1 => simp
  | case2 c rest hblank ih => exact ih
  | case3 c rest hblank ih =>
    by_cases hopen : (Lexer.lexeme c rest).kind = .openString
    · simp [Lexer.rest_lexeme_eq_nil hopen]
    · cases hkinds : Lexer.kinds (Lexer.lexeme c rest).rest with
      | nil => simp
      | cons kind kinds =>
        rw [List.dropLast_cons_cons, ← hkinds, List.mem_cons, not_or]
        exact ⟨Ne.symm hopen, ih⟩

/-- All but the last of the items that are kept are before the last of all. -/
theorem dropLast_filter_subset {α : Type} (test : α → Bool) (items : List α) :
    (items.filter test).dropLast ⊆ items.dropLast := by
  induction items with
  | nil => simp
  | cons item items ih =>
    cases items with
    | nil => cases htest : test item <;> simp [htest]
    | cons next items =>
      rw [List.filter_cons, List.dropLast_cons_cons]
      split
      · cases hkept : (next :: items).filter test with
        | nil => simp
        | cons first others =>
          rw [List.dropLast_cons_cons, ← hkept]
          exact List.cons_subset_cons item ih
      · exact List.subset_cons_of_subset item ih

/-- What is in a list before the last one is before the last item of all with something between
neighbours. -/
theorem mem_dropLast_intercalate {α : Type} (separator : α) {a : α} {list : List α}
    {lists : List (List α)} (hlist : list ∈ lists.dropLast) (ha : a ∈ list) :
    a ∈ ([separator].intercalate lists).dropLast := by
  induction lists with
  | nil => simp at hlist
  | cons first others ih =>
    cases others with
    | nil => simp at hlist
    | cons next others =>
      rw [List.intercalate_cons_cons, List.append_assoc,
        List.dropLast_append_of_ne_nil (by simp), List.mem_append]
      rw [List.dropLast_cons_cons] at hlist
      rcases List.mem_cons.mp hlist with rfl | hmem
      · exact .inl ha
      · have hbehind := ih hmem
        refine .inr ?_
        rw [List.dropLast_append_of_ne_nil fun hnil => by simp [hnil] at hbehind]
        exact List.mem_append_right _ hbehind

/-- The tokens of a segment are one of the runs of the tokens of the text. -/
theorem kinds_mem_runs_of_mem_segments {cs segment : List Char}
    (h : segment ∈ segments cs (Lexer.tokens cs)) :
    Lexer.kinds segment ∈ runs 0 false (Lexer.kinds cs) := by
  have hmem := List.mem_map_of_mem (f := Lexer.kinds) h
  rw [map_kinds_segments] at hmem
  exact List.mem_of_mem_filter hmem

/-- All segments but the last one leave nothing open. -/
theorem passes_of_mem_dropLast_segments {cs segment : List Char}
    (h : segment ∈ (segments cs (Lexer.tokens cs)).dropLast) :
    Passes 0 false (Lexer.kinds segment) 0 false ∧ Lexer.Closed segment := by
  have hmem := List.mem_map_of_mem (f := Lexer.kinds) h
  rw [List.map_dropLast, map_kinds_segments] at hmem
  have hrun := dropLast_filter_subset _ _ hmem
  refine ⟨passes_of_mem_dropLast_runs hrun, fun hopen => ?_⟩
  have hbefore := mem_dropLast_intercalate (.keyword .and) hrun hopen
  rw [intercalate_runs] at hbefore
  exact openString_not_mem_dropLast_kinds cs hbefore

/-- A segment has no white space around it. -/
theorem trimChars_of_mem_segments {cs segment : List Char}
    (h : segment ∈ segments cs (Lexer.tokens cs)) :
    Text.trimChars segment = segment ∧ segment ≠ [] := by
  rw [segments_eq_cut, List.mem_filter] at h
  obtain ⟨part, -, rfl⟩ := List.mem_map.mp h.1
  exact ⟨Text.trimChars_trimChars part, by simpa using h.2⟩

end Condition

namespace Predicate

open Condition

/-- The conjuncts of a predicate that is read from a text. -/
theorem isItem_of_spells {cs : List Char} {predicate conjunct : Predicate}
    (h : Parser.Spells .or [predicate] (Lexer.kinds cs)) (hmem : conjunct ∈ predicate.conjuncts) :
    conjunct.IsItem ∧ conjunct.IsInner := by
  have hreprints := (Parser.reprints_of_spells h (fun _ => Lexer.isProper_of_mem_kinds) predicate
    List.mem_cons_self).2 conjunct hmem
  exact ⟨.read hreprints (conjuncts_of_mem_conjuncts hmem), hreprints.isInner⟩

/-- The conjuncts of a segment leave nothing open if the segment does not, and otherwise the last
one may. -/
theorem isItem_of_mem_segment {segment : List Char} {stop : Int} {ends : Bool}
    (htrim : Text.trimChars segment = segment) (hne : segment ≠ [])
    (hpasses : Passes 0 false (Lexer.kinds segment) stop ends) :
    (∀ conjunct ∈ (ofSegment segment).conjuncts, conjunct.IsItem) ∧
      (∀ conjunct ∈ (ofSegment segment).conjuncts.dropLast, conjunct.IsInner) ∧
      (Passes 0 false (Lexer.kinds segment) 0 false → Lexer.Closed segment →
        ∀ conjunct ∈ (ofSegment segment).conjuncts, conjunct.IsInner) := by
  by_cases hspells : ∃ predicate, Parser.Spells .or [predicate] (Lexer.kinds segment)
  · obtain ⟨predicate, hspells⟩ := hspells
    rw [ofSegment_of_spells hspells]
    refine ⟨fun _ hmem => (isItem_of_spells hspells hmem).1, fun _ hmem => ?_,
      fun _ _ _ hmem => (isItem_of_spells hspells hmem).2⟩
    exact (isItem_of_spells hspells (List.dropLast_subset _ hmem)).2
  · have hnot := not_exists.mp hspells
    have hitem := IsItem.kept htrim hne hnot hpasses
    rw [hitem.conjuncts_eq]
    refine ⟨List.forall_mem_singleton.mpr hitem, by simp, fun hwhole hclosed => ?_⟩
    rw [List.forall_mem_singleton]
    exact ⟨by rwa [itemText_ofSegment hnot, String.toList_ofList],
      by rwa [itemText_ofSegment hnot, String.toList_ofList]⟩

end Predicate

namespace Conjunction

open Condition

/-- The conjuncts of segments of which all but the last one leave nothing open. -/
theorem isNormal_flatMap_ofSegment {segments : List (List Char)}
    (hall : ∀ segment ∈ segments, (Text.trimChars segment = segment ∧ segment ≠ []) ∧
      ∃ stop ends, Passes 0 false (Lexer.kinds segment) stop ends)
    (hinner : ∀ segment ∈ segments.dropLast,
      Passes 0 false (Lexer.kinds segment) 0 false ∧ Lexer.Closed segment) :
    IsNormal (segments.flatMap fun segment => (ofSegment segment).conjuncts) where
  isItem conjunct hmem := by
    obtain ⟨segment, hsegment, hconjunct⟩ := List.mem_flatMap.mp hmem
    obtain ⟨⟨htrim, hne⟩, stop, ends, hpasses⟩ := hall segment hsegment
    exact (Predicate.isItem_of_mem_segment htrim hne hpasses).1 conjunct hconjunct
  isInner conjunct hmem := by
    rcases List.eq_nil_or_concat segments with rfl | ⟨front, last, rfl⟩
    · simp at hmem
    · rw [List.concat_eq_append] at hall hinner hmem
      rw [List.dropLast_concat] at hinner
      rw [List.flatMap_append, List.flatMap_singleton,
        List.dropLast_append_of_ne_nil (conjuncts_ofSegment_ne_nil last), List.mem_append] at hmem
      rcases hmem with hfront | hlast
      · obtain ⟨segment, hsegment, hconjunct⟩ := List.mem_flatMap.mp hfront
        obtain ⟨⟨htrim, hne⟩, -⟩ := hall segment (List.mem_append_left _ hsegment)
        obtain ⟨hpasses, hclosed⟩ := hinner segment hsegment
        exact (Predicate.isItem_of_mem_segment htrim hne hpasses).2.2 hpasses hclosed conjunct
          hconjunct
      · obtain ⟨⟨htrim, hne⟩, stop, ends, hpasses⟩ := hall last List.mem_concat_self
        exact (Predicate.isItem_of_mem_segment htrim hne hpasses).2.1 conjunct hlast

/-- A condition that is read is in normal form. -/
theorem isNormal_ofText (text : String) : (ofText text).IsNormal := by
  by_cases hspells : ∃ predicate, Parser.Spells .or [predicate] (Lexer.kinds text.toList)
  · obtain ⟨predicate, hspells⟩ := hspells
    rw [ofText_of_spells hspells]
    exact ⟨fun _ hmem => (Predicate.isItem_of_spells hspells hmem).1, fun _ hmem =>
      (Predicate.isItem_of_spells hspells (List.dropLast_subset _ hmem)).2⟩
  · rw [ofText_of_not_spells (not_exists.mp hspells)]
    exact isNormal_flatMap_ofSegment
      (fun segment hmem => ⟨trimChars_of_mem_segments hmem,
        passes_of_mem_runs (kinds_mem_runs_of_mem_segments hmem)⟩)
      fun segment hmem => passes_of_mem_dropLast_segments hmem

end Conjunction

/-- The text of a condition that was read stands for the same condition. -/
theorem Conjunction.ofText_text_ofText (text : String) : ofText (ofText text).text = ofText text :=
  ofText_text_of_isNormal (isNormal_ofText text)

end RelPlan
