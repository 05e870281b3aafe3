import Mathlib.Data.List.Basic
import Mathlib.Data.Nat.Find
import RelPlan.Proofs.Text.Blank
import RelPlan.Text.Split

/-!
# Where texts are cut

The first place in a text that has some property, as what is before it and what is behind it
(`Text.IsFirstCut`). If there are such places there is a first one, it is the only first one, and
every other one is behind it. A text is cut off before a pattern at the first place where the
pattern begins (`Text.isFirstCut_before`).
-/

namespace RelPlan.Text

/-- Whether a text is cut at the first place at which it stops: what is before the place, and what
is behind it. -/
structure IsFirstCut (stops : List Char → List Char → Prop) (cs front tail : List Char) : Prop where
  append : front ++ tail = cs
  here : stops front tail
  first : ∀ shorter more, more ≠ [] → front = shorter ++ more → ¬ stops shorter (more ++ tail)

section

variable {stops : List Char → List Char → Prop} {cs front tail : List Char}

/-- A first cut is a cut with none at fewer characters, of which there are finitely many. -/
theorem isFirstCut_iff :
    IsFirstCut stops cs front tail ↔
      front ++ tail = cs ∧ stops front tail ∧
        ∀ n < front.length, ¬ stops (front.take n) (front.drop n ++ tail) := by
  refine ⟨fun h => ⟨h.append, h.here, fun n hn => h.first _ _ ?_ ?_⟩,
    fun h => ⟨h.1, h.2.1, fun shorter more hmore hfront => ?_⟩⟩
  · simpa using hn
  · exact (List.take_append_drop n front).symm
  · have hlength : shorter.length < front.length := by
      have := List.length_pos_iff.mpr hmore
      simp only [hfront, List.length_append]
      omega
    have hfirst := h.2.2 shorter.length hlength
    rwa [hfront, List.take_left', List.drop_left'] at hfirst <;> rfl

instance [∀ front tail, Decidable (stops front tail)] :
    Decidable (IsFirstCut stops cs front tail) :=
  decidable_of_iff _ isFirstCut_iff.symm

/-- No place comes before the front of the text. -/
theorem isFirstCut_nil (h : stops [] cs) : IsFirstCut stops cs [] cs :=
  ⟨rfl, h, fun _ _ hmore hfront => absurd (List.append_eq_nil_iff.mp hfront.symm).2 hmore⟩

/-- A text that stops somewhere has a first place at which it does. -/
theorem exists_isFirstCut (happend : front ++ tail = cs) (hstops : stops front tail) :
    ∃ front tail, IsFirstCut stops cs front tail := by
  have h : ∃ n, ∃ front tail, front ++ tail = cs ∧ stops front tail ∧ front.length = n :=
    ⟨_, front, tail, happend, hstops, rfl⟩
  classical
  obtain ⟨first, behind, rfl, hfirst, hlength⟩ := Nat.find_spec h
  refine ⟨first, behind, rfl, hfirst, ?_⟩
  rintro shorter more hmore rfl hshorter
  have hle := Nat.find_min' h ⟨shorter, more ++ behind, by simp, hshorter, rfl⟩
  have hpos := List.length_pos_iff.mpr hmore
  rw [← hlength, List.length_append] at hle
  omega

/-- Every place at which a text stops is the first one or behind it. -/
theorem IsFirstCut.exists_append (h : IsFirstCut stops cs front tail) {later rest : List Char}
    (hlater : later ++ rest = cs) (hstops : stops later rest) :
    ∃ more, later = front ++ more ∧ tail = more ++ rest := by
  rcases List.append_eq_append_iff.mp (h.append.trans hlater.symm) with
    ⟨more, hmore⟩ | ⟨more, hfront, hrest⟩
  · exact ⟨more, hmore⟩
  · cases more with
    | nil => exact ⟨[], by simpa using hfront.symm, by simpa using hrest.symm⟩
    | cons c more =>
      exact absurd (hrest ▸ hstops) (h.first later _ (List.cons_ne_nil c more) hfront)

/-- There is only one first place. -/
theorem IsFirstCut.unique (h : IsFirstCut stops cs front tail) {other rest : List Char}
    (hother : IsFirstCut stops cs other rest) : other = front ∧ rest = tail := by
  obtain ⟨more, rfl, hmore⟩ := h.exists_append hother.append hother.here
  cases more with
  | nil => exact ⟨List.append_nil _, hmore.symm⟩
  | cons c more =>
    exact absurd (hmore ▸ h.here) (hother.first front _ (List.cons_ne_nil c more) rfl)

end

section

variable {pattern cs : List Char}

/-- Without the pattern all of a text is before it. -/
theorem before_eq_self (h : ∀ front tail, front ++ tail = cs → ¬ pattern <+: tail) :
    before pattern cs = cs := by
  induction cs with
  | nil => rfl
  | cons c cs ih =>
    have hhere : ¬ pattern.isPrefixOf (c :: cs) = true := fun hbegins =>
      h [] (c :: cs) rfl (List.isPrefixOf_iff_prefix.mp hbegins)
    rw [before, if_neg hhere, ih]
    exact fun front tail happend => h (c :: front) tail (congrArg _ happend)

/-- A text is cut off where the pattern begins for the first time. -/
theorem isFirstCut_before {front tail : List Char} (happend : front ++ tail = cs)
    (hpattern : pattern <+: tail) :
    ∃ tail, IsFirstCut (fun _ tail => pattern <+: tail) cs (before pattern cs) tail := by
  induction cs generalizing front with
  | nil =>
    obtain ⟨rfl, rfl⟩ := List.append_eq_nil_iff.mp happend
    exact ⟨[], isFirstCut_nil hpattern⟩
  | cons c cs ih =>
    by_cases hhere : pattern.isPrefixOf (c :: cs) = true
    · rw [before, if_pos hhere]
      exact ⟨c :: cs, isFirstCut_nil (List.isPrefixOf_iff_prefix.mp hhere)⟩
    · cases front with
      | nil => exact absurd (List.isPrefixOf_iff_prefix.mpr (happend ▸ hpattern)) hhere
      | cons d front =>
        obtain ⟨behind, hcut⟩ := ih (List.cons.inj happend).2
        refine ⟨behind, ?_⟩
        rw [before, if_neg hhere]
        refine ⟨congrArg _ hcut.append, hcut.here, fun shorter more hmore hfront => ?_⟩
        cases shorter with
        | nil =>
          rw [← hcut.append, ← List.cons_append, hfront] at hhere
          exact fun hbegins => hhere (List.isPrefixOf_iff_prefix.mpr hbegins)
        | cons e shorter => exact hcut.first shorter more hmore (List.cons.inj hfront).2

/-- A word is not cut through where no text begins with one of its characters. -/
theorem exists_append_of_append_eq {word after front tail : List Char}
    (h : front ++ tail = word ++ after) (htail : ∀ c ∈ tail.head?, c ∉ word) :
    ∃ more, front = word ++ more ∧ after = more ++ tail := by
  rcases List.append_eq_append_iff.mp h with ⟨more, rfl, rfl⟩ | hword
  · cases more with
    | nil => exact ⟨[], by simp, by simp⟩
    | cons c more => exact absurd (by simp) (htail c rfl)
  · exact hword

end

/-- Trimming takes away white space only. -/
theorem filter_trimChars (cs : List Char) :
    (trimChars cs).filter (!isBlank ·) = cs.filter (!isBlank ·) := by
  obtain ⟨front, back, hfront, hback, heq⟩ := exists_eq_append_trimChars cs
  have hblanks {blanks : List Char} (h : IsBlanks blanks) : blanks.filter (!isBlank ·) = [] :=
    List.filter_eq_nil_iff.mpr fun c hc => by simp [h c hc]
  calc
    _ = (front ++ trimChars cs ++ back).filter (!isBlank ·) := by
      simp [List.filter_append, hblanks hfront, hblanks hback]
    _ = _ := by rw [← heq]

end RelPlan.Text
