import Mathlib.Data.Bool.AllAny
import Mathlib.Data.List.Basic
import RelPlan.Proofs.Text.Blank
import RelPlan.Text.Upper

/-!
# Texts in upper case

A text in upper case stays the same when it is raised again, white space and signs have no case,
and texts that differ only in the case of ASCII letters have the same upper-case form.
-/

namespace RelPlan.Text

/-- Whether the character is its own upper-case form. -/
def IsUpper (c : Char) : Prop := upperChar c = [c]

instance (c : Char) : Decidable (IsUpper c) := inferInstanceAs (Decidable (upperChar c = [c]))

/-- The ASCII characters one by one. -/
def asciiChars : List Char := (List.range 0x80).map Char.ofNat

/-- The characters of ASCII are all listed. -/
theorem mem_asciiChars {c : Char} (h : isBeyondAscii c = false) : c ∈ asciiChars := by
  have hlt : c.toNat < 0x80 := by simpa [isBeyondAscii] using h
  exact List.mem_map.mpr ⟨c.toNat, List.mem_range.mpr hlt, Char.ofNat_toNat c⟩

/-- The last code point of a run of upper-case forms. -/
def UpperRun.lastTarget (run : UpperRun) : Nat := run.target + (run.last - run.first)

/-- Whether no upper-case form of one run is a character of another one. -/
def UpperRun.isApart (run other : UpperRun) : Bool :=
  Nat.blt run.lastTarget other.first || Nat.blt other.last run.target ||
    (List.range (run.last - run.first + 1)).all fun step =>
      step % run.step != 0 || !other.contains (run.target + step)

/-- Whether the upper-case forms of a run have no other upper-case form in the lists. -/
def UpperRun.isFinal (run : UpperRun) : Bool :=
  upperRuns.all run.isApart &&
    upperExpansions.all fun expansion =>
      Nat.blt run.lastTarget expansion.1 || Nat.blt expansion.1 run.target

/-- A character beyond ASCII that is not in the lists is its own upper-case form. -/
theorem isUpper_of_not_listed {c : Char} (hbeyond : isBeyondAscii c = true)
    (hruns : ∀ run ∈ upperRuns, run.contains c.toNat = false)
    (hexpansions : ∀ expansion ∈ upperExpansions, expansion.1 ≠ c.toNat) : IsUpper c := by
  have hrun : upperRuns.find? (·.contains c.toNat) = none := by
    rw [List.find?_eq_none]
    exact fun run hmem => Bool.eq_false_iff.mp (hruns run hmem)
  have hexpansion : upperExpansions.find? (·.1 == c.toNat) = none := by
    rw [List.find?_eq_none]
    exact fun expansion hmem => by simpa using hexpansions expansion hmem
  rw [IsUpper, upperChar, if_pos hbeyond, hrun, hexpansion]

/-- The upper-case form of an ASCII character has no other upper-case form. -/
theorem isUpper_toUpper {c : Char} (h : isBeyondAscii c = false) : IsUpper c.toUpper := by
  have hall : (asciiChars.all fun c => decide (IsUpper c.toUpper)) = true := by decide +kernel
  exact of_decide_eq_true (List.all_eq_true.mp hall c (mem_asciiChars h))

section

variable {run : UpperRun} {code : Nat}

/-- The upper-case forms of the characters of a run lie between the first and the last one. -/
theorem UpperRun.target_add_le (h : run.contains code = true) :
    run.target + (code - run.first) ≤ run.lastTarget := by
  simp only [contains, Bool.and_eq_true, decide_eq_true_eq] at h
  rw [lastTarget]
  omega

/-- The upper-case forms of the characters of a run are characters. -/
theorem UpperRun.toNat_target (hrun : run ∈ upperRuns) (h : run.contains code = true) :
    (Char.ofNat (run.target + (code - run.first))).toNat = run.target + (code - run.first) := by
  have hall : (upperRuns.all fun run => Nat.blt run.lastTarget 0xD800 ||
      Nat.blt 0xDFFF run.target && Nat.blt run.lastTarget 0x110000) = true := by decide +kernel
  have hvalid := List.all_eq_true.mp hall run hrun
  simp only [Bool.and_eq_true, Bool.or_eq_true, Nat.blt_eq] at hvalid
  have hle := UpperRun.target_add_le h
  have hchar : (run.target + (code - run.first)).isValidChar := by
    rcases hvalid with hlow | ⟨hhigh, hmax⟩
    · exact .inl (by omega)
    · exact .inr ⟨by omega, by omega⟩
  rw [Char.ofNat, dif_pos hchar]
  rfl

/-- The upper-case forms of a run are no characters of a run that it is apart from. -/
theorem UpperRun.contains_eq_false_of_isApart {other : UpperRun} (hapart : run.isApart other = true)
    (h : run.contains code = true) : other.contains (run.target + (code - run.first)) = false := by
  have hle := UpperRun.target_add_le h
  simp only [contains, Bool.and_eq_true, decide_eq_true_eq, beq_iff_eq] at h
  simp only [isApart, Bool.or_eq_true, Nat.blt_eq] at hapart
  rcases hapart with (hbefore | hbehind) | hbetween
  · simp only [contains, Bool.and_eq_false_iff, decide_eq_false_iff_not]
    omega
  · simp only [contains, Bool.and_eq_false_iff, decide_eq_false_iff_not]
    omega
  · have htarget := List.all_eq_true.mp hbetween (code - run.first) (List.mem_range.mpr (by omega))
    simpa [h.2] using htarget

/-- The upper-case forms of the characters of a run have no other upper-case form. -/
theorem isUpper_of_contains (hrun : run ∈ upperRuns) (h : run.contains code = true) :
    IsUpper (Char.ofNat (run.target + (code - run.first))) := by
  have hall : (upperRuns.all fun run => run.isFinal &&
      (Nat.ble 0x80 run.target || run.last == run.first &&
        decide (IsUpper (Char.ofNat run.target)))) = true := by decide +kernel
  have hcode := UpperRun.toNat_target hrun h
  have hle := UpperRun.target_add_le h
  obtain ⟨hfinal, hascii⟩ := Bool.and_eq_true_iff.mp (List.all_eq_true.mp hall run hrun)
  obtain ⟨hapart, hexpansions⟩ := Bool.and_eq_true_iff.mp hfinal
  rcases Bool.or_eq_true_iff.mp hascii with hbeyond | hsingle
  · have hbound : 0x80 ≤ run.target := Nat.le_of_ble_eq_true hbeyond
    refine isUpper_of_not_listed ?_ (fun other hother => ?_) fun expansion hexpansion => ?_
    · simp only [isBeyondAscii, hcode, decide_eq_true_eq]
      omega
    · rw [hcode]
      exact UpperRun.contains_eq_false_of_isApart (List.all_eq_true.mp hapart other hother) h
    · rw [hcode]
      have hother := List.all_eq_true.mp hexpansions expansion hexpansion
      simp only [Bool.or_eq_true, Nat.blt_eq] at hother
      omega
  · -- A single character whose upper-case form is an ASCII letter.
    simp only [Bool.and_eq_true, beq_iff_eq, decide_eq_true_eq] at hsingle
    simp only [UpperRun.contains, Bool.and_eq_true, decide_eq_true_eq] at h
    have hzero : code - run.first = 0 := by omega
    rw [hzero, Nat.add_zero]
    exact hsingle.2

end

/-- The upper-case forms of a character are those of a run, those of the list of the longer ones,
or the character itself. -/
theorem mem_upperChar {c d : Char} (h : d ∈ upperChar c) :
    (isBeyondAscii c = false ∧ d = c.toUpper) ∨
      (∃ run ∈ upperRuns, run.contains c.toNat = true ∧
        d = Char.ofNat (run.target + (c.toNat - run.first))) ∨
      (∃ expansion ∈ upperExpansions, ∃ code ∈ expansion.2, d = Char.ofNat code) ∨
      (upperChar c = [c] ∧ d = c) := by
  cases hbeyond : isBeyondAscii c with
  | false =>
    rw [upperChar, hbeyond, if_neg Bool.false_ne_true] at h
    exact .inl ⟨rfl, List.mem_singleton.mp h⟩
  | true =>
    refine .inr ?_
    cases hrun : upperRuns.find? (·.contains c.toNat) with
    | some run =>
      rw [upperChar, if_pos hbeyond, hrun] at h
      have hcontains : run.contains c.toNat = true := by simpa using List.find?_some hrun
      exact .inl ⟨run, List.mem_of_find?_eq_some hrun, hcontains, List.mem_singleton.mp h⟩
    | none =>
      refine .inr ?_
      cases hexpansion : upperExpansions.find? (·.1 == c.toNat) with
      | some expansion =>
        rw [upperChar, if_pos hbeyond, hrun, hexpansion] at h
        obtain ⟨code, hcode, rfl⟩ := List.mem_map.mp h
        exact .inl ⟨expansion, List.mem_of_find?_eq_some hexpansion, code, hcode, rfl⟩
      | none =>
        have hself : upperChar c = [c] := by rw [upperChar, if_pos hbeyond, hrun, hexpansion]
        rw [hself] at h
        exact .inr ⟨hself, List.mem_singleton.mp h⟩

/-- The upper-case form of a character has no other upper-case form. -/
theorem isUpper_of_mem_upperChar {c d : Char} (h : d ∈ upperChar c) : IsUpper d := by
  have hexpansions : (upperExpansions.all fun expansion =>
      expansion.2.all fun code => decide (IsUpper (Char.ofNat code))) = true := by decide +kernel
  rcases mem_upperChar h with ⟨hascii, rfl⟩ | ⟨run, hrun, hcontains, rfl⟩ |
    ⟨expansion, hexpansion, code, hcode, rfl⟩ | ⟨hself, rfl⟩
  · exact isUpper_toUpper hascii
  · exact isUpper_of_contains hrun hcontains
  · have hcodes := List.all_eq_true.mp hexpansions expansion hexpansion
    exact of_decide_eq_true (List.all_eq_true.mp hcodes code hcode)
  · exact hself

/-- White space and semicolons, which are the upper-case forms of no other characters. -/
def separatorChars : List Char := ';' :: blankChars

/-- White space and semicolons are the upper-case forms of no other characters. -/
theorem eq_of_mem_upperChar {c d : Char} (h : d ∈ upperChar c) (hd : d ∈ separatorChars) :
    c = d := by
  have hletters : (asciiChars.all fun c =>
      separatorChars.all fun d => d != c.toUpper || c == d) = true := by decide +kernel
  have hruns : (upperRuns.all fun run => separatorChars.all fun d =>
      Nat.blt d.toNat run.target || Nat.blt run.lastTarget d.toNat) = true := by decide +kernel
  have hexpansions : (upperExpansions.all fun expansion => expansion.2.all fun code =>
      separatorChars.all fun d => d != Char.ofNat code) = true := by decide +kernel
  rcases mem_upperChar h with ⟨hascii, rfl⟩ | ⟨run, hrun, hcontains, rfl⟩ |
    ⟨expansion, hexpansion, code, hcode, rfl⟩ | ⟨-, rfl⟩
  · have hsigns := List.all_eq_true.mp hletters c (mem_asciiChars hascii)
    simpa using List.all_eq_true.mp hsigns _ hd
  · have hsigns := List.all_eq_true.mp (List.all_eq_true.mp hruns run hrun) _ hd
    have hle := UpperRun.target_add_le hcontains
    rw [UpperRun.toNat_target hrun hcontains] at hsigns
    simp only [Bool.or_eq_true, Nat.blt_eq] at hsigns
    omega
  · have hcodes :=
      List.all_eq_true.mp (List.all_eq_true.mp hexpansions expansion hexpansion) _ hcode
    simpa using List.all_eq_true.mp hcodes _ hd
  · rfl

/-- Every character of a text in upper case is its own upper-case form. -/
theorem isUpper_of_mem_upperChars {cs : List Char} {d : Char} (h : d ∈ upperChars cs) :
    IsUpper d := by
  obtain ⟨c, -, hmem⟩ := List.mem_flatMap.mp h
  exact isUpper_of_mem_upperChar hmem

/-- A text whose characters are their own upper-case forms is in upper case. -/
theorem upperChars_eq_self {cs : List Char} (h : ∀ c ∈ cs, IsUpper c) : upperChars cs = cs := by
  induction cs with
  | nil => rfl
  | cons c cs ih =>
    have hc : upperChar c = [c] := h c List.mem_cons_self
    rw [upperChars_cons, hc, ih fun d hd => h d (List.mem_cons_of_mem _ hd), List.singleton_append]

/-- White space has no case. -/
theorem isUpper_of_isBlank {c : Char} (h : isBlank c = true) : IsUpper c := by
  have hall : ∀ c ∈ blankChars, IsUpper c := List.all_iff_forall_prop.mp (by decide +kernel)
  exact hall c (mem_blankChars h)

/-- A character beyond ASCII is no ASCII letter. -/
theorem toUpper_of_isBeyondAscii {c : Char} (h : isBeyondAscii c = true) : c.toUpper = c := by
  have hle : 0x80 ≤ c.toNat := by simpa [isBeyondAscii] using h
  have hletter : ¬ (c.val ≥ 0x61 ∧ c.val ≤ 0x7A) := by
    rintro ⟨-, hlast⟩
    have hval : c.toNat ≤ 0x7A := UInt32.le_iff_toNat_le.mp hlast
    omega
  exact dif_neg hletter

/-- ASCII letters may be raised first. -/
theorem upperChar_toUpper (c : Char) : upperChar c.toUpper = upperChar c := by
  cases hbeyond : isBeyondAscii c with
  | false =>
    have hall : (asciiChars.all fun c => upperChar c.toUpper == upperChar c) = true := by
      decide +kernel
    simpa using List.all_eq_true.mp hall c (mem_asciiChars hbeyond)
  | true => rw [toUpper_of_isBeyondAscii hbeyond]

/-- ASCII letters are no white space in either case. -/
theorem isBlank_toUpper (c : Char) : isBlank c.toUpper = isBlank c := by
  cases hbeyond : isBeyondAscii c with
  | false =>
    have hall : (asciiChars.all fun c => isBlank c.toUpper == isBlank c) = true := by
      decide +kernel
    simpa using List.all_eq_true.mp hall c (mem_asciiChars hbeyond)
  | true => rw [toUpper_of_isBeyondAscii hbeyond]

/-- Texts that differ only in the case of ASCII letters have the same upper-case form. -/
theorem upperChars_eq_of_map_toUpper_eq {first second : List Char}
    (h : first.map Char.toUpper = second.map Char.toUpper) :
    upperChars first = upperChars second := by
  have hraise (cs : List Char) : upperChars (cs.map Char.toUpper) = upperChars cs := by
    rw [upperChars, List.flatMap_map]
    exact List.flatMap_congr fun c _ => upperChar_toUpper c
  rw [← hraise first, h, hraise]

/-! ## Ends of texts in upper case -/

/-- No character vanishes in upper case. -/
theorem upperChar_ne_nil (c : Char) : upperChar c ≠ [] := by
  have hall : (upperExpansions.all fun expansion => !expansion.2.isEmpty) = true := by
    decide +kernel
  unfold upperChar
  split
  · split
    · exact List.cons_ne_nil _ _
    · split
      · next code codes hfind =>
        have hcodes := List.all_eq_true.mp hall _ (List.mem_of_find?_eq_some hfind)
        simpa using hcodes
      · exact List.cons_ne_nil _ _
  · exact List.cons_ne_nil _ _

section

variable {cs : List Char} {d : Char}

/-- The first character in upper case comes from the first one. -/
theorem exists_of_mem_head?_upperChars (h : d ∈ (upperChars cs).head?) :
    ∃ c ∈ cs.head?, d ∈ upperChar c := by
  cases cs with
  | nil => simp at h
  | cons c cs =>
    rw [upperChars_cons, List.head?_append_of_ne_nil _ (upperChar_ne_nil c)] at h
    exact ⟨c, rfl, List.mem_of_mem_head? h⟩

/-- The last character in upper case comes from the last one. -/
theorem exists_of_mem_getLast?_upperChars (h : d ∈ (upperChars cs).getLast?) :
    ∃ c ∈ cs.getLast?, d ∈ upperChar c := by
  rcases List.eq_nil_or_concat cs with rfl | ⟨front, c, rfl⟩
  · simp at h
  · rw [List.concat_eq_append, upperChars_append, upperChars_cons, upperChars_nil, List.append_nil,
      List.getLast?_append_of_ne_nil _ (upperChar_ne_nil c)] at h
    exact ⟨c, by simp, List.mem_of_getLast? h⟩

/-- White space is the same in upper case. -/
theorem upperChars_of_isBlanks (h : IsBlanks cs) : upperChars cs = cs :=
  upperChars_eq_self fun c hc => isUpper_of_isBlank (h c hc)

/-- White space around a text may be taken off before or after it is raised to upper case. -/
theorem trimChars_upperChars (cs : List Char) :
    trimChars (upperChars cs) = upperChars (trimChars cs) := by
  have hblank {c d : Char} (hc : isBlank c = false) (hd : d ∈ upperChar c) : isBlank d = false := by
    cases hblank : isBlank d with
    | false => rfl
    | true =>
      have heq := eq_of_mem_upperChar hd (List.mem_cons_of_mem _ (mem_blankChars hblank))
      rw [heq, hblank] at hc
      exact hc
  have hself : trimChars (upperChars (trimChars cs)) = upperChars (trimChars cs) := by
    refine trimChars_eq_self (fun d hd => ?_) fun d hd => ?_
    · obtain ⟨c, hc, hmem⟩ := exists_of_mem_head?_upperChars hd
      exact hblank (isBlank_of_mem_head?_trimChars hc) hmem
    · obtain ⟨c, hc, hmem⟩ := exists_of_mem_getLast?_upperChars hd
      exact hblank (isBlank_of_mem_getLast?_trimChars hc) hmem
  obtain ⟨front, back, hfront, hback, heq⟩ := exists_eq_append_trimChars cs
  calc
    _ = trimChars (front ++ upperChars (trimChars cs) ++ back) := by
      conv_lhs => rw [heq]
      rw [upperChars_append, upperChars_append, upperChars_of_isBlanks hfront,
        upperChars_of_isBlanks hback]
    _ = upperChars (trimChars cs) := by
      rw [trimChars_append_right hback, trimChars_append_left hfront, hself]

/-- A text in upper case ends with a semicolon only if the text does. -/
theorem getLast?_upperChars_ne (h : cs.getLast? ≠ some ';') :
    (upperChars cs).getLast? ≠ some ';' := by
  intro hlast
  obtain ⟨c, hc, hmem⟩ := exists_of_mem_getLast?_upperChars hlast
  rw [eq_of_mem_upperChar hmem List.mem_cons_self] at hc
  exact h hc

end

end RelPlan.Text
