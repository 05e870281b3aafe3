import Mathlib.Data.List.Basic
import Mathlib.Data.List.TakeWhile
import RelPlan.Text.Blank

/-!
# White space

White space around a text makes no difference to what is left of it, and nothing more is taken off
what is left.
-/

namespace RelPlan.Text

/-- Whether there is nothing but white space. -/
def IsBlanks (cs : List Char) : Prop := ∀ c ∈ cs, isBlank c = true

instance (cs : List Char) : Decidable (IsBlanks cs) := List.decidableBAll _ cs

/-- White space behind white space is white space. -/
theorem IsBlanks.append {first second : List Char} (hfirst : IsBlanks first)
    (hsecond : IsBlanks second) : IsBlanks (first ++ second) :=
  List.forall_mem_append.mpr ⟨hfirst, hsecond⟩

section

variable {blanks : List Char}

/-- White space before a text is taken off. -/
theorem trimStart_append (h : IsBlanks blanks) (cs : List Char) :
    trimStart (blanks ++ cs) = trimStart cs :=
  List.dropWhile_append_of_pos h

/-- Nothing is left of white space. -/
theorem trimStart_eq_nil (h : IsBlanks blanks) : trimStart blanks = [] :=
  List.dropWhile_eq_nil_iff.mpr h

/-- White space behind a text is taken off. -/
theorem trimEnd_append (h : IsBlanks blanks) (cs : List Char) :
    trimEnd (cs ++ blanks) = trimEnd cs := by
  rw [trimEnd, trimEnd, List.reverse_append]
  exact congrArg _ (List.dropWhile_append_of_pos fun c hc => h c (List.mem_reverse.mp hc))

/-- White space before a text does not count. -/
theorem trimChars_append_left (h : IsBlanks blanks) (cs : List Char) :
    trimChars (blanks ++ cs) = trimChars cs := by
  rw [trimChars, trimStart_append h, ← trimChars]

/-- White space behind a text does not count. -/
theorem trimChars_append_right (h : IsBlanks blanks) (cs : List Char) :
    trimChars (cs ++ blanks) = trimChars cs := by
  rw [trimChars, trimChars, trimStart, List.dropWhile_append]
  split
  · next hempty =>
    rw [← trimStart, trimStart_eq_nil h, trimStart, List.isEmpty_iff.mp hempty]
  · exact trimEnd_append h _

end

/-- A text is what is left of it between white space. -/
theorem exists_eq_append_trimChars (cs : List Char) :
    ∃ front back, IsBlanks front ∧ IsBlanks back ∧ cs = front ++ trimChars cs ++ back := by
  have hfront := List.takeWhile_append_dropWhile (p := isBlank) (l := cs)
  have hback := congrArg List.reverse
    (List.takeWhile_append_dropWhile (p := isBlank) (l := (trimStart cs).reverse))
  rw [List.reverse_append, List.reverse_reverse] at hback
  refine ⟨cs.takeWhile isBlank, ((trimStart cs).reverse.takeWhile isBlank).reverse,
    List.all_eq_true.mp List.all_takeWhile, fun c hc => ?_, ?_⟩
  · exact List.all_eq_true.mp List.all_takeWhile c (List.mem_reverse.mp hc)
  · rw [List.append_assoc, trimChars, trimEnd, hback, trimStart, hfront]

/-- What is left is a part of the text without a gap. -/
theorem isInfix_trimChars (cs : List Char) : trimChars cs <:+: cs := by
  obtain ⟨front, back, -, -, heq⟩ := exists_eq_append_trimChars cs
  exact ⟨front, back, heq.symm⟩

/-- No white space is around what is left of a text. -/
@[simp] theorem trimChars_trimChars (cs : List Char) : trimChars (trimChars cs) = trimChars cs := by
  obtain ⟨front, back, hfront, hback, heq⟩ := exists_eq_append_trimChars cs
  calc
    _ = trimChars (front ++ trimChars cs ++ back) := by
      rw [trimChars_append_right hback, trimChars_append_left hfront]
    _ = trimChars cs := by rw [← heq]

/-- What is left has no more characters than the text. -/
theorem length_trimChars_le (cs : List Char) : (trimChars cs).length ≤ cs.length :=
  (isInfix_trimChars cs).length_le

/-- What is left begins with a character that is not blank, if with any. -/
theorem isBlank_of_mem_head?_trimChars {cs : List Char} {c : Char}
    (h : c ∈ (trimChars cs).head?) : isBlank c = false := by
  obtain ⟨rest, hrest⟩ := List.head?_eq_some_iff.mp h
  by_contra hblank
  have hblanks : IsBlanks [c] := by simpa [IsBlanks] using hblank
  have hself : trimChars ([c] ++ rest) = c :: rest := by
    rw [List.singleton_append, ← hrest, trimChars_trimChars]
  rw [trimChars_append_left hblanks] at hself
  have hlength := length_trimChars_le rest
  rw [hself, List.length_cons] at hlength
  omega

/-- What is left ends with a character that is not blank, if with any. -/
theorem isBlank_of_mem_getLast?_trimChars {cs : List Char} {c : Char}
    (h : c ∈ (trimChars cs).getLast?) : isBlank c = false := by
  rw [trimChars, trimEnd, List.getLast?_reverse] at h
  exact isBlank_of_mem_head?_trimStart h

/-- A text without white space at its ends is what is left of it. -/
theorem trimChars_eq_self {cs : List Char} (hfirst : ∀ c ∈ cs.head?, isBlank c = false)
    (hlast : ∀ c ∈ cs.getLast?, isBlank c = false) : trimChars cs = cs := by
  have hself {cs : List Char} (h : ∀ c ∈ cs.head?, isBlank c = false) : trimStart cs = cs := by
    cases cs with
    | nil => rfl
    | cons c cs => exact List.dropWhile_cons_of_neg (by simp [h c rfl])
  rw [trimChars, hself hfirst, trimEnd, ← trimStart, hself (by rwa [List.head?_reverse]),
    List.reverse_reverse]

/-- Whether a text has characters, and neither the first nor the last one is blank. -/
structure IsSolid (cs : List Char) : Prop where
  ne_nil : cs ≠ []
  trimmed : trimChars cs = cs

/-- Characters of which none is blank are solid. -/
theorem isSolid_of_all {cs : List Char} (hne : cs ≠ []) (h : ∀ c ∈ cs, isBlank c = false) :
    IsSolid cs :=
  ⟨hne, trimChars_eq_self (fun c hc => h c (List.mem_of_mem_head? hc))
    fun c hc => h c (List.mem_of_getLast? hc)⟩

/-- Only the first and the last character count. -/
theorem IsSolid.append {first last : List Char} (hfirst : IsSolid first) (hlast : IsSolid last)
    (middle : List Char) : IsSolid (first ++ (middle ++ last)) := by
  refine ⟨List.append_ne_nil_of_left_ne_nil hfirst.ne_nil _, trimChars_eq_self ?_ ?_⟩
  · rw [List.head?_append_of_ne_nil _ hfirst.ne_nil, ← hfirst.trimmed]
    exact fun c => isBlank_of_mem_head?_trimChars
  · rw [← List.append_assoc, List.getLast?_append_of_ne_nil _ hlast.ne_nil, ← hlast.trimmed]
    exact fun c => isBlank_of_mem_getLast?_trimChars

/-- What is left of a text does not depend on characters that are not blank. -/
theorem trimChars_map {change : Char → Char} (h : ∀ c, isBlank (change c) = isBlank c)
    (cs : List Char) : trimChars (cs.map change) = (trimChars cs).map change := by
  have hkind : isBlank ∘ change = isBlank := funext h
  rw [trimChars, trimStart, List.dropWhile_map, trimEnd, ← List.map_reverse, List.dropWhile_map,
    ← List.map_reverse, hkind]
  rfl

end RelPlan.Text
