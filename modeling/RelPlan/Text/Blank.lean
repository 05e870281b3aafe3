import RelPlan.Text.CodeRange

/-!
# White space

The Unicode property White_Space, and texts without the white space at their ends. The white-space
characters are finitely many, so what is said of all of them is decided (`mem_blankChars`).
-/

namespace RelPlan.Text

/-- The white-space characters. -/
def blankRanges : CodeRanges :=
  [(0x9, 0xD), (0x20, 0x20), (0x85, 0x85), (0xA0, 0xA0), (0x1680, 0x1680), (0x2000, 0x200A),
   (0x2028, 0x2029), (0x202F, 0x202F), (0x205F, 0x205F), (0x3000, 0x3000)]

/-- Whether the character is white space. -/
def isBlank (c : Char) : Bool := blankRanges.contains c

/-- The white-space characters one by one. -/
def blankChars : List Char :=
  blankRanges.flatMap fun (first, last) =>
    (List.range (last + 1 - first)).map fun step => Char.ofNat (first + step)

/-- White-space characters are among these. -/
theorem mem_blankChars {c : Char} (h : isBlank c = true) : c ∈ blankChars := by
  obtain ⟨range, hrange, hfirst, hlast⟩ := CodeRanges.contains_iff.mp h
  refine List.mem_flatMap.mpr ⟨range, hrange, List.mem_map.mpr ⟨c.toNat - range.1, ?_, ?_⟩⟩
  · rw [List.mem_range]
    omega
  · rw [Nat.add_sub_of_le hfirst, Char.ofNat_toNat]

/-- The characters without the white space before them. -/
def trimStart (cs : List Char) : List Char := cs.dropWhile isBlank

/-- The characters without the white space after them. -/
def trimEnd (cs : List Char) : List Char := (cs.reverse.dropWhile isBlank).reverse

/-- The characters without the white space around them. -/
def trimChars (cs : List Char) : List Char := trimEnd (trimStart cs)

/-- The text without the white space around it. -/
def trim (s : String) : String := String.ofList (trimChars s.toList)

@[simp] theorem trimStart_nil : trimStart [] = [] := rfl

/-- What is left begins with a character that is not blank, if with any. -/
theorem isBlank_of_mem_head?_trimStart {cs : List Char} {c : Char}
    (h : c ∈ (trimStart cs).head?) : isBlank c = false := by
  induction cs with
  | nil => simp at h
  | cons d ds ih =>
    cases hd : isBlank d with
    | true => exact ih (by simpa [trimStart, List.dropWhile_cons, hd] using h)
    | false =>
      have : d = c := by simpa [trimStart, List.dropWhile_cons, hd] using h
      rw [← this, hd]

end RelPlan.Text
