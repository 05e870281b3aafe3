/-!
# Sets of characters as ranges of code points

A Unicode property is stored as a list of closed ranges. Membership is a linear scan, which
is enough because every property below answers for ASCII before it looks at its list.
-/

namespace RelPlan.Text

/-- Closed ranges of code points, each given by its first and last member. -/
abbrev CodeRanges := List (Nat × Nat)

/-- Whether some range holds the character. -/
def CodeRanges.contains (ranges : CodeRanges) (c : Char) : Bool :=
  ranges.any fun range => range.1 ≤ c.toNat && c.toNat ≤ range.2

/-- A character is in some ranges exactly if its code point is in one of them. -/
theorem CodeRanges.contains_iff {ranges : CodeRanges} {c : Char} :
    ranges.contains c = true ↔ ∃ range ∈ ranges, range.1 ≤ c.toNat ∧ c.toNat ≤ range.2 := by
  simp [CodeRanges.contains]

/-- Whether the character lies beyond the first 128 code points, where the lists apply. -/
def isBeyondAscii (c : Char) : Bool := 0x80 ≤ c.toNat

end RelPlan.Text
