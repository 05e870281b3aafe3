import RelPlan.Text.Bytes
import RelPlan.Text.Grapheme.Cluster

/-!
# Backspaces

What is left of a typed line when each backspace has erased the grapheme before it.
-/

namespace RelPlan.Text

/-- A line while it is typed. -/
structure TypedLine where
  /-- The characters from the last one on. -/
  characters : List Char := []
  /-- How many bytes the next backspaces erase. -/
  sizes : List Nat := []

namespace TypedLine

/-- One more than the greatest number of bytes that a backspace erases. -/
def sizeLimit : Nat := 256

/-- Erases the last grapheme, if there is one. -/
def erase (line : TypedLine) : TypedLine :=
  match line.sizes with
  | [] => line
  | size :: sizes => ⟨dropBytes size line.characters, sizes⟩

/-- A grapheme more at the end of the line. Of the bytes of a long grapheme only those above a
multiple of the limit can be erased. -/
def add (line : TypedLine) (grapheme : List Char) : TypedLine :=
  ⟨grapheme.reverse ++ line.characters, byteLength grapheme % sizeLimit :: line.sizes⟩

/-- The line after a grapheme is typed, which may be a backspace. -/
def press (line : TypedLine) (grapheme : List Char) : TypedLine :=
  if grapheme = ['\x08'] then line.erase else line.add grapheme

end TypedLine

/-- What is left of a line after its backspaces. -/
def erased (cs : List Char) : List Char :=
  ((graphemes cs).foldl TypedLine.press {}).characters.reverse

end RelPlan.Text
