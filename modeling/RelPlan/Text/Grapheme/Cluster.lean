import RelPlan.Text.Grapheme.Kind

/-!
# Graphemes of a text

A text falls into graphemes, each of which goes as far as its characters belong together.
-/

namespace RelPlan.Text

namespace GraphemeKind

/-- Whether the character belongs to the one before it, whatever that is. -/
def isAttached : GraphemeKind → Bool
  | mark | linker | joiner | nonJoiner | spacing => true
  | _ => false

/-- Whether a pictograph stays one with the character behind it. -/
def isModifier : GraphemeKind → Bool
  | mark | linker | nonJoiner => true
  | _ => false

/-- Whether the character may stand between two consonants that are joined. -/
def isInner : GraphemeKind → Bool
  | mark | linker | joiner => true
  | _ => false

/-- Whether the characters end with a consonant and a linker, which join the next consonant. The
kinds are given from the last one on. -/
def endWithLink (kinds : List GraphemeKind) : Bool :=
  (kinds.takeWhile isInner).contains linker && (kinds.dropWhile isInner).head? == some consonant

/-- Whether the characters end with a pictograph. -/
def endWithPictograph (kinds : List GraphemeKind) : Bool :=
  (kinds.dropWhile isModifier).head? == some pictograph

/-- Whether the characters end with the first half of a flag. -/
def endWithHalf (kinds : List GraphemeKind) : Bool :=
  (kinds.takeWhile (· == regional)).length % 2 == 1

/-- Whether a character belongs to a grapheme. The kinds of what the grapheme holds already are
given from the last one on. -/
def joins (kinds : List GraphemeKind) (next : GraphemeKind) : Bool :=
  match kinds with
  | [] => false
  | last :: before =>
    if last = control ∨ next = control then false
    else if next.isAttached ∨ last = preceding then true
    else
      match last, next with
      | leading, leading | leading, vowel | leading, openSyllable | leading, closedSyllable => true
      | openSyllable, vowel | openSyllable, trailing | vowel, vowel | vowel, trailing => true
      | closedSyllable, trailing | trailing, trailing => true
      | joiner, pictograph => endWithPictograph before
      | _, consonant => endWithLink kinds
      | _, regional => endWithHalf kinds
      | _, _ => false

end GraphemeKind

/-- The graphemes of a text behind the beginning of a grapheme. That beginning is given from its
last character on, with the kinds of its characters. -/
def graphemesFrom (kinds : List GraphemeKind) (begun : List Char) : List Char → List (List Char)
  | [] => [begun.reverse]
  | c :: cs =>
    let kind := GraphemeKind.of c
    if GraphemeKind.joins kinds kind then graphemesFrom (kind :: kinds) (c :: begun) cs
    else begun.reverse :: graphemesFrom [kind] [c] cs

/-- The graphemes of a text. -/
def graphemes : List Char → List (List Char)
  | [] => []
  | c :: cs => graphemesFrom [GraphemeKind.of c] [c] cs

end RelPlan.Text
