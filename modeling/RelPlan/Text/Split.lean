/-!
# Cutting texts apart and joining them

Fields between separators, lines, and lists of texts with a separator between them.
-/

namespace RelPlan.Text

/-- The fields between the occurrences of a separator; there is always at least one. -/
def splitAt (separator : Char) : List Char → List (List Char)
  | [] => [[]]
  | c :: cs =>
    match splitAt separator cs with
    | [] => [[c]]
    | field :: fields => if c = separator then [] :: field :: fields else (c :: field) :: fields

/-- The characters before the first occurrence of a pattern, or all of them. -/
def before (pattern : List Char) : List Char → List Char
  | [] => []
  | c :: cs => if pattern.isPrefixOf (c :: cs) then [] else c :: before pattern cs

/-- The texts in order with a separator between neighbours. -/
def joinWith (separator : String) : List String → String
  | [] => ""
  | [text] => text
  | text :: next :: rest => text ++ separator ++ joinWith separator (next :: rest)

/-- The lines of a text: a final line break ends the last line and begins none, and a
carriage return before a line break belongs to the break. -/
def lines (s : String) : List String :=
  let fields := splitAt '\n' s.toList
  let ended := fields.dropLast.map fun field =>
    if field.getLast? = some '\r' then field.dropLast else field
  let unended := (fields.getLast?.filter (!·.isEmpty)).toList
  (ended ++ unended).map String.ofList

/-- There is at least one field. -/
theorem splitAt_ne_nil (separator : Char) (cs : List Char) : splitAt separator cs ≠ [] := by
  cases cs with
  | nil => simp [splitAt]
  | cons c cs =>
    unfold splitAt
    split
    · simp
    · split <;> simp

/-- Joining the fields with the separator gives the text back. -/
theorem intercalate_splitAt (separator : Char) (cs : List Char) :
    [separator].intercalate (splitAt separator cs) = cs := by
  induction cs with
  | nil => simp [splitAt, List.intercalate]
  | cons c cs ih =>
    unfold splitAt
    split
    · next h => exact absurd h (splitAt_ne_nil separator cs)
    · next field fields h =>
      rw [h] at ih
      split
      · next hc =>
        cases fields <;> simp_all [List.intercalate]
      · cases fields <;> simp_all [List.intercalate]

@[simp] theorem joinWith_nil (separator : String) : joinWith separator [] = "" := rfl

@[simp] theorem joinWith_singleton (separator text : String) :
    joinWith separator [text] = text := rfl

@[simp] theorem joinWith_cons_cons (separator text next : String) (rest : List String) :
    joinWith separator (text :: next :: rest) =
      text ++ separator ++ joinWith separator (next :: rest) := rfl

end RelPlan.Text
