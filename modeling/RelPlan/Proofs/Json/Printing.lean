import RelPlan.Proofs.Json.Layout

/-!
# Printed JSON values

A value is written with the same gap before all its items and fields of one depth and before what
closes them, and the same one behind every colon. With line breaks and blanks for gaps this is the
printed value, and without any gaps the compact one. Both are layouts of the value, as long as it
has no numbers and nothing that is no text (`Json.isLaidOut_print`, `Json.isLaidOut_compact`).
-/

namespace RelPlan.Json

/-! ## Values without numbers -/

mutual

/-- Whether a value has neither numbers nor parts that are no text. -/
def isPlain : Json → Bool
  | .null | .bool _ | .string _ => true
  | .number _ | .unreadable => false
  | .array items => arePlainItems items
  | .object fields => arePlainFields fields

/-- Whether items have neither numbers nor parts that are no text. -/
def arePlainItems : List Json → Bool
  | [] => true
  | item :: items => item.isPlain && arePlainItems items

/-- Whether fields have neither numbers nor parts that are no text. -/
def arePlainFields : List (String × Json) → Bool
  | [] => true
  | field :: fields => isPlainField field && arePlainFields fields

/-- Whether the value of a field has neither numbers nor parts that are no text. -/
def isPlainField : String × Json → Bool
  | (_, value) => value.isPlain

end

/-! ## Written values -/

section

variable (gap : Nat → List Char) (colon : List Char)

/-- Members between two brackets, with gaps before them and before the closing bracket. -/
def writeBlock (opening closing : Char) (depth : Nat) : List (List Char) → List Char
  | [] => [opening, closing]
  | members =>
    opening :: [','].intercalate (members.map (gap (depth + 1) ++ ·)) ++ gap depth ++ [closing]

mutual

/-- The characters of a value whose container stands at the given depth. -/
def writeChars (depth : Nat) : Json → List Char
  | .null => ['n', 'u', 'l', 'l']
  | .bool value => if value then ['t', 'r', 'u', 'e'] else ['f', 'a', 'l', 's', 'e']
  | .number spelling => spelling.toList
  | .string text => printString text
  | .array items => writeBlock gap '[' ']' depth (writeItems (depth + 1) items)
  | .object fields => writeBlock gap '\x7b' '\x7d' depth (writeFields (depth + 1) fields)
  | .unreadable => ['n', 'u', 'l', 'l']

/-- The items of an array at the given depth. -/
def writeItems (depth : Nat) : List Json → List (List Char)
  | [] => []
  | item :: items => writeChars depth item :: writeItems depth items

/-- The fields of an object at the given depth. -/
def writeFields (depth : Nat) : List (String × Json) → List (List Char)
  | [] => []
  | field :: fields => writeField depth field :: writeFields depth fields

/-- A field at the given depth: its name, a colon and its value. -/
def writeField (depth : Nat) : String × Json → List Char
  | (name, value) => printString name ++ ':' :: (colon ++ writeChars depth value)

end

end

/-- The value without any space between its parts. -/
def compact (value : Json) : String := String.ofList (writeChars (fun _ => []) [] 0 value)

/-- Members are printed as they are written with line breaks. -/
theorem block_eq_writeBlock (opening closing : Char) (depth : Nat) (members : List (List Char)) :
    block opening closing depth members = writeBlock newLine opening closing depth members := by
  cases members <;> rfl

mutual

/-- A value is printed with a line for each item and field. -/
theorem printChars_eq_writeChars (depth : Nat) :
    ∀ value : Json, printChars depth value = writeChars newLine [' '] depth value
  | .null | .bool _ | .number _ | .string _ | .unreadable => by simp [printChars, writeChars]
  | .array items => by
    rw [printChars, writeChars, printItems_eq_writeItems (depth + 1) items, block_eq_writeBlock]
  | .object fields => by
    rw [printChars, writeChars, printFields_eq_writeFields (depth + 1) fields, block_eq_writeBlock]

/-- The items of an array are printed as they are written with line breaks. -/
theorem printItems_eq_writeItems (depth : Nat) :
    ∀ items : List Json, printItems depth items = writeItems newLine [' '] depth items
  | [] => by rw [printItems, writeItems]
  | item :: items => by
    rw [printItems, writeItems, printChars_eq_writeChars depth item,
      printItems_eq_writeItems depth items]

/-- The fields of an object are printed as they are written with line breaks. -/
theorem printFields_eq_writeFields (depth : Nat) :
    ∀ fields : List (String × Json),
      printFields depth fields = writeFields newLine [' '] depth fields
  | [] => by rw [printFields, writeFields]
  | (name, value) :: fields => by
    rw [printFields, writeFields, printField, writeField, printChars_eq_writeChars depth value,
      printFields_eq_writeFields depth fields]
    rfl

end

/-! ## Layouts -/

/-- Whether gaps and what stands behind colons are nothing but space. -/
structure IsSpacing (gap : Nat → List Char) (colon : List Char) : Prop where
  gaps : ∀ depth, IsSpaces (gap depth)
  behind : IsSpaces colon

/-- No characters are space. -/
theorem isSpaces_nil : IsSpaces [] := List.forall_mem_nil _

section

variable {gap : Nat → List Char} {colon : List Char} (hspacing : IsSpacing gap colon)

include hspacing

mutual

/-- A written value is laid out. -/
theorem lays_writeChars (depth : Nat) : ∀ value : Json, value.isPlain = true →
    Lays (.value value) (writeChars gap colon depth value)
  | .null, _ => by
    rw [writeChars]
    exact .null
  | .bool value, _ => by
    rw [writeChars]
    cases value with
    | true => exact .true
    | false => exact .false
  | .string text, _ => by
    rw [writeChars]
    exact .string text
  | .array [], _ => by
    rw [writeChars, writeItems, writeBlock]
    exact .emptyArray isSpaces_nil
  | .array (item :: items), hplain => by
    rw [isPlain] at hplain
    rw [writeChars]
    exact .array (lays_writeItems (depth + 1) (item :: items) (List.cons_ne_nil _ _) hplain
      (hspacing.gaps depth))
  | .object [], _ => by
    rw [writeChars, writeFields, writeBlock]
    exact .emptyObject isSpaces_nil
  | .object (field :: fields), hplain => by
    rw [isPlain] at hplain
    rw [writeChars]
    exact .object (lays_writeFields (depth + 1) (field :: fields) (List.cons_ne_nil _ _) hplain
      (hspacing.gaps depth))

/-- Written items are laid out. -/
theorem lays_writeItems (depth : Nat) : ∀ items : List Json, items ≠ [] →
    arePlainItems items = true → ∀ {after : List Char}, IsSpaces after →
    Lays (.items items)
      ([','].intercalate ((writeItems gap colon depth items).map (gap depth ++ ·)) ++
        after ++ [']'])
  | [item], _, hplain, after, hafter => by
    rw [arePlainItems, Bool.and_eq_true] at hplain
    have hitem := lays_writeChars depth item hplain.1
    simpa [writeItems, List.intercalate] using Lays.lastItem (hspacing.gaps depth) hitem hafter
  | item :: next :: items, _, hplain, after, hafter => by
    rw [arePlainItems, Bool.and_eq_true] at hplain
    have hitem := lays_writeChars depth item hplain.1
    have hitems := lays_writeItems depth (next :: items) (List.cons_ne_nil _ _) hplain.2 hafter
    simpa [writeItems] using
      Lays.item (hspacing.gaps depth) hitem isSpaces_nil hitems

/-- Written fields are laid out. -/
theorem lays_writeFields (depth : Nat) : ∀ fields : List (String × Json), fields ≠ [] →
    arePlainFields fields = true → ∀ {after : List Char}, IsSpaces after →
    Lays (.fields fields)
      ([','].intercalate ((writeFields gap colon depth fields).map (gap depth ++ ·)) ++
        after ++ ['\x7d'])
  | [(name, value)], _, hplain, after, hafter => by
    rw [arePlainFields, isPlainField, Bool.and_eq_true] at hplain
    have hvalue := lays_writeChars depth value hplain.1
    simpa [writeFields, writeField, List.intercalate] using
      Lays.lastField (hspacing.gaps depth) isSpaces_nil hspacing.behind hvalue hafter
  | (name, value) :: next :: fields, _, hplain, after, hafter => by
    rw [arePlainFields, isPlainField, Bool.and_eq_true] at hplain
    have hvalue := lays_writeChars depth value hplain.1
    have hfields := lays_writeFields depth (next :: fields) (List.cons_ne_nil _ _) hplain.2 hafter
    simpa [writeFields, writeField] using
      Lays.field (hspacing.gaps depth) isSpaces_nil hspacing.behind hvalue isSpaces_nil hfields

end

end

/-- Characters that lay out a value are a text that does so. -/
theorem isLaidOut_of_lays {value : Json} {laid : List Char} (h : Lays (.value value) laid) :
    IsLaidOut value (String.ofList laid) :=
  ⟨[], laid, [], isSpaces_nil, h, isSpaces_nil, by simp⟩

variable {value : Json} (hplain : value.isPlain = true)

include hplain

/-- A printed value is a layout of it. -/
theorem isLaidOut_print : IsLaidOut value value.print := by
  have hspacing : IsSpacing newLine [' '] := by
    refine ⟨fun depth => List.forall_mem_cons.mpr ⟨by decide, fun c hc => ?_⟩, by decide⟩
    rw [List.eq_of_mem_replicate hc]
    decide
  rw [print, printChars_eq_writeChars]
  exact isLaidOut_of_lays (lays_writeChars hspacing 0 value hplain)

/-- A compact value is a layout of it. -/
theorem isLaidOut_compact : IsLaidOut value value.compact := by
  have hspacing : IsSpacing (fun _ => []) [] := ⟨fun _ => isSpaces_nil, isSpaces_nil⟩
  exact isLaidOut_of_lays (lays_writeChars hspacing 0 value hplain)

end RelPlan.Json
