import Mathlib.Data.List.TakeWhile
import RelPlan.Proofs.Json.Strings

/-!
# Layouts of JSON values

How a value may be laid out, with any space between its parts and its strings written as they are
printed, and that it is read from every layout of it (`Json.read_of_isLaidOut`). Values are printed
with a line for each item and field or without any space, and both are layouts.
-/

namespace RelPlan.Json

/-! ## Space -/

/-- Whether there is nothing but space that may stand between the parts of a value. -/
def IsSpaces (cs : List Char) : Prop := ∀ c ∈ cs, isSpace c = true

instance (cs : List Char) : Decidable (IsSpaces cs) := List.decidableBAll _ cs

/-- Space before a text is skipped. -/
theorem skip_append {space : List Char} (h : IsSpaces space) (cs : List Char) :
    skip (space ++ cs) = skip cs :=
  List.dropWhile_append_of_pos h

/-- At a character that is no space nothing is skipped. -/
theorem skip_cons {c : Char} (h : isSpace c = false) (cs : List Char) : skip (c :: cs) = c :: cs :=
  List.dropWhile_cons_of_neg (by simp [h])

/-- What begins with no space is found behind any space. -/
theorem skip_append_cons {space : List Char} (hspace : IsSpaces space) {c : Char}
    (hc : isSpace c = false) (cs : List Char) : skip (space ++ c :: cs) = c :: cs := by
  rw [skip_append hspace, skip_cons hc]

/-! ## Reading step by step -/

section

variable {cs rest after : List Char}

/-- Brackets with nothing but space between them are read as an empty array. -/
theorem reads_emptyArray (hopen : skip cs = '[' :: rest) (hclose : skip rest = ']' :: after) :
    Reads (readValue cs) (.array []) after := by
  rw [readValue]
  split
  · simp_all
  · next rest' heq =>
    obtain rfl : rest' = rest := by simp_all
    split
    · next after' heq' =>
      obtain rfl : after' = after := by simp_all
      exact ⟨_, rfl⟩
    · simp_all
    · simp_all
  all_goals simp_all

/-- An array is read that has items. -/
theorem reads_array {items : List Json} (hopen : skip cs = '[' :: rest)
    (hclose : ∀ after, skip rest ≠ ']' :: after) (hne : skip rest ≠ [])
    (hitems : Reads (readItems rest) items after) : Reads (readValue cs) (.array items) after := by
  obtain ⟨shorter, hitems⟩ := hitems
  rw [readValue]
  split
  · simp_all
  · next rest' heq =>
    obtain rfl : rest' = rest := by simp_all
    split
    · simp_all
    · simp_all
    · rw [hitems]
      exact ⟨_, rfl⟩
  all_goals simp_all

/-- Braces with nothing but space between them are read as an empty object. -/
theorem reads_emptyObject (hopen : skip cs = '\x7b' :: rest)
    (hclose : skip rest = '\x7d' :: after) : Reads (readValue cs) (.object []) after := by
  rw [readValue]
  split
  · simp_all
  · simp_all
  · next rest' heq =>
    obtain rfl : rest' = rest := by simp_all
    split
    · next after' heq' =>
      obtain rfl : after' = after := by simp_all
      exact ⟨_, rfl⟩
    · simp_all
    · simp_all
  all_goals simp_all

/-- An object is read that has fields. -/
theorem reads_object {fields : List (String × Json)} (hopen : skip cs = '\x7b' :: rest)
    (hclose : ∀ after, skip rest ≠ '\x7d' :: after) (hne : skip rest ≠ [])
    (hfields : Reads (readFields rest) (some fields) after) :
    Reads (readValue cs) (.object fields) after := by
  obtain ⟨shorter, hfields⟩ := hfields
  rw [readValue]
  split
  · simp_all
  · simp_all
  · next rest' heq =>
    obtain rfl : rest' = rest := by simp_all
    split
    · simp_all
    · simp_all
    · rw [hfields]
      exact ⟨_, rfl⟩
  all_goals simp_all

/-- A string is read where a quote and its text are. -/
theorem reads_string {text : String} (hopen : skip cs = '"' :: rest)
    (htext : Reads (readString rest) (some text) after) :
    Reads (readValue cs) (.string text) after := by
  obtain ⟨shorter, htext⟩ := htext
  rw [readValue]
  split
  · simp_all
  · simp_all
  · simp_all
  · next rest' heq =>
    obtain rfl : rest' = rest := by simp_all
    rw [htext]
    exact ⟨_, rfl⟩
  · simp_all

/-- A value without parts is read that is not a string. -/
theorem reads_scalar {c : Char} {value : Json} (hopen : skip cs = c :: rest)
    (hc : c ∉ ['[', '\x7b', '"']) (hvalue : Reads (readScalar (c :: rest)) value after) :
    Reads (readValue cs) value after := by
  obtain ⟨shorter, hvalue⟩ := hvalue
  rw [readValue]
  split
  · simp_all
  · next heq => simp [(List.cons.inj (hopen.symm.trans heq)).1] at hc
  · next heq => simp [(List.cons.inj (hopen.symm.trans heq)).1] at hc
  · next heq => simp [(List.cons.inj (hopen.symm.trans heq)).1] at hc
  · next c' rest' _ _ _ heq =>
    obtain ⟨rfl, rfl⟩ : c' = c ∧ rest' = rest := by simp_all
    rw [hvalue]
    exact ⟨_, rfl⟩

/-- The last item of an array is read. -/
theorem reads_lastItem {item : Json} (hitem : Reads (readValue cs) item rest)
    (hclose : skip rest = ']' :: after) : Reads (readItems cs) [item] after := by
  obtain ⟨shorter, hitem⟩ := hitem
  rw [readItems, hitem]
  simp only [bind, Except.bind]
  split
  · next after' heq =>
    obtain rfl : after' = after := by simp_all
    exact ⟨_, rfl⟩
  all_goals simp_all

/-- An item is read before others. -/
theorem reads_item {item : Json} {items : List Json} {more : List Char}
    (hitem : Reads (readValue cs) item rest) (hcomma : skip rest = ',' :: more)
    (hmore : (skip more).head? ≠ some ']') (hitems : Reads (readItems more) items after) :
    Reads (readItems cs) (item :: items) after := by
  obtain ⟨shorter, hitem⟩ := hitem
  obtain ⟨shorter', hitems⟩ := hitems
  rw [readItems, hitem]
  simp only [bind, Except.bind]
  split
  · simp_all
  · next more' heq =>
    obtain rfl : more' = more := by simp_all
    rw [if_neg hmore, hitems]
    exact ⟨_, rfl⟩
  all_goals simp_all

section

variable {name : String} {nameText colon value : List Char} {field : Json}
  (hquote : skip cs = '"' :: nameText) (hname : Reads (readString nameText) (some name) colon)
  (hcolon : skip colon = ':' :: value) (hvalue : Reads (readValue value) field rest)

include hquote hname hcolon hvalue

/-- The last field of an object is read. -/
theorem reads_lastField (hclose : skip rest = '\x7d' :: after) :
    Reads (readFields cs) (some [(name, field)]) after := by
  obtain ⟨shorterName, hname⟩ := hname
  obtain ⟨shorterValue, hvalue⟩ := hvalue
  rw [readFields]
  split
  · next nameText' heq =>
    obtain rfl : nameText' = nameText := by simp_all
    rw [hname]
    simp only [bind, Except.bind]
    split
    · next value' heq' =>
      obtain rfl : value' = value := by simp_all
      rw [hvalue]
      dsimp only
      split
      · next after' heq'' =>
        obtain rfl : after' = after := by simp_all
        exact ⟨_, rfl⟩
      all_goals simp_all
    all_goals simp_all
  all_goals simp_all

/-- A field is read before others. -/
theorem reads_field {more : List Char} {fields : List (String × Json)}
    (hcomma : skip rest = ',' :: more) (hmore : (skip more).head? ≠ some '\x7d')
    (hfields : Reads (readFields more) (some fields) after) :
    Reads (readFields cs) (some ((name, field) :: fields)) after := by
  obtain ⟨shorterName, hname⟩ := hname
  obtain ⟨shorterValue, hvalue⟩ := hvalue
  obtain ⟨shorter, hfields⟩ := hfields
  rw [readFields]
  split
  · next nameText' heq =>
    obtain rfl : nameText' = nameText := by simp_all
    rw [hname]
    simp only [bind, Except.bind]
    split
    · next value' heq' =>
      obtain rfl : value' = value := by simp_all
      rw [hvalue]
      dsimp only
      split
      · simp_all
      · next more' heq'' =>
        obtain rfl : more' = more := by simp_all
        rw [if_neg hmore, hfields]
        exact ⟨_, rfl⟩
      all_goals simp_all
    all_goals simp_all
  all_goals simp_all

end

end

/-! ## Layouts -/

/-- A value, or the items or fields of one that has some. -/
inductive Part where
  | value (value : Json)
  | items (items : List Json)
  | fields (fields : List (String × Json))

/-- The text lays out a value, or the items or fields of one up to its closing bracket. -/
inductive Lays : Part → List Char → Prop
  | null : Lays (.value .null) ['n', 'u', 'l', 'l']
  | true : Lays (.value (.bool true)) ['t', 'r', 'u', 'e']
  | false : Lays (.value (.bool false)) ['f', 'a', 'l', 's', 'e']
  | string (text : String) : Lays (.value (.string text)) (printString text)
  | emptyArray {space : List Char} (hspace : IsSpaces space) :
      Lays (.value (.array [])) ('[' :: (space ++ [']']))
  | array {items : List Json} {laid : List Char} (hitems : Lays (.items items) laid) :
      Lays (.value (.array items)) ('[' :: laid)
  | emptyObject {space : List Char} (hspace : IsSpaces space) :
      Lays (.value (.object [])) ('\x7b' :: (space ++ ['\x7d']))
  | object {fields : List (String × Json)} {laid : List Char}
      (hfields : Lays (.fields fields) laid) :
      Lays (.value (.object fields)) ('\x7b' :: laid)
  | lastItem {item : Json} {before laid after : List Char} (hbefore : IsSpaces before)
      (hitem : Lays (.value item) laid) (hafter : IsSpaces after) :
      Lays (.items [item]) (before ++ (laid ++ (after ++ [']'])))
  | item {item : Json} {items : List Json} {before laid after others : List Char}
      (hbefore : IsSpaces before) (hitem : Lays (.value item) laid) (hafter : IsSpaces after)
      (hitems : Lays (.items items) others) :
      Lays (.items (item :: items)) (before ++ (laid ++ (after ++ ',' :: others)))
  | lastField {name : String} {value : Json} {before middle behind laid after : List Char}
      (hbefore : IsSpaces before) (hmiddle : IsSpaces middle) (hbehind : IsSpaces behind)
      (hvalue : Lays (.value value) laid) (hafter : IsSpaces after) :
      Lays (.fields [(name, value)])
        (before ++ (printString name ++ (middle ++
          ':' :: (behind ++ (laid ++ (after ++ ['\x7d']))))))
  | field {name : String} {value : Json} {fields : List (String × Json)}
      {before middle behind laid after others : List Char} (hbefore : IsSpaces before)
      (hmiddle : IsSpaces middle) (hbehind : IsSpaces behind) (hvalue : Lays (.value value) laid)
      (hafter : IsSpaces after) (hfields : Lays (.fields fields) others) :
      Lays (.fields ((name, value) :: fields))
        (before ++ (printString name ++ (middle ++
          ':' :: (behind ++ (laid ++ (after ++ ',' :: others))))))

/-- The text is a layout of the value with space around it. -/
def IsLaidOut (value : Json) (text : String) : Prop :=
  ∃ before laid after, IsSpaces before ∧ Lays (.value value) laid ∧ IsSpaces after ∧
    text.toList = before ++ (laid ++ after)

section

variable {laid : List Char}

/-- A layout of a value begins with no space and no closing bracket. -/
theorem exists_skip_value {value : Json} (h : Lays (.value value) laid) {space : List Char}
    (hspace : IsSpaces space) (rest : List Char) :
    ∃ c cs, skip (space ++ (laid ++ rest)) = c :: cs ∧ c ≠ ']' := by
  obtain ⟨c, cs, rfl, hc, hne⟩ : ∃ c cs, laid = c :: cs ∧ isSpace c = false ∧ c ≠ ']' := by
    cases h <;> exact ⟨_, _, rfl, by decide, by decide⟩
  exact ⟨c, _, skip_append_cons hspace hc _, hne⟩

/-- Items do not begin with a closing bracket. -/
theorem exists_skip_items {items : List Json} (h : Lays (.items items) laid) (rest : List Char) :
    ∃ c cs, skip (laid ++ rest) = c :: cs ∧ c ≠ ']' := by
  cases h with
  | lastItem hbefore hitem _ =>
    rw [List.append_assoc, List.append_assoc]
    exact exists_skip_value hitem hbefore _
  | item hbefore hitem _ _ =>
    rw [List.append_assoc, List.append_assoc]
    exact exists_skip_value hitem hbefore _

/-- Fields begin with the quote of a name. -/
theorem exists_skip_fields {fields : List (String × Json)} (h : Lays (.fields fields) laid)
    (rest : List Char) : ∃ cs, skip (laid ++ rest) = '"' :: cs := by
  cases h with
  | lastField hbefore _ _ _ _ =>
    rw [List.append_assoc]
    exact ⟨_, skip_append_cons hbefore (by decide) _⟩
  | field hbefore _ _ _ _ _ =>
    rw [List.append_assoc]
    exact ⟨_, skip_append_cons hbefore (by decide) _⟩

/-- A word is read as the value that it stands for. -/
theorem reads_readWord {word : List Char} (hne : word ≠ []) (value : Json) (rest : List Char) :
    Reads (readWord word value (word ++ rest)) value rest := by
  have hbegins : word.isPrefixOf (word ++ rest) = true :=
    List.isPrefixOf_iff_prefix.mpr (List.prefix_append word rest)
  unfold readWord
  rw [dif_pos ⟨hbegins, hne⟩]
  simp only [List.drop_left]
  exact ⟨_, rfl⟩

/-- A value is read behind any space, items and fields are read up to their closing bracket. -/
def Part.IsRead (laid : List Char) : Part → Prop
  | .value found =>
    ∀ space rest, IsSpaces space → Reads (readValue (space ++ (laid ++ rest))) found rest
  | .items found => ∀ rest, Reads (readItems (laid ++ rest)) found rest
  | .fields found => ∀ rest, Reads (readFields (laid ++ rest)) (some found) rest

/-- A printed string begins with a quote, and behind its characters there is another one. -/
theorem printString_append (text : String) (rest : List Char) :
    printString text ++ rest = '"' :: (text.toList.flatMap escapeChar ++ '"' :: rest) := by
  simp [printString]

/-- What is laid out is read. -/
theorem isRead_of_lays {part : Part} (h : Lays part laid) : part.IsRead laid := by
  induction h with
  | null =>
    intro space rest hspace
    exact reads_scalar (skip_append_cons hspace (by decide) _) (by decide)
      (reads_readWord (List.cons_ne_nil _ _) .null rest)
  | true =>
    intro space rest hspace
    exact reads_scalar (skip_append_cons hspace (by decide) _) (by decide)
      (reads_readWord (List.cons_ne_nil _ _) (.bool Bool.true) rest)
  | false =>
    intro space rest hspace
    exact reads_scalar (skip_append_cons hspace (by decide) _) (by decide)
      (reads_readWord (List.cons_ne_nil _ _) (.bool Bool.false) rest)
  | string text =>
    intro space rest hspace
    rw [printString_append]
    exact reads_string (skip_append_cons hspace (by decide) _) (reads_readString text rest)
  | emptyArray hinner =>
    intro space rest hspace
    rw [List.cons_append, List.append_assoc]
    exact reads_emptyArray (skip_append_cons hspace (by decide) _)
      (skip_append_cons hinner (by decide) _)
  | array hitems ih =>
    intro space rest hspace
    obtain ⟨c, cs, hskip, hc⟩ := exists_skip_items hitems rest
    refine reads_array (skip_append_cons hspace (by decide) _) ?_ ?_ (ih rest) <;> simp [hskip, hc]
  | emptyObject hinner =>
    intro space rest hspace
    rw [List.cons_append, List.append_assoc]
    exact reads_emptyObject (skip_append_cons hspace (by decide) _)
      (skip_append_cons hinner (by decide) _)
  | object hfields ih =>
    intro space rest hspace
    obtain ⟨cs, hskip⟩ := exists_skip_fields hfields rest
    refine reads_object (skip_append_cons hspace (by decide) _) ?_ ?_ (ih rest) <;> simp [hskip]
  | lastItem hbefore _ hafter ih =>
    intro rest
    rw [List.append_assoc, List.append_assoc, List.append_assoc]
    exact reads_lastItem (ih _ _ hbefore) (skip_append_cons hafter (by decide) rest)
  | item hbefore _ hafter hitems ih ihItems =>
    intro rest
    obtain ⟨c, cs, hskip, hc⟩ := exists_skip_items hitems rest
    rw [List.append_assoc, List.append_assoc, List.append_assoc]
    refine reads_item (ih _ _ hbefore) (skip_append_cons hafter (by decide) _) ?_ (ihItems rest)
    simp [hskip, hc]
  | @lastField name _ _ _ _ _ _ hbefore hmiddle hbehind _ hafter ih =>
    intro rest
    rw [List.append_assoc, List.append_assoc, printString_append, List.append_assoc,
      List.cons_append, List.append_assoc, List.append_assoc, List.append_assoc]
    exact reads_lastField (skip_append_cons hbefore (by decide) _) (reads_readString name _)
      (skip_append_cons hmiddle (by decide) _) (ih _ _ hbehind)
      (skip_append_cons hafter (by decide) rest)
  | @field name _ _ _ _ _ _ _ _ hbefore hmiddle hbehind _ hafter hfields ih ihFields =>
    intro rest
    obtain ⟨cs, hskip⟩ := exists_skip_fields hfields rest
    rw [List.append_assoc, List.append_assoc, printString_append, List.append_assoc,
      List.cons_append, List.append_assoc, List.append_assoc, List.append_assoc]
    refine reads_field (skip_append_cons hbefore (by decide) _) (reads_readString name _)
      (skip_append_cons hmiddle (by decide) _) (ih _ _ hbehind)
      (skip_append_cons hafter (by decide) _) ?_ (ihFields rest)
    simp [hskip]

end

/-- A value is read from every layout of it. -/
theorem read_of_isLaidOut {value : Json} {text : String} (h : IsLaidOut value text) :
    read text = .ok value := by
  obtain ⟨before, laid, after, hbefore, hlays, hafter, htext⟩ := h
  obtain ⟨shorter, hread⟩ : Reads (readValue text.toList) value after := by
    rw [htext]
    exact isRead_of_lays hlays before after hbefore
  have hskip : skip after = [] := List.dropWhile_eq_nil_iff.mpr hafter
  simp only [read, hread, hskip]

/-- A text is a layout of one value only. -/
theorem eq_of_isLaidOut {value other : Json} {text : String} (hvalue : IsLaidOut value text)
    (hother : IsLaidOut other text) : value = other :=
  Except.ok.inj ((read_of_isLaidOut hvalue).symm.trans (read_of_isLaidOut hother))

end RelPlan.Json
