import RelPlan.Json.Basic
import RelPlan.Json.Fault

/-!
# Reading JSON

A strict reader: one value with white space around it, no comments, no trailing commas, and
no control characters in strings. It reads from the front of the text, and each step leaves
less text than it was given.
-/

namespace RelPlan.Json

/-- Where a text stops being JSON: the cause, and the text from the offending character on. -/
structure Stop where
  cause : Cause
  rest : List Char

/-- What is read off the front of a text, and the shorter text that is left. -/
abbrev Reading (α : Type) (cs : List Char) : Type :=
  Except Stop { read : α × List Char // read.2.length < cs.length }

/-- A value that was read, and a rest that is shorter than the text. -/
def Reading.done {α : Type} {cs : List Char} (value : α) (rest : List Char)
    (shorter : rest.length < cs.length) : Reading α cs :=
  .ok ⟨(value, rest), shorter⟩

/-- Whether the character may stand between the parts of a value. -/
def isSpace (c : Char) : Bool := c == ' ' || c == '\n' || c == '\t' || c == '\r'

/-- The text without the space in front of it. -/
def skip (cs : List Char) : List Char := cs.dropWhile isSpace

/-- Skipping space leaves no more characters than there were. -/
theorem length_skip_le (cs : List Char) : (skip cs).length ≤ cs.length :=
  (List.dropWhile_suffix isSpace).length_le

/-- Behind the first character after space fewer characters are left. -/
theorem length_lt_of_skip_eq {cs rest : List Char} {c : Char} (h : skip cs = c :: rest) :
    rest.length < cs.length := by
  have := length_skip_le cs
  rw [h, List.length_cons] at this
  exact this

/-! ## Strings -/

/-- The value of a hexadecimal digit. -/
def hexValue? (c : Char) : Option Nat :=
  if c.isDigit then some (c.toNat - '0'.toNat)
  else if 'a' ≤ c ∧ c ≤ 'f' then some (c.toNat - 'a'.toNat + 10)
  else if 'A' ≤ c ∧ c ≤ 'F' then some (c.toNat - 'A'.toNat + 10)
  else none

/-- The value of four hexadecimal digits. -/
def hexValue4? (a b c d : Char) : Option Nat := do
  let digits ← [a, b, c, d].mapM hexValue?
  return digits.foldl (fun n digit => 16 * n + digit) 0

/-- The character that a backslash and a letter stand for. -/
def unescape? : Char → Option Char
  | '"' => some '"'
  | '\\' => some '\\'
  | '/' => some '/'
  | 'b' => some '\x08'
  | 'f' => some '\x0c'
  | 'n' => some '\n'
  | 'r' => some '\r'
  | 't' => some '\t'
  | _ => none

/-- One more code point in front of those that were read. -/
def consCode (code : Nat) (read : Except Stop (List Nat × List Char)) :
    Except Stop (List Nat × List Char) :=
  read.map fun read => (code :: read.1, read.2)

/-- The code points of a string up to its closing quote, halves of surrogate pairs apart. -/
def readCodes : List Char → Except Stop (List Nat × List Char)
  | [] => .error ⟨.endInString, []⟩
  | '"' :: rest => .ok ([], rest)
  | '\\' :: 'u' :: a :: b :: c :: d :: rest =>
    match hexValue4? a b c d with
    | some code => consCode code (readCodes rest)
    | none => .error ⟨.badEscape, rest⟩
  | '\\' :: letter :: rest =>
    match unescape? letter with
    | some c => consCode c.toNat (readCodes rest)
    | none => .error ⟨.badEscape, letter :: rest⟩
  | c :: rest =>
    if c.toNat < 0x20 then .error ⟨.controlCharacter, c :: rest⟩
    else consCode c.toNat (readCodes rest)

/-- A code is put before others only if these were read. -/
theorem eq_ok_of_consCode {code : Nat} {read : Except Stop (List Nat × List Char)}
    {codes : List Nat} {rest : List Char} (h : consCode code read = .ok (codes, rest)) :
    ∃ tail, read = .ok (tail, rest) ∧ codes = code :: tail := by
  cases read with
  | error stop => simp [consCode, Except.map] at h
  | ok read =>
    simp only [consCode, Except.map, Except.ok.injEq, Prod.mk.injEq] at h
    exact ⟨read.1, by rw [← h.2], h.1.symm⟩

/-- The first half of a surrogate pair. -/
def isLeading (code : Nat) : Bool := 0xD800 ≤ code && code < 0xDC00

/-- The second half of a surrogate pair. -/
def isTrailing (code : Nat) : Bool := 0xDC00 ≤ code && code < 0xE000

/-- The characters of some code points, in which surrogates must come in pairs. -/
def joinSurrogates : List Nat → Option (List Char)
  | [] => some []
  | leading :: trailing :: codes =>
    if isLeading leading && isTrailing trailing then
      (joinSurrogates codes).map
        (Char.ofNat (0x10000 + (leading - 0xD800) * 0x400 + (trailing - 0xDC00)) :: ·)
    else if isLeading leading || isTrailing leading then none
    else (joinSurrogates (trailing :: codes)).map (Char.ofNat leading :: ·)
  | [code] => if isLeading code || isTrailing code then none else some [Char.ofNat code]

/-- A string takes up at least its closing quote. -/
theorem length_lt_of_readCodes {cs rest : List Char} {codes : List Nat}
    (h : readCodes cs = .ok (codes, rest)) : rest.length < cs.length := by
  fun_induction readCodes cs generalizing codes rest with
  | case1 => simp at h
  | case2 =>
    simp only [Except.ok.injEq, Prod.mk.injEq] at h
    simp [h.2]
  | case3 _ _ _ _ _ _ _ ih =>
    obtain ⟨tail, h, _⟩ := eq_ok_of_consCode h
    have := ih h
    simp only [List.length_cons]
    omega
  | case4 => simp at h
  | case5 _ _ _ _ _ ih =>
    obtain ⟨tail, h, _⟩ := eq_ok_of_consCode h
    have := ih h
    simp only [List.length_cons]
    omega
  | case6 => simp at h
  | case7 => simp at h
  | case8 _ _ _ _ _ _ ih =>
    obtain ⟨tail, h, _⟩ := eq_ok_of_consCode h
    have := ih h
    simp only [List.length_cons]
    omega

/-- The text of a string after its opening quote; none if it is no text. -/
def readString (cs : List Char) : Reading (Option String) cs :=
  match h : readCodes cs with
  | .ok (codes, rest) =>
    .ok ⟨((joinSurrogates codes).map String.ofList, rest), length_lt_of_readCodes h⟩
  | .error stop => .error stop

/-! ## Numbers -/

/-- A run of digits and what is left; none if there are no digits. -/
def digits? (cs : List Char) : Option (List Char × List Char) :=
  match cs.takeWhile Char.isDigit with
  | [] => none
  | digits => some (digits, cs.dropWhile Char.isDigit)

/-- The whole part of a number: zero, or digits of which the first is not zero. -/
def wholePart? : List Char → Option (List Char × List Char)
  | '0' :: rest => if (rest.head?.map Char.isDigit).getD false then none else some (['0'], rest)
  | cs => digits? cs

/-- The fraction of a number, perhaps empty. -/
def fraction? : List Char → Option (List Char × List Char)
  | '.' :: rest => (digits? rest).map fun (digits, after) => ('.' :: digits, after)
  | cs => some ([], cs)

/-- The exponent of a number, perhaps empty. -/
def exponent? : List Char → Option (List Char × List Char)
  | c :: rest =>
    if c = 'e' ∨ c = 'E' then
      match rest with
      | s :: rest' =>
        if s = '+' ∨ s = '-' then
          (digits? rest').map fun (digits, after) => (c :: s :: digits, after)
        else (digits? rest).map fun (digits, after) => (c :: digits, after)
      | [] => none
    else some ([], c :: rest)
  | [] => some ([], [])

/-- The spelling of an unsigned number. -/
def unsigned? (cs : List Char) : Option (List Char × List Char) := do
  let (whole, rest) ← wholePart? cs
  let (fraction, rest) ← fraction? rest
  let (exponent, rest) ← exponent? rest
  return (whole ++ fraction ++ exponent, rest)

/-- The spelling of a number. -/
def number? : List Char → Option (List Char × List Char)
  | '-' :: rest => (unsigned? rest).map fun (spelling, after) => ('-' :: spelling, after)
  | cs => unsigned? cs

/-- A number, which must take up some of the text. -/
def readNumber (cs : List Char) : Reading Json cs :=
  match number? cs with
  | some (spelling, rest) =>
    if h : rest.length < cs.length then .ok ⟨(.number (String.ofList spelling), rest), h⟩
    else .error ⟨.badNumber, cs⟩
  | none => .error ⟨.badNumber, cs⟩

/-! ## Values -/

/-- The rest of a text that begins with the given word. -/
def readWord (word : List Char) (value : Json) (cs : List Char) : Reading Json cs :=
  if h : word.isPrefixOf cs ∧ word ≠ [] then
    .ok ⟨(value, cs.drop word.length), by
      have hlen := (List.isPrefixOf_iff_prefix.mp h.1).length_le
      have hpos := List.length_pos_iff.mpr h.2
      simp only [List.length_drop]; omega⟩
  else .error ⟨.noWord, cs⟩

/-- A word or a number. -/
def readScalar (cs : List Char) : Reading Json cs :=
  match cs.head? with
  | some 'n' => readWord ['n', 'u', 'l', 'l'] .null cs
  | some 't' => readWord ['t', 'r', 'u', 'e'] (.bool true) cs
  | some 'f' => readWord ['f', 'a', 'l', 's', 'e'] (.bool false) cs
  | some c => if c = '-' ∨ c.isDigit then readNumber cs else .error ⟨.noValue, cs⟩
  | none => .error ⟨.endBeforeValue, cs⟩

/-- A field in front of others, if the names of all are texts. -/
def consField? (field : Option (String × Json)) (fields : Option (List (String × Json))) :
    Option (List (String × Json)) := do
  let first ← field
  let others ← fields
  return first :: others

/-- The object of the fields that were read, unless one of their names is no text. -/
def ofFields? : Option (List (String × Json)) → Json
  | some fields => .object fields
  | none => .unreadable

mutual

/-- A value, after any space. -/
def readValue (cs : List Char) : Reading Json cs :=
  match h : skip cs with
  | [] => .error ⟨.endBeforeValue, []⟩
  | '[' :: rest =>
    have hrest := length_lt_of_skip_eq h
    match h' : skip rest with
    | ']' :: after =>
      have hafter := length_lt_of_skip_eq h'
      Reading.done (.array []) after (Nat.lt_trans hafter hrest)
    | [] => .error ⟨.endInArray, []⟩
    | _ => do
      let items ← readItems rest
      Reading.done (.array items.1.1) items.1.2 (Nat.lt_trans items.2 hrest)
  | '\x7b' :: rest =>
    have hrest := length_lt_of_skip_eq h
    match h' : skip rest with
    | '\x7d' :: after =>
      have hafter := length_lt_of_skip_eq h'
      Reading.done (.object []) after (Nat.lt_trans hafter hrest)
    | [] => .error ⟨.endInObject, []⟩
    | _ => do
      let fields ← readFields rest
      Reading.done (ofFields? fields.1.1) fields.1.2 (Nat.lt_trans fields.2 hrest)
  | '"' :: rest => do
    have hrest := length_lt_of_skip_eq h
    let text ← readString rest
    Reading.done ((text.1.1.map Json.string).getD .unreadable) text.1.2
      (Nat.lt_trans text.2 hrest)
  | c :: rest => do
    have hrest : (c :: rest).length ≤ cs.length := h ▸ length_skip_le cs
    let value ← readScalar (c :: rest)
    Reading.done value.1.1 value.1.2 (Nat.lt_of_lt_of_le value.2 hrest)
termination_by 2 * cs.length
decreasing_by all_goals omega

/-- The items of an array that has some, up to its closing bracket. -/
def readItems (cs : List Char) : Reading (List Json) cs := do
  let item ← readValue cs
  have hitem := item.2
  match h : skip item.1.2 with
  | ']' :: after =>
    have hafter := length_lt_of_skip_eq h
    Reading.done [item.1.1] after (Nat.lt_trans hafter hitem)
  | ',' :: more =>
    have hmore := length_lt_of_skip_eq h
    if (skip more).head? = some ']' then .error ⟨.trailingComma, skip more⟩
    else
      let items ← readItems more
      Reading.done (item.1.1 :: items.1.1) items.1.2 (by have := items.2; omega)
  | [] => .error ⟨.endInArray, []⟩
  | c :: after => .error ⟨.noCommaInArray, c :: after⟩
termination_by 2 * cs.length + 1
decreasing_by all_goals omega

/-- The fields of an object that has some, up to its closing brace; none if the name of one
is no text. -/
def readFields (cs : List Char) : Reading (Option (List (String × Json))) cs :=
  match h : skip cs with
  | '"' :: rest => do
    have hrest := length_lt_of_skip_eq h
    let name ← readString rest
    have hname := name.2
    match h : skip name.1.2 with
    | ':' :: rest =>
      have hcolon := length_lt_of_skip_eq h
      let value ← readValue rest
      have hvalue := value.2
      let field := name.1.1.map fun name => (name, value.1.1)
      match h : skip value.1.2 with
      | '\x7d' :: after =>
        have hafter := length_lt_of_skip_eq h
        Reading.done (field.map ([·])) after (by omega)
      | ',' :: more =>
        have hmore := length_lt_of_skip_eq h
        if (skip more).head? = some '\x7d' then .error ⟨.trailingComma, skip more⟩
        else
          let fields ← readFields more
          Reading.done (consField? field fields.1.1) fields.1.2 (by have := fields.2; omega)
      | [] => .error ⟨.endInObject, []⟩
      | c :: after => .error ⟨.noCommaInObject, c :: after⟩
    | [] => .error ⟨.endInObject, []⟩
    | c :: after => .error ⟨.noColon, c :: after⟩
  | [] => .error ⟨.endInObject, []⟩
  | c :: rest => .error ⟨.keyNotString, c :: rest⟩
termination_by 2 * cs.length + 1
decreasing_by all_goals omega

end

/-- The fault of a text that stops being JSON before the given rest. -/
def Stop.fault (stop : Stop) (text : List Char) : Fault :=
  let read := text.take (text.length - stop.rest.length + 1)
  ⟨stop.cause, some (placeAfter read)⟩

/-- The value of a text that is one JSON value with space around it. -/
def read (text : String) : Except Fault Json :=
  let cs := text.toList
  match readValue cs with
  | .ok ⟨(value, rest), _⟩ =>
    match skip rest with
    | [] => .ok value
    | c :: after => .error (Stop.fault ⟨.trailingCharacters, c :: after⟩ cs)
  | .error stop => .error (stop.fault cs)

end RelPlan.Json
