import RelPlan.Json.Printer
import RelPlan.Json.Reader

/-!
# Strings in JSON

A printed string is read back, whatever characters it has: those that would end the string or may
not stand in it are escaped, and no character is half of a surrogate pair (`Json.reads_readString`).
-/

namespace RelPlan.Json

/-! ## Characters -/

/-- A control character is spelled with two digits behind two zeros. -/
theorem hexValue4?_control {n : Nat} (h : n < 0x20) :
    hexValue4? '0' '0' (hexDigit (n / 16)) (hexDigit (n % 16)) = some n := by
  have hall : ∀ n < 0x20, hexValue4? '0' '0' (hexDigit (n / 16)) (hexDigit (n % 16)) = some n := by
    decide
  exact hall n h

/-- A character that may stand in a string is read as it is. -/
theorem readCodes_cons {c : Char} (hquote : c ≠ '"') (hbackslash : c ≠ '\\')
    (hcontrol : ¬ c.toNat < 0x20) (rest : List Char) :
    readCodes (c :: rest) = consCode c.toNat (readCodes rest) := by
  rw [readCodes.eq_def]
  split
  · simp_all
  · simp_all
  · simp_all
  · simp_all
  · next heq =>
    obtain ⟨rfl, rfl⟩ := List.cons.inj heq
    exact if_neg hcontrol

/-- A character is read back from how it is written. -/
theorem readCodes_escapeChar (c : Char) (rest : List Char) :
    readCodes (escapeChar c ++ rest) = consCode c.toNat (readCodes rest) := by
  unfold escapeChar
  split
  · rfl
  · rfl
  · rfl
  · rfl
  · rfl
  · rfl
  · rfl
  · next hquote hbackslash _ _ _ _ _ =>
    split
    · next hcontrol =>
      simp only [List.cons_append, List.nil_append]
      rw [readCodes, hexValue4?_control hcontrol]
    · next hcontrol => exact readCodes_cons hquote hbackslash hcontrol rest

/-! ## Strings -/

/-- The code points of a string are read up to its closing quote. -/
theorem readCodes_append (cs rest : List Char) :
    readCodes (cs.flatMap escapeChar ++ '"' :: rest) = .ok (cs.map Char.toNat, rest) := by
  induction cs with
  | nil => rfl
  | cons c cs ih =>
    rw [List.flatMap_cons, List.append_assoc, readCodes_escapeChar, ih]
    rfl

/-- No character is half of a surrogate pair. -/
theorem isLeading_or_isTrailing_toNat (c : Char) :
    (isLeading c.toNat || isTrailing c.toNat) = false := by
  have hvalid : c.toNat < 0xD800 ∨ 0xDFFF < c.toNat ∧ c.toNat < 0x110000 := c.valid
  simp only [isLeading, isTrailing, Bool.or_eq_false_iff, Bool.and_eq_false_iff,
    decide_eq_false_iff_not]
  omega

/-- The characters of code points that are not halves of pairs are these. -/
theorem joinSurrogates_map_toNat (cs : List Char) :
    joinSurrogates (cs.map Char.toNat) = some cs := by
  induction cs with
  | nil => rfl
  | cons c cs ih =>
    have hc := isLeading_or_isTrailing_toNat c
    cases cs with
    | nil => simp [joinSurrogates, hc]
    | cons d cs =>
      obtain ⟨hleading, htrailing⟩ := Bool.or_eq_false_iff.mp hc
      rw [List.map_cons] at ih ⊢
      rw [List.map_cons, joinSurrogates, ih]
      simp [hleading, htrailing]

/-- What is read off the front of a text is this value, and this is left. -/
def Reads {α : Type} {cs : List Char} (reading : Reading α cs) (value : α) (rest : List Char) :
    Prop :=
  ∃ shorter, reading = .ok ⟨(value, rest), shorter⟩

/-- A string is read behind its opening quote. -/
theorem reads_readString (text : String) (rest : List Char) :
    Reads (readString (text.toList.flatMap escapeChar ++ '"' :: rest)) (some text) rest := by
  have hcodes := readCodes_append text.toList rest
  unfold readString
  split
  · next codes rest' h =>
    obtain ⟨rfl, rfl⟩ := Prod.mk.inj (Except.ok.inj (hcodes.symm.trans h))
    rw [joinSurrogates_map_toNat, Option.map_some, String.ofList_toList]
    exact ⟨_, rfl⟩
  · next stop h =>
    exact absurd (hcodes.symm.trans h) (by simp)

end RelPlan.Json
