import RelPlan.Predicate.Lexer
import RelPlan.Proofs.Text.Blank
import RelPlan.Proofs.Text.Reader

/-!
# Tokens of parts of texts

A token depends on nothing behind the place where it ends and the next one begins, so a text that
is cut at such places has the tokens of its parts one after another. White space around a text
does not count.
-/

namespace RelPlan

/-- What the token is and how it is written. -/
def Token.face (token : Token) : TokenKind × String := (token.kind, token.literal)

namespace Lexer

/-! ## What a token can be -/

/-- What the token at the front of a text can be: what it is, what it takes up and what is left. -/
inductive IsLexeme : Char → List Char → Lexeme → Prop
  | signs {c d : Char} {sign : Symbol} {after : List Char} (h : Symbol.ofChars? c d = some sign) :
      IsLexeme c (d :: after) ⟨.symbol sign, [c, d], after⟩
  | string {rest value after : List Char} (h : readQuoted rest = some (value, after)) :
      IsLexeme '\'' rest ⟨.string (String.ofList value), quoteChars value, after⟩
  | openString {rest : List Char} (h : readQuoted rest = none) :
      IsLexeme '\'' rest ⟨.openString, '\'' :: rest, []⟩
  | sign {c : Char} {rest : List Char} {sign : Symbol} (h : Symbol.ofChar? c = some sign) :
      IsLexeme c rest ⟨.symbol sign, [c], rest⟩
  | word {c : Char} {rest : List Char} (h : Text.isNameStart c = true) :
      IsLexeme c rest ⟨wordKind (c :: rest.takeWhile isNamePart), c :: rest.takeWhile isNamePart,
        rest.dropWhile isNamePart⟩
  | number {c : Char} {rest : List Char} (h : c.isDigit = true) :
      IsLexeme c rest ⟨.number (String.ofList (c :: (readDigits rest).1)), c :: (readDigits rest).1,
        (readDigits rest).2⟩
  | stray {c : Char} {rest : List Char} : IsLexeme c rest ⟨.stray c, [c], rest⟩

/-- A token is one of these. -/
theorem isLexeme_lexeme (c : Char) (rest : List Char) : IsLexeme c rest (lexeme c rest) := by
  have hshort (rest : List Char) : IsLexeme c rest (readShort c rest) := by
    unfold readShort
    split
    · next hquote =>
      subst hquote
      unfold readString
      split
      · next hread => exact .string hread
      · next hread => exact .openString hread
    · split
      · next hsign => exact .sign hsign
      · unfold readPlain
        split
        · next hstart => exact .word hstart
        · split
          · next hdigit => exact .number hdigit
          · exact .stray
  unfold lexeme
  split
  · exact hshort []
  · split
    · next hsigns => exact .signs hsigns
    · exact hshort _

/-- A word is a keyword or a name. -/
theorem wordKind_cases (word : List Char) :
    (∃ keyword, wordKind word = .keyword keyword) ∨ wordKind word = .name (String.ofList word) := by
  unfold wordKind
  split
  · exact .inl ⟨_, rfl⟩
  · exact .inr rfl

/-! ## A token does not depend on what is behind it -/

section Cutting

variable {rest tail left : List Char}

/-- What is not dropped does not depend on what is behind. -/
theorem dropWhile_of_append {test : Char → Bool}
    (h : (rest ++ tail).dropWhile test = left ++ tail) :
    rest.dropWhile test = left ∧ (rest ++ tail).takeWhile test = rest.takeWhile test := by
  induction rest with
  | nil =>
    rw [List.nil_append] at h ⊢
    have hsplit := List.takeWhile_append_dropWhile (p := test) (l := tail)
    have hlength := congrArg List.length hsplit
    rw [h, List.length_append, List.length_append] at hlength
    have hleft : left = [] := List.length_eq_zero_iff.mp (by omega)
    have htake : tail.takeWhile test = [] := List.length_eq_zero_iff.mp (by omega)
    exact ⟨hleft.symm, htake⟩
  | cons c rest ih =>
    rw [List.cons_append] at h ⊢
    cases hc : test c with
    | true =>
      rw [List.dropWhile_cons_of_pos hc] at h
      rw [List.dropWhile_cons_of_pos hc, List.takeWhile_cons_of_pos hc,
        List.takeWhile_cons_of_pos hc]
      obtain ⟨hdrop, htake⟩ := ih h
      exact ⟨hdrop, by rw [htake]⟩
    | false =>
      have hneg : ¬ test c = true := Bool.eq_false_iff.mp hc
      rw [List.dropWhile_cons_of_neg hneg, ← List.cons_append] at h
      rw [List.dropWhile_cons_of_neg hneg, List.takeWhile_cons_of_neg hneg,
        List.takeWhile_cons_of_neg hneg]
      exact ⟨List.append_cancel_right h, rfl⟩

/-- What is left behind a number is left behind its first digits. -/
theorem readDigits_suffix (cs : List Char) : (readDigits cs).2 <:+ cs.dropWhile Char.isDigit := by
  unfold readDigits
  split
  · next rest h =>
    rw [h]
    exact (List.dropWhile_suffix _).trans (List.suffix_cons _ _)
  · exact List.suffix_refl _

/-- The digits of a number do not depend on what is behind it. -/
theorem readDigits_of_append (h : (readDigits (rest ++ tail)).2 = left ++ tail) :
    readDigits rest = ((readDigits (rest ++ tail)).1, left) := by
  obtain ⟨more, hmore⟩ : tail <:+ (rest ++ tail).dropWhile Char.isDigit := by
    have hsuffix := readDigits_suffix (rest ++ tail)
    rw [h] at hsuffix
    exact (List.suffix_append left tail).trans hsuffix
  obtain ⟨hdrop, htake⟩ := dropWhile_of_append hmore.symm
  unfold readDigits at h ⊢
  rw [← hmore, htake] at h ⊢
  rw [hdrop]
  match more with
  | [] =>
    rw [List.nil_append] at h ⊢
    split at h
    · next after =>
      have hlength := congrArg List.length h
      have hle := (List.dropWhile_suffix (l := after) Char.isDigit).length_le
      simp only [List.length_append, List.length_cons] at hlength
      omega
    · next hpoint =>
      have hleft : left = [] := List.self_eq_append_left.mp h
      rw [hleft]
  | c :: after =>
    by_cases hc : c = '.'
    · subst hc
      have hbehind : (after ++ tail).dropWhile Char.isDigit = left ++ tail := h
      obtain ⟨hdrop, htake⟩ := dropWhile_of_append hbehind
      simp only [List.cons_append, htake, hdrop]
    · have hpoint (others : List Char) : ∀ more, c :: others = '.' :: more → False :=
        fun _ heq => hc (List.cons.inj heq).1
      rw [List.cons_append] at h ⊢
      have hleft : c :: after = left := by
        split at h
        · next heq => exact absurd heq (hpoint _ _)
        · exact List.append_cancel_right h
      rw [hleft]
      split
      · exact absurd hleft (hpoint _ _)
      · split
        · next heq => exact absurd heq (hpoint _ _)
        · rfl

/-- A closing quote is taken off the text. -/
theorem length_rest_readQuoted_lt {cs value rest : List Char}
    (h : readQuoted cs = some (value, rest)) : rest.length < cs.length := by
  have hlength := congrArg List.length (quoteChars_append_of_readQuoted h)
  simp only [quoteChars, List.length_append, List.length_cons, List.length_nil] at hlength
  omega

/-- A quote that no other one follows ends a string. -/
theorem readQuoted_quote {cs : List Char} (h : ∀ more, cs ≠ '\'' :: more) :
    readQuoted ('\'' :: cs) = some ([], cs) := by
  rw [readQuoted]
  exact fun more heq => h more heq

/-- A character that is no quote belongs to the string. -/
theorem readQuoted_cons {c : Char} (hc : c ≠ '\'') (cs : List Char) :
    readQuoted (c :: cs) = (readQuoted cs).map fun (value, after) => (c :: value, after) := by
  rw [readQuoted]
  · exact fun more heq => absurd heq hc
  · exact fun heq => absurd heq hc

/-- The text of a string does not depend on what is behind its closing quote. -/
theorem readQuoted_of_append {value : List Char}
    (h : readQuoted (rest ++ tail) = some (value, left ++ tail)) :
    readQuoted rest = some (value, left) := by
  fun_induction readQuoted rest generalizing value with
  | case1 =>
    have hlt := length_rest_readQuoted_lt h
    simp only [List.nil_append, List.length_append] at hlt
    omega
  | case2 after ih =>
    rw [List.cons_append, List.cons_append, readQuoted] at h
    obtain ⟨⟨inner, more⟩, hinner, heq⟩ := Option.map_eq_some_iff.mp h
    obtain ⟨rfl, rfl⟩ := Prod.mk.inj heq
    rw [ih hinner]
    rfl
  | case3 after hdouble =>
    -- A second quote right behind the text would belong to the string as well.
    have hsingle : ∀ more, after ++ tail ≠ '\'' :: more := by
      intro more heq
      cases after with
      | nil =>
        rw [List.cons_append, heq, readQuoted] at h
        obtain ⟨⟨inner, behind⟩, hinner, hpair⟩ := Option.map_eq_some_iff.mp h
        obtain ⟨-, rfl⟩ := Prod.mk.inj hpair
        have hlt := length_rest_readQuoted_lt hinner
        have hlength := congrArg List.length heq
        simp only [List.nil_append, List.length_append, List.length_cons] at hlt hlength
        omega
      | cons d after => exact hdouble after (by rw [(List.cons.inj heq).1])
    rw [List.cons_append, readQuoted_quote hsingle] at h
    obtain ⟨rfl, hleft⟩ := Prod.mk.inj (Option.some.inj h)
    rw [List.append_cancel_right hleft]
  | case4 c after hdouble hclose ih =>
    rw [List.cons_append, readQuoted_cons hclose] at h
    obtain ⟨⟨inner, more⟩, hinner, heq⟩ := Option.map_eq_some_iff.mp h
    obtain ⟨rfl, rfl⟩ := Prod.mk.inj heq
    rw [ih hinner]
    rfl

/-- A token that is neither a sign nor a string does not depend on what is behind it. -/
theorem readPlain_of_append {c : Char} (h : (readPlain c (rest ++ tail)).rest = left ++ tail) :
    (readPlain c rest).kind = (readPlain c (rest ++ tail)).kind ∧
      (readPlain c rest).rest = left := by
  unfold readPlain at h ⊢
  split
  · next hstart =>
    rw [if_pos hstart] at h
    obtain ⟨hdrop, htake⟩ := dropWhile_of_append h
    exact ⟨by rw [htake], hdrop⟩
  · next hstart =>
    rw [if_neg hstart] at h
    split
    · next hdigit =>
      rw [if_pos hdigit] at h
      have hdigits := readDigits_of_append h
      exact ⟨by rw [hdigits], by rw [hdigits]⟩
    · next hdigit =>
      rw [if_neg hdigit] at h
      exact ⟨rfl, List.append_cancel_right h⟩

/-- A string does not depend on what is behind it. -/
theorem readString_of_append (h : (readString (rest ++ tail)).rest = left ++ tail) :
    (readString rest).kind = (readString (rest ++ tail)).kind ∧
      (readString rest).rest = left := by
  unfold readString at h ⊢
  split at h
  · next value after hread =>
    dsimp only at h
    rw [h] at hread
    rw [readQuoted_of_append hread]
    exact ⟨rfl, rfl⟩
  · next hread =>
    -- The string takes up everything, so there is nothing behind it.
    obtain ⟨rfl, rfl⟩ := List.append_eq_nil_iff.mp h.symm
    rw [List.append_nil] at hread ⊢
    rw [hread]
    exact ⟨rfl, rfl⟩

/-- A token that is no sign of two characters does not depend on what is behind it. -/
theorem readShort_of_append {c : Char} (h : (readShort c (rest ++ tail)).rest = left ++ tail) :
    (readShort c rest).kind = (readShort c (rest ++ tail)).kind ∧
      (readShort c rest).rest = left := by
  unfold readShort at h ⊢
  split
  · next hquote =>
    rw [if_pos hquote] at h
    exact readString_of_append h
  · next hquote =>
    rw [if_neg hquote] at h
    split
    · next sign hsign =>
      rw [hsign] at h
      exact ⟨rfl, List.append_cancel_right h⟩
    · next hsign =>
      rw [hsign] at h
      exact readPlain_of_append h

/-- A token does not depend on what is behind it. -/
theorem lexeme_of_append {c : Char} (h : (lexeme c (rest ++ tail)).rest = left ++ tail) :
    (lexeme c rest).kind = (lexeme c (rest ++ tail)).kind ∧ (lexeme c rest).rest = left := by
  cases rest with
  | nil =>
    rw [List.nil_append] at h ⊢
    -- A sign of two characters would take up one that is behind the text.
    have hshort : lexeme c tail = readShort c tail := by
      unfold lexeme at h ⊢
      split
      · rfl
      · next d after =>
        split
        · next sign hsign =>
          simp only [hsign] at h
          have hlength := congrArg List.length h
          simp only [List.length_append, List.length_cons] at hlength
          omega
        · rfl
    rw [hshort] at h ⊢
    have hnil : (readShort c ([] ++ tail)).rest = left ++ tail := h
    exact readShort_of_append hnil
  | cons d after =>
    rw [List.cons_append] at h ⊢
    unfold lexeme at h ⊢
    dsimp only at h ⊢
    split
    · next sign hsign =>
      simp only [hsign] at h
      exact ⟨rfl, List.append_cancel_right h⟩
    · next hsign =>
      simp only [hsign] at h
      have hcons : (readShort c ((d :: after) ++ tail)).rest = left ++ tail := h
      exact readShort_of_append hcons

end Cutting

/-! ## A token ends where it cannot go on -/

/-- Whether no token takes up the character behind it: the character goes on no name, number or
sign, and does not make a closing quote one inside a string. -/
def isStop (c : Char) : Bool :=
  !isNamePart c && !c.isDigit && c != '.' && c != '\'' && c != '=' && c != '>'

/-- Whether a text begins with a character that no token before it takes up, if with any. -/
def Stops (cs : List Char) : Prop := ∀ c ∈ cs.head?, isStop c = true

/-- No token goes on at the end of a text. -/
theorem stops_nil : Stops [] := by simp [Stops]

/-- A character that goes on no token stops every token before it. -/
theorem stops_cons {c : Char} (h : isStop c = true) (cs : List Char) : Stops (c :: cs) := by
  simpa [Stops] using h

/-- White space goes on no token. -/
theorem isStop_of_isBlank {c : Char} (h : Text.isBlank c = true) : isStop c = true := by
  have hall : Text.blankChars.all isStop = true := by decide +kernel
  exact List.all_eq_true.mp hall c (Text.mem_blankChars h)

section Stops

variable {rest tail : List Char}

/-- A name does not go on there. -/
theorem Stops.isNamePart (h : Stops tail) : Text.Ends isNamePart tail := by
  intro c hc
  have hstop := h c hc
  simp only [isStop, Bool.and_eq_true] at hstop
  simpa using hstop.1.1.1.1.1

/-- A number does not go on there. -/
theorem Stops.isDigit (h : Stops tail) : Text.Ends Char.isDigit tail := by
  intro c hc
  have hstop := h c hc
  simp only [isStop, Bool.and_eq_true] at hstop
  simpa using hstop.1.1.1.1.2

/-- A character that goes on no token is not one of the signs that go on some. -/
theorem Stops.ne_cons (h : Stops tail) {c : Char} (hc : isStop c = false) (more : List Char) :
    tail ≠ c :: more := by
  rintro rfl
  simp [h c rfl] at hc

/-- The digits of a number are the same before a character that goes on no token. -/
theorem readDigits_append_of_stops (h : Stops tail) (rest : List Char) :
    readDigits (rest ++ tail) = ((readDigits rest).1, (readDigits rest).2 ++ tail) := by
  obtain ⟨htake, hdrop⟩ := Text.takeWhile_append_of_ends h.isDigit rest
  unfold readDigits
  rw [htake, hdrop]
  match rest.dropWhile Char.isDigit with
  | [] =>
    rw [List.nil_append]
    split
    · next more => exact absurd rfl (h.ne_cons (by decide) more)
    · rfl
  | c :: after =>
    rw [List.cons_append]
    by_cases hc : c = '.'
    · subst hc
      obtain ⟨htake, hdrop⟩ := Text.takeWhile_append_of_ends h.isDigit after
      simp only [htake, hdrop]
    · split
      · next heq => exact absurd (List.cons.inj heq).1 hc
      · split
        · next heq => exact absurd (List.cons.inj heq).1 hc
        · rfl

/-- A string that is closed is the same before a character that goes on no token. -/
theorem readQuoted_append_of_stops (h : Stops tail) {value after : List Char}
    (hread : readQuoted rest = some (value, after)) :
    readQuoted (rest ++ tail) = some (value, after ++ tail) := by
  fun_induction readQuoted rest generalizing value after with
  | case1 => simp at hread
  | case2 behind ih =>
    obtain ⟨⟨inner, more⟩, hinner, heq⟩ := Option.map_eq_some_iff.mp hread
    obtain ⟨rfl, rfl⟩ := Prod.mk.inj heq
    rw [List.cons_append, List.cons_append, readQuoted, ih hinner]
    rfl
  | case3 behind hdouble =>
    obtain ⟨rfl, rfl⟩ := Prod.mk.inj (Option.some.inj hread)
    rw [List.cons_append]
    refine readQuoted_quote fun more heq => ?_
    cases behind with
    | nil => exact h.ne_cons (by decide) more heq
    | cons d behind => exact hdouble behind (by rw [(List.cons.inj heq).1])
  | case4 c behind hdouble hclose ih =>
    obtain ⟨⟨inner, more⟩, hinner, heq⟩ := Option.map_eq_some_iff.mp hread
    obtain ⟨rfl, rfl⟩ := Prod.mk.inj heq
    rw [List.cons_append, readQuoted_cons hclose, ih hinner]
    rfl

/-- A string that is not closed stays open before text without quotes. -/
theorem readQuoted_append_eq_none (hread : readQuoted rest = none)
    (htail : ∀ c ∈ tail, c ≠ '\'') : readQuoted (rest ++ tail) = none := by
  fun_induction readQuoted rest with
  | case1 =>
    rw [List.nil_append]
    induction tail with
    | nil => rfl
    | cons c tail ih =>
      rw [readQuoted_cons (htail c List.mem_cons_self),
        ih fun d hd => htail d (List.mem_cons_of_mem _ hd)]
      rfl
  | case2 behind ih =>
    rw [List.cons_append, List.cons_append, readQuoted, ih (Option.map_eq_none_iff.mp hread)]
    rfl
  | case3 behind hdouble => simp at hread
  | case4 c behind hdouble hclose ih =>
    rw [List.cons_append, readQuoted_cons hclose, ih (Option.map_eq_none_iff.mp hread)]
    rfl

/-- The token with some text behind it. -/
def Lexeme.before (tail : List Char) (read : Lexeme) : Lexeme :=
  { read with rest := read.rest ++ tail }

/-- A word or a number is read in the same way before a character that goes on no token. -/
theorem readPlain_append_of_stops (h : Stops tail) (c : Char) (rest : List Char) :
    readPlain c (rest ++ tail) = (readPlain c rest).before tail := by
  obtain ⟨htake, hdrop⟩ := Text.takeWhile_append_of_ends h.isNamePart rest
  unfold readPlain
  split
  · rw [htake, hdrop]
    rfl
  · rw [readDigits_append_of_stops h]
    split <;> rfl

/-- A string that is closed is read in the same way before a character that goes on no token. -/
theorem readString_append_of_stops (h : Stops tail)
    (hclosed : (readString rest).kind ≠ .openString) :
    readString (rest ++ tail) = (readString rest).before tail := by
  unfold readString at hclosed ⊢
  cases hread : readQuoted rest with
  | none => simp [hread] at hclosed
  | some read =>
    rw [readQuoted_append_of_stops h hread]
    rfl

/-- A token that is no long sign is read in the same way before a character that goes on no token,
if it is no string that is left open. -/
theorem readShort_append_of_stops (h : Stops tail) {c : Char}
    (hclosed : (readShort c rest).kind ≠ .openString) :
    readShort c (rest ++ tail) = (readShort c rest).before tail := by
  unfold readShort at hclosed ⊢
  split
  · next hquote =>
    rw [if_pos hquote] at hclosed
    exact readString_append_of_stops h hclosed
  · split
    · rfl
    · exact readPlain_append_of_stops h c rest

/-- Only some characters go on a sign. -/
theorem ofChars?_eq_none (c : Char) {d : Char} (h : isStop d = true) :
    Symbol.ofChars? c d = none := by
  unfold Symbol.ofChars?
  split <;> first | rfl | exact absurd h (by decide)

/-- A token is the same before a character that goes on no token, unless it is a string that is
not closed. -/
theorem lexeme_append_of_stops (h : Stops tail) {c : Char}
    (hclosed : (lexeme c rest).kind ≠ .openString) :
    lexeme c (rest ++ tail) = (lexeme c rest).before tail := by
  cases rest with
  | nil =>
    have hshort : lexeme c ([] ++ tail) = readShort c ([] ++ tail) := by
      cases tail with
      | nil => rfl
      | cons d tail => simp [lexeme, ofChars?_eq_none c (h d rfl)]
    rw [hshort]
    exact readShort_append_of_stops h hclosed
  | cons d after =>
    rw [List.cons_append]
    unfold lexeme at hclosed ⊢
    dsimp only at hclosed ⊢
    split
    · rfl
    · next hsign =>
      rw [hsign] at hclosed
      have hshort := readShort_append_of_stops h hclosed
      exact hshort

end Stops

/-! ## Strings that are not closed -/

/-- Only a quote that is never closed makes a string that is not closed. -/
theorem eq_quote_of_kind_lexeme {c : Char} {rest : List Char}
    (h : (lexeme c rest).kind = .openString) : c = '\'' ∧ readQuoted rest = none := by
  have hread := isLexeme_lexeme c rest
  generalize lexeme c rest = read at h hread
  cases hread with
  | openString hread => exact ⟨rfl, hread⟩
  | word =>
    rcases wordKind_cases (c :: rest.takeWhile isNamePart) with ⟨_, heq⟩ | heq <;> simp [heq] at h
  | _ => simp at h

/-- A quote begins a string. -/
theorem lexeme_quote (rest : List Char) : lexeme '\'' rest = readString rest := by
  cases rest <;> rfl

/-- A quote that no text closes is the last token. -/
theorem lexeme_of_readQuoted_eq_none {rest : List Char} (h : readQuoted rest = none) :
    lexeme '\'' rest = ⟨.openString, '\'' :: rest, []⟩ := by
  rw [lexeme_quote, readString, h]

/-- White space behind a string that is not closed is part of it. -/
theorem lexeme_append_blanks {c : Char} {rest blanks : List Char}
    (h : (lexeme c rest).kind = .openString) (hblanks : Text.IsBlanks blanks) :
    (lexeme c (rest ++ blanks)).kind = .openString ∧ (lexeme c (rest ++ blanks)).rest = [] := by
  obtain ⟨rfl, hread⟩ := eq_quote_of_kind_lexeme h
  have hquote : ∀ c ∈ blanks, c ≠ '\'' := by
    rintro c hc rfl
    exact absurd (isStop_of_isBlank (hblanks _ hc)) (by decide)
  rw [lexeme_of_readQuoted_eq_none (readQuoted_append_eq_none hread hquote)]
  exact ⟨rfl, rfl⟩

/-! ## Kinds of tokens -/

/-- The kinds of the tokens of a text, without its end. -/
def kinds (cs : List Char) : List TokenKind :=
  match cs with
  | [] => []
  | c :: rest =>
    if Text.isBlank c then kinds rest else (lexeme c rest).kind :: kinds (lexeme c rest).rest
termination_by cs.length
decreasing_by
  · simp
  · exact Nat.lt_succ_of_le (length_rest_lexeme_le c rest)

@[simp] theorem kinds_nil : kinds [] = [] := by rw [kinds]

/-- White space before tokens is skipped. -/
theorem kinds_cons_of_isBlank {c : Char} (h : Text.isBlank c = true) (rest : List Char) :
    kinds (c :: rest) = kinds rest := by
  rw [kinds, if_pos h]

/-- At any other character the first token begins, and the others are read behind it. -/
theorem kinds_cons_of_not_isBlank {c : Char} (h : ¬ Text.isBlank c = true) (rest : List Char) :
    kinds (c :: rest) = (lexeme c rest).kind :: kinds (lexeme c rest).rest := by
  rw [kinds, if_neg h]

/-! ## Tokens without positions -/

/-- What a token is and how it is written. -/
def Lexeme.face (read : Lexeme) : TokenKind × String := (read.kind, String.ofList read.literal)

/-- How a token is written does not depend on what is behind it either. -/
theorem face_lexeme_of_append {c : Char} {rest tail left : List Char}
    (h : (lexeme c (rest ++ tail)).rest = left ++ tail) :
    (lexeme c rest).face = (lexeme c (rest ++ tail)).face := by
  obtain ⟨hkind, hrest⟩ := lexeme_of_append h
  have htaken : (lexeme c rest).taken = (lexeme c (rest ++ tail)).taken := by
    have hwith := taken_append_rest_lexeme c (rest ++ tail)
    rw [h, ← List.cons_append, ← taken_append_rest_lexeme c rest, hrest,
      ← List.append_assoc] at hwith
    exact (List.append_cancel_right (List.append_cancel_right hwith)).symm
  rw [Lexeme.face, Lexeme.face, Lexeme.literal, Lexeme.literal, hkind, htaken]

/-- What the tokens of a text are and how they are written, without its end. -/
def faces (cs : List Char) : List (TokenKind × String) :=
  match cs with
  | [] => []
  | c :: rest =>
    if Text.isBlank c then faces rest else (lexeme c rest).face :: faces (lexeme c rest).rest
termination_by cs.length
decreasing_by
  · simp
  · exact Nat.lt_succ_of_le (length_rest_lexeme_le c rest)

@[simp] theorem faces_nil : faces [] = [] := by rw [faces]

/-- White space before tokens is skipped. -/
theorem faces_cons_of_isBlank {c : Char} (h : Text.isBlank c = true) (rest : List Char) :
    faces (c :: rest) = faces rest := by
  rw [faces, if_pos h]

/-- At any other character the first token begins, and the others are read behind it. -/
theorem faces_cons_of_not_isBlank {c : Char} (h : ¬ Text.isBlank c = true) (rest : List Char) :
    faces (c :: rest) = (lexeme c rest).face :: faces (lexeme c rest).rest := by
  rw [faces, if_neg h]

/-- The kinds of the tokens are those that stand with their literals. -/
theorem map_fst_faces (cs : List Char) : (faces cs).map (·.1) = kinds cs := by
  fun_induction faces cs with
  | case1 => rw [kinds_nil, List.map_nil]
  | case2 c rest hblank ih => rw [kinds_cons_of_isBlank hblank, ih]
  | case3 c rest hblank ih =>
    rw [kinds_cons_of_not_isBlank hblank, List.map_cons, ih, Lexeme.face]

/-- Their positions aside, the tokens of a text are these and its end. -/
theorem map_face_tokensFrom (offset : Nat) (cs : List Char) :
    (tokensFrom offset cs).map Token.face = faces cs ++ [(.finish, "")] := by
  fun_induction tokensFrom offset cs with
  | case1 offset => simp [Token.face]
  | case2 offset c rest hblank ih => rw [faces_cons_of_isBlank hblank, ih]
  | case3 offset c rest hblank read ih =>
    rw [List.map_cons, ih, faces_cons_of_not_isBlank hblank, List.cons_append]
    rfl

/-- The kinds of the tokens of a text are those of its tokens before its end. -/
theorem map_kind_tokensFrom (offset : Nat) (cs : List Char) :
    (tokensFrom offset cs).map (·.kind) = kinds cs ++ [.finish] := by
  calc
    _ = ((tokensFrom offset cs).map Token.face).map (·.1) := by
      rw [List.map_map]
      rfl
    _ = kinds cs ++ [.finish] := by
      rw [map_face_tokensFrom, List.map_append, map_fst_faces, List.map_singleton]

/-- White space before a text does not count. -/
theorem faces_blanks_append {blanks : List Char} (h : Text.IsBlanks blanks) (cs : List Char) :
    faces (blanks ++ cs) = faces cs := by
  induction blanks with
  | nil => rfl
  | cons c blanks ih =>
    rw [List.cons_append, faces_cons_of_isBlank (h c List.mem_cons_self)]
    exact ih fun d hd => h d (List.mem_cons_of_mem _ hd)

/-- White space has no tokens. -/
theorem faces_eq_nil {blanks : List Char} (h : Text.IsBlanks blanks) : faces blanks = [] := by
  have hfaces := faces_blanks_append h []
  rwa [List.append_nil, faces_nil] at hfaces

/-- A string that is not closed is the last token. -/
theorem rest_lexeme_eq_nil {c : Char} {rest : List Char}
    (h : (lexeme c rest).kind = .openString) : (lexeme c rest).rest = [] := by
  obtain ⟨rfl, hread⟩ := eq_quote_of_kind_lexeme h
  rw [lexeme_of_readQuoted_eq_none hread]

/-- A string that is not closed is written as its quote. -/
theorem face_lexeme_of_kind_eq {c : Char} {rest : List Char}
    (h : (lexeme c rest).kind = .openString) : (lexeme c rest).face = (.openString, "'") := by
  rw [Lexeme.face, Lexeme.literal, h]

/-- White space behind a text does not count. -/
theorem faces_append_blanks {blanks : List Char} (h : Text.IsBlanks blanks)
    (cs : List Char) : faces (cs ++ blanks) = faces cs := by
  have hstops : Stops blanks := fun c hc => isStop_of_isBlank (h c (List.mem_of_mem_head? hc))
  fun_induction faces cs with
  | case1 => exact faces_eq_nil h
  | case2 c rest hblank ih => rw [List.cons_append, faces_cons_of_isBlank hblank, ih]
  | case3 c rest hblank ih =>
    rw [List.cons_append, faces_cons_of_not_isBlank hblank]
    by_cases hopen : (lexeme c rest).kind = .openString
    · obtain ⟨hkind, hrest⟩ := lexeme_append_blanks hopen h
      rw [face_lexeme_of_kind_eq hkind, face_lexeme_of_kind_eq hopen, hrest,
        rest_lexeme_eq_nil hopen]
    · rw [lexeme_append_of_stops hstops hopen]
      exact congrArg _ ih

/-- White space around a text does not count. -/
theorem faces_trimChars (cs : List Char) : faces (Text.trimChars cs) = faces cs := by
  obtain ⟨front, back, hfront, hback, heq⟩ := Text.exists_eq_append_trimChars cs
  calc
    _ = faces (front ++ Text.trimChars cs ++ back) := by
      rw [faces_append_blanks hback, faces_blanks_append hfront]
    _ = faces cs := by rw [← heq]

/-- A text has no tokens exactly if it is blank. -/
theorem faces_eq_nil_iff {cs : List Char} : faces cs = [] ↔ Text.trimChars cs = [] := by
  rw [← faces_trimChars]
  cases htrim : Text.trimChars cs with
  | nil => simp
  | cons c rest =>
    have hhead : c ∈ (Text.trimChars cs).head? := by
      rw [htrim]
      rfl
    have hblank := Text.isBlank_of_mem_head?_trimChars hhead
    simp [faces_cons_of_not_isBlank (Bool.eq_false_iff.mp hblank)]

/-! ## Kinds of tokens of parts of texts -/

/-- The text has no string that is not closed. -/
def Closed (cs : List Char) : Prop := .openString ∉ kinds cs

/-- The tokens of a text are the same before a character that goes on no token. -/
theorem kinds_append_of_stops {tail : List Char} (htail : Stops tail) {cs : List Char}
    (hcs : Closed cs) : kinds (cs ++ tail) = kinds cs ++ kinds tail := by
  unfold Closed at hcs
  fun_induction kinds cs with
  | case1 => simp
  | case2 c rest hblank ih => rw [List.cons_append, kinds_cons_of_isBlank hblank, ih hcs]
  | case3 c rest hblank ih =>
    rw [List.mem_cons, not_or] at hcs
    have hread : lexeme c (rest ++ tail) = (lexeme c rest).before tail :=
      lexeme_append_of_stops htail (Ne.symm hcs.1)
    rw [List.cons_append, kinds_cons_of_not_isBlank hblank, hread, List.cons_append]
    exact congrArg _ (ih hcs.2)

/-- White space behind a text has no tokens. -/
theorem kinds_append_blanks {blanks : List Char} (h : Text.IsBlanks blanks) (cs : List Char) :
    kinds (cs ++ blanks) = kinds cs := by
  rw [← map_fst_faces, faces_append_blanks h, map_fst_faces]

/-- White space around a text has no tokens. -/
theorem kinds_trimChars (cs : List Char) : kinds (Text.trimChars cs) = kinds cs := by
  rw [← map_fst_faces, faces_trimChars, map_fst_faces]

/-- A text has no tokens exactly if it is blank. -/
theorem kinds_eq_nil_iff {cs : List Char} : kinds cs = [] ↔ Text.trimChars cs = [] := by
  rw [← map_fst_faces, List.map_eq_nil_iff, faces_eq_nil_iff]

/-- No token but the end of a text marks its end. -/
theorem kind_lexeme_ne_finish (c : Char) (rest : List Char) : (lexeme c rest).kind ≠ .finish := by
  have hread := isLexeme_lexeme c rest
  generalize lexeme c rest = read at hread
  cases hread with
  | word =>
    rcases wordKind_cases (c :: rest.takeWhile isNamePart) with ⟨_, heq⟩ | heq <;> simp [heq]
  | _ => simp

/-- Its end is not among the tokens of a text. -/
theorem finish_not_mem_kinds (cs : List Char) : .finish ∉ kinds cs := by
  fun_induction kinds cs with
  | case1 => simp
  | case2 c rest hblank ih => exact ih
  | case3 c rest hblank ih =>
    intro hmem
    cases List.mem_cons.mp hmem with
    | inl heq => exact kind_lexeme_ne_finish c rest heq.symm
    | inr hmem => exact ih hmem

end Lexer

end RelPlan
