import Mathlib.Data.List.Chain
import RelPlan.Proofs.Predicate.Segments

/-!
# Tokens cover a text

The tokens of a text are one after another where they are written, with nothing but white space
between them, up to the end of the text or to a quote that is never closed (`Lexer.Spans`). So every
position that comes from a token is one between two characters of the text, and so are those at
which a condition is cut (`Lexer.covers_tokenize_and_isSlice_partsFrom`).
-/

namespace RelPlan

namespace Text

/-- Whether a text has this piece between two positions. -/
def IsSlice (text : List Char) (start stop : Nat) (piece : List Char) : Prop :=
  ∃ front back, text = front ++ (piece ++ back) ∧ byteLength front = start ∧
    start + byteLength piece = stop

/-- The bytes of a text are those of its UTF-8 encoding. -/
theorem byteLength_toList (text : String) : byteLength text.toList = text.utf8ByteSize := by
  have hlist (cs : List Char) : byteLength cs = (String.ofList cs).utf8ByteSize := by
    induction cs with
    | nil => rfl
    | cons c cs ih =>
      rw [String.ofList_cons, String.utf8ByteSize_append, String.utf8ByteSize_singleton,
        byteLength_cons, ih]
  rw [hlist, String.ofList_toList]

/-- Of two beginnings of a text the one with fewer bytes is the beginning of the other one. -/
theorem prefix_of_byteLength_le {text first second : List Char} (hfirst : first <+: text)
    (hsecond : second <+: text) (h : byteLength first ≤ byteLength second) : first <+: second := by
  rcases List.prefix_or_prefix_of_prefix hfirst hsecond with hfront | ⟨more, rfl⟩
  · exact hfront
  · cases more with
    | nil => simp
    | cons c more =>
      have hc := c.utf8Size_pos
      rw [byteLength_append, byteLength_cons] at h
      omega

end Text

namespace Lexer

/-! ## From token to token -/

/-- The tokens of the rest of a text: each is written where it begins, behind white space, and the
rest of the text goes on behind it. A quote that is never closed takes up the rest. -/
inductive Spans : List Char → List Char → List Token → Prop
  | finish {front blanks : List Char} (hblanks : Text.IsBlanks blanks) :
      Spans front blanks [⟨.finish, "", Text.byteLength (front ++ blanks)⟩]
  | token {front blanks literal rest : List Char} {kind : TokenKind} {ts : List Token}
      (hblanks : Text.IsBlanks blanks) (hfinish : kind ≠ .finish) (hclosed : kind ≠ .openString)
      (hrest : Spans (front ++ (blanks ++ literal)) rest ts) :
      Spans front (blanks ++ (literal ++ rest))
        (⟨kind, String.ofList literal, Text.byteLength (front ++ blanks)⟩ :: ts)
  | openString {front blanks rest : List Char} (hblanks : Text.IsBlanks blanks) :
      Spans front (blanks ++ '\'' :: rest)
        [⟨.openString, "'", Text.byteLength (front ++ blanks)⟩,
          ⟨.finish, "", Text.byteLength (front ++ (blanks ++ '\'' :: rest))⟩]

section Spans

variable {front cs : List Char} {ts : List Token}

/-- White space may be before the first token. -/
theorem Spans.cons_of_isBlank {c : Char} (hc : Text.isBlank c = true)
    (h : Spans (front ++ [c]) cs ts) : Spans front (c :: cs) ts := by
  have hcons {blanks : List Char} (hblanks : Text.IsBlanks blanks) : Text.IsBlanks (c :: blanks) :=
    List.forall_mem_cons.mpr ⟨hc, hblanks⟩
  cases h with
  | finish hblanks =>
    rw [List.append_assoc]
    exact .finish (hcons hblanks)
  | token hblanks hfinish hclosed hrest =>
    rw [List.append_assoc] at hrest ⊢
    exact .token (hcons hblanks) hfinish hclosed hrest
  | openString hblanks =>
    rw [List.append_assoc, List.append_assoc]
    exact .openString (hcons hblanks)

/-- The tokens of the rest of a text are read one after another. -/
theorem spans_tokensFrom (offset : Nat) (cs : List Char) :
    ∀ front, Text.byteLength front = offset → Spans front cs (tokensFrom offset cs) := by
  have hnone : Text.IsBlanks [] := List.forall_mem_nil _
  fun_induction tokensFrom offset cs with
  | case1 offset =>
    rintro front rfl
    have hfinish : Spans front [] _ := .finish hnone
    rwa [List.append_nil] at hfinish
  | case2 offset c rest hblank ih =>
    rintro front rfl
    exact (ih (front ++ [c]) (by simp)).cons_of_isBlank hblank
  | case3 offset c rest hblank read ih =>
    rintro front rfl
    by_cases hopen : read.kind = TokenKind.openString
    · obtain ⟨rfl, hread⟩ := eq_quote_of_kind_lexeme hopen
      have hall : read = ⟨.openString, '\'' :: rest, []⟩ := lexeme_of_readQuoted_eq_none hread
      have htokens : Spans front ('\'' :: rest) _ := .openString hnone
      rw [List.append_nil, List.nil_append, Text.byteLength_append] at htokens
      rw [hall, tokensFrom]
      exact htokens
    · have hliteral : read.literal = read.taken := by
        unfold Lexeme.literal
        split
        · next h => exact absurd h hopen
        · rfl
      have htokens := Spans.token hnone (kind_lexeme_ne_finish c rest) hopen
        (ih (front ++ ([] ++ read.taken)) (by simp))
      rw [List.append_nil, List.nil_append, taken_append_rest_lexeme] at htokens
      rwa [hliteral]

/-! ## What the tokens cover -/

/-- No token of the rest of a text begins before the rest does. -/
theorem Spans.le_offset (h : Spans front cs ts) : ∀ t ∈ ts, Text.byteLength front ≤ t.offset := by
  induction h with
  | finish => simp
  | token _ _ _ _ ih =>
    refine List.forall_mem_cons.mpr ⟨by simp, fun t ht => ?_⟩
    have hle := ih t ht
    rw [Text.byteLength_append] at hle
    exact Nat.le_of_add_right_le hle
  | openString => simp

/-- Every token is written where it begins. -/
theorem Spans.isSlice_literal (h : Spans front cs ts) :
    ∀ t ∈ ts, Text.IsSlice (front ++ cs) t.offset t.stop t.literal.toList := by
  induction h with
  | @finish front blanks _ =>
    exact List.forall_mem_singleton.mpr ⟨front ++ blanks, [], by simp, rfl, rfl⟩
  | @token front blanks literal rest _ _ _ _ _ _ ih =>
    rw [List.append_assoc, List.append_assoc] at ih
    exact List.forall_mem_cons.mpr ⟨⟨front ++ blanks, rest, by simp, rfl, rfl⟩, ih⟩
  | @openString front blanks rest _ =>
    refine List.forall_mem_cons.mpr ⟨⟨front ++ blanks, rest, by simp, rfl, rfl⟩,
      List.forall_mem_singleton.mpr ⟨front ++ (blanks ++ '\'' :: rest), [], by simp, rfl, rfl⟩⟩

/-- No token begins before what is written of one before it ends. -/
theorem Spans.pairwise_stop_le (h : Spans front cs ts) :
    ts.Pairwise fun t later => t.stop ≤ later.offset := by
  induction h with
  | finish => exact List.pairwise_singleton _ _
  | token _ _ _ hrest ih =>
    refine List.pairwise_cons.mpr ⟨fun later hlater => ?_, ih⟩
    have hle := hrest.le_offset later hlater
    rw [← List.append_assoc, Text.byteLength_append] at hle
    rwa [Token.stop, String.toList_ofList]
  | @openString front blanks rest _ =>
    have hquote : Text.byteLength "'".toList ≤ Text.byteLength ('\'' :: rest) := by
      rw [Text.byteLength_cons]
      exact Nat.le_add_right _ _
    rw [List.pairwise_pair, Token.stop, ← List.append_assoc,
      Text.byteLength_append _ ('\'' :: rest)]
    exact Nat.add_le_add_left hquote _

/-- The last token, and no other one, is the end of the text. -/
theorem Spans.exists_append_finish (h : Spans front cs ts) :
    ∃ before, ts = before ++ [⟨.finish, "", Text.byteLength (front ++ cs)⟩] ∧
      ∀ t ∈ before, t.kind ≠ .finish := by
  induction h with
  | finish => exact ⟨[], rfl, List.forall_mem_nil _⟩
  | @token front blanks literal rest kind ts _ hfinish _ _ ih =>
    obtain ⟨before, heq, hbefore⟩ := ih
    rw [List.append_assoc, List.append_assoc] at heq
    exact ⟨_ :: before, by rw [heq, List.cons_append], List.forall_mem_cons.mpr ⟨hfinish, hbefore⟩⟩
  | @openString front blanks rest _ => exact ⟨[_], rfl, by simp⟩

/-- White space is before the first token. -/
theorem Spans.isSlice_head (h : Spans front cs ts) :
    ∀ t ∈ ts.head?, ∃ blanks, Text.IsBlanks blanks ∧
      Text.IsSlice (front ++ cs) (Text.byteLength front) t.offset blanks := by
  have hslice (blanks rest : List Char) : Text.IsSlice (front ++ (blanks ++ rest))
      (Text.byteLength front) (Text.byteLength (front ++ blanks)) blanks :=
    ⟨front, rest, rfl, rfl, (Text.byteLength_append _ _).symm⟩
  intro t ht
  cases h with
  | finish hblanks =>
    obtain rfl := Option.some.inj ht
    have hall := hslice cs []
    rw [List.append_nil] at hall
    exact ⟨cs, hblanks, hall⟩
  | token hblanks | openString hblanks =>
    obtain rfl := Option.some.inj ht
    exact ⟨_, hblanks, hslice _ _⟩

/-- Behind a token is white space up to the next one, or behind a quote that is never closed the end
of the text. -/
theorem Spans.isChain (h : Spans front cs ts) :
    ts.IsChain fun t next =>
      if t.kind = .openString then next.kind = .finish
      else ∃ blanks,
        Text.IsBlanks blanks ∧ Text.IsSlice (front ++ cs) t.stop next.offset blanks := by
  induction h with
  | finish => exact .singleton _
  | @token front blanks literal rest kind ts _ _ hclosed hrest ih =>
    rw [List.append_assoc, List.append_assoc] at ih
    refine List.isChain_cons.mpr ⟨fun next hnext => ?_, ih⟩
    have hnext := hrest.isSlice_head next hnext
    rw [← List.append_assoc, Text.byteLength_append _ literal] at hnext
    rw [if_neg hclosed, Token.stop, String.toList_ofList]
    simpa using hnext
  | openString => simp

/-- At most one quote is never closed. -/
theorem Spans.countP_openString_le (h : Spans front cs ts) :
    ts.countP (·.kind = .openString) ≤ 1 := by
  induction h with
  | finish => simp
  | token _ _ hclosed _ ih => rwa [List.countP_cons_of_neg (by simpa using hclosed)]
  | openString => simp

end Spans

/-- How tokens cover a text from its beginning to its end. -/
structure Covers (text : String) (ts : List Token) : Prop where
  /-- The last token, and no other one, is the end, behind the last byte. -/
  finish : ∃ before, ts = before ++ [⟨.finish, "", text.utf8ByteSize⟩] ∧
    ∀ t ∈ before, t.kind ≠ .finish
  /-- Every token is written where it begins. -/
  literal : ∀ t ∈ ts, Text.IsSlice text.toList t.offset t.stop t.literal.toList
  /-- The tokens are in order and do not overlap. -/
  ordered : ts.Pairwise fun t later => t.stop ≤ later.offset
  /-- White space is before the first token. -/
  head : ∀ t ∈ ts.head?, ∃ blanks, Text.IsBlanks blanks ∧
    Text.IsSlice text.toList 0 t.offset blanks
  /-- White space is between tokens, and behind a quote that is never closed is the end. -/
  between : ts.IsChain fun t next =>
    if t.kind = .openString then next.kind = .finish
    else ∃ blanks, Text.IsBlanks blanks ∧ Text.IsSlice text.toList t.stop next.offset blanks
  openString : ts.countP (·.kind = .openString) ≤ 1

/-- The tokens of a text cover it. -/
theorem covers_tokenize (text : String) : Covers text (tokenize text) := by
  have h : Spans [] text.toList (tokenize text) := spans_tokensFrom 0 text.toList [] rfl
  refine ⟨?_, h.isSlice_literal, h.pairwise_stop_le, h.isSlice_head, h.isChain,
    h.countP_openString_le⟩
  have hfinish := h.exists_append_finish
  rwa [List.nil_append, Text.byteLength_toList] at hfinish

end Lexer

namespace Condition

/-- Where the parts of a text between separators begin and end, from one position to another. -/
def bounds (start stop : Nat) : List Token → List (Nat × Nat)
  | [] => [(start, stop)]
  | t :: ts => (start, t.offset) :: bounds t.stop stop ts

/-- Between separators that are written in a text, in order, the text has its parts. -/
theorem forall₂_isSlice_partsFrom (front rest : List Char) {ts : List Token}
    (hbehind : ∀ t ∈ ts, Text.byteLength front ≤ t.offset)
    (hliteral : ∀ t ∈ ts, Text.IsSlice (front ++ rest) t.offset t.stop t.literal.toList)
    (hordered : ts.Pairwise fun t later => t.stop ≤ later.offset) :
    List.Forall₂ (fun bound part => Text.IsSlice (front ++ rest) bound.1 bound.2 part)
      (bounds (Text.byteLength front) (Text.byteLength (front ++ rest)) ts)
      (partsFrom (Text.byteLength front) rest ts) := by
  induction ts generalizing front rest with
  | nil =>
    refine .cons ⟨front, [], by rw [List.append_nil], rfl, ?_⟩ .nil
    exact (Text.byteLength_append _ _).symm
  | cons t ts ih =>
    rw [List.forall_mem_cons] at hbehind hliteral
    rw [List.pairwise_cons] at hordered
    obtain ⟨before, behind, htext, hoffset, hstop⟩ := hliteral.1
    -- The text before the separator is what is before the part and the part.
    obtain ⟨part, rfl⟩ : front <+: before :=
      Text.prefix_of_byteLength_le (List.prefix_append front rest) ⟨_, htext.symm⟩
        (hoffset ▸ hbehind.1)
    rw [List.append_assoc] at htext
    obtain rfl := List.append_cancel_left htext
    have hbefore : Text.byteLength (front ++ (part ++ t.literal.toList)) = t.stop := by
      rw [← List.append_assoc, Text.byteLength_append, hoffset, hstop]
    have hwhole : front ++ (part ++ (t.literal.toList ++ behind)) =
        front ++ (part ++ t.literal.toList) ++ behind := by
      simp
    have hothers := ih (front ++ (part ++ t.literal.toList)) behind
      (fun later hlater => hbefore ▸ hordered.1 later hlater) (hwhole ▸ hliteral.2) hordered.2
    rw [← hwhole, hbefore] at hothers
    rw [Text.byteLength_append] at hoffset
    rw [partsFrom_cons part hoffset, bounds]
    exact .cons ⟨front, t.literal.toList ++ behind, rfl, rfl, hoffset⟩ hothers

end Condition

/-- The tokens of a text cover it, and every part between separating tokens is a piece of the text
between the positions at which it is cut. -/
theorem Lexer.covers_tokenize_and_isSlice_partsFrom (text : String) :
    Covers text (tokenize text) ∧
      List.Forall₂ (fun bound part => Text.IsSlice text.toList bound.1 bound.2 part)
        (Condition.bounds 0 text.utf8ByteSize (Condition.separators 0 false (tokenize text)))
        (Condition.partsFrom 0 text.toList (Condition.separators 0 false (tokenize text))) := by
  have hcovers := covers_tokenize text
  have hseparators := Condition.separators_sublist 0 false (tokenize text)
  rw [← Text.byteLength_toList]
  exact ⟨hcovers, Condition.forall₂_isSlice_partsFrom [] text.toList
    (fun t _ => Nat.zero_le t.offset) (fun t ht => hcovers.literal t (hseparators.subset ht))
    (hcovers.ordered.sublist hseparators)⟩

end RelPlan
