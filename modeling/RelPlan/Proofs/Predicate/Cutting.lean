import RelPlan.Proofs.Predicate.Printing
import RelPlan.Proofs.Text.Blank

/-!
# Cutting conditions at separators

The parts of a text between separators, cut off token by token (`Condition.cut`). Tokens without a
separator belong to one part (`Condition.Passes`), so a text that is put together from such parts
with `AND` between them is cut into just these again (`Condition.map_trimChars_cut_joinWith`).
-/

namespace RelPlan

namespace Condition

/-- Items before others that are before the first list are before it together with those. -/
theorem prependFirst_append {α : Type} (first second : List α) (lists : List (List α)) :
    prependFirst first (prependFirst second lists) = prependFirst (first ++ second) lists := by
  cases lists <;> simp [prependFirst]

/-! ## Tokens without a separator -/

/-- No token is a separator, where so many parentheses are open and an `AND` belongs to a range or
not before the tokens, and then behind them. -/
inductive Passes : Int → Bool → List TokenKind → Int → Bool → Prop
  | nil {depth : Int} {inRange : Bool} : Passes depth inRange [] depth inRange
  | cons {depth stop : Int} {inRange ends : Bool} {kind : TokenKind} {kinds : List TokenKind}
      (hkind : isSeparator depth inRange kind = false)
      (hkinds : Passes (depthAfter depth kind) (rangeAfter depth inRange kind) kinds stop ends) :
      Passes depth inRange (kind :: kinds) stop ends

section Passes

variable {depth mid stop : Int} {inRange between ends : Bool} {kind : TokenKind}
  {first second kinds : List TokenKind}

/-- Tokens that are passed behind others that are passed are passed with them. -/
theorem Passes.append (hfirst : Passes depth inRange first mid between)
    (hsecond : Passes mid between second stop ends) :
    Passes depth inRange (first ++ second) stop ends := by
  induction hfirst with
  | nil => exact hsecond
  | cons hkind _ ih => exact .cons hkind (ih hsecond)

/-- If all tokens are passed then so are the first ones, and then the others. -/
theorem Passes.of_append (h : Passes depth inRange (first ++ second) stop ends) :
    ∃ mid between, Passes depth inRange first mid between ∧
      Passes mid between second stop ends := by
  induction first generalizing depth inRange with
  | nil => exact ⟨depth, inRange, .nil, h⟩
  | cons kind first ih =>
    cases h with
    | cons hkind hkinds =>
      obtain ⟨mid, between, hfirst, hsecond⟩ := ih hkinds
      exact ⟨mid, between, .cons hkind hfirst, hsecond⟩

/-- The tokens determine what is open behind them. -/
theorem Passes.unique (hfirst : Passes depth inRange kinds mid between)
    (hsecond : Passes depth inRange kinds stop ends) : mid = stop ∧ between = ends := by
  induction hfirst with
  | nil => cases hsecond; exact ⟨rfl, rfl⟩
  | cons _ _ ih =>
    cases hsecond with
    | cons _ hkinds => exact ih hkinds

/-- The first run begins with the tokens before all separators. -/
theorem runs_append_of_passes (h : Passes depth inRange kinds stop ends) (more : List TokenKind) :
    runs depth inRange (kinds ++ more) = prependFirst kinds (runs stop ends more) := by
  induction h with
  | nil => rw [List.nil_append, prependFirst_nil (runs_ne_nil _ _ _)]
  | cons hkind _ ih =>
    rw [List.cons_append, runs, hkind, ih, if_neg Bool.false_ne_true]
    rcases List.exists_cons_of_ne_nil (runs_ne_nil _ _ more) with ⟨first, others, heq⟩
    rw [heq]
    rfl

end Passes

/-- Every run of tokens is without a separator, and all but the last one leave nothing open. -/
theorem passes_of_runs (depth : Int) (inRange : Bool) (kinds : List TokenKind) :
    ∃ first others stop ends, runs depth inRange kinds = first :: others ∧
      Passes depth inRange first stop ends ∧ (others ≠ [] → stop = 0 ∧ ends = false) ∧
      (∀ run ∈ others, ∃ stop ends, Passes 0 false run stop ends) ∧
      ∀ run ∈ others.dropLast, Passes 0 false run 0 false := by
  induction kinds generalizing depth inRange with
  | nil => exact ⟨[], [], depth, inRange, rfl, .nil, by simp⟩
  | cons kind kinds ih =>
    obtain ⟨first, others, stop, ends, hruns, hfirst, hends, hothers, hinner⟩ :=
      ih (depthAfter depth kind) (rangeAfter depth inRange kind)
    rw [runs, hruns]
    cases hkind : isSeparator depth inRange kind with
    | false => exact ⟨_, _, stop, ends, rfl, .cons hkind hfirst, hends, hothers, hinner⟩
    | true =>
      simp only [isSeparator, Bool.and_eq_true, decide_eq_true_eq, Bool.not_eq_true'] at hkind
      obtain ⟨⟨rfl, rfl⟩, rfl⟩ := hkind
      refine ⟨[], _, 0, false, rfl, .nil, fun _ => ⟨rfl, rfl⟩, ?_, ?_⟩
      · exact List.forall_mem_cons.mpr ⟨⟨stop, ends, hfirst⟩, hothers⟩
      · cases others with
        | nil => simp
        | cons next others =>
          obtain ⟨rfl, rfl⟩ := hends (List.cons_ne_nil _ _)
          exact List.forall_mem_cons.mpr ⟨hfirst, hinner⟩

/-- There is no separator in a run. -/
theorem passes_of_mem_runs {kinds run : List TokenKind} (h : run ∈ runs 0 false kinds) :
    ∃ stop ends, Passes 0 false run stop ends := by
  obtain ⟨first, others, stop, ends, hruns, hfirst, -, hothers, -⟩ := passes_of_runs 0 false kinds
  rw [hruns] at h
  rcases List.mem_cons.mp h with rfl | hmem
  · exact ⟨stop, ends, hfirst⟩
  · exact hothers run hmem

/-- Before a separator all parentheses are closed and no range is open. -/
theorem passes_of_mem_dropLast_runs {kinds run : List TokenKind}
    (h : run ∈ (runs 0 false kinds).dropLast) : Passes 0 false run 0 false := by
  obtain ⟨first, others, stop, ends, hruns, hfirst, hends, -, hinner⟩ :=
    passes_of_runs 0 false kinds
  rw [hruns] at h
  cases others with
  | nil => simp at h
  | cons next others =>
    obtain ⟨rfl, rfl⟩ := hends (List.cons_ne_nil _ _)
    rcases List.mem_cons.mp h with rfl | hmem
    · exact hfirst
    · exact hinner run hmem

/-! ## Texts without a separator -/

section Cut

variable {depth stop : Int} {inRange ends : Bool}

/-- A text without a separator is the beginning of the first part; behind it is nothing, or it has
no string that is left open. -/
theorem cut_append_of_passes {front tail : List Char} {kinds : List TokenKind}
    (h : Passes depth inRange kinds stop ends) (hkinds : Lexer.kinds front = kinds)
    (htail : tail = [] ∨ Lexer.Stops tail ∧ .openString ∉ kinds) :
    cut depth inRange (front ++ tail) = prependFirst front (cut stop ends tail) := by
  subst hkinds
  fun_induction Lexer.kinds front generalizing depth inRange with
  | case1 =>
    cases h
    rw [List.nil_append, prependFirst_nil (cut_ne_nil _ _ _)]
  | case2 c rest hblank ih =>
    rw [List.cons_append, cut_cons_of_isBlank hblank, ih h htail, prependFirst_append]
    rfl
  | case3 c rest hblank ih =>
    cases h with
    | cons hkind hrest =>
      have hread : Lexer.lexeme c (rest ++ tail) = (Lexer.lexeme c rest).before tail := by
        rcases htail with rfl | ⟨hstops, hclosed⟩
        · simp [Lexer.Lexeme.before]
        · exact Lexer.lexeme_append_of_stops hstops fun hopen => hclosed (by simp [hopen])
      have hbehind := ih hrest (htail.imp_right (And.imp_right fun hclosed hopen =>
        hclosed (List.mem_cons_of_mem _ hopen)))
      rw [List.cons_append, cut_cons_of_not_isSeparator hblank hread hkind, Lexer.Lexeme.before,
        hbehind, prependFirst_append, Lexer.taken_append_rest_lexeme]

/-- A text without a separator is one part. -/
theorem cut_of_passes {cs : List Char} (h : Passes depth inRange (Lexer.kinds cs) stop ends) :
    cut depth inRange cs = [cs] := by
  have hcut := cut_append_of_passes h rfl (.inl rfl)
  rw [List.append_nil, cut_nil, prependFirst, List.append_nil] at hcut
  exact hcut

/-! ## White space around a text -/

/-- White space before a text belongs to its first part. -/
theorem cut_append_left {blanks : List Char} (h : Text.IsBlanks blanks) (cs : List Char) :
    cut depth inRange (blanks ++ cs) = prependFirst blanks (cut depth inRange cs) := by
  induction blanks with
  | nil => rw [List.nil_append, prependFirst_nil (cut_ne_nil _ _ _)]
  | cons c blanks ih =>
    rw [List.cons_append, cut_cons_of_isBlank (h c List.mem_cons_self),
      ih fun d hd => h d (List.mem_cons_of_mem _ hd), prependFirst_append]
    rfl

/-- White space behind a text belongs to its last part. -/
theorem cut_append_right {blanks : List Char} (h : Text.IsBlanks blanks) (depth : Int)
    (inRange : Bool) (cs : List Char) :
    ∃ front last, cut depth inRange cs = front ++ [last] ∧
      cut depth inRange (cs ++ blanks) = front ++ [last ++ blanks] := by
  have hprepend (first : List Char) {parts others : List (List Char)}
      (hparts : ∃ front last, parts = front ++ [last] ∧ others = front ++ [last ++ blanks]) :
      ∃ front last, prependFirst first parts = front ++ [last] ∧
        prependFirst first others = front ++ [last ++ blanks] := by
    obtain ⟨front, last, rfl, rfl⟩ := hparts
    cases front with
    | nil => exact ⟨[], first ++ last, rfl, by simp [prependFirst]⟩
    | cons next front => exact ⟨(first ++ next) :: front, last, rfl, rfl⟩
  fun_induction Lexer.kinds cs generalizing depth inRange with
  | case1 =>
    have hblanks : cut depth inRange (blanks ++ []) = prependFirst blanks [[]] := by
      rw [cut_append_left h, cut_nil]
    exact ⟨[], [], cut_nil _ _, by simpa [prependFirst] using hblanks⟩
  | case2 c rest hblank ih =>
    rw [List.cons_append, cut_cons_of_isBlank hblank, cut_cons_of_isBlank hblank]
    exact hprepend [c] (ih depth inRange)
  | case3 c rest hblank ih =>
    by_cases hopen : (Lexer.lexeme c rest).kind = .openString
    · -- The string that is left open takes up the white space.
      have hkinds : Lexer.kinds (c :: rest) = [.openString] := by
        rw [Lexer.kinds_cons_of_not_isBlank hblank, hopen, Lexer.rest_lexeme_eq_nil hopen,
          Lexer.kinds_nil]
      have hpasses : Passes depth inRange [.openString] depth inRange :=
        .cons (by simp [isSeparator]) .nil
      have hbehind : Lexer.kinds (c :: rest ++ blanks) = [.openString] := by
        rw [Lexer.kinds_append_blanks h, hkinds]
      exact ⟨[], c :: rest, cut_of_passes (hkinds ▸ hpasses), cut_of_passes (hbehind ▸ hpasses)⟩
    · have hstops : Lexer.Stops blanks := fun d hd =>
        Lexer.isStop_of_isBlank (h d (List.mem_of_mem_head? hd))
      have hread := Lexer.lexeme_append_of_stops hstops hopen
      rw [List.cons_append]
      cases hkind : isSeparator depth inRange (Lexer.lexeme c rest).kind with
      | true =>
        obtain ⟨front, last, hcut, hbehind⟩ := ih _ _
        rw [cut_cons_of_isSeparator hblank rfl hkind, cut_cons_of_isSeparator hblank hread hkind,
          Lexer.Lexeme.before, hcut, hbehind]
        exact ⟨[] :: front, last, rfl, rfl⟩
      | false =>
        rw [cut_cons_of_not_isSeparator hblank rfl hkind,
          cut_cons_of_not_isSeparator hblank hread hkind]
        exact hprepend _ (ih _ _)

/-- White space before the first part is taken off. -/
theorem map_trimChars_prependFirst {blanks : List Char} (h : Text.IsBlanks blanks)
    {parts : List (List Char)} (hparts : parts ≠ []) :
    (prependFirst blanks parts).map Text.trimChars = parts.map Text.trimChars := by
  cases parts with
  | nil => exact absurd rfl hparts
  | cons first others => simp [prependFirst, Text.trimChars_append_left h]

/-- White space around a text does not count in its parts. -/
theorem map_trimChars_cut_trimChars (depth : Int) (inRange : Bool) (cs : List Char) :
    (cut depth inRange (Text.trimChars cs)).map Text.trimChars =
      (cut depth inRange cs).map Text.trimChars := by
  obtain ⟨front, back, hfront, hback, heq⟩ := Text.exists_eq_append_trimChars cs
  obtain ⟨parts, last, hcut, hbehind⟩ := cut_append_right hback depth inRange
    (Text.trimChars cs)
  calc
    _ = (cut depth inRange (Text.trimChars cs ++ back)).map Text.trimChars := by
      simp [hcut, hbehind, Text.trimChars_append_right hback]
    _ = (cut depth inRange cs).map Text.trimChars := by
      rw [← map_trimChars_prependFirst hfront (cut_ne_nil _ _ _), ← cut_append_left hfront,
        ← List.append_assoc, ← heq]

/-! ## Texts with `AND` between them -/

/-- The word between two texts without a separator separates them. -/
theorem cut_append_and {front : List Char}
    (h : Passes depth inRange (Lexer.kinds front) 0 false) (hclosed : Lexer.Closed front)
    (tail : List Char) :
    cut depth inRange (front ++ " AND ".toList ++ tail) =
      (front ++ [' ']) :: prependFirst [' '] (cut 0 false tail) := by
  have hread : Lexer.lexeme 'A' ('N' :: 'D' :: ' ' :: tail) =
      ⟨.keyword .and, ['A', 'N', 'D'], ' ' :: tail⟩ := rfl
  have hword : cut 0 false ('A' :: 'N' :: 'D' :: ' ' :: tail) = [] :: cut 0 false (' ' :: tail) :=
    cut_cons_of_isSeparator (by decide) hread rfl
  have hblank (cs : List Char) : cut 0 false (' ' :: cs) = prependFirst [' '] (cut 0 false cs) :=
    cut_cons_of_isBlank (by decide) _ _ _
  rw [List.append_assoc]
  show cut depth inRange (front ++ ' ' :: 'A' :: 'N' :: 'D' :: ' ' :: tail) = _
  rw [cut_append_of_passes h rfl (.inr ⟨Lexer.stops_blank _, hclosed⟩), hblank, hword, hblank]
  rfl

/-- A text that is put together from texts without a separator is cut into these. -/
theorem map_trimChars_cut_joinWith {texts : List String} (hne : texts ≠ [])
    (hall : ∀ text ∈ texts, ∃ stop ends, Passes 0 false (Lexer.kinds text.toList) stop ends)
    (hinner : ∀ text ∈ texts.dropLast,
      Passes 0 false (Lexer.kinds text.toList) 0 false ∧ Lexer.Closed text.toList) :
    (cut 0 false (Text.joinWith " AND " texts).toList).map Text.trimChars =
      texts.map fun text => Text.trimChars text.toList := by
  have hblank : Text.IsBlanks [' '] := by simp [Text.IsBlanks]; decide
  induction texts with
  | nil => exact absurd rfl hne
  | cons text texts ih =>
    cases texts with
    | nil =>
      obtain ⟨_, _, hpasses⟩ := hall text List.mem_cons_self
      simp [cut_of_passes hpasses]
    | cons next texts =>
      rw [List.dropLast_cons_cons, List.forall_mem_cons] at hinner
      have hothers := ih (List.cons_ne_nil _ _)
        (fun other hother => hall other (List.mem_cons_of_mem _ hother)) hinner.2
      rw [Text.joinWith_cons_cons, String.toList_append, String.toList_append,
        cut_append_and hinner.1.1 hinner.1.2, List.map_cons,
        map_trimChars_prependFirst hblank (cut_ne_nil _ _ _), hothers,
        Text.trimChars_append_right hblank]
      rfl

end Cut

end Condition

end RelPlan
