import RelPlan.Predicate.Condition
import RelPlan.Proofs.Predicate.Lexing

/-!
# Segments of conditions and runs of tokens

A condition that does not follow the grammar is split at the `AND`s outside parentheses that
belong to no range, and each segment is read again. The same tokens split the kinds of the tokens
into runs, and a segment has the tokens of its run (`Condition.map_kinds_segments`), so what is
known of runs is known of the predicates that are read from segments.
-/

namespace RelPlan

/-- The position behind what is written of a token. -/
def Token.stop (token : Token) : Nat := token.offset + Text.byteLength token.literal.toList

namespace Condition

/-! ## Separators and runs -/

/-- How many parentheses are open after a token. -/
def depthAfter (depth : Int) : TokenKind → Int
  | .symbol .leftParen => depth + 1
  | .symbol .rightParen => depth - 1
  | _ => depth

/-- How many parentheses are open after some tokens. -/
def depthBehind (depth : Int) (kinds : List TokenKind) : Int := kinds.foldl depthAfter depth

/-- Whether the next `AND` outside parentheses belongs to a range after a token. -/
def rangeAfter (depth : Int) (inRange : Bool) : TokenKind → Bool
  | .keyword .between => inRange || depth = 0
  | .keyword .and => inRange && depth ≠ 0
  | _ => inRange

/-- Whether a token is a separator. -/
def isSeparator (depth : Int) (inRange : Bool) (kind : TokenKind) : Bool :=
  kind = .keyword .and && depth = 0 && !inRange

/-- The lists with some items more before those of the first one. -/
def prependFirst {α : Type} (front : List α) : List (List α) → List (List α)
  | [] => [front]
  | first :: others => (front ++ first) :: others

/-- The runs of tokens between separators; there is always at least one. -/
def runs (depth : Int) (inRange : Bool) : List TokenKind → List (List TokenKind)
  | [] => [[]]
  | kind :: kinds =>
    let others := runs (depthAfter depth kind) (rangeAfter depth inRange kind) kinds
    if isSeparator depth inRange kind then [] :: others else prependFirst [kind] others

/-- The runs of items that stand for tokens. -/
def runsBy {α : Type} (kind : α → TokenKind) (depth : Int) (inRange : Bool) : List α → List (List α)
  | [] => [[]]
  | item :: items =>
    let others :=
      runsBy kind (depthAfter depth (kind item)) (rangeAfter depth inRange (kind item)) items
    if isSeparator depth inRange (kind item) then [] :: others else prependFirst [item] others

/-- The runs of items are those of the tokens that they stand for. -/
theorem map_map_runsBy {α : Type} (kind : α → TokenKind) (depth : Int) (inRange : Bool)
    (items : List α) :
    (runsBy kind depth inRange items).map (·.map kind) = runs depth inRange (items.map kind) := by
  induction items generalizing depth inRange with
  | nil => rfl
  | cons item items ih =>
    rw [runsBy, List.map_cons, runs, ← ih]
    split
    · rfl
    · cases runsBy kind (depthAfter depth (kind item)) (rangeAfter depth inRange (kind item))
        items <;> rfl

/-- No items before the first list make no difference. -/
theorem prependFirst_nil {α : Type} {lists : List (List α)} (h : lists ≠ []) :
    prependFirst [] lists = lists := by
  cases lists with
  | nil => exact absurd rfl h
  | cons first others => rfl

/-- With items before the first list there is at least one. -/
theorem prependFirst_ne_nil {α : Type} (front : List α) (lists : List (List α)) :
    prependFirst front lists ≠ [] := by
  cases lists <;> simp [prependFirst]

/-- There is at least one run. -/
theorem runs_ne_nil (depth : Int) (inRange : Bool) (kinds : List TokenKind) :
    runs depth inRange kinds ≠ [] := by
  cases kinds with
  | nil => simp [runs]
  | cons kind kinds =>
    rw [runs]
    split
    · exact List.cons_ne_nil _ _
    · exact prependFirst_ne_nil _ _

/-- Items before the first list are before the lists with separators between them. -/
theorem intercalate_prependFirst {α : Type} (separator front : List α) {lists : List (List α)}
    (h : lists ≠ []) :
    separator.intercalate (prependFirst front lists) = front ++ separator.intercalate lists := by
  match lists with
  | [first] => simp [prependFirst]
  | first :: next :: others => simp [prependFirst]

/-- The runs with a separator between neighbours are all tokens. -/
theorem intercalate_runs (depth : Int) (inRange : Bool) (kinds : List TokenKind) :
    [.keyword .and].intercalate (runs depth inRange kinds) = kinds := by
  induction kinds generalizing depth inRange with
  | nil => simp [runs]
  | cons kind kinds ih =>
    rw [runs]
    split
    · next hseparator =>
      simp only [isSeparator, Bool.and_eq_true, decide_eq_true_eq] at hseparator
      obtain ⟨first, others, hruns⟩ := List.exists_cons_of_ne_nil
        (runs_ne_nil (depthAfter depth kind) (rangeAfter depth inRange kind) kinds)
      rw [hruns, List.intercalate_cons_cons, ← hruns, ih, hseparator.1.1]
      rfl
    · rw [intercalate_prependFirst _ _ (runs_ne_nil _ _ _), ih]
      rfl

/-- One token is a separator or not, and the others are looked at after it. -/
theorem separators_cons (depth : Int) (inRange : Bool) (t : Token) (ts : List Token) :
    separators depth inRange (t :: ts) =
      if isSeparator depth inRange t.kind then
        t :: separators (depthAfter depth t.kind) (rangeAfter depth inRange t.kind) ts
      else separators (depthAfter depth t.kind) (rangeAfter depth inRange t.kind) ts := by
  rw [separators]
  cases hkind : t.kind with
  | keyword word =>
    cases word with
    | and =>
      by_cases hdepth : depth = 0 <;> cases inRange <;>
        simp [isSeparator, depthAfter, rangeAfter, hdepth]
    | _ => simp [isSeparator, depthAfter, rangeAfter]
  | symbol sign => cases sign <;> simp [isSeparator, depthAfter, rangeAfter]
  | _ => simp [isSeparator, depthAfter, rangeAfter]

/-- Separators are among the tokens, in the same order. -/
theorem separators_sublist (depth : Int) (inRange : Bool) (ts : List Token) :
    (separators depth inRange ts).Sublist ts := by
  induction ts generalizing depth inRange with
  | nil => exact List.Sublist.refl _
  | cons t ts ih =>
    rw [separators_cons]
    split
    · exact (ih _ _).cons_cons t
    · exact (ih _ _).cons t

/-! ## Counting in words of 32 bits -/

/-- The separators, with the open parentheses counted in a word of 32 bits. -/
def separatorsInWord (depth : Int32) (inRange : Bool) : List Token → List Token
  | [] => []
  | t :: ts =>
    match t.kind with
    | .symbol .leftParen => separatorsInWord (depth + 1) inRange ts
    | .symbol .rightParen => separatorsInWord (depth - 1) inRange ts
    | .keyword .between => separatorsInWord depth (inRange || depth = 0) ts
    | .keyword .and =>
      if depth = 0 then
        if inRange then separatorsInWord depth false ts else t :: separatorsInWord depth false ts
      else separatorsInWord depth inRange ts
    | _ => separatorsInWord depth inRange ts

/-- A number that is less than the size of a word, up to its sign, is zero in the word only if it
is zero. -/
theorem ofInt_eq_zero_iff {depth : Int} (h : depth.natAbs < Int32.size) :
    Int32.ofInt depth = 0 ↔ depth = 0 := by
  have hsize : Int32.size = 4294967296 := rfl
  rw [← Int32.toInt_inj, Int32.toInt_zero, Int32.toInt_ofInt, Int.bmod_def]
  rw [hsize] at h ⊢
  omega

/-- As long as the open parentheses cannot be as many as a word has values, it makes no difference
that they are counted in a word. -/
theorem separatorsInWord_ofInt {depth : Int} {inRange : Bool} {ts : List Token}
    (h : depth.natAbs + ts.length < Int32.size) :
    separatorsInWord (.ofInt depth) inRange ts = separators depth inRange ts := by
  induction ts generalizing depth inRange with
  | nil => rfl
  | cons t ts ih =>
    rw [List.length_cons] at h
    have hone : Int32.ofInt 1 = 1 := rfl
    have hzero : Int32.ofInt depth = 0 ↔ depth = 0 := ofInt_eq_zero_iff (by omega)
    have hsame (inRange : Bool) : separatorsInWord (.ofInt depth) inRange ts =
        separators depth inRange ts := ih (by omega)
    have hopen : separatorsInWord (.ofInt depth + 1) inRange ts =
        separators (depth + 1) inRange ts := by
      rw [← hone, ← Int32.ofInt_add]
      exact ih (by omega)
    have hclose : separatorsInWord (.ofInt depth - 1) inRange ts =
        separators (depth - 1) inRange ts := by
      rw [← hone, ← Int32.ofInt_sub]
      exact ih (by omega)
    rw [separatorsInWord, separators]
    split <;> simp only [*]

/-- The separators of fewer tokens than a word has values are those that are found with the open
parentheses counted in a word. -/
theorem separators_eq_separatorsInWord {ts : List Token} (h : ts.length < Int32.size) :
    separators 0 false ts = separatorsInWord 0 false ts := by
  have hbound : (0 : Int).natAbs + ts.length < Int32.size := by simpa using h
  exact (separatorsInWord_ofInt hbound).symm

/-! ## Parts of a text -/

/-- A separator ends the first part, and the others begin behind what is written of it. -/
theorem partsFrom_cons {start : Nat} (part : List Char) {t : Token}
    (h : start + Text.byteLength part = t.offset) (behind : List Char) (ts : List Token) :
    partsFrom start (part ++ (t.literal.toList ++ behind)) (t :: ts) =
      part :: partsFrom t.stop behind ts := by
  have hpart : t.offset - start = Text.byteLength part := by omega
  have hstop : t.stop - start = Text.byteLength (part ++ t.literal.toList) := by
    rw [Token.stop, Text.byteLength_append]
    omega
  rw [partsFrom, ← Token.stop, hpart, Text.takeBytes_append, hstop, ← List.append_assoc,
    Text.dropBytes_append]

/-- Text before all separators belongs to the first part. -/
theorem partsFrom_append {front : List Char} {start : Nat} (text : List Char) {ts : List Token}
    (h : ∀ t ∈ ts, start + Text.byteLength front ≤ t.offset) :
    partsFrom start (front ++ text) ts =
      prependFirst front (partsFrom (start + Text.byteLength front) text ts) := by
  cases ts with
  | nil => rfl
  | cons t ts =>
    have hle := h t List.mem_cons_self
    simp only [partsFrom, prependFirst]
    rw [Text.takeBytes_append_of_le (by omega), Text.dropBytes_append_of_le (by omega)]
    simp only [Nat.sub_sub]

end Condition

namespace Lexer

/-- Tokens do not begin before the text. -/
theorem le_offset_of_mem_tokensFrom {offset : Nat} {cs : List Char} {t : Token}
    (h : t ∈ tokensFrom offset cs) : offset ≤ t.offset := by
  fun_induction tokensFrom offset cs with
  | case1 offset => exact Nat.le_of_eq (congrArg Token.offset (List.mem_singleton.mp h)).symm
  | case2 offset c rest hblank ih => exact Nat.le_of_add_right_le (ih h)
  | case3 offset c rest hblank read ih =>
    rcases List.mem_cons.mp h with rfl | hmem
    · exact Nat.le_refl _
    · exact Nat.le_of_add_right_le (ih hmem)

/-- A token takes up the character that it begins with. -/
theorem exists_taken_lexeme (c : Char) (rest : List Char) :
    ∃ more, (lexeme c rest).taken = c :: more ∧ rest = more ++ (lexeme c rest).rest := by
  have hsplit := taken_append_rest_lexeme c rest
  have hle := length_rest_lexeme_le c rest
  cases htaken : (lexeme c rest).taken with
  | nil =>
    have hlength := congrArg List.length hsplit
    rw [htaken] at hlength
    simp only [List.nil_append, List.length_cons] at hlength
    omega
  | cons d more =>
    rw [htaken, List.cons_append] at hsplit
    obtain ⟨rfl, hrest⟩ := List.cons.inj hsplit
    exact ⟨more, rfl, hrest.symm⟩

/-- A token is the first one of the part of the text that goes on behind it. -/
theorem faces_taken_append {c : Char} {rest part : List Char} (hblank : ¬ Text.isBlank c = true)
    (hpart : part <+: (lexeme c rest).rest) :
    faces ((lexeme c rest).taken ++ part) = (lexeme c rest).face :: faces part := by
  obtain ⟨tail, htail⟩ := hpart
  obtain ⟨more, htaken, hrest⟩ := exists_taken_lexeme c rest
  rw [← htail, ← List.append_assoc] at hrest
  have hcut : (lexeme c ((more ++ part) ++ tail)).rest = part ++ tail := by rw [← hrest, htail]
  rw [htaken, List.cons_append, faces_cons_of_not_isBlank hblank, face_lexeme_of_append hcut,
    (lexeme_of_append hcut).2, ← hrest]

/-- A token is read from what it takes up and any beginning of what is left. -/
theorem kinds_taken_append {c : Char} {rest part : List Char} (hblank : ¬ Text.isBlank c = true)
    (hpart : part <+: (lexeme c rest).rest) :
    kinds ((lexeme c rest).taken ++ part) = (lexeme c rest).kind :: kinds part := by
  rw [← map_fst_faces, faces_taken_append hblank hpart, List.map_cons, map_fst_faces, Lexeme.face]

end Lexer

namespace Condition

/-! ## Cutting token by token -/

/-- The parts of a text between separators. -/
def cut (depth : Int) (inRange : Bool) (cs : List Char) : List (List Char) :=
  match cs with
  | [] => [[]]
  | c :: rest =>
    if Text.isBlank c then prependFirst [c] (cut depth inRange rest)
    else
      let read := Lexer.lexeme c rest
      let others := cut (depthAfter depth read.kind) (rangeAfter depth inRange read.kind) read.rest
      if isSeparator depth inRange read.kind then [] :: others else prependFirst read.taken others
termination_by cs.length
decreasing_by
  · simp
  · exact Nat.lt_succ_of_le (Lexer.length_rest_lexeme_le c rest)

/-- There is at least one part. -/
theorem cut_ne_nil (depth : Int) (inRange : Bool) (cs : List Char) : cut depth inRange cs ≠ [] := by
  unfold cut
  split
  · exact List.cons_ne_nil _ _
  · split
    · exact prependFirst_ne_nil _ _
    · dsimp only
      split
      · exact List.cons_ne_nil _ _
      · exact prependFirst_ne_nil _ _

@[simp] theorem cut_nil (depth : Int) (inRange : Bool) : cut depth inRange [] = [[]] := by rw [cut]

/-- White space before a text belongs to its first part. -/
theorem cut_cons_of_isBlank {c : Char} (h : Text.isBlank c = true) (depth : Int) (inRange : Bool)
    (rest : List Char) :
    cut depth inRange (c :: rest) = prependFirst [c] (cut depth inRange rest) := by
  rw [cut, if_pos h]

section Token

variable {c : Char} {rest : List Char} {read : Lexer.Lexeme} {depth : Int} {inRange : Bool}

/-- A separator ends the first part where it begins. -/
theorem cut_cons_of_isSeparator (hblank : ¬ Text.isBlank c = true)
    (hread : Lexer.lexeme c rest = read) (hkind : isSeparator depth inRange read.kind = true) :
    cut depth inRange (c :: rest) =
      [] :: cut (depthAfter depth read.kind) (rangeAfter depth inRange read.kind) read.rest := by
  subst hread
  rw [cut, if_neg hblank]
  exact if_pos hkind

/-- Any other token is the beginning of the first part. -/
theorem cut_cons_of_not_isSeparator (hblank : ¬ Text.isBlank c = true)
    (hread : Lexer.lexeme c rest = read) (hkind : isSeparator depth inRange read.kind = false) :
    cut depth inRange (c :: rest) = prependFirst read.taken
      (cut (depthAfter depth read.kind) (rangeAfter depth inRange read.kind) read.rest) := by
  subst hread
  rw [cut, if_neg hblank]
  exact if_neg (Bool.eq_false_iff.mp hkind)

end Token

/-- The parts between the separating tokens of a text are cut off token by token. -/
theorem partsFrom_eq_cut (start : Nat) (depth : Int) (inRange : Bool) (cs : List Char) :
    partsFrom start cs (separators depth inRange (Lexer.tokensFrom start cs)) =
      cut depth inRange cs := by
  have hfront (front rest : List Char) (depth : Int) (inRange : Bool) (start : Nat) :
      partsFrom start (front ++ rest) (separators depth inRange
          (Lexer.tokensFrom (start + Text.byteLength front) rest)) =
        prependFirst front (partsFrom (start + Text.byteLength front) rest (separators depth inRange
          (Lexer.tokensFrom (start + Text.byteLength front) rest))) :=
    partsFrom_append rest fun t ht =>
      Lexer.le_offset_of_mem_tokensFrom ((separators_sublist depth inRange _).subset ht)
  fun_induction Lexer.tokensFrom start cs generalizing depth inRange with
  | case1 start => rw [cut_nil]; rfl
  | case2 start c rest hblank ih =>
    have hblanks := hfront [c] rest depth inRange start
    rw [Text.byteLength_cons, Text.byteLength_nil, Nat.add_zero, List.singleton_append] at hblanks
    rw [cut_cons_of_isBlank hblank, hblanks, ih]
  | case3 start c rest hblank read ih =>
    have hsplit : read.taken ++ read.rest = c :: rest := Lexer.taken_append_rest_lexeme c rest
    rw [separators_cons]
    cases hseparator : isSeparator depth inRange read.kind with
    | true =>
      -- The first part ends where it begins, and the others begin behind the separator.
      have hkind : read.kind = .keyword .and := by
        simp only [isSeparator, Bool.and_eq_true, decide_eq_true_eq] at hseparator
        exact hseparator.1.1
      have hliteral : read.literal = read.taken := by rw [Lexer.Lexeme.literal, hkind]
      have hparts := partsFrom_cons [] (t := ⟨read.kind, String.ofList read.literal, start⟩)
        (Nat.add_zero start) read.rest (separators (depthAfter depth read.kind)
          (rangeAfter depth inRange read.kind)
          (Lexer.tokensFrom (start + Text.byteLength read.taken) read.rest))
      rw [Token.stop, String.toList_ofList, hliteral, List.nil_append, hsplit, ih] at hparts
      rw [if_pos rfl, cut_cons_of_isSeparator hblank rfl hseparator, hliteral, hparts]
    | false =>
      rw [if_neg Bool.false_ne_true, cut_cons_of_not_isSeparator hblank rfl hseparator, ← hsplit,
        hfront, ih]

/-- The first part is the beginning of the text. -/
theorem exists_prefix_of_cut (depth : Int) (inRange : Bool) (cs : List Char) :
    ∃ first others, cut depth inRange cs = first :: others ∧ first <+: cs := by
  fun_induction cut depth inRange cs with
  | case1 => exact ⟨[], [], rfl, List.prefix_refl _⟩
  | case2 depth inRange c rest hblank ih =>
    obtain ⟨first, others, heq, hfront⟩ := ih
    rw [heq]
    exact ⟨_, _, rfl, List.cons_prefix_cons.mpr ⟨rfl, hfront⟩⟩
  | case3 => exact ⟨_, _, rfl, List.nil_prefix⟩
  | case4 depth inRange c rest hblank read parts hseparator ih =>
    obtain ⟨first, others, heq, hfront⟩ := ih
    rw [show parts = first :: others from heq, ← Lexer.taken_append_rest_lexeme c rest]
    exact ⟨_, _, rfl, (List.prefix_append_right_inj _).mpr hfront⟩

/-- The parts of a text have the tokens of the runs. -/
theorem map_faces_cut (depth : Int) (inRange : Bool) (cs : List Char) :
    (cut depth inRange cs).map Lexer.faces = runsBy Prod.fst depth inRange (Lexer.faces cs) := by
  fun_induction cut depth inRange cs with
  | case1 => simp [runsBy]
  | case2 depth inRange c rest hblank ih =>
    obtain ⟨first, others, heq⟩ := List.exists_cons_of_ne_nil (cut_ne_nil depth inRange rest)
    rw [Lexer.faces_cons_of_isBlank hblank, ← ih, heq]
    simp [prependFirst, Lexer.faces_cons_of_isBlank hblank]
  | case3 depth inRange c rest hblank read parts hseparator ih =>
    rw [Lexer.faces_cons_of_not_isBlank hblank, runsBy, List.map_cons, Lexer.faces_nil, ih]
    exact (if_pos hseparator).symm
  | case4 depth inRange c rest hblank read parts hseparator ih =>
    obtain ⟨first, others, heq, hfront⟩ := exists_prefix_of_cut
      (depthAfter depth read.kind) (rangeAfter depth inRange read.kind) read.rest
    have hparts : (prependFirst read.taken parts).map Lexer.faces =
        prependFirst [read.face] (parts.map Lexer.faces) := by
      rw [show parts = first :: others from heq]
      simp [prependFirst, read, Lexer.faces_taken_append hblank hfront]
    rw [Lexer.faces_cons_of_not_isBlank hblank, runsBy, hparts, ih]
    exact (if_neg hseparator).symm

/-- Blank parts aside, the segments of a text have the tokens of the runs that are not empty. -/
theorem map_faces_segments (cs : List Char) :
    (segments cs (Lexer.tokens cs)).map Lexer.faces =
      (runsBy Prod.fst 0 false (Lexer.faces cs)).filter (!·.isEmpty) := by
  rw [← map_faces_cut, segments, Lexer.tokens, partsFrom_eq_cut]
  generalize cut 0 false cs = parts
  induction parts with
  | nil => rfl
  | cons part parts ih =>
    rw [List.map_cons, List.map_cons, List.filter_cons, List.filter_cons]
    by_cases hblank : Text.trimChars part = []
    · rw [if_neg (by simp [hblank]), if_neg (by simp [Lexer.faces_eq_nil_iff.mpr hblank])]
      exact ih
    · have hfaces : Lexer.faces part ≠ [] := fun h => hblank (Lexer.faces_eq_nil_iff.mp h)
      rw [if_pos (by simpa using hblank), if_pos (by simpa using hfaces), List.map_cons,
        Lexer.faces_trimChars, ih]

/-- The parts of a text have the runs of its tokens. -/
theorem map_kinds_cut (depth : Int) (inRange : Bool) (cs : List Char) :
    (cut depth inRange cs).map Lexer.kinds = runs depth inRange (Lexer.kinds cs) := by
  rw [← Lexer.map_fst_faces cs, ← map_map_runsBy, ← map_faces_cut, List.map_map]
  exact List.map_congr_left fun part _ => (Lexer.map_fst_faces part).symm

/-- The segments of a text have the runs of its tokens that are not empty. -/
theorem map_kinds_segments (cs : List Char) :
    (segments cs (Lexer.tokens cs)).map Lexer.kinds =
      (runs 0 false (Lexer.kinds cs)).filter (!·.isEmpty) := by
  have hempty : (fun run : List TokenKind => !run.isEmpty) ∘ List.map Prod.fst =
      fun run : List (TokenKind × String) => !run.isEmpty := by
    funext run
    simp
  calc
    _ = ((segments cs (Lexer.tokens cs)).map Lexer.faces).map (List.map Prod.fst) := by
      rw [List.map_map]
      exact List.map_congr_left fun segment _ => (Lexer.map_fst_faces segment).symm
    _ = (runs 0 false ((Lexer.faces cs).map Prod.fst)).filter (!·.isEmpty) := by
      rw [map_faces_segments, ← map_map_runsBy, List.filter_map, hempty]
    _ = _ := by rw [Lexer.map_fst_faces]

end Condition

end RelPlan
