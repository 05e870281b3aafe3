import RelPlan.Proofs.Predicate.Segments

/-!
# Runs between separators

A separator is an `AND` outside parentheses that is not the first one behind a `BETWEEN` outside
parentheses (`Condition.Separates`). Cut at its separators a text falls into segments, and the
tokens of the segments are the runs of its tokens between the separators, as they are written
(`Condition.isSplit_and_map_faces_segments`).
-/

namespace RelPlan

/-- What some tokens are and how they are written, without ends of texts. -/
def Token.faces (ts : List Token) : List (TokenKind × String) :=
  (ts.filter (·.kind ≠ .finish)).map face

namespace Lexer

/-- The positions of the tokens aside, a text has these tokens. -/
theorem faces_tokens (cs : List Char) : Token.faces (tokens cs) = faces cs := by
  have hfaces : ∀ face ∈ faces cs, decide (face.1 ≠ .finish) = true := by
    intro face hface
    have hmem : face.1 ∈ kinds cs := by
      rw [← map_fst_faces]
      exact List.mem_map_of_mem hface
    rw [decide_eq_true_iff]
    intro hfinish
    exact finish_not_mem_kinds cs (hfinish ▸ hmem)
  calc
    _ = ((tokens cs).map Token.face).filter (·.1 ≠ .finish) := List.filter_map.symm
    _ = faces cs := by
      rw [tokens, map_face_tokensFrom, List.filter_append, List.filter_eq_self.mpr hfaces]
      simp

end Lexer

namespace Condition

/-! ## Separators -/

/-- Whether behind some of the tokens is one of a kind that is outside all parentheses. -/
def IsOuter (kinds before : List TokenKind) (kind : TokenKind) : Prop :=
  before ++ [kind] <+: kinds ∧ depthBehind 0 before = 0

/-- Whether behind a `BETWEEN` outside parentheses there is no `AND` outside parentheses yet. -/
def AwaitsAnd (kinds : List TokenKind) : Prop :=
  ∃ before, IsOuter kinds before (.keyword .between) ∧
    ∀ later, IsOuter kinds later (.keyword .and) → later.length ≤ before.length

/-- Whether a token behind others is an `AND` outside parentheses and not the first one behind a
`BETWEEN` outside parentheses. -/
def Separates (before : List TokenKind) (kind : TokenKind) : Prop :=
  kind = .keyword .and ∧ depthBehind 0 before = 0 ∧ ¬ AwaitsAnd before

section

variable {kinds before : List TokenKind} {kind last : TokenKind}

/-- What is open behind a token is known from what is open before it. -/
theorem depthBehind_append_singleton (depth : Int) (kinds : List TokenKind) (kind : TokenKind) :
    depthBehind depth (kinds ++ [kind]) = depthAfter (depthBehind depth kinds) kind := by
  rw [depthBehind, List.foldl_append]
  rfl

/-- The last of some tokens is outside parentheses or not. -/
theorem isOuter_append_singleton_iff :
    IsOuter (kinds ++ [last]) before kind ↔
      IsOuter kinds before kind ∨ before = kinds ∧ kind = last ∧ depthBehind 0 kinds = 0 := by
  have hlast : before ++ [kind] = kinds ++ [last] ↔ before = kinds ∧ kind = last := by simp
  rw [IsOuter, IsOuter, List.prefix_concat_iff, hlast]
  constructor
  · rintro ⟨⟨rfl, rfl⟩ | hfront, hdepth⟩
    · exact .inr ⟨rfl, rfl, hdepth⟩
    · exact .inl ⟨hfront, hdepth⟩
  · rintro (⟨hfront, hdepth⟩ | ⟨rfl, rfl, hdepth⟩)
    · exact ⟨.inr hfront, hdepth⟩
    · exact ⟨.inl ⟨rfl, rfl⟩, hdepth⟩

/-- A token stands behind fewer tokens than there are. -/
theorem IsOuter.length_lt (h : IsOuter kinds before kind) : before.length < kinds.length := by
  have hle := h.1.length_le
  rw [List.length_append, List.length_singleton] at hle
  omega

/-- Before all tokens no range is open. -/
theorem not_awaitsAnd_nil : ¬ AwaitsAnd [] := by
  rintro ⟨before, hbetween, -⟩
  exact absurd hbetween.length_lt (Nat.not_lt_zero _)

/-- A `BETWEEN` outside parentheses makes the next `AND` there belong to a range, and that `AND`
ends it. -/
theorem awaitsAnd_append_singleton_iff :
    AwaitsAnd (kinds ++ [last]) ↔
      last = .keyword .between ∧ depthBehind 0 kinds = 0 ∨
        AwaitsAnd kinds ∧ ¬ (last = .keyword .and ∧ depthBehind 0 kinds = 0) := by
  constructor
  · rintro ⟨before, hbetween, hand⟩
    rcases isOuter_append_singleton_iff.mp hbetween with hbefore | ⟨rfl, rfl, hdepth⟩
    · refine .inr ⟨⟨before, hbefore, fun later hlater => ?_⟩, ?_⟩
      · exact hand later (isOuter_append_singleton_iff.mpr (.inl hlater))
      · rintro ⟨rfl, hdepth⟩
        have hle := hand kinds (isOuter_append_singleton_iff.mpr (.inr ⟨rfl, rfl, hdepth⟩))
        exact absurd hbefore.length_lt (Nat.not_lt.mpr hle)
    · exact .inl ⟨rfl, hdepth⟩
  · rintro (⟨rfl, hdepth⟩ | ⟨⟨before, hbetween, hand⟩, hlast⟩)
    · refine ⟨kinds, isOuter_append_singleton_iff.mpr (.inr ⟨rfl, rfl, hdepth⟩),
        fun later hlater => ?_⟩
      rcases isOuter_append_singleton_iff.mp hlater with hlater | ⟨rfl, -, -⟩
      · exact Nat.le_of_lt hlater.length_lt
      · exact Nat.le_refl _
    · refine ⟨before, isOuter_append_singleton_iff.mpr (.inl hbetween), fun later hlater => ?_⟩
      rcases isOuter_append_singleton_iff.mp hlater with hlater | ⟨-, rfl, hdepth⟩
      · exact hand later hlater
      · exact absurd ⟨rfl, hdepth⟩ hlast

/-! ## What is known behind some tokens -/

/-- Whether so many parentheses are open behind the tokens, and the next `AND` outside parentheses
belongs to a range or not. -/
structure Tracks (kinds : List TokenKind) (depth : Int) (inRange : Bool) : Prop where
  depth_eq : depthBehind 0 kinds = depth
  inRange_iff : inRange = true ↔ AwaitsAnd kinds

/-- Before all tokens no parenthesis and no range is open. -/
theorem tracks_nil : Tracks [] 0 false :=
  ⟨rfl, by simpa using not_awaitsAnd_nil⟩

variable {depth : Int} {inRange : Bool}

/-- What is known is known behind one more token. -/
theorem Tracks.append_singleton (h : Tracks kinds depth inRange) (kind : TokenKind) :
    Tracks (kinds ++ [kind]) (depthAfter depth kind) (rangeAfter depth inRange kind) := by
  refine ⟨by rw [depthBehind_append_singleton, h.depth_eq], ?_⟩
  rw [awaitsAnd_append_singleton_iff, ← h.inRange_iff, h.depth_eq]
  cases kind with
  | keyword word => cases word <;> simp [rangeAfter, or_comm]
  | _ => simp [rangeAfter]

/-- Where it is known what is open, a token is found to be a separator exactly if it separates. -/
theorem Tracks.isSeparator_iff (h : Tracks kinds depth inRange) :
    isSeparator depth inRange kind = true ↔ Separates kinds kind := by
  rw [Separates, h.depth_eq, ← h.inRange_iff]
  simp [isSeparator, and_assoc]

end

/-! ## Runs -/

/-- Whether some items behind others fall into these runs: an item that separates ends a run and
belongs to none, and every other one belongs to the run where it is. -/
inductive IsSplit {α : Type} (separates : List α → α → Prop) :
    List α → List α → List (List α) → Prop
  | nil {before : List α} : IsSplit separates before [] [[]]
  | separator {before items : List α} {item : α} {runs : List (List α)}
      (hitem : separates before item) (hitems : IsSplit separates (before ++ [item]) items runs) :
      IsSplit separates before (item :: items) ([] :: runs)
  | inner {before items run : List α} {item : α} {runs : List (List α)}
      (hitem : ¬ separates before item)
      (hitems : IsSplit separates (before ++ [item]) items (run :: runs)) :
      IsSplit separates before (item :: items) ((item :: run) :: runs)

section

variable {α : Type}

/-- There is one way only in which items fall into runs. -/
theorem IsSplit.unique {separates : List α → α → Prop} {before items : List α}
    {first second : List (List α)} (hfirst : IsSplit separates before items first)
    (hsecond : IsSplit separates before items second) : first = second := by
  induction hfirst generalizing second with
  | nil => cases hsecond; rfl
  | separator hitem _ ih =>
    cases hsecond with
    | separator _ hitems => rw [ih hitems]
    | inner hother _ => exact absurd hitem hother
  | inner hitem _ ih =>
    cases hsecond with
    | separator hother _ => exact absurd hother hitem
    | inner _ hitems =>
      obtain ⟨rfl, rfl⟩ := List.cons.inj (ih hitems)
      rfl

/-- There is at least one run of items. -/
theorem runsBy_ne_nil (kind : α → TokenKind) (depth : Int) (inRange : Bool) (items : List α) :
    runsBy kind depth inRange items ≠ [] := by
  intro hnil
  have hruns := map_map_runsBy kind depth inRange items
  rw [hnil] at hruns
  exact runs_ne_nil _ _ _ hruns.symm

/-- Items that stand for tokens fall into the runs between the separating tokens. -/
theorem isSplit_runsBy (kind : α → TokenKind) {depth : Int} {inRange : Bool} (before : List α)
    (h : Tracks (before.map kind) depth inRange) (items : List α) :
    IsSplit (fun before item => Separates (before.map kind) (kind item)) before items
      (runsBy kind depth inRange items) := by
  induction items generalizing depth inRange before with
  | nil => exact .nil
  | cons item items ih =>
    have hafter : Tracks ((before ++ [item]).map kind) (depthAfter depth (kind item))
        (rangeAfter depth inRange (kind item)) := by
      rw [List.map_append]
      exact h.append_singleton (kind item)
    have hitems := ih (before ++ [item]) hafter
    rw [runsBy]
    split
    · next hseparator => exact .separator (h.isSeparator_iff.mp hseparator) hitems
    · next hseparator =>
      obtain ⟨run, runs, heq⟩ := List.exists_cons_of_ne_nil
        (runsBy_ne_nil kind (depthAfter depth (kind item)) (rangeAfter depth inRange (kind item))
          items)
      rw [heq] at hitems ⊢
      exact .inner (fun hitem => hseparator (h.isSeparator_iff.mpr hitem)) hitems

end

/-- There is one way in which the tokens of a text, as they are written, fall into runs between
separators, and the tokens of the segments of the text are the runs that are not empty. -/
theorem isSplit_and_map_faces_segments (text : String) :
    ∃ runs, (∀ others,
        IsSplit (fun before token => Separates (before.map (·.1)) token.1) []
          (Token.faces (tokenize text)) others ↔ others = runs) ∧
      (segments text.toList (tokenize text)).map
          (fun segment => Token.faces (Lexer.tokens segment)) =
        runs.filter (!·.isEmpty) := by
  have hsplit : IsSplit (fun before token => Separates (before.map (·.1)) token.1) []
      (Lexer.faces text.toList) (runsBy Prod.fst 0 false (Lexer.faces text.toList)) :=
    isSplit_runsBy Prod.fst [] tracks_nil _
  refine ⟨runsBy Prod.fst 0 false (Lexer.faces text.toList), fun others => ?_, ?_⟩
  · rw [tokenize, Lexer.faces_tokens]
    exact ⟨fun hothers => hothers.unique hsplit, fun h => h ▸ hsplit⟩
  · rw [tokenize, ← map_faces_segments]
    exact List.map_congr_left fun segment _ => Lexer.faces_tokens segment

end Condition

end RelPlan
