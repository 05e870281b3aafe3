import RelPlan.Proofs.Predicate.Columns

/-!
# Tokens that spell a predicate

The parser reads every predicate of the grammar from the tokens that spell it, whatever is behind
them, as long as it does not go on with the predicate (`Level.Ends`). So a text is read as a
predicate if and only if its tokens spell it (`Condition.ofTokens_tokens_iff`).
-/

namespace RelPlan

namespace Parser

open Condition

/-! ## Readings that succeed -/

/-- A value is read off the front of some tokens, and the given ones are left. -/
def Gives {α : Type} {leaves : α × List Token → Prop}
    (reading : Except Fault { read : α × List Token // leaves read }) (value : α)
    (rest : List Token) : Prop :=
  ∃ h, reading = .ok ⟨(value, rest), h⟩

/-- What is read first is handed on with the tokens that are left. -/
theorem Gives.bind {α β : Type} {leaves : α × List Token → Prop}
    {leavesThen : β × List Token → Prop}
    {first : Except Fault { read : α × List Token // leaves read }}
    {next : { read : α × List Token // leaves read } →
      Except Fault { read : β × List Token // leavesThen read }}
    {value : α} {result : β} {mid rest : List Token} (hfirst : Gives first value mid)
    (hnext : ∀ h, Gives (next ⟨(value, mid), h⟩) result rest) :
    Gives (first >>= next) result rest := by
  obtain ⟨h, rfl⟩ := hfirst
  exact hnext h

/-- The first of some tokens is known by its kind. -/
theorem exists_eq_cons_of_map_kind {ts : List Token} {kind : TokenKind} {kinds : List TokenKind}
    (h : ts.map (·.kind) = kind :: kinds) :
    ∃ literal offset others, ts = ⟨kind, literal, offset⟩ :: others ∧
      others.map (·.kind) = kinds := by
  obtain ⟨⟨_, literal, offset⟩, others, rfl, rfl, hothers⟩ := List.map_eq_cons_iff.mp h
  exact ⟨literal, offset, others, rfl, hothers⟩

/-- A token of the wanted kind is read. -/
theorem gives_readKind (kind : TokenKind) (literal : String) (offset : Nat) (rest : List Token) :
    Gives (readKind kind (⟨kind, literal, offset⟩ :: rest)) () rest := by
  simp only [readKind, if_pos]
  exact ⟨_, rfl⟩

/-! ## Simple predicates -/

section Simple

variable {used rest : List Token} {kinds : List TokenKind}

/-- An operand is read from its tokens. -/
theorem gives_readOperand {operand : Operand} (h : SpellsOperand operand kinds)
    (hused : used.map (·.kind) = kinds)
    (hrest : ∀ kind ∈ (rest.map (·.kind)).head?, EndsColumn kind) :
    Gives (readOperand (used ++ rest)) operand rest := by
  cases h with
  | qualified table name =>
    obtain ⟨_, _, _, rfl, hfield⟩ := exists_eq_cons_of_map_kind hused
    obtain ⟨_, _, _, rfl, hname⟩ := exists_eq_cons_of_map_kind hfield
    obtain ⟨_, _, _, rfl, hnil⟩ := exists_eq_cons_of_map_kind hname
    obtain rfl := List.map_eq_nil_iff.mp hnil
    exact ⟨_, rfl⟩
  | bare name =>
    obtain ⟨_, _, _, rfl, hnil⟩ := exists_eq_cons_of_map_kind hused
    obtain rfl := List.map_eq_nil_iff.mp hnil
    match rest with
    | [] => exact ⟨_, rfl⟩
    | ⟨kind, _, _⟩ :: _ =>
      have hends : EndsColumn kind := hrest _ rfl
      cases kind with
      | symbol sign =>
        cases sign with
        | dot => exact absurd rfl hends.ne_dot
        | leftParen => exact absurd rfl hends.ne_leftParen
        | _ => exact ⟨_, rfl⟩
      | _ => exact ⟨_, rfl⟩
  | negative spelling =>
    obtain ⟨_, _, _, rfl, hdigits⟩ := exists_eq_cons_of_map_kind hused
    obtain ⟨_, _, _, rfl, hnil⟩ := exists_eq_cons_of_map_kind hdigits
    obtain rfl := List.map_eq_nil_iff.mp hnil
    exact ⟨_, rfl⟩
  | number _ | string _ | null =>
    obtain ⟨_, _, _, rfl, hnil⟩ := exists_eq_cons_of_map_kind hused
    obtain rfl := List.map_eq_nil_iff.mp hnil
    exact ⟨_, rfl⟩

/-- A simple predicate is read from its tokens. -/
theorem gives_readSimple {predicate : Predicate} (h : SpellsSimple predicate kinds)
    (hused : used.map (·.kind) = kinds)
    (hrest : ∀ kind ∈ (rest.map (·.kind)).head?, EndsColumn kind) :
    Gives (readSimple (used ++ rest)) predicate rest := by
  unfold readSimple
  cases h with
  | compare hleft hop hright =>
    obtain ⟨lefts, others, rfl, hlefts, hothers⟩ := List.map_eq_append_iff.mp hused
    obtain ⟨_, _, rights, rfl, hrights⟩ := exists_eq_cons_of_map_kind hothers
    rw [List.append_assoc]
    refine (gives_readOperand hleft hlefts ?_).bind fun _ => ?_
    · simpa using endsColumn_of_compareOp? hop
    · refine (?_ : Gives _ _ rest).bind fun _ => ⟨_, rfl⟩
      simp only [List.cons_append, readRelation, hop]
      exact (gives_readOperand hright hrights hrest).bind fun _ => ⟨_, rfl⟩
  | notLike hleft hright =>
    obtain ⟨lefts, others, rfl, hlefts, hothers⟩ := List.map_eq_append_iff.mp hused
    obtain ⟨_, _, _, rfl, hlike⟩ := exists_eq_cons_of_map_kind hothers
    obtain ⟨_, _, rights, rfl, hrights⟩ := exists_eq_cons_of_map_kind hlike
    rw [List.append_assoc]
    refine (gives_readOperand hleft hlefts ?_).bind fun _ => ?_
    · simpa using endsColumn_keyword .not
    · refine (?_ : Gives _ _ rest).bind fun _ => ⟨_, rfl⟩
      simp only [List.cons_append, readRelation, compareOp?]
      refine (?_ : Gives _ _ rest).bind fun _ => ⟨_, rfl⟩
      refine (gives_readKind _ _ _ _).bind fun _ => ?_
      exact (gives_readOperand hright hrights hrest).bind fun _ => ⟨_, rfl⟩
  | isNull hoperand =>
    obtain ⟨lefts, others, rfl, hlefts, hothers⟩ := List.map_eq_append_iff.mp hused
    obtain ⟨_, _, _, rfl, hnull⟩ := exists_eq_cons_of_map_kind hothers
    obtain ⟨_, _, _, rfl, hnil⟩ := exists_eq_cons_of_map_kind hnull
    obtain rfl := List.map_eq_nil_iff.mp hnil
    rw [List.append_assoc]
    refine (gives_readOperand hoperand hlefts ?_).bind fun _ => ⟨_, rfl⟩
    simpa using endsColumn_keyword .is
  | isNotNull hoperand =>
    obtain ⟨lefts, others, rfl, hlefts, hothers⟩ := List.map_eq_append_iff.mp hused
    obtain ⟨_, _, _, rfl, hnot⟩ := exists_eq_cons_of_map_kind hothers
    obtain ⟨_, _, _, rfl, hnull⟩ := exists_eq_cons_of_map_kind hnot
    obtain ⟨_, _, _, rfl, hnil⟩ := exists_eq_cons_of_map_kind hnull
    obtain rfl := List.map_eq_nil_iff.mp hnil
    rw [List.append_assoc]
    refine (gives_readOperand hoperand hlefts ?_).bind fun _ => ⟨_, rfl⟩
    simpa using endsColumn_keyword .is

end Simple

/-! ## Compound predicates -/

/-- A token that does not go on with predicates at some level before it. -/
def Level.Ends : Level → TokenKind → Prop
  | unary, kind => EndsColumn kind
  | and, kind | andTail, kind => EndsColumn kind ∧ kind ≠ .keyword .and
  | or, kind | orTail, kind =>
    EndsColumn kind ∧ kind ≠ .keyword .and ∧ kind ≠ .keyword .or

/-- Predicates at some level are read off the front of some tokens, and the given ones are left. -/
def Level.Reads : Level → List Token → List Predicate → List Token → Prop
  | or, ts, [predicate], rest => Gives (readOr ts) predicate rest
  | orTail, ts, predicates, rest => Gives (readOrTail ts) predicates rest
  | and, ts, [predicate], rest => Gives (readAnd ts) predicate rest
  | andTail, ts, predicates, rest => Gives (readAndTail ts) predicates rest
  | unary, ts, [predicate], rest => Gives (readUnary ts) predicate rest
  | _, _, _, _ => False

/-- What ends a disjunction ends the conjunctions in it. -/
theorem Level.Ends.and_of_or {kind : TokenKind} (h : Level.or.Ends kind) : Level.and.Ends kind :=
  ⟨h.1, h.2.1⟩

/-- What is behind a tail ends what is before the tail if the first token of the tail does. -/
theorem Level.ends_append {level : Level} {kinds rest : List TokenKind}
    (hkinds : ∀ kind ∈ kinds.head?, level.Ends kind)
    (hrest : ∀ kind ∈ rest.head?, level.Ends kind) :
    ∀ kind ∈ (kinds ++ rest).head?, level.Ends kind := by
  cases kinds with
  | nil => exact hrest
  | cons kind kinds => simpa using hkinds

/-- A closing parenthesis ends what is before it at every level. -/
theorem ends_rightParen (kinds : List TokenKind) :
    ∀ kind ∈ (.symbol .rightParen :: kinds).head?, Level.or.Ends kind := by
  simpa [Level.Ends] using (⟨by simp, by simp, by simp⟩ : EndsColumn _)

section Tails

variable {predicates : List Predicate} {kinds rest : List TokenKind}

/-- The conjunctions that follow the first one end it, and so does what ends the disjunction. -/
theorem ends_orTail_append (h : Spells .orTail predicates kinds)
    (hrest : ∀ kind ∈ rest.head?, Level.or.Ends kind) :
    ∀ kind ∈ (kinds ++ rest).head?, Level.and.Ends kind := by
  refine Level.ends_append ?_ fun kind hkind => (hrest kind hkind).and_of_or
  cases h <;> simp [Level.Ends, endsColumn_keyword]

/-- The predicates that follow the first one of a conjunction end it, and so does what ends the
conjunction. -/
theorem ends_andTail_append (h : Spells .andTail predicates kinds)
    (hrest : ∀ kind ∈ rest.head?, Level.and.Ends kind) :
    ∀ kind ∈ (kinds ++ rest).head?, Level.unary.Ends kind := by
  refine Level.ends_append ?_ fun kind hkind => (hrest kind hkind).1
  cases h <;> simp [Level.Ends, endsColumn_keyword]

end Tails

/-- A simple predicate begins with an operand, so neither with `NOT` nor with a parenthesis. -/
theorem exists_cons_of_spellsSimple {predicate : Predicate} {kinds : List TokenKind}
    (h : SpellsSimple predicate kinds) :
    ∃ kind others, kinds = kind :: others ∧ kind ≠ .keyword .not ∧ kind ≠ .symbol .leftParen := by
  have hoperand {operand : Operand} {lefts more : List TokenKind}
      (hleft : SpellsOperand operand lefts) :
      ∃ kind others, lefts ++ more = kind :: others ∧ kind ≠ .keyword .not ∧
        kind ≠ .symbol .leftParen := by
    cases hleft <;> exact ⟨_, _, rfl, by simp, by simp⟩
  cases h with
  | compare hleft | notLike hleft | isNull hleft | isNotNull hleft => exact hoperand hleft

/-- No tokens are left to a tail before one that ends it. -/
theorem gives_readOrTail_nil {rest : List Token}
    (h : ∀ kind ∈ (rest.map (·.kind)).head?, Level.orTail.Ends kind) :
    Gives (readOrTail rest) [] rest := by
  cases rest with
  | nil => rw [readOrTail]; exact ⟨_, rfl⟩
  | cons t rest =>
    have hor : t.kind ≠ .keyword .or := (h t.kind (by simp)).2.2
    rw [readOrTail, if_neg hor]
    exact ⟨_, rfl⟩

/-- No more conjuncts are read before a token that does not go on with some. -/
theorem gives_readAndTail_nil {rest : List Token}
    (h : ∀ kind ∈ (rest.map (·.kind)).head?, Level.andTail.Ends kind) :
    Gives (readAndTail rest) [] rest := by
  cases rest with
  | nil => rw [readAndTail]; exact ⟨_, rfl⟩
  | cons t rest =>
    have hand : t.kind ≠ .keyword .and := (h t.kind (by simp)).2
    rw [readAndTail, if_neg hand]
    exact ⟨_, rfl⟩

/-- Predicates are read from the tokens that spell them. -/
theorem reads_of_spells {level : Level} {predicates : List Predicate} {kinds : List TokenKind}
    (h : Spells level predicates kinds) {used rest : List Token}
    (hused : used.map (·.kind) = kinds)
    (hrest : ∀ kind ∈ (rest.map (·.kind)).head?, level.Ends kind) :
    level.Reads (used ++ rest) predicates rest := by
  induction h generalizing used rest with
  | or hfirst hothers ihfirst ihothers =>
    obtain ⟨firsts, others, rfl, hfirsts, hmore⟩ := List.map_eq_append_iff.mp hused
    have hends := ends_orTail_append hothers hrest
    rw [← hmore, ← List.map_append] at hends
    have hread : Gives (readAnd (firsts ++ (others ++ rest))) _ (others ++ rest) :=
      ihfirst hfirsts hends
    have htail : Gives (readOrTail (others ++ rest)) _ rest := ihothers hmore hrest
    rw [List.append_assoc, Level.Reads, readOr]
    exact hread.bind fun _ => htail.bind fun _ => ⟨_, rfl⟩
  | orNil =>
    obtain rfl := List.map_eq_nil_iff.mp hused
    exact gives_readOrTail_nil hrest
  | orCons hfirst hothers ihfirst ihothers =>
    obtain ⟨_, _, behind, rfl, hbehind⟩ := exists_eq_cons_of_map_kind hused
    obtain ⟨firsts, others, rfl, hfirsts, hmore⟩ := List.map_eq_append_iff.mp hbehind
    have hends := ends_orTail_append hothers hrest
    rw [← hmore, ← List.map_append] at hends
    have hread : Gives (readAnd (firsts ++ (others ++ rest))) _ (others ++ rest) :=
      ihfirst hfirsts hends
    have htail : Gives (readOrTail (others ++ rest)) _ rest := ihothers hmore hrest
    rw [List.cons_append, List.append_assoc, Level.Reads, readOrTail, if_pos rfl]
    exact hread.bind fun _ => htail.bind fun _ => ⟨_, rfl⟩
  | and hfirst hothers ihfirst ihothers =>
    obtain ⟨firsts, others, rfl, hfirsts, hmore⟩ := List.map_eq_append_iff.mp hused
    have hends := ends_andTail_append hothers hrest
    rw [← hmore, ← List.map_append] at hends
    have hread : Gives (readUnary (firsts ++ (others ++ rest))) _ (others ++ rest) :=
      ihfirst hfirsts hends
    have htail : Gives (readAndTail (others ++ rest)) _ rest := ihothers hmore hrest
    rw [List.append_assoc, Level.Reads, readAnd]
    exact hread.bind fun _ => htail.bind fun _ => ⟨_, rfl⟩
  | andNil =>
    obtain rfl := List.map_eq_nil_iff.mp hused
    exact gives_readAndTail_nil hrest
  | andCons hfirst hothers ihfirst ihothers =>
    obtain ⟨_, _, behind, rfl, hbehind⟩ := exists_eq_cons_of_map_kind hused
    obtain ⟨firsts, others, rfl, hfirsts, hmore⟩ := List.map_eq_append_iff.mp hbehind
    have hends := ends_andTail_append hothers hrest
    rw [← hmore, ← List.map_append] at hends
    have hread : Gives (readUnary (firsts ++ (others ++ rest))) _ (others ++ rest) :=
      ihfirst hfirsts hends
    have htail : Gives (readAndTail (others ++ rest)) _ rest := ihothers hmore hrest
    rw [List.cons_append, List.append_assoc, Level.Reads, readAndTail, if_pos rfl]
    exact hread.bind fun _ => htail.bind fun _ => ⟨_, rfl⟩
  | not hinner ihinner =>
    obtain ⟨_, _, inner, rfl, hinners⟩ := exists_eq_cons_of_map_kind hused
    have hread : Gives (readUnary (inner ++ rest)) _ rest := ihinner hinners hrest
    rw [List.cons_append, Level.Reads, readUnary, if_pos rfl]
    exact hread.bind fun _ => ⟨_, rfl⟩
  | parens hinner ihinner =>
    obtain ⟨_, _, behind, rfl, hbehind⟩ := exists_eq_cons_of_map_kind hused
    obtain ⟨inner, closing, rfl, hinners, hclosing⟩ := List.map_eq_append_iff.mp hbehind
    obtain ⟨literal, offset, _, rfl, hnil⟩ := exists_eq_cons_of_map_kind hclosing
    obtain rfl := List.map_eq_nil_iff.mp hnil
    have hread : Gives (readOr (inner ++ ⟨.symbol .rightParen, literal, offset⟩ :: rest)) _ _ :=
      ihinner hinners (ends_rightParen _)
    rw [List.cons_append, List.append_assoc, Level.Reads, readUnary, if_neg (by simp), if_pos rfl]
    exact hread.bind fun _ => (gives_readKind _ _ _ _).bind fun _ => ⟨_, rfl⟩
  | simple hsimple =>
    obtain ⟨kind, others, heq, hnot, hparen⟩ := exists_cons_of_spellsSimple hsimple
    obtain ⟨literal, offset, behind, hcons, -⟩ := exists_eq_cons_of_map_kind (hused.trans heq)
    have hread := gives_readSimple hsimple hused hrest
    rw [hcons, List.cons_append] at hread ⊢
    rw [Level.Reads, readUnary, if_neg hnot, if_neg hparen]
    exact hread

end Parser

/-- Tokens that spell a predicate up to their end make it up. -/
theorem Predicate.ofTokens_of_spells {used rest : List Token} {t : Token} {predicate : Predicate}
    (h : Parser.Spells .or [predicate] (used.map (·.kind))) (ht : t.kind = .finish) :
    ofTokens (used ++ t :: rest) = .ok predicate := by
  have hends : ∀ kind ∈ ((t :: rest).map (·.kind)).head?, Parser.Level.or.Ends kind := by
    simp [ht, Parser.Level.Ends, Condition.endsColumn_finish]
  obtain ⟨fewer, hread⟩ : Parser.Gives (Parser.readOr (used ++ t :: rest)) predicate (t :: rest) :=
    Parser.reads_of_spells h rfl hends
  have hfinish : Parser.kind? (t :: rest) = some .finish := by simp [Parser.kind?, ht]
  simp only [ofTokens, hread, bind, Except.bind, hfinish, if_pos]
  rfl

namespace Condition

/-- A text is read as a predicate if and only if its tokens spell it. -/
theorem ofTokens_tokens_iff {cs : List Char} {predicate : Predicate} :
    Predicate.ofTokens (Lexer.tokens cs) = .ok predicate ↔
      Parser.Spells .or [predicate] (Lexer.kinds cs) := by
  refine ⟨spells_kinds_of_ofTokens, fun h => ?_⟩
  obtain ⟨used, ends, htokens, hused, hends⟩ :=
    List.map_eq_append_iff.mp (Lexer.map_kind_tokensFrom 0 cs)
  obtain ⟨_, _, _, rfl, -⟩ := Parser.exists_eq_cons_of_map_kind hends
  rw [Lexer.tokens, htokens]
  exact Predicate.ofTokens_of_spells (hused ▸ h) rfl

end Condition

end RelPlan
