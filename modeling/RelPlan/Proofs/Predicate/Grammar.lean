import RelPlan.Predicate.Parser
import RelPlan.Proofs.Except

/-!
# Predicates and the tokens that spell them

The grammar of predicates as a relation between predicates and kinds of tokens, with one rule
for each way to make a predicate. What the parser reads is spelled by the tokens that it takes
off the front (`spells_of_readOr`), so facts about predicates that were read are shown by
induction on how they are spelled.
-/

namespace RelPlan

namespace Parser

/-! ## The grammar -/

/-- The tokens of a column or a constant. -/
inductive SpellsOperand : Operand → List TokenKind → Prop
  | qualified (table name : String) :
      SpellsOperand (.column (.qualified table name)) [.name table, .symbol .dot, .name name]
  | bare (name : String) : SpellsOperand (.column (.bare name)) [.name name]
  | number (spelling : String) :
      SpellsOperand (.literal (.number spelling)) [.number spelling]
  | negative (spelling : String) :
      SpellsOperand (.literal (.number ("-" ++ spelling))) [.symbol .minus, .number spelling]
  | string (value : String) : SpellsOperand (.literal (.string value)) [.string value]
  | null : SpellsOperand (.literal .null) [.keyword .null]

/-- The tokens of a comparison or a test for null. -/
inductive SpellsSimple : Predicate → List TokenKind → Prop
  | compare {left right : Operand} {op : CompareOp} {lefts rights : List TokenKind}
      {sign : TokenKind} (hleft : SpellsOperand left lefts) (hop : compareOp? sign = some op)
      (hright : SpellsOperand right rights) :
      SpellsSimple (.compare ⟨left, op, right⟩) (lefts ++ sign :: rights)
  | notLike {left right : Operand} {lefts rights : List TokenKind}
      (hleft : SpellsOperand left lefts) (hright : SpellsOperand right rights) :
      SpellsSimple (.not (.compare ⟨left, .like, right⟩))
        (lefts ++ .keyword .not :: .keyword .like :: rights)
  | isNull {operand : Operand} {kinds : List TokenKind} (h : SpellsOperand operand kinds) :
      SpellsSimple (.isNull operand false) (kinds ++ [.keyword .is, .keyword .null])
  | isNotNull {operand : Operand} {kinds : List TokenKind} (h : SpellsOperand operand kinds) :
      SpellsSimple (.isNull operand true)
        (kinds ++ [.keyword .is, .keyword .not, .keyword .null])

/-- How tightly predicates are bound where they are read. -/
inductive Level where
  /-- A disjunction. -/
  | or
  /-- The conjunctions that follow the first one of a disjunction. -/
  | orTail
  /-- A conjunction. -/
  | and
  /-- The predicates that follow the first one of a conjunction. -/
  | andTail
  /-- A negated, parenthesized or simple predicate. -/
  | unary

/-- The tokens of the predicates at some level; only a tail has not exactly one. -/
inductive Spells : Level → List Predicate → List TokenKind → Prop
  | or {first : Predicate} {others : List Predicate} {kinds more : List TokenKind}
      (hfirst : Spells .and [first] kinds) (hothers : Spells .orTail others more) :
      Spells .or [disjunction first others] (kinds ++ more)
  | orNil : Spells .orTail [] []
  | orCons {first : Predicate} {others : List Predicate} {kinds more : List TokenKind}
      (hfirst : Spells .and [first] kinds) (hothers : Spells .orTail others more) :
      Spells .orTail (first :: others) (.keyword .or :: kinds ++ more)
  | and {first : Predicate} {others : List Predicate} {kinds more : List TokenKind}
      (hfirst : Spells .unary [first] kinds) (hothers : Spells .andTail others more) :
      Spells .and [conjunction first others] (kinds ++ more)
  | andNil : Spells .andTail [] []
  | andCons {first : Predicate} {others : List Predicate} {kinds more : List TokenKind}
      (hfirst : Spells .unary [first] kinds) (hothers : Spells .andTail others more) :
      Spells .andTail (first :: others) (.keyword .and :: kinds ++ more)
  | not {inner : Predicate} {kinds : List TokenKind} (hinner : Spells .unary [inner] kinds) :
      Spells .unary [.not inner] (.keyword .not :: kinds)
  | parens {inner : Predicate} {kinds : List TokenKind} (hinner : Spells .or [inner] kinds) :
      Spells .unary [inner] (.symbol .leftParen :: kinds ++ [.symbol .rightParen])
  | simple {predicate : Predicate} {kinds : List TokenKind}
      (hsimple : SpellsSimple predicate kinds) : Spells .unary [predicate] kinds

/-! ## What is read off the front -/

/-- Some tokens whose kinds have a property were taken off the front. -/
def TakenOff (spelled : List TokenKind → Prop) (ts rest : List Token) : Prop :=
  ∃ used, ts = used ++ rest ∧ spelled (used.map (·.kind))

/-- One token was taken off the front. -/
theorem takenOff_cons {spelled : List TokenKind → Prop} {t : Token} {rest : List Token}
    (h : spelled [t.kind]) : TakenOff spelled (t :: rest) rest :=
  ⟨[t], rfl, h⟩

/-- Tokens were taken off twice, with another token between them or not. -/
theorem TakenOff.append {first second spelled : List TokenKind → Prop} {ts mid rest : List Token}
    (hfirst : TakenOff first ts mid) (hsecond : TakenOff second mid rest)
    (h : ∀ kinds more, first kinds → second more → spelled (kinds ++ more)) :
    TakenOff spelled ts rest := by
  obtain ⟨used, rfl, hused⟩ := hfirst
  obtain ⟨others, rfl, hothers⟩ := hsecond
  exact ⟨used ++ others, (List.append_assoc _ _ _).symm, by simpa using h _ _ hused hothers⟩

/-- Tokens were taken off behind the first one. -/
theorem TakenOff.cons {inner spelled : List TokenKind → Prop} {t : Token} {ts rest : List Token}
    (hinner : TakenOff inner ts rest) (h : ∀ kinds, inner kinds → spelled (t.kind :: kinds)) :
    TakenOff spelled (t :: ts) rest := by
  have hone : TakenOff (· = [t.kind]) (t :: ts) ts := takenOff_cons rfl
  exact hone.append hinner fun _ kinds heq hkinds => heq ▸ h kinds hkinds

/-- What is read of a kind is one token of that kind. -/
theorem takenOff_of_readKind {kind : TokenKind} {ts : List Token}
    {read : { read : Unit × List Token // read.2.length < ts.length }}
    (h : readKind kind ts = .ok read) : TakenOff (· = [kind]) ts read.1.2 := by
  unfold readKind at h
  split at h
  · simp [unexpected] at h
  · next t rest =>
    split at h
    · next hkind =>
      cases h
      exact takenOff_cons (by rw [hkind])
    · simp [unexpected] at h

/-- What follows the dot is the name of a column. -/
theorem takenOff_of_readColumn {table : String} {ts : List Token}
    {read : { read : Operand × List Token // read.2.length < ts.length }}
    (h : readColumn table ts = .ok read) :
    TakenOff (fun kinds => ∃ name, kinds = [.name name] ∧
      read.1.1 = .column (.qualified table name)) ts read.1.2 := by
  unfold readColumn at h
  split at h
  · simp [unexpected] at h
  · next t rest =>
    split at h
    · next name hkind =>
      cases h
      exact takenOff_cons ⟨name, by rw [hkind], rfl⟩
    · simp [unexpected] at h

/-- What follows a minus sign is a number. -/
theorem takenOff_of_readNegative {ts : List Token}
    {read : { read : Operand × List Token // read.2.length < ts.length }}
    (h : readNegative ts = .ok read) :
    TakenOff (fun kinds => ∃ spelling, kinds = [.number spelling] ∧
      read.1.1 = .literal (.number ("-" ++ spelling))) ts read.1.2 := by
  unfold readNegative at h
  split at h
  · simp [unexpected] at h
  · next t rest =>
    split at h
    · next spelling hkind =>
      cases h
      exact takenOff_cons ⟨spelling, by rw [hkind], rfl⟩
    · simp [unexpected] at h

/-- An operand that is read is spelled by the tokens that are taken off. -/
theorem spellsOperand_of_readOperand {ts : List Token}
    {read : { read : Operand × List Token // read.2.length < ts.length }}
    (h : readOperand ts = .ok read) : TakenOff (SpellsOperand read.1.1) ts read.1.2 := by
  unfold readOperand at h
  split at h
  · simp [unexpected] at h
  · next t rest =>
    split at h
    · next name hkind =>
      split at h
      · next u more =>
        split at h
        · next hdot =>
          obtain ⟨column, hcolumn, h⟩ := bind_eq_ok_iff.mp h
          cases h
          have hfield : TakenOff (fun kinds => SpellsOperand column.1.1 (.name name :: kinds))
              (u :: more) column.1.2 := by
            refine (takenOff_of_readColumn hcolumn).cons ?_
            rintro _ ⟨field, rfl, heq⟩
            rw [heq, hdot]
            exact .qualified name field
          refine hfield.cons fun kinds hkinds => ?_
          rwa [hkind]
        · simp at h
        · cases h
          exact takenOff_cons (hkind ▸ .bare name)
      · cases h
        exact takenOff_cons (hkind ▸ .bare name)
    · next spelling hkind =>
      cases h
      exact takenOff_cons (hkind ▸ .number spelling)
    · next hkind =>
      obtain ⟨operand, hoperand, h⟩ := bind_eq_ok_iff.mp h
      cases h
      refine (takenOff_of_readNegative hoperand).cons ?_
      rintro _ ⟨spelling, rfl, heq⟩
      rw [heq, hkind]
      exact .negative spelling
    · next value hkind =>
      cases h
      exact takenOff_cons (hkind ▸ .string value)
    · next hkind =>
      cases h
      exact takenOff_cons (hkind ▸ .null)
    · simp [unexpected] at h

/-- What follows `IS` is `NULL` or `NOT NULL`. -/
theorem takenOff_of_readNullTest {operand : Operand} {ts : List Token}
    {read : { read : Predicate × List Token // read.2.length < ts.length }}
    (h : readNullTest operand ts = .ok read) :
    TakenOff (fun kinds =>
      kinds = [.keyword .null] ∧ read.1.1 = .isNull operand false ∨
        kinds = [.keyword .not, .keyword .null] ∧ read.1.1 = .isNull operand true)
      ts read.1.2 := by
  unfold readNullTest at h
  split at h
  · simp [unexpected] at h
  · next t rest =>
    split at h
    · next hnot =>
      obtain ⟨null, hnull, h⟩ := bind_eq_ok_iff.mp h
      cases h
      refine (takenOff_of_readKind hnull).cons ?_
      rintro _ rfl
      exact .inr ⟨by rw [hnot], rfl⟩
    · obtain ⟨null, hnull, h⟩ := bind_eq_ok_iff.mp h
      cases h
      obtain ⟨used, heq, hused⟩ := takenOff_of_readKind hnull
      exact ⟨used, heq, .inl ⟨hused, rfl⟩⟩

/-- What follows `NOT` after an operand is `LIKE` and another operand. -/
theorem takenOff_of_readNotLike {left : Operand} {ts : List Token}
    {read : { read : Predicate × List Token // read.2.length < ts.length }}
    (h : readNotLike left ts = .ok read) :
    TakenOff (fun kinds => ∃ right rights, SpellsOperand right rights ∧
      kinds = .keyword .like :: rights ∧ read.1.1 = .not (.compare ⟨left, .like, right⟩))
      ts read.1.2 := by
  obtain ⟨like, hlike, h⟩ := bind_eq_ok_iff.mp h
  obtain ⟨right, hright, h⟩ := bind_eq_ok_iff.mp h
  cases h
  refine (takenOff_of_readKind hlike).append (spellsOperand_of_readOperand hright) ?_
  rintro _ rights rfl hrights
  exact ⟨right.1.1, rights, hrights, rfl, rfl⟩

/-- What follows the first operand makes up a simple predicate with it. -/
theorem spellsSimple_of_readRelation {left : Operand} {ts : List Token}
    {read : { read : Predicate × List Token // read.2.length < ts.length }}
    (h : readRelation left ts = .ok read) :
    TakenOff (fun kinds => ∀ lefts, SpellsOperand left lefts →
      SpellsSimple read.1.1 (lefts ++ kinds)) ts read.1.2 := by
  unfold readRelation at h
  split at h
  · simp [unexpected] at h
  · next t rest =>
    split at h
    · next op hop =>
      obtain ⟨right, hright, h⟩ := bind_eq_ok_iff.mp h
      cases h
      refine (spellsOperand_of_readOperand hright).cons ?_
      intro rights hrights lefts hlefts
      exact .compare hlefts hop hrights
    · split at h
      · next hkind =>
        obtain ⟨test, htest, h⟩ := bind_eq_ok_iff.mp h
        cases h
        refine (takenOff_of_readNullTest htest).cons ?_
        rintro _ (⟨rfl, heq⟩ | ⟨rfl, heq⟩) lefts hlefts
        · rw [heq, hkind]
          exact .isNull hlefts
        · rw [heq, hkind]
          exact .isNotNull hlefts
      · next hkind =>
        obtain ⟨comparison, hcomparison, h⟩ := bind_eq_ok_iff.mp h
        cases h
        refine (takenOff_of_readNotLike hcomparison).cons ?_
        rintro _ ⟨right, rights, hright, rfl, heq⟩ lefts hlefts
        rw [heq, hkind]
        exact .notLike hlefts hright
      · simp [unexpected] at h

/-- A simple predicate that is read is spelled by the tokens that are taken off. -/
theorem spells_of_readSimple {ts : List Token}
    {read : { read : Predicate × List Token // read.2.length < ts.length }}
    (h : readSimple ts = .ok read) : TakenOff (Spells .unary [read.1.1]) ts read.1.2 := by
  obtain ⟨left, hleft, h⟩ := bind_eq_ok_iff.mp h
  obtain ⟨relation, hrelation, h⟩ := bind_eq_ok_iff.mp h
  cases h
  refine (spellsOperand_of_readOperand hleft).append (spellsSimple_of_readRelation hrelation) ?_
  intro lefts kinds hlefts hkinds
  exact .simple (hkinds lefts hlefts)

mutual

/-- A disjunction that is read is spelled by the tokens that are taken off. -/
theorem spells_of_readOr {ts : List Token}
    {read : { read : Predicate × List Token // read.2.length < ts.length }}
    (h : readOr ts = .ok read) : TakenOff (Spells .or [read.1.1]) ts read.1.2 := by
  rw [readOr] at h
  obtain ⟨first, hfirst, h⟩ := bind_eq_ok_iff.mp h
  obtain ⟨others, hothers, h⟩ := bind_eq_ok_iff.mp h
  cases h
  have hless := first.2
  refine (spells_of_readAnd hfirst).append (spells_of_readOrTail hothers) ?_
  intro kinds more hkinds hmore
  exact .or hkinds hmore
termination_by 5 * ts.length + 4
decreasing_by all_goals omega

/-- The conjunctions that are read after the first one are spelled by the tokens that are taken
off. -/
theorem spells_of_readOrTail : ∀ {ts : List Token}
    {read : { read : List Predicate × List Token // read.2.length ≤ ts.length }},
    readOrTail ts = .ok read → TakenOff (Spells .orTail read.1.1) ts read.1.2
  | [], _, h => by
    rw [readOrTail] at h
    cases h
    exact ⟨[], rfl, .orNil⟩
  | t :: rest, _, h => by
    rw [readOrTail] at h
    split at h
    · next hkind =>
      obtain ⟨first, hfirst, h⟩ := bind_eq_ok_iff.mp h
      obtain ⟨others, hothers, h⟩ := bind_eq_ok_iff.mp h
      cases h
      have hless := first.2
      have hboth : TakenOff
          (fun kinds => Spells .orTail (first.1.1 :: others.1.1) (.keyword .or :: kinds)) rest
          others.1.2 := by
        refine (spells_of_readAnd hfirst).append (spells_of_readOrTail hothers) ?_
        intro kinds more hkinds hmore
        exact .orCons hkinds hmore
      refine hboth.cons fun kinds hkinds => ?_
      rwa [hkind]
    · cases h
      exact ⟨[], rfl, .orNil⟩
termination_by ts => 5 * ts.length + 3
decreasing_by all_goals simp only [List.length_cons]; omega

/-- A conjunction that is read is spelled by the tokens that are taken off. -/
theorem spells_of_readAnd {ts : List Token}
    {read : { read : Predicate × List Token // read.2.length < ts.length }}
    (h : readAnd ts = .ok read) : TakenOff (Spells .and [read.1.1]) ts read.1.2 := by
  rw [readAnd] at h
  obtain ⟨first, hfirst, h⟩ := bind_eq_ok_iff.mp h
  obtain ⟨others, hothers, h⟩ := bind_eq_ok_iff.mp h
  cases h
  have hless := first.2
  refine (spells_of_readUnary hfirst).append (spells_of_readAndTail hothers) ?_
  intro kinds more hkinds hmore
  exact .and hkinds hmore
termination_by 5 * ts.length + 2
decreasing_by all_goals omega

/-- The predicates that are read after the first one are spelled by the tokens that are taken
off. -/
theorem spells_of_readAndTail : ∀ {ts : List Token}
    {read : { read : List Predicate × List Token // read.2.length ≤ ts.length }},
    readAndTail ts = .ok read → TakenOff (Spells .andTail read.1.1) ts read.1.2
  | [], _, h => by
    rw [readAndTail] at h
    cases h
    exact ⟨[], rfl, .andNil⟩
  | t :: rest, _, h => by
    rw [readAndTail] at h
    split at h
    · next hkind =>
      obtain ⟨first, hfirst, h⟩ := bind_eq_ok_iff.mp h
      obtain ⟨others, hothers, h⟩ := bind_eq_ok_iff.mp h
      cases h
      have hless := first.2
      have hboth : TakenOff
          (fun kinds => Spells .andTail (first.1.1 :: others.1.1) (.keyword .and :: kinds)) rest
          others.1.2 := by
        refine (spells_of_readUnary hfirst).append (spells_of_readAndTail hothers) ?_
        intro kinds more hkinds hmore
        exact .andCons hkinds hmore
      refine hboth.cons fun kinds hkinds => ?_
      rwa [hkind]
    · cases h
      exact ⟨[], rfl, .andNil⟩
termination_by ts => 5 * ts.length + 1
decreasing_by all_goals simp only [List.length_cons]; omega

/-- A negated, parenthesized or simple predicate that is read is spelled by the tokens that are
taken off. -/
theorem spells_of_readUnary : ∀ {ts : List Token}
    {read : { read : Predicate × List Token // read.2.length < ts.length }},
    readUnary ts = .ok read → TakenOff (Spells .unary [read.1.1]) ts read.1.2
  | [], _, h => by
    rw [readUnary] at h
    exact spells_of_readSimple h
  | t :: rest, _, h => by
    rw [readUnary] at h
    split at h
    · next hkind =>
      obtain ⟨inner, hinner, h⟩ := bind_eq_ok_iff.mp h
      cases h
      refine (spells_of_readUnary hinner).cons ?_
      intro kinds hkinds
      rw [hkind]
      exact .not hkinds
    · split at h
      · next hkind =>
        obtain ⟨inner, hinner, h⟩ := bind_eq_ok_iff.mp h
        obtain ⟨closing, hclosing, h⟩ := bind_eq_ok_iff.mp h
        cases h
        have hboth : TakenOff
            (fun kinds => Spells .unary [inner.1.1] (.symbol .leftParen :: kinds)) rest
            closing.1.2 := by
          refine (spells_of_readOr hinner).append (takenOff_of_readKind hclosing) ?_
          rintro kinds _ hkinds rfl
          exact .parens hkinds
        refine hboth.cons fun kinds hkinds => ?_
        rwa [hkind]
      · exact spells_of_readSimple h
termination_by ts => 5 * ts.length
decreasing_by all_goals simp only [List.length_cons]; omega

end

end Parser

/-- A predicate that some tokens make up is spelled by all of them up to their end. -/
theorem Predicate.spells_of_ofTokens {ts : List Token} {predicate : Predicate}
    (h : ofTokens ts = .ok predicate) :
    ∃ used t rest, ts = used ++ t :: rest ∧ t.kind = .finish ∧
      Parser.Spells .or [predicate] (used.map (·.kind)) := by
  obtain ⟨read, hread, h⟩ := bind_eq_ok_iff.mp h
  split at h
  · next hfinish =>
    cases h
    obtain ⟨used, heq, hspells⟩ := Parser.spells_of_readOr hread
    obtain ⟨t, hhead, hkind⟩ := Option.map_eq_some_iff.mp hfinish
    obtain ⟨rest, hrest⟩ := List.head?_eq_some_iff.mp hhead
    exact ⟨used, t, rest, by rw [heq, hrest], hkind, hspells⟩
  · simp [Parser.unexpected] at h

/-- A predicate that some tokens before their only end make up is spelled by all of them. -/
theorem Predicate.spells_of_ofTokens_append {ts : List Token} {last : Token} {predicate : Predicate}
    (hlast : last.kind = .finish) (hts : ∀ t ∈ ts, t.kind ≠ .finish)
    (h : ofTokens (ts ++ [last]) = .ok predicate) :
    Parser.Spells .or [predicate] (ts.map (·.kind)) := by
  obtain ⟨used, t, rest, hsplit, hfinish, hspells⟩ := spells_of_ofTokens h
  have hkinds := congrArg (List.map fun t : Token => t.kind) hsplit
  rw [List.map_append, List.map_append, List.map_singleton, List.map_cons, hlast, hfinish] at hkinds
  have hmem : .finish ∉ ts.map (·.kind) := by simpa using hts
  rwa [((List.append_cons_inj_of_notMem hmem List.not_mem_nil).mp hkinds).1]

end RelPlan
