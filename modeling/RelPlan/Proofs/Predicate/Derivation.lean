import RelPlan.Proofs.Predicate.Completeness

/-!
# Derivations of predicates

The grammar of predicates as trees, with one constructor for each of its rules, that say both which
tokens they derive and which predicate they stand for. The grammar is unambiguous: tokens have at
most one derivation (`Derivation.eq_of_tokens_eq`). The parser reads just the tokens that have one,
as the predicate that it stands for (`Predicate.ofTokens_eq_derivation`).
-/

namespace RelPlan

namespace Parser

open Condition

/-! ## The rules of the grammar -/

/-- How a column or a constant is derived. -/
inductive OperandPhrase where
  | bare (name : String)
  | qualified (table name : String)
  | number (spelling : String)
  | negative (spelling : String)
  | string (value : String)
  | null

/-- How a comparison or a test for null is derived. -/
inductive SimplePhrase where
  | compare (left : OperandPhrase) (op : CompareOp) (right : OperandPhrase)
  | notLike (left right : OperandPhrase)
  | isNull (operand : OperandPhrase)
  | isNotNull (operand : OperandPhrase)

/-- How the predicates at some level are derived. -/
inductive Derivation : Level → Type where
  | or (first : Derivation .and) (others : Derivation .orTail) : Derivation .or
  | orNil : Derivation .orTail
  | orCons (first : Derivation .and) (others : Derivation .orTail) : Derivation .orTail
  | and (first : Derivation .unary) (others : Derivation .andTail) : Derivation .and
  | andNil : Derivation .andTail
  | andCons (first : Derivation .unary) (others : Derivation .andTail) : Derivation .andTail
  | not (inner : Derivation .unary) : Derivation .unary
  | parens (inner : Derivation .or) : Derivation .unary
  | simple (phrase : SimplePhrase) : Derivation .unary

/-! ## What is derived -/

/-- The tokens of an operand. -/
def OperandPhrase.tokens : OperandPhrase → List TokenKind
  | bare name => [.name name]
  | qualified table name => [.name table, .symbol .dot, .name name]
  | number spelling => [.number spelling]
  | negative spelling => [.symbol .minus, .number spelling]
  | string value => [.string value]
  | null => [.keyword .null]

/-- The token of a comparison. -/
def signToken : CompareOp → TokenKind
  | .eq => .symbol .equals
  | .notEq => .symbol .notEqual
  | .less => .symbol .less
  | .lessEq => .symbol .lessEqual
  | .greater => .symbol .greater
  | .greaterEq => .symbol .greaterEqual
  | .like => .keyword .like

/-- The operand that a simple predicate begins with. -/
def SimplePhrase.left : SimplePhrase → OperandPhrase
  | compare left _ _ | notLike left _ | isNull left | isNotNull left => left

/-- The tokens of a simple predicate behind its first operand. -/
def SimplePhrase.relation : SimplePhrase → List TokenKind
  | compare _ op right => signToken op :: right.tokens
  | notLike _ right => .keyword .not :: .keyword .like :: right.tokens
  | isNull _ => [.keyword .is, .keyword .null]
  | isNotNull _ => [.keyword .is, .keyword .not, .keyword .null]

/-- The tokens of a simple predicate. -/
def SimplePhrase.tokens (phrase : SimplePhrase) : List TokenKind :=
  phrase.left.tokens ++ phrase.relation

/-- The tokens that are derived. -/
def Derivation.tokens {level : Level} : Derivation level → List TokenKind
  | or first others => first.tokens ++ others.tokens
  | orNil => []
  | orCons first others => .keyword .or :: first.tokens ++ others.tokens
  | and first others => first.tokens ++ others.tokens
  | andNil => []
  | andCons first others => .keyword .and :: first.tokens ++ others.tokens
  | not inner => .keyword .not :: inner.tokens
  | parens inner => .symbol .leftParen :: inner.tokens ++ [.symbol .rightParen]
  | simple phrase => phrase.tokens

/-- The operand that is derived. -/
def OperandPhrase.operand : OperandPhrase → Operand
  | bare name => .column ⟨none, name⟩
  | qualified table name => .column ⟨some table, name⟩
  | number spelling => .literal (.number spelling)
  | negative spelling => .literal (.number ("-" ++ spelling))
  | string value => .literal (.string value)
  | null => .literal .null

/-- The simple predicate that is derived. -/
def SimplePhrase.predicate : SimplePhrase → Predicate
  | compare left op right => .compare ⟨left.operand, op, right.operand⟩
  | notLike left right => .not (.compare ⟨left.operand, .like, right.operand⟩)
  | isNull operand => .isNull operand.operand false
  | isNotNull operand => .isNull operand.operand true

/-- What a derivation at some level stands for: a predicate, or those of a tail. -/
def Level.Meaning : Level → Type
  | orTail | andTail => List Predicate
  | or | and | unary => Predicate

/-- A single item stands for itself. -/
def collapse (combine : List Predicate → Predicate) : List Predicate → Predicate
  | [item] => item
  | items => combine items

/-- What the derivation stands for. Parentheses leave no trace. -/
def Derivation.meaning {level : Level} : Derivation level → level.Meaning
  | or first others => collapse .or (first.meaning :: others.meaning)
  | orNil => ([] : List Predicate)
  | orCons first others => (first.meaning :: others.meaning : List Predicate)
  | and first others => collapse .and (first.meaning :: others.meaning)
  | andNil => ([] : List Predicate)
  | andCons first others => (first.meaning :: others.meaning : List Predicate)
  | not inner => Predicate.not inner.meaning
  | parens inner => inner.meaning
  | simple phrase => phrase.predicate

/-- The predicate that the tokens of a derivation stand for. -/
def Derivation.predicate (derivation : Derivation .or) : Predicate := derivation.meaning

/-! ## Derivations and spellings -/

/-- A token is that of a comparison exactly if it is read as that comparison. -/
theorem compareOp?_eq_some_iff {sign : TokenKind} {op : CompareOp} :
    compareOp? sign = some op ↔ sign = signToken op := by
  constructor
  · intro h
    unfold compareOp? at h
    split at h <;> cases h <;> rfl
  · rintro rfl
    cases op <;> rfl

/-- An operand is spelled by the tokens that are derived with it. -/
theorem spellsOperand_iff {operand : Operand} {kinds : List TokenKind} :
    SpellsOperand operand kinds ↔
      ∃ phrase : OperandPhrase, phrase.operand = operand ∧ phrase.tokens = kinds := by
  constructor
  · intro h
    cases h with
    | qualified table name => exact ⟨.qualified table name, rfl, rfl⟩
    | bare name => exact ⟨.bare name, rfl, rfl⟩
    | number spelling => exact ⟨.number spelling, rfl, rfl⟩
    | negative spelling => exact ⟨.negative spelling, rfl, rfl⟩
    | string value => exact ⟨.string value, rfl, rfl⟩
    | null => exact ⟨.null, rfl, rfl⟩
  · rintro ⟨phrase, rfl, rfl⟩
    cases phrase with
    | bare name => exact .bare name
    | qualified table name => exact .qualified table name
    | number spelling => exact .number spelling
    | negative spelling => exact .negative spelling
    | string value => exact .string value
    | null => exact .null

/-- A simple predicate is spelled by the tokens that are derived with it. -/
theorem spellsSimple_iff {predicate : Predicate} {kinds : List TokenKind} :
    SpellsSimple predicate kinds ↔
      ∃ phrase : SimplePhrase, phrase.predicate = predicate ∧ phrase.tokens = kinds := by
  have hoperand (phrase : OperandPhrase) : SpellsOperand phrase.operand phrase.tokens :=
    spellsOperand_iff.mpr ⟨phrase, rfl, rfl⟩
  constructor
  · intro h
    cases h with
    | compare hleft hop hright =>
      obtain ⟨left, rfl, rfl⟩ := spellsOperand_iff.mp hleft
      obtain ⟨right, rfl, rfl⟩ := spellsOperand_iff.mp hright
      obtain rfl := compareOp?_eq_some_iff.mp hop
      exact ⟨.compare left _ right, rfl, rfl⟩
    | notLike hleft hright =>
      obtain ⟨left, rfl, rfl⟩ := spellsOperand_iff.mp hleft
      obtain ⟨right, rfl, rfl⟩ := spellsOperand_iff.mp hright
      exact ⟨.notLike left right, rfl, rfl⟩
    | isNull h =>
      obtain ⟨operand, rfl, rfl⟩ := spellsOperand_iff.mp h
      exact ⟨.isNull operand, rfl, rfl⟩
    | isNotNull h =>
      obtain ⟨operand, rfl, rfl⟩ := spellsOperand_iff.mp h
      exact ⟨.isNotNull operand, rfl, rfl⟩
  · rintro ⟨phrase, rfl, rfl⟩
    cases phrase with
    | compare left op right =>
      exact .compare (hoperand left) (compareOp?_eq_some_iff.mpr rfl) (hoperand right)
    | notLike left right => exact .notLike (hoperand left) (hoperand right)
    | isNull operand => exact .isNull (hoperand operand)
    | isNotNull operand => exact .isNotNull (hoperand operand)

/-- The predicates that a derivation at some level stands for; only a tail has not exactly one. -/
def Level.items : (level : Level) → level.Meaning → List Predicate
  | orTail, predicates | andTail, predicates => predicates
  | or, predicate | and, predicate | unary, predicate => [predicate]

/-- A derived disjunction stands for the disjunction of what its parts stand for. -/
theorem Derivation.meaning_or (first : Derivation .and) (others : Derivation .orTail) :
    (Derivation.or first others).meaning = disjunction first.meaning others.meaning := by
  rw [meaning]
  generalize others.meaning = items
  cases items <;> rfl

/-- A derived conjunction stands for the conjunction of what its parts stand for. -/
theorem Derivation.meaning_and (first : Derivation .unary) (others : Derivation .andTail) :
    (Derivation.and first others).meaning = conjunction first.meaning others.meaning := by
  rw [meaning]
  generalize others.meaning = items
  cases items <;> rfl

/-- The tokens of a derivation spell what it stands for. -/
theorem Derivation.spells {level : Level} (derivation : Derivation level) :
    Spells level (level.items derivation.meaning) derivation.tokens := by
  induction derivation with
  | or first others hfirst hothers =>
    rw [meaning_or]
    exact .or hfirst hothers
  | orNil => exact .orNil
  | orCons first others hfirst hothers => exact .orCons hfirst hothers
  | and first others hfirst hothers =>
    rw [meaning_and]
    exact .and hfirst hothers
  | andNil => exact .andNil
  | andCons first others hfirst hothers => exact .andCons hfirst hothers
  | not inner hinner => exact .not hinner
  | parens inner hinner => exact .parens hinner
  | simple phrase => exact .simple (spellsSimple_iff.mpr ⟨phrase, rfl, rfl⟩)

/-- Predicates are spelled by the tokens of a derivation that stands for them. -/
theorem exists_derivation_of_spells {level : Level} {predicates : List Predicate}
    {kinds : List TokenKind} (h : Spells level predicates kinds) :
    ∃ derivation : Derivation level,
      level.items derivation.meaning = predicates ∧ derivation.tokens = kinds := by
  induction h with
  | or _ _ hfirst hothers =>
    obtain ⟨first, hfirst, rfl⟩ := hfirst
    obtain ⟨others, rfl, rfl⟩ := hothers
    obtain rfl := List.singleton_injective hfirst
    exact ⟨.or first others, congrArg _ (Derivation.meaning_or _ _), rfl⟩
  | orNil => exact ⟨.orNil, rfl, rfl⟩
  | orCons _ _ hfirst hothers =>
    obtain ⟨first, hfirst, rfl⟩ := hfirst
    obtain ⟨others, rfl, rfl⟩ := hothers
    obtain rfl := List.singleton_injective hfirst
    exact ⟨.orCons first others, rfl, rfl⟩
  | and _ _ hfirst hothers =>
    obtain ⟨first, hfirst, rfl⟩ := hfirst
    obtain ⟨others, rfl, rfl⟩ := hothers
    obtain rfl := List.singleton_injective hfirst
    exact ⟨.and first others, congrArg _ (Derivation.meaning_and _ _), rfl⟩
  | andNil => exact ⟨.andNil, rfl, rfl⟩
  | andCons _ _ hfirst hothers =>
    obtain ⟨first, hfirst, rfl⟩ := hfirst
    obtain ⟨others, rfl, rfl⟩ := hothers
    obtain rfl := List.singleton_injective hfirst
    exact ⟨.andCons first others, rfl, rfl⟩
  | not _ hinner =>
    obtain ⟨inner, hinner, rfl⟩ := hinner
    obtain rfl := List.singleton_injective hinner
    exact ⟨.not inner, rfl, rfl⟩
  | parens _ hinner =>
    obtain ⟨inner, hinner, rfl⟩ := hinner
    exact ⟨.parens inner, hinner, rfl⟩
  | simple hsimple =>
    obtain ⟨phrase, rfl, rfl⟩ := spellsSimple_iff.mp hsimple
    exact ⟨.simple phrase, rfl, rfl⟩

/-! ## Unambiguity -/

variable {rest more : List TokenKind}

/-- An operand before a token that ends it is known by its tokens. -/
theorem OperandPhrase.eq_of_append_eq {first second : OperandPhrase}
    (hrest : ∀ kind ∈ rest.head?, EndsColumn kind) (hmore : ∀ kind ∈ more.head?, EndsColumn kind)
    (h : first.tokens ++ rest = second.tokens ++ more) : first = second ∧ rest = more := by
  have hdot {kinds : List TokenKind} : ¬ ∀ kind ∈ (.symbol .dot :: kinds).head?, EndsColumn kind :=
    fun hends => (hends _ rfl).ne_dot rfl
  cases first <;> cases second <;> simp only [tokens, List.cons_append, List.nil_append,
    List.cons.injEq, TokenKind.name.injEq, TokenKind.number.injEq, TokenKind.string.injEq,
    reduceCtorEq, false_and, true_and] at h
  case bare.bare | number.number | negative.negative | string.string =>
    exact ⟨by rw [h.1], h.2⟩
  case qualified.qualified => exact ⟨by rw [h.1, h.2.1], h.2.2⟩
  case null.null => exact ⟨rfl, h⟩
  case bare.qualified => exact absurd (h.2 ▸ hrest) hdot
  case qualified.bare => exact absurd (h.2 ▸ hmore) hdot

/-- No two comparisons have the same token. -/
theorem signToken_injective : Function.Injective signToken := by
  intro first second h
  cases first <;> cases second <;> first | rfl | simp [signToken] at h

/-- The sign of a comparison is neither `NOT` nor `IS`. -/
theorem signToken_ne (op : CompareOp) :
    signToken op ≠ .keyword .not ∧ signToken op ≠ .keyword .is := by
  cases op <;> simp [signToken]

/-- What is behind the first operand of a simple predicate ends that operand. -/
theorem SimplePhrase.endsColumn_relation (phrase : SimplePhrase) (kinds : List TokenKind) :
    ∀ kind ∈ (phrase.relation ++ kinds).head?, EndsColumn kind := by
  cases phrase with
  | compare _ op _ =>
    simpa [relation] using endsColumn_of_compareOp? (compareOp?_eq_some_iff.mpr rfl)
  | notLike | isNull | isNotNull => simp [relation, endsColumn_keyword]

/-- A simple predicate before a token that ends it is known by its tokens. -/
theorem SimplePhrase.eq_of_append_eq {first second : SimplePhrase}
    (hrest : ∀ kind ∈ rest.head?, EndsColumn kind) (hmore : ∀ kind ∈ more.head?, EndsColumn kind)
    (h : first.tokens ++ rest = second.tokens ++ more) : first = second ∧ rest = more := by
  rw [tokens, tokens, List.append_assoc, List.append_assoc] at h
  obtain ⟨hleft, hrelation⟩ := OperandPhrase.eq_of_append_eq (first.endsColumn_relation rest)
    (second.endsColumn_relation more) h
  clear h
  cases first <;> cases second <;> simp only [left, relation, List.cons_append, List.cons.injEq,
    signToken_ne, (signToken_ne _).1.symm, (signToken_ne _).2.symm, List.nil_append,
    TokenKind.keyword.injEq, reduceCtorEq, true_and, false_and, and_false] at hleft hrelation
  case compare.compare =>
    obtain ⟨hright, hbehind⟩ := OperandPhrase.eq_of_append_eq hrest hmore hrelation.2
    rw [hleft, hright, signToken_injective hrelation.1]
    exact ⟨rfl, hbehind⟩
  case notLike.notLike =>
    obtain ⟨hright, hbehind⟩ := OperandPhrase.eq_of_append_eq hrest hmore hrelation
    rw [hleft, hright]
    exact ⟨rfl, hbehind⟩
  case isNull.isNull | isNotNull.isNotNull =>
    rw [hleft]
    exact ⟨rfl, hrelation⟩

/-- A simple predicate begins neither with `NOT` nor with a parenthesis. -/
theorem SimplePhrase.tokens_ne_cons (phrase : SimplePhrase) {kind : TokenKind}
    (hkind : kind = .keyword .not ∨ kind = .symbol .leftParen) (kinds : List TokenKind) :
    phrase.tokens ++ rest ≠ kind :: kinds := by
  obtain ⟨first, others, heq, hnot, hparen⟩ :=
    exists_cons_of_spellsSimple (spellsSimple_iff.mpr ⟨phrase, rfl, rfl⟩)
  rw [heq]
  rintro h
  obtain ⟨rfl, -⟩ := List.cons.inj h
  exact hkind.elim hnot hparen

/-- What ends a disjunction does not begin with an `OR`. -/
theorem ne_or_cons_of_ends (hends : ∀ kind ∈ rest.head?, Level.orTail.Ends kind) :
    rest ≠ .keyword .or :: more := by
  rintro rfl
  exact (hends _ rfl).2.2 rfl

/-- What ends a conjunction does not begin with an `AND`. -/
theorem ne_and_cons_of_ends (hends : ∀ kind ∈ rest.head?, Level.andTail.Ends kind) :
    rest ≠ .keyword .and :: more := by
  rintro rfl
  exact (hends _ rfl).2 rfl

/-- A derivation before a token that ends it is known by its tokens. -/
theorem Derivation.eq_of_append_eq {level : Level} {first second : Derivation level}
    (hrest : ∀ kind ∈ rest.head?, level.Ends kind) (hmore : ∀ kind ∈ more.head?, level.Ends kind)
    (h : first.tokens ++ rest = second.tokens ++ more) : first = second ∧ rest = more := by
  induction first generalizing rest more with
  | or first others ihfirst ihothers =>
    cases second with
    | or second seconds =>
      rw [tokens, tokens, List.append_assoc, List.append_assoc] at h
      obtain ⟨rfl, hbehind⟩ := ihfirst (ends_orTail_append others.spells hrest)
        (ends_orTail_append seconds.spells hmore) h
      obtain ⟨rfl, rfl⟩ := ihothers hrest hmore hbehind
      exact ⟨rfl, rfl⟩
  | orNil =>
    cases second with
    | orNil => exact ⟨rfl, h⟩
    | orCons second seconds => exact absurd h (ne_or_cons_of_ends hrest)
  | orCons first others ihfirst ihothers =>
    cases second with
    | orNil => exact absurd h.symm (ne_or_cons_of_ends hmore)
    | orCons second seconds =>
      simp only [tokens, List.cons_append, List.append_assoc, List.cons.injEq, true_and] at h
      obtain ⟨rfl, hbehind⟩ := ihfirst (ends_orTail_append others.spells hrest)
        (ends_orTail_append seconds.spells hmore) h
      obtain ⟨rfl, rfl⟩ := ihothers hrest hmore hbehind
      exact ⟨rfl, rfl⟩
  | and first others ihfirst ihothers =>
    cases second with
    | and second seconds =>
      rw [tokens, tokens, List.append_assoc, List.append_assoc] at h
      obtain ⟨rfl, hbehind⟩ := ihfirst (ends_andTail_append others.spells hrest)
        (ends_andTail_append seconds.spells hmore) h
      obtain ⟨rfl, rfl⟩ := ihothers hrest hmore hbehind
      exact ⟨rfl, rfl⟩
  | andNil =>
    cases second with
    | andNil => exact ⟨rfl, h⟩
    | andCons second seconds => exact absurd h (ne_and_cons_of_ends hrest)
  | andCons first others ihfirst ihothers =>
    cases second with
    | andNil => exact absurd h.symm (ne_and_cons_of_ends hmore)
    | andCons second seconds =>
      simp only [tokens, List.cons_append, List.append_assoc, List.cons.injEq, true_and] at h
      obtain ⟨rfl, hbehind⟩ := ihfirst (ends_andTail_append others.spells hrest)
        (ends_andTail_append seconds.spells hmore) h
      obtain ⟨rfl, rfl⟩ := ihothers hrest hmore hbehind
      exact ⟨rfl, rfl⟩
  | not inner ihinner =>
    cases second with
    | not other =>
      obtain ⟨rfl, rfl⟩ := ihinner hrest hmore (List.cons.inj h).2
      exact ⟨rfl, rfl⟩
    | parens other => simp [tokens] at h
    | simple phrase => exact absurd h.symm (phrase.tokens_ne_cons (.inl rfl) _)
  | parens inner ihinner =>
    cases second with
    | not other => simp [tokens] at h
    | parens other =>
      simp only [tokens, List.cons_append, List.append_assoc, List.cons.injEq, true_and,
        List.nil_append] at h
      obtain ⟨rfl, hbehind⟩ := ihinner (ends_rightParen _) (ends_rightParen _) h
      exact ⟨rfl, (List.cons.inj hbehind).2⟩
    | simple phrase => exact absurd h.symm (phrase.tokens_ne_cons (.inr rfl) _)
  | simple phrase =>
    cases second with
    | not other => exact absurd h (phrase.tokens_ne_cons (.inl rfl) _)
    | parens other => exact absurd h (phrase.tokens_ne_cons (.inr rfl) _)
    | simple other =>
      obtain ⟨rfl, hbehind⟩ := SimplePhrase.eq_of_append_eq hrest hmore h
      exact ⟨rfl, hbehind⟩

/-- The grammar is unambiguous. -/
theorem Derivation.eq_of_tokens_eq {level : Level} {first second : Derivation level}
    (h : first.tokens = second.tokens) : first = second := by
  have hnil : ∀ kind ∈ ([] : List TokenKind).head?, level.Ends kind := by simp
  exact (eq_of_append_eq hnil hnil (congrArg (· ++ []) h)).1

end Parser

/-- The parser succeeds on the tokens before their only end if and only if the grammar derives them,
and it gives the predicate that their derivation stands for, of which there is only one. -/
theorem Predicate.ofTokens_eq_derivation {ts : List Token} {last : Token}
    (hlast : last.kind = .finish) (hts : ∀ t ∈ ts, t.kind ≠ .finish) :
    ((∃ predicate, ofTokens (ts ++ [last]) = .ok predicate) ↔
        ∃ derivation : Parser.Derivation .or, derivation.tokens = ts.map (·.kind)) ∧
      ∀ derivation : Parser.Derivation .or, derivation.tokens = ts.map (·.kind) →
        ofTokens (ts ++ [last]) = .ok derivation.predicate ∧
          ∀ other : Parser.Derivation .or, other.tokens = ts.map (·.kind) → other = derivation := by
  have hread (derivation : Parser.Derivation .or) (htokens : derivation.tokens = ts.map (·.kind)) :
      ofTokens (ts ++ [last]) = .ok derivation.predicate := by
    have hspells := derivation.spells
    rw [htokens] at hspells
    exact ofTokens_of_spells hspells hlast
  refine ⟨⟨?_, ?_⟩, ?_⟩
  · rintro ⟨predicate, hpredicate⟩
    obtain ⟨derivation, -, htokens⟩ := Parser.exists_derivation_of_spells
      (spells_of_ofTokens_append hlast hts hpredicate)
    exact ⟨derivation, htokens⟩
  · rintro ⟨derivation, htokens⟩
    exact ⟨derivation.predicate, hread derivation htokens⟩
  · intro derivation htokens
    exact ⟨hread derivation htokens, fun other hother =>
      Parser.Derivation.eq_of_tokens_eq (hother.trans htokens.symm)⟩

/-- The tokens of a predicate with each use of `NOT`, without their end. -/
def Parser.negations : List Token :=
  (tokenize "NOT (A.X IS NOT NULL OR B NOT LIKE 'F') AND C = -5").dropLast

/-- How these tokens are derived. -/
def Parser.Derivation.negations : Derivation .or :=
  .or (.and (.not (.parens (.or (.and (.simple (.isNotNull (.qualified "A" "X"))) .andNil)
          (.orCons (.and (.simple (.notLike (.bare "B") (.string "F"))) .andNil) .orNil))))
        (.andCons (.simple (.compare (.bare "C") .eq (.negative "5"))) .andNil))
    .orNil

/-- `NOT` before a predicate, in a test for null and before `LIKE` is read as what it is. -/
theorem Predicate.ofTokens_negations :
    (∀ t ∈ Parser.negations, t.kind ≠ .finish) ∧
      ofTokens (Parser.negations ++ [⟨.finish, "", 50⟩]) = .ok
        (.and [.not (.or [.isNull (.column (.qualified "A" "X")) true,
            .not (.compare ⟨.column (.bare "B"), .like, .literal (.string "F")⟩)]),
          .compare ⟨.column (.bare "C"), .eq, .literal (.number "-5")⟩]) := by
  have hfinish : ∀ t ∈ Parser.negations, t.kind ≠ .finish := by decide +kernel
  have htokens : Parser.Derivation.negations.tokens = Parser.negations.map (·.kind) := by
    decide +kernel
  exact ⟨hfinish, ((ofTokens_eq_derivation rfl hfinish).2 _ htokens).1⟩

end RelPlan
