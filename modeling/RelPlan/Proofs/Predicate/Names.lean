import RelPlan.Proofs.Predicate.Columns

/-!
# Names in conditions

The columns of a condition are found among its tokens, so their parts are names among these, and a
name is a word of letters, digits and underscores. So no part of a column has a dot in it, and the
text of a column says which part is which.
-/

namespace RelPlan

namespace ColumnRef

/-- Whether the parts of a column are names among some tokens. -/
def IsNamedIn (kinds : List TokenKind) (column : ColumnRef) : Prop :=
  .name column.name ∈ kinds ∧ ∀ table ∈ column.table, .name table ∈ kinds

/-- Whether no part of a column has a dot in it. -/
def IsUndotted (column : ColumnRef) : Prop :=
  '.' ∉ column.name.toList ∧ ∀ table ∈ column.table, '.' ∉ table.toList

/-- Whether the column is said to belong to one of some tables. -/
def IsOf (tables : List String) (column : ColumnRef) : Prop :=
  ∃ table ∈ tables, column.table = some table

instance (tables : List String) (column : ColumnRef) : Decidable (column.IsOf tables) :=
  inferInstanceAs (Decidable (∃ table ∈ tables, column.table = some table))

/-- Names among some tokens are among any tokens that include these. -/
theorem IsNamedIn.mono {kinds others : List TokenKind} {column : ColumnRef}
    (h : column.IsNamedIn kinds) (hsub : kinds ⊆ others) : column.IsNamedIn others :=
  ⟨hsub h.1, fun table htable => hsub (h.2 table htable)⟩

end ColumnRef

namespace Condition

/-- The columns that are picked out of some tokens are named by these. -/
theorem isNamedIn_of_mem_scanColumns {kinds : List TokenKind} {column : ColumnRef}
    (h : column ∈ scanColumns kinds) : column.IsNamedIn kinds := by
  fun_induction scanColumns kinds with
  | case1 => simp at h
  | case2 table name rest ih =>
    rcases List.mem_cons.mp h with rfl | hmem
    · simp [ColumnRef.IsNamedIn, ColumnRef.qualified]
    · exact (ih hmem).mono fun kind hkind => by simp [hkind]
  | case3 name rest ih => exact (ih h).mono fun kind hkind => by simp [hkind]
  | case4 name rest _ _ ih =>
    rcases List.mem_cons.mp h with rfl | hmem
    · simp [ColumnRef.IsNamedIn, ColumnRef.bare]
    · exact (ih hmem).mono fun kind hkind => by simp [hkind]
  | case5 kind rest _ _ _ ih => exact (ih h).mono fun kind hkind => by simp [hkind]

end Condition

/-! ## Names of texts -/

namespace Lexer

/-- A name that is read off the front of a text is a word. -/
theorem isNamePart_of_lexeme {c : Char} {rest : List Char} {name : String}
    (h : (lexeme c rest).kind = .name name) : ∀ d ∈ name.toList, isNamePart d = true := by
  have hread := isLexeme_lexeme c rest
  generalize lexeme c rest = read at h hread
  cases hread with
  | word hstart =>
    rcases wordKind_cases (c :: rest.takeWhile isNamePart) with ⟨_, heq⟩ | heq
    · simp [heq] at h
    · obtain rfl := TokenKind.name.inj (heq.symm.trans h)
      rw [String.toList_ofList]
      intro d hd
      rcases List.mem_cons.mp hd with rfl | hmem
      · simp [isNamePart, hstart]
      · exact List.all_eq_true.mp List.all_takeWhile d hmem
  | _ => simp at h

/-- A name among the tokens of a text is a word. -/
theorem isNamePart_of_mem_tokensFrom {offset : Nat} {cs : List Char} {name : String}
    (h : .name name ∈ (tokensFrom offset cs).map (·.kind)) :
    ∀ d ∈ name.toList, isNamePart d = true := by
  fun_induction tokensFrom offset cs with
  | case1 offset => simp at h
  | case2 offset c rest hblank ih => exact ih h
  | case3 offset c rest hblank read ih =>
    rw [List.map_cons] at h
    cases List.mem_cons.mp h with
    | inl heq => exact isNamePart_of_lexeme heq.symm
    | inr hmem => exact ih hmem

/-- Columns that are named by the tokens of a text have no dots in their parts. -/
theorem isUndotted_of_isNamedIn {cs : List Char} {column : ColumnRef}
    (h : column.IsNamedIn ((tokens cs).map (·.kind))) : column.IsUndotted := by
  have hdot : isNamePart '.' ≠ true := by decide
  refine ⟨fun hname => hdot ?_, fun table htable hmem => hdot ?_⟩
  · exact isNamePart_of_mem_tokensFrom h.1 _ hname
  · exact isNamePart_of_mem_tokensFrom (h.2 table htable) _ hmem

end Lexer

namespace Condition

/-- The columns of a condition have no dots in their parts. -/
theorem isUndotted_of_ofChars {text : List Char} {column : ColumnRef}
    (h : column ∈ (ofChars text).columns) : column.IsUndotted := by
  rw [columns_ofChars, ← scanColumns_append_finish, ← Lexer.map_kind_tokensFrom 0] at h
  exact Lexer.isUndotted_of_isNamedIn (isNamedIn_of_mem_scanColumns h)

end Condition

end RelPlan
