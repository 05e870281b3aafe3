import RelPlan.Plan.Basic
import RelPlan.Proofs.Optimizer.Moves
import RelPlan.Proofs.Predicate.Equivalence
import RelPlan.Proofs.Query.Written

/-!
# Tables that are there when a condition is tested

Joins are built from left to right, so the condition of a join can only be about the first
table, the tables of joins before it and its own table. `Query.WellScoped` says this of a query
and `Plan.WellScoped` of a plan. Moves keep it if the tables of the query are distinct and its
condition is about tables of the query: the join to which an equality moves is of one of its two
tables, and the other one is there before (`other_mem_of_chooseJoin?`).
-/

namespace RelPlan

/-- Whether the columns of some conjuncts that name a table name one of the given tables. -/
def Conjunction.IsAbout (conjunction : Conjunction) (tables : List String) : Prop :=
  ∀ predicate ∈ conjunction, ∀ table ∈ predicate.tables.toList, table ∈ tables

instance (conjunction : Conjunction) (tables : List String) :
    Decidable (conjunction.IsAbout tables) :=
  inferInstanceAs
    (Decidable (∀ predicate ∈ conjunction, ∀ table ∈ predicate.tables.toList, table ∈ tables))

/-- Whether each of some joins has a condition that is only about tables that are there when it
is tested: the given ones, those of the joins before it, and its own. -/
def Join.WellScoped (there : List String) : List Join → Prop
  | [] => True
  | join :: joins =>
    join.condition.IsAbout (there ++ [join.table]) ∧ WellScoped (there ++ [join.table]) joins

instance Join.decidableWellScoped : ∀ (there : List String) (joins : List Join),
    Decidable (WellScoped there joins)
  | _, [] => .isTrue trivial
  | there, join :: joins =>
    have := decidableWellScoped (there ++ [join.table]) joins
    inferInstanceAs (Decidable (_ ∧ _))

/-- Whether the conditions of the joins are only about tables that are there when they are
tested. -/
def Query.WellScoped (query : Query) : Prop := Join.WellScoped [query.source.table] query.joins

instance (query : Query) : Decidable query.WellScoped :=
  inferInstanceAs (Decidable (Join.WellScoped _ _))

namespace Plan

/-- The tables of a plan from left to right. -/
def tables : Plan → List String
  | relation table => [table]
  | selection _ input => input.tables
  | projection _ input => input.tables
  | join left right _ => left.tables ++ right.tables
  | product left right => left.tables ++ right.tables

/-- Whether every condition in a plan is only about the tables below it. -/
def WellScoped : Plan → Prop
  | relation _ => True
  | selection condition input => condition.IsAbout input.tables ∧ input.WellScoped
  | projection _ input => input.WellScoped
  | join left right condition =>
    condition.IsAbout (left.tables ++ right.tables) ∧ left.WellScoped ∧ right.WellScoped
  | product left right => left.WellScoped ∧ right.WellScoped

end Plan

namespace Conjunction

@[simp] theorem isAbout_nil (tables : List String) : IsAbout [] tables := by
  simp [IsAbout]

@[simp] theorem isAbout_append {first second : Conjunction} {tables : List String} :
    (first ++ second).IsAbout tables ↔ first.IsAbout tables ∧ second.IsAbout tables := by
  simp [IsAbout, or_imp, forall_and]

/-- Conjuncts that are about some tables are about any tables that include these. -/
theorem IsAbout.mono {conjunction : Conjunction} {tables others : List String}
    (h : conjunction.IsAbout tables) (hsub : tables ⊆ others) : conjunction.IsAbout others :=
  fun predicate hpredicate table htable => hsub (h predicate hpredicate table htable)

/-- A part of a conjunction is about the tables that the conjunction is about. -/
theorem IsAbout.of_subset {conjunction part : Conjunction} {tables : List String}
    (h : conjunction.IsAbout tables) (hsub : part ⊆ conjunction) : part.IsAbout tables :=
  fun predicate hpredicate => h predicate (hsub hpredicate)

/-- Pushing a predicate that is about some tables keeps the conjunction about them. -/
theorem IsAbout.pushUnique {conjunction : Conjunction} {predicate : Predicate}
    {tables : List String} (h : conjunction.IsAbout tables)
    (hpredicate : ∀ table ∈ predicate.tables.toList, table ∈ tables) :
    (conjunction.pushUnique predicate).IsAbout tables := by
  intro other hother
  rcases mem_of_mem_pushUnique hother with hmem | rfl
  · exact h other hmem
  · exact hpredicate

/-- A condition whose columns all name tables of a list is about these tables. -/
theorem isAbout_of_columns {conjunction : Conjunction} {tables : List String}
    (h : ∀ column ∈ conjunction.columns, column.IsOf tables) : conjunction.IsAbout tables := by
  intro predicate hpredicate table htable
  obtain ⟨column, hcolumn, hnamed⟩ := Predicate.mem_tables.mp htable
  obtain ⟨owner, howner, heq⟩ := h column (List.mem_flatMap.mpr ⟨predicate, hpredicate, hcolumn⟩)
  exact Option.some.inj (hnamed.symm.trans heq) ▸ howner

end Conjunction

namespace Predicate

/-- A predicate about only one table is about no other. -/
theorem eq_of_onlyTable? {predicate : Predicate} {table other : String}
    (h : predicate.onlyTable? = some table) (hother : other ∈ predicate.tables.toList) :
    other = table := by
  unfold onlyTable? at h
  split at h
  · next single hsingle =>
    rw [hsingle, List.mem_singleton] at hother
    exact hother.trans (Option.some.inj h)
  · simp at h

/-- A predicate that equates columns of two tables is an equality of one column of each. -/
theorem exists_of_joinedTables? {predicate : Predicate} {one other : String}
    (h : predicate.joinedTables? = some (one, other)) :
    one ≠ other ∧ ∃ left right : String, predicate =
      .compare ⟨.column (.qualified one left), .eq, .column (.qualified other right)⟩ := by
  cases predicate with
  | compare comparison =>
    obtain ⟨left, op, right⟩ := comparison
    simp only [joinedTables?, Comparison.equiJoin?] at h
    split at h
    · next left right =>
      obtain ⟨leftTable, leftName⟩ := left
      obtain ⟨rightTable, rightName⟩ := right
      cases leftTable with
      | none => simp at h
      | some leftTable =>
        cases rightTable with
        | none => simp at h
        | some rightTable =>
          by_cases hne : leftTable = rightTable
          · simp [hne] at h
          · simp only [ne_eq, hne, not_false_eq_true, ↓reduceIte, Option.pure_def,
              Option.bind_eq_bind, Option.bind_some, Option.some.injEq, Prod.mk.injEq] at h
            obtain ⟨rfl, rfl⟩ := h
            exact ⟨hne, leftName, rightName, rfl⟩
    · simp at h
  | _ => simp [joinedTables?] at h

/-- An equality of columns of two tables is about these two. -/
theorem mem_tables_of_joinedTables? {predicate : Predicate} {one other : String}
    (h : predicate.joinedTables? = some (one, other)) (table : String) :
    table ∈ predicate.tables.toList ↔ table = one ∨ table = other := by
  obtain ⟨-, left, right, rfl⟩ := exists_of_joinedTables? h
  rw [NameSet.mem_toList, mem_tables]
  simp [columns, Comparison.columns, Operand.column?, ColumnRef.qualified, eq_comm]

end Predicate

namespace Join

/-- The condition of a join mentions a table if some conjunct is about it. -/
theorem mentions_iff {join : Join} {table : String} :
    join.mentions table = true ↔
      ∃ predicate ∈ join.condition, table ∈ predicate.tables.toList := by
  simp [mentions, NameSet.mem_toList]

/-- A condition is about some tables if these are all that it mentions. -/
theorem isAbout_iff_mentions {join : Join} {tables : List String} :
    join.condition.IsAbout tables ↔ ∀ table, join.mentions table = true → table ∈ tables := by
  simp only [mentions_iff, Conjunction.IsAbout]
  constructor
  · rintro h table ⟨predicate, hpredicate, htable⟩
    exact h predicate hpredicate table htable
  · intro h predicate hpredicate table htable
    exact h table ⟨predicate, hpredicate, htable⟩

/-- Joins one after another are well scoped if the first ones are, and the others are with the
tables of the first ones there. -/
theorem wellScoped_append {there : List String} {front back : List Join} :
    WellScoped there (front ++ back) ↔
      WellScoped there front ∧ WellScoped (there ++ front.map (·.table)) back := by
  induction front generalizing there with
  | nil => simp [WellScoped]
  | cons join front ih => simp [WellScoped, ih, and_assoc]

/-- Another join in the place of one of the same table keeps joins well scoped if its condition is
about tables that are there. -/
theorem wellScoped_replace {there : List String} {front back : List Join} {join new : Join}
    (h : WellScoped there (front ++ join :: back)) (htable : new.table = join.table)
    (hcondition : new.condition.IsAbout (there ++ front.map (·.table) ++ [join.table])) :
    WellScoped there (front ++ new :: back) := by
  rw [wellScoped_append] at h ⊢
  obtain ⟨hfront, -, hback⟩ := h
  rw [WellScoped, htable]
  exact ⟨hfront, hcondition, hback⟩

/-- A change of joins that leaves their tables and conditions as they are keeps them well
scoped. -/
theorem wellScoped_map {there : List String} {joins : List Join} {change : Join → Join}
    (htable : ∀ join, (change join).table = join.table)
    (hcondition : ∀ join, (change join).condition = join.condition) :
    WellScoped there (joins.map change) ↔ WellScoped there joins := by
  induction joins generalizing there with
  | nil => rfl
  | cons join joins ih => rw [List.map_cons, WellScoped, WellScoped, htable, hcondition, ih]

/-- With distinct tables, joins are well scoped exactly if their conditions are about tables of
the query and none is about the table of a join behind it. -/
theorem wellScoped_iff_pairwise {there : List String} {joins : List Join}
    (hdistinct : (there ++ joins.map (·.table)).Nodup) :
    WellScoped there joins ↔
      (∀ join ∈ joins, join.condition.IsAbout (there ++ joins.map (·.table))) ∧
        joins.Pairwise fun earlier later => earlier.mentions later.table = false := by
  induction joins generalizing there with
  | nil => simp [WellScoped]
  | cons join joins ih =>
    have hdistinct' : (there ++ [join.table] ++ joins.map (·.table)).Nodup := by
      simpa using hdistinct
    have htables : there ++ (join :: joins).map (·.table) =
        there ++ [join.table] ++ joins.map (·.table) := by simp
    rw [WellScoped, ih hdistinct', htables, List.pairwise_cons, List.forall_mem_cons]
    constructor
    · rintro ⟨hjoin, hjoins, hpairwise⟩
      refine ⟨⟨hjoin.mono (List.subset_append_left _ _), hjoins⟩, ?_, hpairwise⟩
      intro later hlater
      rw [Bool.eq_false_iff]
      intro hmentions
      have hthere := isAbout_iff_mentions.mp hjoin later.table hmentions
      exact (List.nodup_append.mp hdistinct').2.2 _ hthere _ (List.mem_map_of_mem hlater) rfl
    · rintro ⟨⟨hjoin, hjoins⟩, hlater, hpairwise⟩
      refine ⟨isAbout_iff_mentions.mpr ?_, hjoins, hpairwise⟩
      intro table hmentions
      cases List.mem_append.mp (isAbout_iff_mentions.mp hjoin table hmentions) with
      | inl hmem => exact hmem
      | inr hmem =>
        obtain ⟨later, hlaterMem, rfl⟩ := List.mem_map.mp hmem
        rw [hlater later hlaterMem] at hmentions
        exact absurd hmentions Bool.false_ne_true

/-- Of a join of one of two tables, the other one is not the table of the join. -/
theorem other_ne_table {join : Join} {one other : String} (hne : one ≠ other) :
    join.other one other ≠ join.table := by
  unfold Join.other
  split
  · next h => exact h ▸ hne.symm
  · next h => exact fun heq => h heq.symm

/-- A join is of one of two tables exactly if its table is one of them. -/
theorem isOfEither_iff {join : Join} {one other : String} :
    join.isOfEither one other = true ↔ join.table = one ∨ join.table = other := by
  rw [isOfEither, Bool.or_eq_true, beq_iff_eq, beq_iff_eq]

/-- The table of a join of one of two tables and the other one are these two. -/
theorem eq_table_or_eq_other_iff {join : Join} {one other : String}
    (heither : join.isOfEither one other = true) {table : String} :
    table = join.table ∨ table = join.other one other ↔ table = one ∨ table = other := by
  rw [isOfEither_iff] at heither
  unfold Join.other
  by_cases hone : join.table = one
  · rw [if_pos hone, hone]
  · rw [if_neg hone, heither.resolve_left hone]
    exact or_comm

/-- If one join is of one of two tables and another join is of the other one, then the two joins
have each other's tables. -/
theorem other_of_table_eq_other {join later : Join} {one other : String}
    (heither : join.isOfEither one other = true) (hlater : later.table = join.other one other)
    (hne : one ≠ other) :
    later.isOfEither one other = true ∧ later.other one other = join.table := by
  rw [isOfEither_iff] at heither ⊢
  rw [hlater]
  unfold Join.other at hlater ⊢
  by_cases hone : join.table = one
  · rw [if_pos hone] at hlater
    rw [if_pos hone, if_neg (hlater ▸ hne.symm)]
    exact ⟨.inr rfl, hone.symm⟩
  · rw [if_neg hone] at hlater
    rw [if_neg hone, if_pos hlater]
    exact ⟨.inl rfl, (heither.resolve_left hone).symm⟩

end Join

namespace Query

/-- The tables of a query are the first one and those of its joins. -/
theorem tables_eq (query : Query) :
    query.tables = query.source.table :: query.joins.map (·.table) := by
  simp [tables, sources, Function.comp_def]

section Choice

variable {query : Query} {one other : String} {front back : List Join} {join : Join}

/-- In a well-scoped query, the condition of a join is about tables that are there. -/
theorem WellScoped.condition (hscoped : query.WellScoped)
    (hjoins : query.joins = front ++ join :: back) :
    join.condition.IsAbout (query.source.table :: front.map (·.table) ++ [join.table]) := by
  rw [WellScoped, hjoins, Join.wellScoped_append] at hscoped
  exact hscoped.2.1

/-- In a well-scoped query, a table that a join mentions besides its own is there before it. -/
theorem mem_of_mentions (hscoped : query.WellScoped) (hjoins : query.joins = front ++ join :: back)
    {table : String} (hmentions : join.mentions table = true) (hne : table ≠ join.table) :
    table ∈ query.source.table :: front.map (·.table) := by
  have hmem := Join.isAbout_iff_mentions.mp (hscoped.condition hjoins) table hmentions
  rw [List.mem_append, List.mem_singleton] at hmem
  exact hmem.resolve_right hne

/-- If two tables are in a query and one of them is joined, then some join is available: whichever
of them comes later has one. -/
theorem availableJoin?_ne_none (hone : one ∈ query.tables) (hother : other ∈ query.tables)
    (hne : one ≠ other) (hjoins : query.joins = front ++ join :: back)
    (heither : join.isOfEither one other = true) : query.availableJoin? one other ≠ none := by
  intro hnone
  have hmem : join.other one other ∈ query.tables := by
    cases (Join.eq_table_or_eq_other_iff heither).mp (.inr rfl) with
    | inl heq => rwa [heq]
    | inr heq => rwa [heq]
  rw [tables_eq, hjoins, List.map_append, List.map_cons, ← List.cons_append] at hmem
  rcases List.mem_append.mp hmem with hthere | hmem
  · have hat : query.joins[front.length]? = some join := by simp [hjoins]
    apply not_mem_of_availableJoin?_eq_none hnone hat heither
    rwa [hjoins, List.take_left]
  rcases List.mem_cons.mp hmem with hown | hback
  · exact Join.other_ne_table hne hown
  · obtain ⟨later, hlater, htable⟩ := List.mem_map.mp hback
    obtain ⟨between, behind, rfl⟩ := List.append_of_mem hlater
    obtain ⟨hlaterEither, hlaterOther⟩ := Join.other_of_table_eq_other heither htable hne
    have hsplit : query.joins = (front ++ join :: between) ++ later :: behind := by
      rw [hjoins, List.append_assoc, List.cons_append]
    have hat : query.joins[(front ++ join :: between).length]? = some later := by
      rw [hsplit, List.getElem?_append_right (Nat.le_refl _), Nat.sub_self]
      rfl
    apply not_mem_of_availableJoin?_eq_none hnone hat hlaterEither
    rw [hsplit, List.take_left, hlaterOther, List.map_append]
    exact List.mem_cons_of_mem _ (List.mem_append_right _ List.mem_cons_self)

/-- In a well-scoped query, the join to which an equality between two of its tables moves is of
one of the two, and the other one is there before the join. -/
theorem other_mem_of_chooseJoin? (hscoped : query.WellScoped) (hone : one ∈ query.tables)
    (hother : other ∈ query.tables) (hne : one ≠ other)
    (hjoins : query.joins = front ++ join :: back)
    (hchosen : query.chooseJoin? one other = some front.length) :
    join.isOfEither one other = true ∧
      join.other one other ∈ query.source.table :: front.map (·.table) := by
  have hat : query.joins[front.length]? = some join := by simp [hjoins]
  have hfront : query.joins.take front.length = front := by simp [hjoins]
  rcases chooseJoin?_eq_some_iff.mp hchosen with hlinked | ⟨-, havailable | ⟨hnone, hfirst⟩⟩
  · obtain ⟨found, hfound, heither, hmentions⟩ := getElem?_of_linkedJoin? hlinked
    obtain rfl : found = join := Option.some.inj (hfound.symm.trans hat)
    exact ⟨heither, mem_of_mentions hscoped hjoins hmentions (Join.other_ne_table hne)⟩
  · obtain ⟨found, hfound, heither, hthere⟩ := getElem?_of_availableJoin? havailable
    obtain rfl : found = join := Option.some.inj (hfound.symm.trans hat)
    exact ⟨heither, hfront ▸ hthere⟩
  · obtain ⟨found, hfound, heither⟩ := getElem?_of_findIdx? hfirst
    obtain rfl : found = join := Option.some.inj (hfound.symm.trans hat)
    exact absurd hnone (availableJoin?_ne_none hone hother hne hjoins heither)

/-- In a well-scoped query, the join to which an equality between two of its tables moves has a
condition about tables that are there also when the equality has been moved. -/
theorem WellScoped.isAbout_pushUnique (hscoped : query.WellScoped) {predicate : Predicate}
    (htables : predicate.joinedTables? = some (one, other))
    (hin : ∀ table ∈ predicate.tables.toList, table ∈ query.tables)
    (hjoins : query.joins = front ++ join :: back)
    (hchosen : query.chooseJoin? one other = some front.length) :
    (join.condition.pushUnique predicate).IsAbout
      (query.source.table :: front.map (·.table) ++ [join.table]) := by
  have hboth := Predicate.mem_tables_of_joinedTables? htables
  obtain ⟨hne, -⟩ := Predicate.exists_of_joinedTables? htables
  obtain ⟨heither, hthere⟩ := other_mem_of_chooseJoin? hscoped
    (hin one ((hboth one).mpr (.inl rfl))) (hin other ((hboth other).mpr (.inr rfl))) hne hjoins
    hchosen
  refine (hscoped.condition hjoins).pushUnique fun table htable => ?_
  rcases (Join.eq_table_or_eq_other_iff heither).mpr ((hboth table).mp htable) with rfl | rfl
  · exact List.mem_append_right _ (List.mem_singleton.mpr rfl)
  · exact List.mem_append_left _ hthere

end Choice

/-- A well-scoped query of distinct tables stays so when its joins are put in another order exactly
if no condition of a join is about the table of a join behind it. -/
theorem WellScoped.perm_iff {query : Query} (hscoped : query.WellScoped)
    (hdistinct : query.tables.Nodup) {joins : List Join} (hperm : joins.Perm query.joins) :
    WellScoped { query with joins := joins } ↔
      joins.Pairwise fun earlier later => earlier.mentions later.table = false := by
  have hall : [query.source.table] ++ query.joins.map (·.table) = query.tables :=
    (tables_eq query).symm
  have hmap : (joins.map (·.table)).Perm (query.joins.map (·.table)) := hperm.map _
  have htables : ([query.source.table] ++ joins.map (·.table)).Perm query.tables := by
    rw [← hall]
    exact hmap.cons query.source.table
  rw [WellScoped, Join.wellScoped_iff_pairwise (htables.nodup_iff.mpr hdistinct),
    and_iff_right_iff_imp]
  rintro - join hjoin
  have habout := ((Join.wellScoped_iff_pairwise (hall ▸ hdistinct)).mp hscoped).1 join
    (hperm.mem_iff.mp hjoin)
  rw [hall] at habout
  exact habout.mono htables.symm.subset

end Query

/-! ## Plans of queries -/

namespace Plan

/-- The plan of an access has its table. -/
theorem tables_ofSource (source : Source) : (ofSource source).tables = [source.table] := by
  unfold ofSource restricted filtered
  split <;> split <;> rfl

/-- The access to a table is well scoped if its filter is about the table. -/
theorem wellScoped_ofSource_iff (source : Source) :
    (ofSource source).WellScoped ↔ source.access.selection.IsAbout [source.table] := by
  have hfiltered : (filtered source.access.selection (relation source.table)).WellScoped ↔
      source.access.selection.IsAbout [source.table] := by
    unfold filtered
    split
    · next h => simp [WellScoped, List.isEmpty_iff.mp h]
    · simp [WellScoped, tables]
  unfold ofSource restricted
  split
  · exact hfiltered
  · exact hfiltered

/-- A plan with one more join has its table at the end. -/
theorem tables_addJoin (left : Plan) (join : Join) :
    (addJoin left join).tables = left.tables ++ [join.table] := by
  unfold addJoin
  split <;> simp [tables, tables_ofSource]

/-- One more join is well scoped if its condition is about tables that are there, and the filter
of its access about its table. -/
theorem wellScoped_addJoin_iff (left : Plan) (join : Join) :
    (addJoin left join).WellScoped ↔
      left.WellScoped ∧ join.condition.IsAbout (left.tables ++ [join.table]) ∧
        join.access.selection.IsAbout [join.table] := by
  unfold addJoin
  split
  · rw [WellScoped, tables_ofSource, wellScoped_ofSource_iff]
    exact and_left_comm
  · next h =>
    have hnil : join.condition = [] := by simpa [Join.hasCondition] using h
    rw [WellScoped, wellScoped_ofSource_iff, hnil]
    simp

/-- A plan with some more joins has their tables at the end. -/
theorem tables_foldl_addJoin (left : Plan) (joins : List Join) :
    (joins.foldl addJoin left).tables = left.tables ++ joins.map (·.table) := by
  induction joins generalizing left with
  | nil => simp
  | cons join joins ih => simp [ih, tables_addJoin]

/-- A plan to which joins are added from left to right is well scoped if the joins are, and the
filters of their accesses are about the tables that are accessed. -/
theorem wellScoped_foldl_addJoin_iff (left : Plan) (joins : List Join) :
    (joins.foldl addJoin left).WellScoped ↔
      left.WellScoped ∧ Join.WellScoped left.tables joins ∧
        ∀ join ∈ joins, join.access.selection.IsAbout [join.table] := by
  induction joins generalizing left with
  | nil => simp [Join.WellScoped]
  | cons join joins ih =>
    rw [List.foldl_cons, ih, wellScoped_addJoin_iff, tables_addJoin, Join.WellScoped,
      List.forall_mem_cons]
    constructor
    · rintro ⟨⟨hleft, hcondition, hselection⟩, hjoins, hselections⟩
      exact ⟨hleft, ⟨hcondition, hjoins⟩, hselection, hselections⟩
    · rintro ⟨hleft, ⟨hcondition, hjoins⟩, hselection, hselections⟩
      exact ⟨⟨hleft, hcondition, hselection⟩, hjoins, hselections⟩

/-- The plan of a query is well scoped exactly if the joins of the query are, its condition is
about its tables, and the filters of its accesses are about the tables that are accessed. -/
theorem wellScoped_ofQuery_iff (query : Query) :
    (ofQuery query).WellScoped ↔
      query.filter.IsAbout query.tables ∧ query.WellScoped ∧
        ∀ source ∈ query.sources, source.access.selection.IsAbout [source.table] := by
  have hjoined : (joined query).WellScoped ↔
      query.WellScoped ∧
        ∀ source ∈ query.sources, source.access.selection.IsAbout [source.table] := by
    rw [joined, wellScoped_foldl_addJoin_iff, wellScoped_ofSource_iff, tables_ofSource,
      Query.sources, List.forall_mem_cons, List.forall_mem_map]
    exact and_left_comm
  have htables : (joined query).tables = query.tables := by
    rw [joined, tables_foldl_addJoin, tables_ofSource, Query.tables_eq]
    rfl
  have hselected : (selected query).WellScoped ↔
      query.filter.IsAbout query.tables ∧ (joined query).WellScoped := by
    unfold selected filtered
    split
    · next h => simp [List.isEmpty_iff.mp h]
    · rw [WellScoped, htables]
  rw [← hjoined, ← hselected]
  unfold ofQuery
  split <;> rfl

end Plan

/-! ## Queries in scope -/

namespace Query

/-- A query that keeps to its tables: these are distinct, its condition is about them, its joins
are well scoped, the filter of an access is about the table that is accessed, and every join has
a condition. -/
structure InScope (query : Query) : Prop where
  distinct : query.tables.Nodup
  filter : query.filter.IsAbout query.tables
  joins : query.WellScoped
  selections : ∀ source ∈ query.sources, source.access.selection.IsAbout [source.table]
  conditioned : ∀ join ∈ query.joins, join.hasCondition = true

/-- A query as it is written is in scope if its tables are distinct, its joins are well scoped and
its condition is about its tables. -/
theorem IsWritten.inScope {query : Query} (h : query.IsWritten) (hdistinct : query.tables.Nodup)
    (hscoped : query.WellScoped) (hfilter : query.filter.IsAbout query.tables) :
    query.InScope where
  distinct := hdistinct
  filter := hfilter
  joins := hscoped
  selections source hsource := by
    rw [h.plain source hsource]
    exact Conjunction.isAbout_nil _
  conditioned := h.conditioned

namespace InScope

variable {query : Query} {before after : Conjunction} {predicate : Predicate}

/-- A conjunct of the condition is about tables of the query. -/
theorem mem_tables_of_filter (h : query.InScope)
    (hfilter : query.filter = before ++ predicate :: after) {table : String}
    (htable : table ∈ predicate.tables.toList) : table ∈ query.tables := by
  refine h.filter predicate ?_ table htable
  rw [hfilter]
  exact List.mem_append_right _ List.mem_cons_self

/-- Moving a conjunct to the access to the first table keeps the query in scope. -/
theorem pushSource (h : query.InScope) (hfilter : query.filter = before ++ predicate :: after)
    (honly : predicate.onlyTable? = some query.source.table) :
    InScope
      { query with
        filter := before ++ after
        source.access := query.source.access.push predicate } where
  distinct := h.distinct
  filter := h.filter.of_subset (filter_sublist hfilter).subset
  joins := h.joins
  selections := by
    intro source hsource
    rcases List.mem_cons.mp hsource with rfl | hmem
    · refine (h.selections _ List.mem_cons_self).pushUnique ?_
      intro table htable
      exact List.mem_singleton.mpr (Predicate.eq_of_onlyTable? honly htable)
    · exact h.selections source (List.mem_cons_of_mem _ hmem)
  conditioned := h.conditioned

variable {front back : List Join} {join new : Join}

/-- The filter of a join is about the table that is joined. -/
theorem selection_of_mem (h : query.InScope) (hjoin : join ∈ query.joins) :
    join.access.selection.IsAbout [join.table] :=
  h.selections join.toSource (List.mem_cons_of_mem _ (List.mem_map_of_mem hjoin))

/-- Moving a conjunct to the access or the condition of a join keeps the query in scope if what
the join then tests is about tables that are there. -/
theorem replaceJoin (h : query.InScope) (hfilter : query.filter = before ++ predicate :: after)
    (hjoins : query.joins = front ++ join :: back) (htable : new.table = join.table)
    (hcondition :
      new.condition.IsAbout (query.source.table :: front.map (·.table) ++ [join.table]))
    (hselection : new.access.selection.IsAbout [join.table]) (hnew : new.hasCondition = true) :
    InScope { query with filter := before ++ after, joins := front ++ new :: back } := by
  have htables : tables { query with filter := before ++ after, joins := front ++ new :: back } =
      query.tables := by
    simp [tables_eq, hjoins, htable]
  have hjoin {other : Join} (hmem : other ∈ front ++ new :: back) :
      other = new ∨ other ∈ query.joins := by
    rw [hjoins]
    simp only [List.mem_append, List.mem_cons] at hmem ⊢
    rcases hmem with hfront | rfl | hback
    · exact .inr (.inl hfront)
    · exact .inl rfl
    · exact .inr (.inr (.inr hback))
  constructor
  · rw [htables]
    exact h.distinct
  · rw [htables]
    exact h.filter.of_subset (filter_sublist hfilter).subset
  · have hscoped := h.joins
    rw [WellScoped, hjoins] at hscoped
    exact Join.wellScoped_replace hscoped htable hcondition
  · intro source hsource
    rcases List.mem_cons.mp hsource with rfl | hmem
    · exact h.selections _ List.mem_cons_self
    · obtain ⟨other, hother, rfl⟩ := List.mem_map.mp hmem
      rcases hjoin hother with rfl | hold
      · rw [← htable] at hselection
        exact hselection
      · exact h.selection_of_mem hold
  · intro other hother
    rcases hjoin hother with rfl | hold
    · exact hnew
    · exact h.conditioned other hold

/-- A move keeps the query in scope. -/
theorem moves {moved : Query} (h : query.InScope) (hmove : query.Moves moved) :
    moved.InScope := by
  cases hmove with
  | toSource hfilter honly => exact h.pushSource hfilter honly
  | @toAccess _ _ predicate front back join hfilter honly hjoins =>
    have hmem : join ∈ query.joins := hjoins ▸ List.mem_append_right _ List.mem_cons_self
    have hcondition := h.joins.condition hjoins
    have hselection := (h.selection_of_mem hmem).pushUnique fun table htable =>
      List.mem_singleton.mpr (Predicate.eq_of_onlyTable? honly htable)
    exact h.replaceJoin hfilter hjoins rfl hcondition hselection (h.conditioned join hmem)
  | @toCondition _ _ predicate front back join one other hfilter htables hjoins hchosen =>
    have hmem : join ∈ query.joins := hjoins ▸ List.mem_append_right _ List.mem_cons_self
    have hselection := h.selection_of_mem hmem
    have hcondition := h.joins.isAbout_pushUnique htables
      (fun _ => h.mem_tables_of_filter hfilter) hjoins hchosen
    refine h.replaceJoin hfilter hjoins rfl hcondition hselection ?_
    simpa [Join.hasCondition] using Conjunction.pushUnique_ne_nil join.condition predicate

/-- Restricting accesses to columns keeps the query in scope. -/
theorem restrict (h : query.InScope) (schema : Option Schema) :
    (query.restrict schema).InScope := by
  have htables : (query.restrict schema).tables = query.tables := by
    simp [tables_eq, Query.restrict, Function.comp_def]
  constructor
  · rw [htables]
    exact h.distinct
  · rw [htables]
    exact h.filter
  · unfold WellScoped Query.restrict
    exact (Join.wellScoped_map (by simp) (by simp)).mpr h.joins
  · intro source hsource
    rcases List.mem_cons.mp hsource with rfl | hmem
    · exact h.selections query.source List.mem_cons_self
    · obtain ⟨_, hjoin, rfl⟩ := List.mem_map.mp hmem
      obtain ⟨join, hold, rfl⟩ := List.mem_map.mp hjoin
      have hselection := h.selection_of_mem hold
      exact hselection
  · intro _ hjoin
    obtain ⟨join, hold, rfl⟩ := List.mem_map.mp hjoin
    exact h.conditioned join hold

/-- A query in scope has no products, so there are none to put last. -/
theorem orderProducts_eq (h : query.InScope) : query.orderProducts = query := by
  have hall : query.joins.filter (·.hasCondition) = query.joins :=
    List.filter_eq_self.mpr h.conditioned
  have hnone : query.joins.filter (!·.hasCondition) = [] :=
    List.filter_eq_nil_iff.mpr fun join hjoin => by simp [h.conditioned join hjoin]
  rw [orderProducts, productsLast, hall, hnone, List.append_nil]

/-- Every heuristic but the ordering of joins keeps the query in scope. -/
theorem apply (h : query.InScope) (knowledge : Knowledge) {heuristic : Heuristic}
    (hheuristic : heuristic ≠ .joinReordering) :
    (heuristic.apply knowledge query).query.InScope := by
  cases heuristic with
  | selectionPushdown =>
    exact preserved_of_moves (fun hmove hquery => InScope.moves hquery hmove)
      (reflTransGen_moves_pushSelections query) h
  | projectionPushdown =>
    change (query.pushProjections knowledge.schema).query.InScope
    rcases query_pushProjections knowledge.schema query with heq | ⟨-, -, heq⟩ <;> rw [heq]
    · exact h
    · exact h.restrict knowledge.schema
  | cartesianAvoidance =>
    obtain ⟨moved, hmoves, heq⟩ := exists_moves_avoidProducts query
    have hmoved : moved.InScope :=
      preserved_of_moves (fun hmove hquery => InScope.moves hquery hmove) hmoves h
    change query.avoidProducts.query.InScope
    rw [heq, hmoved.orderProducts_eq]
    exact hmoved
  | joinReordering => exact absurd rfl hheuristic

end InScope

end Query

end RelPlan
