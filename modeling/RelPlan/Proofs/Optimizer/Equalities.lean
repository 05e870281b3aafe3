import RelPlan.Proofs.Optimizer.Choice
import RelPlan.Proofs.Optimizer.Idempotence

/-!
# Equalities that become conditions of joins

Avoiding products takes the equalities of columns of two tables out of the condition of a query, if
one of the two tables is joined, and puts them in conditions of joins; then it puts the products
last. `Query.AvoidsProducts` says of a revision what is left in the condition, what is warned about,
where the equalities are, and how the joins are ordered, all in terms of the query as it was.
`Query.avoidProducts_normalForm` says that avoiding products gives this for every query with joins,
whatever the accesses, repeated tables and empty conditions, and that it does so once and for all.
What is said in notes is left out.
-/

namespace RelPlan

namespace Predicate

/-- Whether the predicate is an equality of a column of one table and a column of another one. -/
def Equates (predicate : Predicate) (one other : String) : Prop :=
  one ≠ other ∧ ∃ left right : String, predicate =
    .compare ⟨.column (.qualified one left), .eq, .column (.qualified other right)⟩

/-- Two tables are joined by a predicate exactly if it equates columns of them. -/
theorem joinedTables?_eq_some_iff {predicate : Predicate} {one other : String} :
    predicate.joinedTables? = some (one, other) ↔ predicate.Equates one other := by
  constructor
  · exact exists_of_joinedTables?
  · rintro ⟨hne, left, right, rfl⟩
    simp [joinedTables?, Comparison.equiJoin?, ColumnRef.qualified, hne]

/-- A predicate joins tables exactly if it equates columns of two. -/
theorem isSome_joinedTables?_iff {predicate : Predicate} :
    predicate.joinedTables?.isSome = true ↔ ∃ one other, predicate.Equates one other := by
  simp only [Option.isSome_iff_exists, Prod.exists, joinedTables?_eq_some_iff]

instance (predicate : Predicate) : Decidable (∃ one other, predicate.Equates one other) :=
  decidable_of_iff _ isSome_joinedTables?_iff

end Predicate

/-- Whether a join is another one whose condition goes on with equalities of its table out of a
condition, in order, each unless an equivalent one is there. -/
structure Join.ReceivesFrom (filter : Conjunction) (old new : Join) : Prop where
  source : new.toSource = old.toSource
  condition : ∃ arrived : Conjunction, arrived.Sublist filter ∧
    (∀ predicate ∈ arrived, ∃ one other, predicate.Equates one other ∧
      (old.table = one ∨ old.table = other)) ∧
    new.condition = arrived.foldl Conjunction.pushUnique old.condition

namespace Query

/-- Whether the predicate is an equality of columns of two tables of which one is joined. -/
def CanJoinOn (query : Query) (predicate : Predicate) : Prop :=
  ∃ one other, predicate.Equates one other ∧
    ∃ join ∈ query.joins, join.table = one ∨ join.table = other

/-- A predicate has a place in a condition if a table can be joined on it. -/
theorem accepts_conditions_iff_canJoinOn {query : Query} {predicate : Predicate} :
    Placement.conditions.accepts query.tables predicate = true ↔ query.CanJoinOn predicate := by
  rw [Placement.accepts_conditions_iff]
  refine exists₂_congr fun one other => and_congr Predicate.joinedTables?_eq_some_iff ?_
  simp only [tail_tables, List.mem_map, and_or_left, exists_or]

instance (query : Query) (predicate : Predicate) : Decidable (query.CanJoinOn predicate) :=
  decidable_of_iff _ accepts_conditions_iff_canJoinOn

/-- What a query with joins is when its products have been avoided. -/
structure AvoidsProducts (query : Query) (revision : Revision) : Prop where
  select : revision.query.select = query.select
  source : revision.query.source = query.source
  /-- The conjuncts that no table can be joined on stay in the condition, in order. -/
  filter : revision.query.filter =
    query.filter.filter fun predicate => ¬ query.CanJoinOn predicate
  /-- There is one warning for each equality that stays, in order, and no other. -/
  warnings : revision.warnings = (revision.query.filter.filter fun predicate =>
    ∃ one other, predicate.Equates one other).map .noMatchingJoin
  /-- Every equality that leaves has an equivalent in the condition of a join of its tables. -/
  moved : ∀ predicate ∈ query.filter, query.CanJoinOn predicate →
    ∀ one other, predicate.Equates one other →
      ∃ join ∈ revision.query.joins, (join.table = one ∨ join.table = other) ∧
        ∃ conjunct ∈ join.condition, predicate.equivalent conjunct = true
  /-- The joins receive equalities, and then those with a condition come before those without one,
  both in the order in which they were. -/
  joins : ∃ extended : List Join,
    List.Forall₂ (Join.ReceivesFrom query.filter) query.joins extended ∧
    revision.query.joins =
      extended.filter (·.hasCondition) ++ extended.filter (!·.hasCondition)

/-! ## Warnings -/

/-- The warning about a conjunct for which there is no join, if it is an equality of columns of two
tables. -/
def noMatchingJoin? (tables : List String) (predicate : Predicate) : Option Warning :=
  if predicate.joinedTables?.isSome && !Placement.conditions.accepts tables predicate then
    some (.noMatchingJoin predicate)
  else none

/-- Moving a conjunct warns only if it joins tables and matches no join. -/
theorem warnings_moveConjunct (revision : Revision) (predicate : Predicate) :
    (moveConjunct revision predicate).warnings =
      revision.warnings ++ (noMatchingJoin? revision.query.tables predicate).toList := by
  unfold noMatchingJoin?
  obtain ⟨htables, hmove⟩ | ⟨one, other, htables, ⟨hchosen, hmove⟩ | ⟨index, hchosen, hmove⟩⟩ :=
    moveConjunct_cases revision predicate
  · simp [hmove, htables, Revision.keep]
  · have haccepts := accepts_conditions_iff_chooseJoin? revision.query htables
    rw [hmove, htables, Bool.eq_false_iff.mpr (haccepts.not_left.mpr hchosen)]
    rfl
  · have haccepts := accepts_conditions_iff_chooseJoin? revision.query htables
    rw [hmove, htables, haccepts.mpr (by simp [hchosen])]
    simp

/-- When the products of a query with joins are avoided, there is a warning for every equality that
stays. -/
theorem warnings_avoidProducts {query : Query} (hjoins : query.joins ≠ []) :
    query.avoidProducts.warnings = query.filter.filterMap (noMatchingJoin? query.tables) := by
  rw [avoidProducts, if_neg (by simpa using hjoins)]
  exact Placement.conditions.warnings_foldl_eq query_moveConjunct warnings_moveConjunct
    query.filter (.unchanged (query.withFilter []))

/-! ## The normal form -/

/-- When products are avoided, every join gets the conjuncts that it is the target of, and then the
products are put last. -/
theorem query_avoidProducts_eq_receiving (query : Query) :
    query.avoidProducts.query =
      { query with
        joins := productsLast (query.joins.mapIdx (query.receiving query.filter))
        filter := query.filter.filter (!Placement.conditions.accepts query.tables ·) } := by
  rw [query_avoidProducts_eq, Placement.run, putAll_conditions_eq]
  rfl

/-- The join at a position receives the conjuncts that move there. -/
theorem receivesFrom_receiving {query : Query} {join : Join} {index : Nat}
    (hat : query.joins[index]? = some join) :
    Join.ReceivesFrom query.filter join (query.receiving query.filter index join) where
  source := rfl
  condition := by
    refine ⟨_, List.filter_sublist, fun predicate harrives => ?_, rfl⟩
    have htarget : query.target? predicate = some index :=
      beq_iff_eq.mp (List.mem_filter.mp harrives).2
    obtain ⟨⟨one, other⟩, htables, hchosen⟩ := Option.bind_eq_some_iff.mp htarget
    obtain ⟨found, hfound, heither⟩ := getElem?_of_chooseJoin? hchosen
    obtain rfl : found = join := Option.some.inj (hfound.symm.trans hat)
    exact ⟨one, other, Predicate.joinedTables?_eq_some_iff.mp htables,
      Join.isOfEither_iff.mp heither⟩

/-- Every join, with the conjuncts that move to it, is there when products have been avoided. -/
theorem receiving_mem_joins_avoidProducts {query : Query} {join : Join} {index : Nat}
    (hat : query.joins[index]? = some join) :
    query.receiving query.filter index join ∈ query.avoidProducts.query.joins := by
  have hplaced : (query.joins.mapIdx (query.receiving query.filter))[index]? =
      some (query.receiving query.filter index join) := by
    rw [List.getElem?_mapIdx, hat, Option.map_some]
  rw [query_avoidProducts_eq_receiving]
  exact (productsLast_perm _).mem_iff.mpr (List.mem_of_getElem? hplaced)

/-- An equality that a table can be joined on has an equivalent in the condition of a join of one of
its tables when products have been avoided. -/
theorem exists_equivalent_of_canJoinOn {query : Query} {predicate : Predicate} {one other : String}
    (hmem : predicate ∈ query.filter) (hjoin : query.CanJoinOn predicate)
    (hequates : predicate.Equates one other) :
    ∃ join ∈ query.avoidProducts.query.joins, (join.table = one ∨ join.table = other) ∧
      ∃ conjunct ∈ join.condition, predicate.equivalent conjunct = true := by
  have htables := Predicate.joinedTables?_eq_some_iff.mpr hequates
  have hchosen : query.chooseJoin? one other ≠ none := by
    rw [← accepts_conditions_iff_chooseJoin? query htables, accepts_conditions_iff_canJoinOn]
    exact hjoin
  obtain ⟨index, hindex⟩ := Option.ne_none_iff_exists'.mp hchosen
  obtain ⟨join, hat, heither⟩ := getElem?_of_chooseJoin? hindex
  have htarget : query.target? predicate = some index := by
    rw [target?, htables, Option.bind_some]
    exact hindex
  have harrives : predicate ∈ query.filter.filter (query.target? · == some index) :=
    List.mem_filter.mpr ⟨hmem, by rw [htarget, beq_self_eq_true]⟩
  exact ⟨query.receiving query.filter index join, receiving_mem_joins_avoidProducts hat,
    Join.isOfEither_iff.mp heither,
    Conjunction.exists_equivalent_mem_foldl_pushUnique join.condition harrives⟩

/-- Avoiding the products of a query with joins does what it is meant to do. -/
theorem avoidsProducts_avoidProducts {query : Query} (hjoins : query.joins ≠ []) :
    query.AvoidsProducts query.avoidProducts where
  select := by rw [query_avoidProducts_eq_receiving]
  source := by rw [query_avoidProducts_eq_receiving]
  filter := by
    rw [query_avoidProducts_eq]
    exact Placement.conditions.filter_run_of_accepts_iff fun _ => accepts_conditions_iff_canJoinOn
  warnings := by
    rw [warnings_avoidProducts hjoins, query_avoidProducts_eq_receiving, List.filter_filter,
      ← List.filterMap_eq_map, List.filterMap_filter]
    refine List.filterMap_congr fun predicate _ => ?_
    simp only [noMatchingJoin?, ← Predicate.isSome_joinedTables?_iff, Bool.decide_eq_true,
      Function.comp_apply]
  moved predicate hmem hjoin one other hequates :=
    exists_equivalent_of_canJoinOn hmem hjoin hequates
  joins := by
    refine ⟨query.joins.mapIdx (query.receiving query.filter), ?_, ?_⟩
    · refine List.forall₂_iff_get.mpr ⟨by simp, fun index hfirst hsecond => ?_⟩
      simp only [List.get_eq_getElem, List.getElem_mapIdx]
      exact receivesFrom_receiving (List.getElem?_eq_getElem hfirst)
    · rw [query_avoidProducts_eq_receiving]
      rfl

/-- Without joins, avoiding products leaves a query as it is and warns of nothing. With joins, it
gives the query in which the equalities that a table can be joined on are conditions of joins and
the products come last. A second time it changes nothing. -/
theorem avoidProducts_normalForm (query : Query) :
    (query.joins = [] → query.avoidProducts.query = query ∧ query.avoidProducts.warnings = []) ∧
      (query.joins ≠ [] → query.AvoidsProducts query.avoidProducts) ∧
      query.avoidProducts.query.avoidProducts.query = query.avoidProducts.query := by
  refine ⟨fun hnil => ?_, avoidsProducts_avoidProducts, query.avoidProducts_avoidProducts⟩
  rw [avoidProducts, if_pos (by simp [hnil])]
  exact ⟨rfl, rfl⟩

/-- Two products and a join of the table of the first one again, with two equalities that a table
can be joined on, of which the join has one already, an equality of two tables that are not there,
and a comparison with a number. -/
def joinedTwice : Query :=
  .ofTable .all "A"
    [.ofTable "B" [],
     .ofTable "C" [],
     .ofTable "B" [.compare ⟨.column (.qualified "A" "ID"), .eq, .column (.qualified "B" "ID")⟩]]
    [.compare ⟨.column (.qualified "B" "ID"), .eq, .column (.qualified "A" "ID")⟩,
     .compare ⟨.column (.qualified "D" "Z"), .eq, .column (.qualified "E" "Z")⟩,
     .compare ⟨.column (.qualified "C" "Y"), .eq, .column (.qualified "A" "Y")⟩,
     .compare ⟨.column (.qualified "A" "K"), .eq, .literal (.number "1")⟩]

/-- The product that gets an equality stays before the last join, and the other product is put last.
There is a warning about the equality that no table can be joined on. -/
theorem avoidProducts_normalForm_joinedTwice :
    joinedTwice.joins ≠ [] ∧ joinedTwice.AvoidsProducts joinedTwice.avoidProducts ∧
      joinedTwice.avoidProducts.query.joins.map (fun join => (join.table, join.condition.length)) =
        [("C", 1), ("B", 1), ("B", 0)] ∧
      joinedTwice.avoidProducts.query.filter.map (·.text) = ["D.Z = E.Z", "A.K = 1"] ∧
      joinedTwice.avoidProducts.warnings.map (·.message) =
        ["no join involves the tables of 'D.Z = E.Z'; it stays in WHERE"] ∧
      joinedTwice.avoidProducts.query.avoidProducts.query = joinedTwice.avoidProducts.query ∧
      ({ joinedTwice with joins := [] } : Query).avoidProducts.warnings = [] := by
  have hjoins : joinedTwice.joins ≠ [] := by decide
  refine ⟨hjoins, joinedTwice.avoidProducts_normalForm.2.1 hjoins, by decide, by decide +kernel,
    by decide +kernel, joinedTwice.avoidProducts_normalForm.2.2, ?_⟩
  exact (({ joinedTwice with joins := [] } : Query).avoidProducts_normalForm.1 rfl).2

end Query

end RelPlan
