import RelPlan.Proofs.Optimizer.Placement

/-!
# When products may be put last

Avoiding products moves equalities to joins and then puts the products behind all other joins.
Moving equalities keeps a query well scoped, since the other table of an equality is there before
the join that is chosen for it. Putting products last does not look at what conditions are about:
a join is built before a product whose table its condition is about, even if the product came first.
So a query stays well scoped exactly if no condition is about the table of a product that comes
before it once the equalities have been moved (`Query.wellScoped_avoidProducts_iff`).
-/

namespace RelPlan

/-- Once the members with a property are put before those without it, pairs are still in relation
exactly if they are where a member without the property came before one with it. -/
theorem pairwise_partition_iff {α : Type} {R : α → α → Prop} {test : α → Bool} {items : List α}
    (h : items.Pairwise R) :
    (items.filter test ++ items.filter (!test ·)).Pairwise R ↔
      items.Pairwise fun earlier later => test earlier = false → test later = true →
        R later earlier := by
  -- Pairs with or without the property keep their order, so only mixed ones count.
  have hmixed : (items.filter test ++ items.filter (!test ·)).Pairwise R ↔
      ∀ first ∈ items, test first = true → ∀ last ∈ items, test last = false → R first last := by
    rw [List.pairwise_append, and_iff_right (h.filter test),
      and_iff_right (h.filter fun item => !test item)]
    simp only [List.mem_filter, Bool.not_eq_true', and_imp]
  refine hmixed.trans ?_
  clear hmixed
  induction items with
  | nil => simp
  | cons item items ih =>
    obtain ⟨hitem, hitems⟩ := List.pairwise_cons.mp h
    rw [List.pairwise_cons, ← ih hitems]
    constructor
    · intro hall
      refine ⟨fun later hlater hfalse htrue => ?_, fun first hfirst htrue last hlast => ?_⟩
      · exact hall later (List.mem_cons_of_mem _ hlater) htrue item List.mem_cons_self hfalse
      · exact hall first (List.mem_cons_of_mem _ hfirst) htrue last (List.mem_cons_of_mem _ hlast)
    · rintro ⟨hhead, htail⟩ first hfirst htrue last hlast hfalse
      rcases List.mem_cons.mp hfirst with rfl | hbehind
      · rcases List.mem_cons.mp hlast with rfl | hlater
        · exact absurd (htrue.symm.trans hfalse) (by decide)
        · exact hitem last hlater
      · rcases List.mem_cons.mp hlast with rfl | hlater
        · exact hhead first hbehind hfalse htrue
        · exact htail first hbehind htrue last hlater hfalse

namespace Query

/-- A well-scoped query stays so if an equality between tables of the query is put in the condition
of the join that is chosen for it. -/
theorem WellScoped.placeCondition {query : Query} (hscoped : query.WellScoped)
    {predicate : Predicate} (hin : ∀ table ∈ predicate.tables.toList, table ∈ query.tables) :
    (query.placeCondition predicate).WellScoped := by
  unfold Query.placeCondition
  split
  · exact hscoped
  · next one other htables =>
    split
    · exact hscoped
    · next index hchosen =>
      obtain ⟨join, hjoin, -⟩ := getElem?_of_chooseJoin? hchosen
      obtain ⟨front, back, hjoins, rfl, hpush⟩ := pushCondition_of_getElem? predicate hjoin
      have hcondition := hscoped.isAbout_pushUnique htables hin hjoins hchosen
      rw [WellScoped, hjoins] at hscoped
      rw [hpush, WellScoped]
      exact Join.wellScoped_replace hscoped rfl hcondition

/-- A well-scoped query stays so if the equalities in its condition are moved to joins. -/
theorem WellScoped.run_conditions {query : Query} (hscoped : query.WellScoped)
    (hfilter : query.filter.IsAbout query.tables) :
    (Placement.conditions.run query).WellScoped := by
  have hputAll (current : Query) (predicates : Conjunction) (hcurrent : current.WellScoped)
      (habout : predicates.IsAbout current.tables) :
      (Placement.conditions.putAll current predicates).WellScoped := by
    induction predicates generalizing current with
    | nil => exact hcurrent
    | cons predicate predicates ih =>
      obtain ⟨hhead, htail⟩ := List.forall_mem_cons.mp habout
      refine ih _ (hcurrent.placeCondition hhead) ?_
      rw [Placement.conditions.tables_put]
      exact htail
  exact hputAll query query.filter hscoped hfilter

/-- Whether no condition of a join is about the table of a product that comes before the join. -/
def ProductsUnread (query : Query) : Prop :=
  query.joins.Pairwise fun earlier later =>
    earlier.hasCondition = false → later.mentions earlier.table = false

instance (query : Query) : Decidable query.ProductsUnread :=
  inferInstanceAs (Decidable (List.Pairwise _ _))

/-- A well-scoped query of distinct tables stays so when its products are put last exactly if no
condition is about the table of a product before it. -/
theorem WellScoped.orderProducts_iff {query : Query} (hscoped : query.WellScoped)
    (hdistinct : query.tables.Nodup) :
    query.orderProducts.WellScoped ↔ query.ProductsUnread := by
  have hpairwise := (hscoped.perm_iff hdistinct (List.Perm.refl _)).mp hscoped
  have hordered := hscoped.perm_iff hdistinct (productsLast_perm query.joins)
  refine hordered.trans ((pairwise_partition_iff hpairwise).trans ?_)
  refine ⟨fun h => h.imp fun {earlier later} hpair hproduct => ?_,
    fun h => h.imp fun hpair hproduct _ => hpair hproduct⟩
  cases hcondition : later.hasCondition with
  | true => exact hpair hproduct hcondition
  | false =>
    have hnil : later.condition = [] := by simpa [Join.hasCondition] using hcondition
    rw [Join.mentions, hnil]
    rfl

/-- Avoiding products first moves equalities to joins, which keeps a query of distinct tables well
scoped if its condition is about its tables. Then it puts the products last, and the query stays
well scoped exactly if no condition is about the table of a product before it. -/
theorem wellScoped_avoidProducts_iff {query : Query} (hdistinct : query.tables.Nodup)
    (hscoped : query.WellScoped) (hfilter : query.filter.IsAbout query.tables) :
    query.avoidProducts.query = (Placement.conditions.run query).orderProducts ∧
      (Placement.conditions.run query).WellScoped ∧
      (query.avoidProducts.query.WellScoped ↔
        (Placement.conditions.run query).ProductsUnread) := by
  have hmoved := hscoped.run_conditions hfilter
  have hdistinct' : (Placement.conditions.run query).tables.Nodup := by
    rwa [Placement.conditions.tables_run]
  rw [query_avoidProducts_eq]
  exact ⟨rfl, hmoved, hmoved.orderProducts_iff hdistinct'⟩

/-- A product, a join whose condition is about a column of the given table, and an equality of
columns of the first table and the last one. -/
def productBetween (table : String) : Query :=
  .ofTable .all "A"
    [.ofTable "B" [],
     .ofTable "C" [.compare ⟨.column (.qualified table "ID"), .eq, .column (.qualified "C" "ID")⟩]]
    [.compare ⟨.column (.qualified "C" "X"), .eq, .column (.qualified "A" "X")⟩]

/-- If the condition of the join is about the first table, then the join gets the equality, the
product comes last, and the query stays well scoped. -/
theorem wellScoped_avoidProducts_productBetween :
    (productBetween "A").tables.Nodup ∧ (productBetween "A").WellScoped ∧
      (productBetween "A").filter.IsAbout (productBetween "A").tables ∧
      (productBetween "A").avoidProducts.query.tables = ["A", "C", "B"] ∧
      (productBetween "A").avoidProducts.query.WellScoped := by
  have hdistinct : (productBetween "A").tables.Nodup := by decide
  have hscoped : (productBetween "A").WellScoped := by decide
  have hfilter : (productBetween "A").filter.IsAbout (productBetween "A").tables := by decide
  obtain ⟨-, -, hiff⟩ := wellScoped_avoidProducts_iff hdistinct hscoped hfilter
  exact ⟨hdistinct, hscoped, hfilter, by decide, hiff.mpr (by decide)⟩

/-- If the condition of the join is about the table of the product, then the product comes last as
well, and the join is built before the table is there. -/
theorem not_wellScoped_avoidProducts_productBetween :
    (productBetween "B").tables.Nodup ∧ (productBetween "B").WellScoped ∧
      (productBetween "B").filter.IsAbout (productBetween "B").tables ∧
      (productBetween "B").avoidProducts.query.tables = ["A", "C", "B"] ∧
      ¬ (productBetween "B").avoidProducts.query.WellScoped := by
  decide

end Query

end RelPlan
