import RelPlan.Proofs.Optimizer.Commutation

/-!
# Where equalities move to

Avoiding products changes the very conditions that it looks at, since a join that gets an equality
is linked to the tables of the equality from then on. But it is linked to no other tables by that,
and for these tables it is the join that was chosen before. So an equality moves to the join that
is chosen for it in the query as it was (`Query.chooseJoin?_putAll`), and a join gets the conjuncts
that it is the target of (`Query.putAll_conditions_eq`). The order of the conjuncts makes a
difference only to the order of those that arrive at the same join and to which of two equivalent
ones arrives first (`Query.chooseJoin?_foldl_moveConjunct_and_perm`).
-/

namespace RelPlan

/-- A list stays as it is if no member is changed at its position. -/
theorem mapIdx_eq_self {α : Type} {change : Nat → α → α}
    (h : ∀ index item, change index item = item) (items : List α) :
    items.mapIdx change = items := by
  refine List.ext_getElem? fun index => ?_
  rw [List.getElem?_mapIdx, funext (h index)]
  exact Option.map_id'

namespace Join

variable {join : Join} {one other : String}

/-- It does not matter which of two tables is named first. -/
theorem isOfEither_comm (join : Join) (one other : String) :
    join.isOfEither one other = join.isOfEither other one := Bool.or_comm _ _

/-- Which of two tables is the other one does not depend on their order. -/
theorem other_comm (hne : one ≠ other) (heither : join.isOfEither one other = true) :
    join.other one other = join.other other one := by
  have hin := (eq_table_or_eq_other_iff heither).mp (.inr rfl)
  rw [isOfEither_comm] at heither
  have hin' := (eq_table_or_eq_other_iff heither).mpr hin.symm
  exact hin'.resolve_left (other_ne_table hne)

/-- If a join is of one of two tables, and of one of two tables again with the same other one, then
these are the same two tables. -/
theorem eq_or_swap_of_other_eq {first second : String}
    (heither : join.isOfEither one other = true) (heither' : join.isOfEither first second = true)
    (hother : join.other one other = join.other first second) :
    one = first ∧ other = second ∨ one = second ∧ other = first := by
  rw [isOfEither_iff] at heither heither'
  unfold Join.other at hother
  grind

/-- A join mentions a table with one more predicate if it did so before or the predicate is about
the table. -/
theorem mentions_addCondition {predicate : Predicate} {table : String} :
    (join.addCondition predicate).mentions table = true ↔
      join.mentions table = true ∨ table ∈ predicate.tables.toList := by
  simp only [mentions_iff, NameSet.mem_toList]
  constructor
  · rintro ⟨conjunct, hmem, htable⟩
    rcases Conjunction.mem_of_mem_pushUnique hmem with hmem | rfl
    · exact .inl ⟨conjunct, hmem, htable⟩
    · exact .inr htable
  · rintro (⟨conjunct, hmem, htable⟩ | htable)
    · exact ⟨conjunct, Conjunction.mem_pushUnique_of_mem predicate hmem, htable⟩
    · obtain ⟨conjunct, hmem, hequivalent⟩ :=
        Conjunction.exists_equivalent_mem_pushUnique join.condition predicate
      exact ⟨conjunct, hmem, (Predicate.mem_tables_of_equivalent hequivalent table).mp htable⟩

/-- Whether a join is of one of two tables and its condition is about the other one. -/
def isLinked (one other : String) (join : Join) : Bool :=
  join.isOfEither one other && join.mentions (join.other one other)

/-- A join of one of two tables is linked exactly if its condition is about the one that it is not
of. -/
theorem isLinked_iff :
    join.isLinked one other = true ↔
      join.isOfEither one other = true ∧ join.mentions (join.other one other) = true :=
  Bool.and_eq_true_iff

/-- One more predicate links a join of one of two tables if it is about the other one. -/
theorem isLinked_addCondition_iff {predicate : Predicate} :
    (join.addCondition predicate).isLinked one other = true ↔
      join.isLinked one other = true ∨
        join.isOfEither one other = true ∧ join.other one other ∈ predicate.tables.toList := by
  have heither : (join.addCondition predicate).isOfEither one other =
      join.isOfEither one other := rfl
  have hother : (join.addCondition predicate).other one other = join.other one other := rfl
  rw [isLinked_iff, isLinked_iff, heither, hother, mentions_addCondition, and_or_left]

end Join

namespace Query

/-! ## A choice beside a move -/

/-- The join that is linked to two tables is the first one that is. -/
theorem linkedJoin?_eq (query : Query) (one other : String) :
    query.linkedJoin? one other = query.joins.findIdx? (·.isLinked one other) := rfl

/-- The join that is chosen for two tables does not depend on their order. -/
theorem chooseJoin?_comm (query : Query) {one other : String} (hne : one ≠ other) :
    query.chooseJoin? one other = query.chooseJoin? other one := by
  have htest (join : Join) (test : String → Bool) :
      (join.isOfEither one other && test (join.other one other)) =
        (join.isOfEither other one && test (join.other other one)) := by
    cases heither : join.isOfEither one other with
    | false => rw [← Join.isOfEither_comm, heither]; rfl
    | true => rw [← Join.isOfEither_comm, heither, Join.other_comm hne heither]
  have hlinked : query.linkedJoin? one other = query.linkedJoin? other one :=
    congrArg query.joins.findIdx? (funext fun join => htest join join.mentions)
  have havailable : query.availableJoin? one other = query.availableJoin? other one := by
    refine congrArg (fun test => (query.joins.zipIdx.find? test).map (·.2)) (funext fun entry => ?_)
    exact htest entry.1 fun table =>
      query.source.table == table || (query.joins.take entry.2).any (·.table == table)
  have hfirst : query.firstJoin? one other = query.firstJoin? other one :=
    congrArg query.joins.findIdx? (funext fun join => join.isOfEither_comm one other)
  rw [chooseJoin?, chooseJoin?, hlinked, havailable, hfirst]

section Push

variable {query : Query} {predicate : Predicate} {one other : String} {index : Nat}

/-- The join that is chosen for two tables is the first one that is linked to them once a predicate
about both is pushed onto its condition. -/
theorem linkedJoin?_pushCondition_of_chooseJoin? (hone : one ∈ predicate.tables.toList)
    (hother : other ∈ predicate.tables.toList)
    (hchosen : query.chooseJoin? one other = some index) :
    (query.pushCondition index predicate).linkedJoin? one other = some index := by
  obtain ⟨join, hjoin, heither⟩ := getElem?_of_chooseJoin? hchosen
  obtain ⟨front, back, hjoins, rfl, hpush⟩ := pushCondition_of_getElem? predicate hjoin
  -- A linked join in front of the chosen one would have been chosen.
  have hfront : front.findIdx? (·.isLinked one other) = none := by
    cases hfound : front.findIdx? (·.isLinked one other) with
    | none => rfl
    | some found =>
      have hlt : found < front.length := (List.findIdx?_eq_some_iff_getElem.mp hfound).1
      have hlinked : query.linkedJoin? one other = some found := by
        rw [linkedJoin?_eq, hjoins, List.findIdx?_append, hfound, Option.some_or]
      have hfirst := chooseJoin?_eq_some_iff.mpr (.inl hlinked)
      exact absurd (Option.some.inj (hfirst.symm.trans hchosen)) (Nat.ne_of_lt hlt)
  have hmem : join.other one other ∈ predicate.tables.toList := by
    rcases (Join.eq_table_or_eq_other_iff heither).mp (.inr rfl) with heq | heq
    · rwa [heq]
    · rwa [heq]
  have hnew : (join.addCondition predicate).isLinked one other = true :=
    Join.isLinked_addCondition_iff.mpr (.inr ⟨heither, hmem⟩)
  rw [Join.addCondition] at hnew
  rw [hpush, linkedJoin?_eq, List.findIdx?_append, hfront, Option.none_or, List.findIdx?_cons,
    if_pos hnew, Option.map_some, Nat.zero_add]

/-- Which join is linked to two tables does not change when a predicate is pushed onto the condition
of a join, unless this is of one of the two tables and the predicate about the other one. -/
theorem linkedJoin?_pushCondition_of_not_mem {join : Join}
    (hjoin : query.joins[index]? = some join)
    (h : join.isOfEither one other = true → join.other one other ∉ predicate.tables.toList) :
    (query.pushCondition index predicate).linkedJoin? one other = query.linkedJoin? one other := by
  obtain ⟨front, back, hjoins, rfl, hpush⟩ := pushCondition_of_getElem? predicate hjoin
  have hlinked : (join.addCondition predicate).isLinked one other = join.isLinked one other := by
    rw [Bool.eq_iff_iff, Join.isLinked_addCondition_iff, or_iff_left]
    exact fun hboth => h hboth.1 hboth.2
  rw [Join.addCondition] at hlinked
  rw [hpush, linkedJoin?_eq, linkedJoin?_eq, hjoins, List.findIdx?_append, List.findIdx?_append,
    List.findIdx?_cons, List.findIdx?_cons, hlinked]

/-- When an equality of columns of two tables is pushed onto the condition of the join that is
chosen for it, no choice changes. For the same two tables the join that gets the equality was chosen
before and is linked to them now. For other ones the links are as they were. -/
theorem chooseJoin?_pushCondition {first second : String}
    (htables : predicate.joinedTables? = some (first, second))
    (hchosen : query.chooseJoin? first second = some index) (hne : one ≠ other) :
    (query.pushCondition index predicate).chooseJoin? one other =
      query.chooseJoin? one other := by
  have hboth := Predicate.mem_tables_of_joinedTables? htables
  have htable : (query.pushCondition index predicate).source.table = query.source.table := rfl
  have hmap : (query.pushCondition index predicate).joins.map (·.table) =
      query.joins.map (·.table) := Join.map_modify (by intro join; rfl) query.joins index
  obtain ⟨join, hjoin, heither⟩ := getElem?_of_chooseJoin? hchosen
  by_cases hsame : join.isOfEither one other = true ∧
      join.other one other ∈ predicate.tables.toList
  · obtain ⟨heither', hmem⟩ := hsame
    have hother : join.other one other = join.other first second := by
      have hin := (Join.eq_table_or_eq_other_iff heither).mpr ((hboth _).mp hmem)
      exact hin.resolve_left (Join.other_ne_table hne)
    have hpair := Join.eq_or_swap_of_other_eq heither' heither hother
    have hsame : query.chooseJoin? one other = some index := by
      rcases hpair with ⟨rfl, rfl⟩ | ⟨rfl, rfl⟩
      · exact hchosen
      · rw [chooseJoin?_comm query hne, hchosen]
    have hone : one ∈ predicate.tables.toList :=
      (hboth one).mpr (hpair.imp And.left And.left)
    have hsecond : other ∈ predicate.tables.toList :=
      (hboth other).mpr (hpair.symm.imp And.right And.right)
    rw [hsame]
    exact chooseJoin?_eq_some_iff.mpr
      (.inl (linkedJoin?_pushCondition_of_chooseJoin? hone hsecond hsame))
  · rw [chooseJoin?, chooseJoin?, availableJoin?_congr htable hmap, firstJoin?_congr hmap,
      linkedJoin?_pushCondition_of_not_mem hjoin fun heither' hmem => hsame ⟨heither', hmem⟩]

end Push

/-- When a predicate moves to the join that is chosen for it, no choice changes. -/
theorem chooseJoin?_placeCondition (query : Query) (predicate : Predicate) {one other : String}
    (hne : one ≠ other) :
    (query.placeCondition predicate).chooseJoin? one other = query.chooseJoin? one other := by
  unfold placeCondition
  split
  · rfl
  · next htables =>
    split
    · rfl
    · next hchosen => exact chooseJoin?_pushCondition htables hchosen hne

/-- However many predicates move, no choice changes. -/
theorem chooseJoin?_putAll (query : Query) (predicates : List Predicate) {one other : String}
    (hne : one ≠ other) :
    (Placement.conditions.putAll query predicates).chooseJoin? one other =
      query.chooseJoin? one other := by
  induction predicates generalizing query with
  | nil => rfl
  | cons predicate predicates ih =>
    exact (ih _).trans (query.chooseJoin?_placeCondition predicate hne)

/-! ## What arrives at a join -/

/-- The join that a predicate moves to, if it is an equality of columns of two tables. -/
def target? (query : Query) (predicate : Predicate) : Option Nat :=
  predicate.joinedTables?.bind fun (one, other) => query.chooseJoin? one other

/-- The join at a position with one more predicate in its condition if the predicate moves there. -/
def arriving (query : Query) (predicate : Predicate) (index : Nat) (join : Join) : Join :=
  if query.target? predicate = some index then join.addCondition predicate else join

/-- An equality is put into the condition of the join at which it arrives, and the other joins stay
as they are. -/
theorem placeCondition_eq (query : Query) (predicate : Predicate) :
    query.placeCondition predicate =
      { query with joins := query.joins.mapIdx (query.arriving predicate) } := by
  have hplace : query.placeCondition predicate =
      (query.target? predicate).elim query (query.pushCondition · predicate) := by
    unfold placeCondition target?
    cases predicate.joinedTables? with
    | none => rfl
    | some pair =>
      dsimp only [Option.bind_some]
      cases query.chooseJoin? pair.1 pair.2 with
      | none => rfl
      | some index => rfl
  cases htarget : query.target? predicate with
  | none =>
    have hjoins : query.joins.mapIdx (query.arriving predicate) = query.joins :=
      mapIdx_eq_self (fun index join => by simp [arriving, htarget]) query.joins
    rw [hplace, htarget, Option.elim_none, hjoins]
  | some target =>
    have harriving (index : Nat) : query.arriving predicate index = fun join =>
        if target = index then join.addCondition predicate else join := by
      funext join
      simp only [arriving, htarget, Option.some.injEq]
    have hjoins : query.joins.modify target (Join.addCondition predicate) =
        query.joins.mapIdx (query.arriving predicate) := by
      refine List.ext_getElem? fun index => ?_
      rw [List.getElem?_modify, List.getElem?_mapIdx, harriving]
      rfl
    rw [hplace, htarget, Option.elim_some, ← hjoins, ← pushCondition_eq]

/-- When a predicate moves, no other one gets another target. -/
theorem target?_placeCondition (query : Query) (predicate other : Predicate) :
    (query.placeCondition predicate).target? other = query.target? other := by
  unfold target?
  cases hpair : other.joinedTables? with
  | none => rfl
  | some pair =>
    exact query.chooseJoin?_placeCondition predicate (Predicate.exists_of_joinedTables? hpair).1

/-- The join at a position with those of some predicates in its condition that move there. -/
def receiving (query : Query) (predicates : List Predicate) (index : Nat) (join : Join) : Join :=
  { join with
    condition := (predicates.filter (query.target? · == some index)).foldl
      Conjunction.pushUnique join.condition }

/-- What a join receives of some predicates it receives of the first one and then of the others. -/
theorem receiving_cons (query : Query) (predicate : Predicate) (predicates : List Predicate)
    (index : Nat) (join : Join) :
    query.receiving (predicate :: predicates) index join =
      query.receiving predicates index (query.arriving predicate index join) := by
  by_cases h : query.target? predicate = some index <;>
    simp [receiving, arriving, h, Join.addCondition]

/-- A join gets the predicates that it is the target of, and what the target of a predicate is does
not depend on what else moves. -/
theorem putAll_conditions_eq (query : Query) (predicates : List Predicate) :
    Placement.conditions.putAll query predicates =
      { query with joins := query.joins.mapIdx (query.receiving predicates) } := by
  induction predicates generalizing query with
  | nil =>
    have hjoins : query.joins.mapIdx (query.receiving []) = query.joins :=
      mapIdx_eq_self (fun _ _ => rfl) query.joins
    rw [hjoins]
    rfl
  | cons predicate predicates ih =>
    have hsame : (query.placeCondition predicate).receiving predicates =
        query.receiving predicates := by
      unfold receiving
      simp only [target?_placeCondition]
    have hcons : query.receiving (predicate :: predicates) = fun index =>
        query.receiving predicates index ∘ query.arriving predicate index :=
      funext fun index => funext fun join => query.receiving_cons predicate predicates index join
    calc Placement.conditions.putAll query (predicate :: predicates)
        = Placement.conditions.putAll (query.placeCondition predicate) predicates := rfl
      _ = { query.placeCondition predicate with
            joins := (query.placeCondition predicate).joins.mapIdx
              (query.receiving predicates) } := by rw [ih, hsame]
      _ = { query with
            joins := query.joins.mapIdx (query.receiving (predicate :: predicates)) } := by
        rw [placeCondition_eq, hcons, List.mapIdx_mapIdx]

end Query

/-! ## Conjuncts in any order -/

/-- Joins of one table with one access whose conditions match. -/
structure Join.Matches (first second : Join) : Prop where
  source : first.toSource = second.toSource
  condition : first.condition.Matches second.condition

/-- Joins that match have a condition both or none of them. -/
theorem Join.Matches.hasCondition_iff {first second : Join} (h : first.Matches second) :
    first.hasCondition = true ↔ second.hasCondition = true := by
  simp only [Join.hasCondition, Bool.not_eq_true', List.isEmpty_eq_false_iff,
    ← List.length_pos_iff, h.condition.length_eq]

namespace Query

/-- Joins that match one by one still do so when products are put last. -/
theorem forall₂_matches_productsLast {first second : List Join}
    (h : List.Forall₂ Join.Matches first second) :
    List.Forall₂ Join.Matches (productsLast first) (productsLast second) := by
  refine List.rel_append (List.rel_filter ?_ h) (List.rel_filter ?_ h)
  · exact fun _ _ hmatches => hmatches.hasCondition_iff
  · intro one other hmatches
    simpa using hmatches.hasCondition_iff.not

/-- When predicates move in another order, the joins that they move to match. -/
theorem forall₂_matches_putAll (query : Query) {predicates others : List Predicate}
    (h : predicates.Perm others) :
    List.Forall₂ Join.Matches (Placement.conditions.putAll query predicates).joins
      (Placement.conditions.putAll query others).joins := by
  rw [putAll_conditions_eq, putAll_conditions_eq]
  refine List.forall₂_iff_get.mpr ⟨by simp, fun index hfirst hsecond => ?_⟩
  simp only [List.get_eq_getElem, List.getElem_mapIdx]
  exact ⟨rfl, Conjunction.matches_foldl_pushUnique _ (h.filter _)⟩

/-- The conjuncts that stay in the condition, and the joins, when the products of a query with
another condition are avoided. -/
theorem avoidProducts_withFilter (query : Query) (filter : Conjunction) :
    (query.withFilter filter).avoidProducts.query.filter =
        filter.filter (!Placement.conditions.accepts query.tables ·) ∧
      (query.withFilter filter).avoidProducts.query.joins =
        productsLast (Placement.conditions.putAll query filter).joins := by
  rw [query_avoidProducts_eq, Placement.run, Placement.putAll_withFilter]
  exact ⟨rfl, rfl⟩

/-- In a well-scoped query, an equality between two of its tables moves to a join of one of the two,
and the other one is there before the join. -/
theorem WellScoped.exists_chooseJoin? {query : Query} (hscoped : query.WellScoped)
    {one other : String} (hne : one ≠ other) (hone : one ∈ query.tables)
    (hother : other ∈ query.tables) :
    ∃ index join, query.chooseJoin? one other = some index ∧
      query.joins[index]? = some join ∧ join.isOfEither one other = true ∧
        join.other one other ∈ query.source.table :: (query.joins.take index).map (·.table) := by
  cases hchosen : query.chooseJoin? one other with
  | none =>
    obtain ⟨hone', hother'⟩ := chooseJoin?_eq_none_iff.mp hchosen
    rw [tail_tables] at hone' hother'
    rw [tables_eq, List.mem_cons, or_iff_left hone'] at hone
    rw [tables_eq, List.mem_cons, or_iff_left hother'] at hother
    exact absurd (hone.trans hother.symm) hne
  | some index =>
    obtain ⟨join, hjoin, -⟩ := getElem?_of_chooseJoin? hchosen
    obtain ⟨hlt, rfl⟩ := List.getElem?_eq_some_iff.mp hjoin
    have hlength : (query.joins.take index).length = index :=
      List.length_take_of_le (Nat.le_of_lt hlt)
    have hjoins : query.joins =
        query.joins.take index ++ query.joins[index] :: query.joins.drop (index + 1) := by
      rw [List.getElem_cons_drop, List.take_append_drop]
    obtain ⟨heither, hthere⟩ := other_mem_of_chooseJoin? hscoped hone hother hne hjoins
      (hchosen.trans (congrArg some hlength.symm))
    exact ⟨index, query.joins[index], rfl, hjoin, heither, hthere⟩

/-- The join that an equality of columns of two tables moves to is the one that is chosen for it in
the query as it was, whichever conjuncts have moved before. In a well-scoped query that is a join of
one of the two tables if these are its tables, and the other one is there before. So the same
conjuncts stay in whatever order they are written, and the joins match one by one. -/
theorem chooseJoin?_foldl_moveConjunct_and_perm (query : Query) :
    (∀ (before after : Conjunction) (one left other right : String), one ≠ other →
      query.filter = before ++ .compare ⟨.column (.qualified one left), .eq,
        .column (.qualified other right)⟩ :: after →
      (before.foldl moveConjunct (.unchanged (query.withFilter []))).query.chooseJoin? one other =
          query.chooseJoin? one other ∧
        (query.WellScoped → one ∈ query.tables → other ∈ query.tables →
          ∃ index join, query.chooseJoin? one other = some index ∧
            query.joins[index]? = some join ∧ join.isOfEither one other = true ∧
              join.other one other ∈
                query.source.table :: (query.joins.take index).map (·.table))) ∧
    ∀ others : Conjunction, others.Perm query.filter →
      (query.withFilter others).avoidProducts.query.filter.Perm query.avoidProducts.query.filter ∧
        List.Forall₂ Join.Matches (query.withFilter others).avoidProducts.query.joins
          query.avoidProducts.query.joins := by
  constructor
  · intro before after one left other right hne _
    refine ⟨?_, fun hscoped hone hother => hscoped.exists_chooseJoin? hne hone hother⟩
    rw [Placement.conditions.query_foldl_eq query_moveConjunct]
    exact chooseJoin?_putAll (query.withFilter []) before hne
  · intro others hperm
    obtain ⟨hfilter, hjoins⟩ := query.avoidProducts_withFilter others
    obtain ⟨hfilter', hjoins'⟩ := query.avoidProducts_withFilter query.filter
    rw [withFilter_filter] at hfilter' hjoins'
    rw [hfilter, hfilter', hjoins, hjoins']
    exact ⟨hperm.filter _,
      forall₂_matches_productsLast (query.forall₂_matches_putAll hperm)⟩

/-- Two products, with an equality of the first two tables, one of the last two, and the first one
again with its sides exchanged. -/
def threeProducts : Query :=
  .ofTable .all "A" [.ofTable "B" [], .ofTable "C" []]
    [.compare ⟨.column (.qualified "A" "X"), .eq, .column (.qualified "B" "X")⟩,
     .compare ⟨.column (.qualified "C" "Y"), .eq, .column (.qualified "B" "Y")⟩,
     .compare ⟨.column (.qualified "B" "X"), .eq, .column (.qualified "A" "X")⟩]

/-- The first join gets whichever of its two equalities comes first, and the second join the other
equality. -/
theorem chooseJoin?_foldl_moveConjunct_and_perm_threeProducts :
    threeProducts.WellScoped ∧ threeProducts.filter.reverse.Perm threeProducts.filter ∧
      ((threeProducts.filter.take 2).foldl moveConjunct
          (.unchanged (threeProducts.withFilter []))).query.chooseJoin? "B" "A" =
        threeProducts.chooseJoin? "B" "A" ∧
      (∃ index join, threeProducts.chooseJoin? "B" "A" = some index ∧
        threeProducts.joins[index]? = some join ∧ join.isOfEither "B" "A" = true ∧
          join.other "B" "A" ∈
            threeProducts.source.table :: (threeProducts.joins.take index).map (·.table)) ∧
      (threeProducts.withFilter threeProducts.filter.reverse).avoidProducts.query.joins ≠
        threeProducts.avoidProducts.query.joins ∧
      List.Forall₂ Join.Matches
        (threeProducts.withFilter threeProducts.filter.reverse).avoidProducts.query.joins
        threeProducts.avoidProducts.query.joins := by
  have hscoped : threeProducts.WellScoped := by decide
  have hreverse : threeProducts.filter.reverse.Perm threeProducts.filter := List.reverse_perm _
  obtain ⟨hmoves, hperm⟩ := chooseJoin?_foldl_moveConjunct_and_perm threeProducts
  obtain ⟨hsame, hthere⟩ :=
    hmoves (threeProducts.filter.take 2) [] "B" "X" "A" "X" (by decide) rfl
  exact ⟨hscoped, hreverse, hsame, hthere hscoped (by decide) (by decide), by decide,
    (hperm _ hreverse).2⟩

end Query

end RelPlan
