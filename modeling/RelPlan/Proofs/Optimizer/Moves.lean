import Mathlib.Logic.Relation
import RelPlan.Optimizer.Pipeline

/-!
# What heuristics do to a query

Pushing selections down and avoiding products place the conjuncts of the condition one after
another. Placing one either leaves it where it is or moves it, and there are three places it can
move to: the access to the first table, the access to a joined table, and the condition of a
join. `Query.Moves` says all that holds of a query when a conjunct is moved, so that a property
of queries is shown to be kept by a heuristic from what one move does to it, and by a whole run
of the optimizer from what each heuristic does.
-/

namespace RelPlan

namespace Query

/-! ## Places in the list of joins -/

/-- The access to a joined table is changed at the first join of the table. -/
theorem modifyAccess_of_find? {table : String} {joins : List Join} {join : Join}
    (change : Access → Access) (h : joins.find? (·.table == table) = some join) :
    ∃ front back, joins = front ++ join :: back ∧ join.table = table ∧
      (∀ other ∈ front, other.table ≠ table) ∧
      Join.modifyAccess table change joins =
        front ++ { join with access := change join.access } :: back := by
  induction joins with
  | nil => simp at h
  | cons head tail ih =>
    by_cases hhead : head.table = table
    · have heq : head = join := by simpa [hhead] using h
      subst heq
      exact ⟨[], tail, rfl, hhead, by simp, by simp [Join.modifyAccess, hhead]⟩
    · rw [List.find?_cons_of_neg (by simpa using hhead)] at h
      obtain ⟨front, back, hjoins, htable, hfront, hmodify⟩ := ih h
      refine ⟨head :: front, back, by rw [hjoins, List.cons_append], htable, ?_, ?_⟩
      · intro other hother
        rcases List.mem_cons.mp hother with rfl | hmem
        · exact hhead
        · exact hfront other hmem
      · rw [Join.modifyAccess, if_neg hhead, hmodify, List.cons_append]

/-- An access to a table is the access to the first table or to the first join of the table. -/
theorem modifyAccess_of_accessOf? {query : Query} {table : String} {access : Access}
    (change : Access → Access) (h : query.accessOf? table = some access) :
    (query.source.table = table ∧
        query.modifyAccess table change =
          { query with source.access := change query.source.access }) ∨
      ∃ front join back, query.joins = front ++ join :: back ∧ join.table = table ∧
        (∀ other ∈ query.source.table :: front.map (·.table), other ≠ table) ∧
        query.modifyAccess table change =
          { query with
            joins := front ++ { join with access := change join.access } :: back } := by
  by_cases hsource : query.source.table = table
  · exact .inl ⟨hsource, by rw [modifyAccess, if_pos hsource]⟩
  · right
    have hfound : ∃ join, query.joins.find? (·.table == table) = some join := by
      rw [accessOf?, sources, List.find?_cons_of_neg (by simpa using hsource),
        List.find?_map] at h
      simp only [Option.map_map, Option.map_eq_some_iff] at h
      obtain ⟨join, hjoin, -⟩ := h
      exact ⟨join, hjoin⟩
    obtain ⟨join, hjoin⟩ := hfound
    obtain ⟨front, back, hjoins, htable, hfront, hmodify⟩ := modifyAccess_of_find? change hjoin
    refine ⟨front, join, back, hjoins, htable, ?_, ?_⟩
    · intro other hother
      rcases List.mem_cons.mp hother with rfl | hmem
      · exact hsource
      · obtain ⟨earlier, hearlier, rfl⟩ := List.mem_map.mp hmem
        exact hfront earlier hearlier
    · rw [modifyAccess, if_neg hsource, hmodify]

section Choice

variable {query : Query} {first second : String} {index : Nat}

/-- At the first position that is found there is a join that passes the test. -/
theorem getElem?_of_findIdx? {joins : List Join} {test : Join → Bool}
    (h : joins.findIdx? test = some index) :
    ∃ join, joins[index]? = some join ∧ test join = true := by
  obtain ⟨hlt, htest, -⟩ := List.findIdx?_eq_some_iff_getElem.mp h
  exact ⟨joins[index], List.getElem?_eq_getElem hlt, htest⟩

/-- A linked join is of one of two tables, and its condition is about the other one. -/
theorem getElem?_of_linkedJoin? (h : query.linkedJoin? first second = some index) :
    ∃ join, query.joins[index]? = some join ∧ join.isOfEither first second = true ∧
      join.mentions (join.other first second) = true := by
  obtain ⟨join, hjoin, htest⟩ := getElem?_of_findIdx? h
  exact ⟨join, hjoin, Bool.and_eq_true_iff.mp htest⟩

/-- The test for an available join says that the other table is there before the join. -/
theorem available_iff {join : Join} :
    (join.isOfEither first second &&
        (query.source.table == join.other first second ||
          (query.joins.take index).any (·.table == join.other first second))) = true ↔
      join.isOfEither first second = true ∧
        join.other first second ∈
          query.source.table :: (query.joins.take index).map (·.table) := by
  simp only [Bool.and_eq_true, Bool.or_eq_true, beq_iff_eq, List.any_eq_true, List.mem_cons,
    List.mem_map]
  exact and_congr_right fun _ => or_congr_left eq_comm

/-- An available join is of one of two tables, and the other one is there before it. -/
theorem getElem?_of_availableJoin? (h : query.availableJoin? first second = some index) :
    ∃ join, query.joins[index]? = some join ∧ join.isOfEither first second = true ∧
      join.other first second ∈ query.source.table :: (query.joins.take index).map (·.table) := by
  obtain ⟨⟨join, position⟩, hfind, rfl⟩ := Option.map_eq_some_iff.mp h
  have hmem := List.mem_of_find?_eq_some hfind
  have htest := List.find?_some hfind
  exact ⟨join, List.mk_mem_zipIdx_iff_getElem?.mp hmem, available_iff.mp htest⟩

/-- If no join is available, then the other table is there before none of them. -/
theorem not_mem_of_availableJoin?_eq_none (h : query.availableJoin? first second = none)
    {join : Join} (hjoin : query.joins[index]? = some join)
    (heither : join.isOfEither first second = true) :
    join.other first second ∉ query.source.table :: (query.joins.take index).map (·.table) := by
  intro hmem
  have hnone := List.find?_eq_none.mp (Option.map_eq_none_iff.mp h) (join, index)
    (List.mk_mem_zipIdx_iff_getElem?.mpr hjoin)
  exact hnone (available_iff.mpr ⟨heither, hmem⟩)

/-- A linked join is preferred to an available one, and that to the first one. -/
theorem chooseJoin?_eq_some_iff :
    query.chooseJoin? first second = some index ↔
      query.linkedJoin? first second = some index ∨
        query.linkedJoin? first second = none ∧
          (query.availableJoin? first second = some index ∨
            query.availableJoin? first second = none ∧
              query.firstJoin? first second = some index) := by
  simp only [chooseJoin?, Option.orElse_eq_orElse, Option.orElse_eq_or, Option.or_eq_some_iff]

/-- The join that an equality moves to is one of the joins, of one of the two tables. -/
theorem getElem?_of_chooseJoin? (h : query.chooseJoin? first second = some index) :
    ∃ join, query.joins[index]? = some join ∧ join.isOfEither first second = true := by
  rcases chooseJoin?_eq_some_iff.mp h with hlinked | ⟨-, havailable | ⟨-, hfirst⟩⟩
  · obtain ⟨join, hjoin, heither, -⟩ := getElem?_of_linkedJoin? hlinked
    exact ⟨join, hjoin, heither⟩
  · obtain ⟨join, hjoin, heither, -⟩ := getElem?_of_availableJoin? havailable
    exact ⟨join, hjoin, heither⟩
  · exact getElem?_of_findIdx? hfirst

end Choice

/-- A condition is pushed onto the join at its position and no other. -/
theorem pushCondition_of_getElem? {query : Query} {index : Nat} {join : Join}
    (predicate : Predicate) (h : query.joins[index]? = some join) :
    ∃ front back, query.joins = front ++ join :: back ∧ front.length = index ∧
      query.pushCondition index predicate =
        { query with
          joins := front ++
            { join with condition := join.condition.pushUnique predicate } :: back } := by
  obtain ⟨hlt, rfl⟩ := List.getElem?_eq_some_iff.mp h
  refine ⟨query.joins.take index, query.joins.drop (index + 1), ?_, ?_, ?_⟩
  · rw [List.getElem_cons_drop, List.take_append_drop]
  · exact List.length_take_of_le (Nat.le_of_lt hlt)
  · rw [pushCondition, List.modify_eq_take_cons_drop hlt]

/-! ## Moves of one conjunct -/

/-- One conjunct leaves the condition for a place at which it is tested earlier. -/
inductive Moves : Query → Query → Prop
  /-- The conjunct is only about the first table. -/
  | toSource {query : Query} {before after : Conjunction} {predicate : Predicate}
      (filter : query.filter = before ++ predicate :: after)
      (only : predicate.onlyTable? = some query.source.table) :
      Moves query
        { query with
          filter := before ++ after
          source.access := query.source.access.push predicate }
  /-- The conjunct is only about a table that is joined, and this is its first join. -/
  | toAccess {query : Query} {before after : Conjunction} {predicate : Predicate}
      {front back : List Join} {join : Join}
      (filter : query.filter = before ++ predicate :: after)
      (only : predicate.onlyTable? = some join.table)
      (joins : query.joins = front ++ join :: back)
      (first : ∀ other ∈ query.source.table :: front.map (·.table), other ≠ join.table) :
      Moves query
        { query with
          filter := before ++ after
          joins := front ++ { join with access := join.access.push predicate } :: back }
  /-- The conjunct equates columns of two tables, and this is the join that is chosen. -/
  | toCondition {query : Query} {before after : Conjunction} {predicate : Predicate}
      {front back : List Join} {join : Join} {one other : String}
      (filter : query.filter = before ++ predicate :: after)
      (tables : predicate.joinedTables? = some (one, other))
      (joins : query.joins = front ++ join :: back)
      (chosen : query.chooseJoin? one other = some front.length) :
      Moves query
        { query with
          filter := before ++ after
          joins := front ++
            { join with condition := join.condition.pushUnique predicate } :: back }

/-- The condition without one conjunct is a part of the condition. -/
theorem filter_sublist {query : Query} {before after : Conjunction} {predicate : Predicate}
    (hfilter : query.filter = before ++ predicate :: after) :
    (before ++ after).Sublist query.filter := by
  rw [hfilter]
  exact (List.Sublist.refl before).append (List.sublist_cons_self predicate after)

/-- The query with some conjuncts behind its condition that have not been placed yet. -/
def awaiting (query : Query) (rest : Conjunction) : Query :=
  { query with filter := query.filter ++ rest }

/-- A query is itself if there are no conjuncts to place. -/
theorem awaiting_nil (query : Query) : query.awaiting [] = query := by
  simp [awaiting]

/-- A conjunct that is kept comes behind those that were kept before. -/
theorem awaiting_keep (revision : Revision) (predicate : Predicate) (rest : Conjunction) :
    (revision.keep predicate).query.awaiting rest =
      revision.query.awaiting (predicate :: rest) := by
  simp [Revision.keep, awaiting]

/-- What pushing selections down does with a conjunct: one that is not about exactly one table is
kept, one about a table that is not there is kept with a warning, and any other is put in the
filter of the first access to its table. -/
theorem pushConjunct_cases (joined : Bool) (revision : Revision) (predicate : Predicate) :
    predicate.onlyTable? = none ∧
      pushConjunct joined revision predicate = revision.keep predicate ∨
    ∃ table, predicate.onlyTable? = some table ∧
      (revision.query.accessOf? table = none ∧
        pushConjunct joined revision predicate =
          (revision.warn (.unknownTable table predicate)).keep predicate ∨
      ∃ access, revision.query.accessOf? table = some access ∧
        pushConjunct joined revision predicate =
          { revision with
            query := revision.query.modifyAccess table (·.push predicate)
            notes := revision.notes ++ if access.selection.covers predicate then []
              else [.filterPushed table predicate joined] }) := by
  unfold pushConjunct
  cases predicate.onlyTable? with
  | none => exact .inl ⟨rfl, rfl⟩
  | some table =>
    refine .inr ⟨table, rfl, ?_⟩
    cases haccess : revision.query.accessOf? table with
    | none => exact .inl ⟨rfl, by simp [haccess]⟩
    | some access =>
      refine .inr ⟨access, rfl, ?_⟩
      by_cases hcovers : access.selection.covers predicate
      · simp [haccess, hcovers]
      · simp [haccess, hcovers, Revision.note]

/-- What avoiding products does with a conjunct: one that does not equate columns of two tables is
kept, one for which there is no join is kept with a warning, and any other is put in the condition
of the join that is chosen for it. -/
theorem moveConjunct_cases (revision : Revision) (predicate : Predicate) :
    predicate.joinedTables? = none ∧
      moveConjunct revision predicate = revision.keep predicate ∨
    ∃ one other, predicate.joinedTables? = some (one, other) ∧
      (revision.query.chooseJoin? one other = none ∧
        moveConjunct revision predicate =
          (revision.warn (.noMatchingJoin predicate)).keep predicate ∨
      ∃ index, revision.query.chooseJoin? one other = some index ∧
        moveConjunct revision predicate =
          { revision with
            query := revision.query.pushCondition index predicate
            notes := revision.notes ++
              (revision.query.joins[index]?.map (conditionNote predicate)).toList }) := by
  unfold moveConjunct
  cases predicate.joinedTables? with
  | none => exact .inl ⟨rfl, rfl⟩
  | some pair =>
    obtain ⟨one, other⟩ := pair
    refine .inr ⟨one, other, rfl, ?_⟩
    cases hchosen : revision.query.chooseJoin? one other with
    | none => exact .inl ⟨rfl, by simp [hchosen]⟩
    | some index => exact .inr ⟨index, rfl, by simp [hchosen]⟩

/-- Pushing selections down moves a conjunct or leaves it where it is. -/
theorem reflGen_moves_pushConjunct (joined : Bool) (revision : Revision) (predicate : Predicate)
    (rest : Conjunction) :
    Relation.ReflGen Moves (revision.query.awaiting (predicate :: rest))
      ((pushConjunct joined revision predicate).query.awaiting rest) := by
  obtain ⟨-, hpush⟩ | ⟨table, honly, ⟨-, hpush⟩ | ⟨access, haccess, hpush⟩⟩ :=
    pushConjunct_cases joined revision predicate
  · rw [hpush, awaiting_keep]
  · rw [hpush, awaiting_keep]
    exact .refl
  · rw [hpush]
    refine .single ?_
    rcases modifyAccess_of_accessOf? (·.push predicate) haccess with
      ⟨rfl, hmodify⟩ | ⟨front, join, back, hjoins, rfl, hfirst, hmodify⟩
    · rw [hmodify]
      exact @Moves.toSource (revision.query.awaiting (predicate :: rest)) _ _ _ rfl honly
    · rw [hmodify]
      exact @Moves.toAccess (revision.query.awaiting (predicate :: rest)) _ _ _ _ _ _ rfl honly
        hjoins hfirst

/-- Avoiding products moves a conjunct or leaves it where it is. -/
theorem reflGen_moves_moveConjunct (revision : Revision) (predicate : Predicate)
    (rest : Conjunction) :
    Relation.ReflGen Moves (revision.query.awaiting (predicate :: rest))
      ((moveConjunct revision predicate).query.awaiting rest) := by
  obtain ⟨-, hmove⟩ | ⟨one, other, htables, ⟨-, hmove⟩ | ⟨index, hchosen, hmove⟩⟩ :=
    moveConjunct_cases revision predicate
  · rw [hmove, awaiting_keep]
  · rw [hmove, awaiting_keep]
    exact .refl
  · obtain ⟨join, hjoin, -⟩ := getElem?_of_chooseJoin? hchosen
    obtain ⟨front, back, hjoins, rfl, hpush⟩ := pushCondition_of_getElem? predicate hjoin
    rw [hmove, hpush]
    exact .single (@Moves.toCondition (revision.query.awaiting (predicate :: rest)) _ _ _ _ _ _ _ _
      rfl htables hjoins hchosen)

/-- Placing conjuncts one after another is a run of moves. -/
theorem reflTransGen_moves_foldl {place : Revision → Predicate → Revision}
    (hplace : ∀ (revision : Revision) (predicate : Predicate) (rest : Conjunction),
      Relation.ReflGen Moves (revision.query.awaiting (predicate :: rest))
        ((place revision predicate).query.awaiting rest))
    (rest : Conjunction) (revision : Revision) :
    Relation.ReflTransGen Moves (revision.query.awaiting rest)
      (rest.foldl place revision).query := by
  induction rest generalizing revision with
  | nil => rw [awaiting_nil]; exact .refl
  | cons predicate rest ih =>
    exact (hplace revision predicate rest).to_reflTransGen.trans (ih (place revision predicate))

/-! ## Heuristics as moves -/

/-- Pushing selections down is a run of moves. -/
theorem reflTransGen_moves_pushSelections (query : Query) :
    Relation.ReflTransGen Moves query query.pushSelections.query := by
  have h := reflTransGen_moves_foldl (reflGen_moves_pushConjunct !query.joins.isEmpty) query.filter
    (.unchanged { query with filter := [] })
  exact h

/-- Avoiding products is a run of moves after which the products are put last. -/
theorem exists_moves_avoidProducts (query : Query) :
    ∃ moved, Relation.ReflTransGen Moves query moved ∧
      query.avoidProducts.query = moved.orderProducts := by
  unfold avoidProducts
  split
  · next hjoins =>
    have hnil : query.joins = [] := List.isEmpty_iff.mp hjoins
    refine ⟨query, .refl, ?_⟩
    cases query
    simp_all [Revision.unchanged, orderProducts, productsLast]
  · have h := reflTransGen_moves_foldl reflGen_moves_moveConjunct query.filter
      (.unchanged { query with filter := [] })
    exact ⟨_, h, rfl⟩

/-- Pushing projections down restricts every access or leaves the query as it is. -/
theorem query_pushProjections (schema : Option Schema) (query : Query) :
    (query.pushProjections schema).query = query ∨
      query.select.isAll = false ∧ query.unresolved? schema = none ∧
        (query.pushProjections schema).query = query.restrict schema := by
  unfold pushProjections
  split
  · exact .inl rfl
  · next hall =>
    split
    · exact .inl rfl
    · next hresolved => exact .inr ⟨by simpa using hall, hresolved, rfl⟩

/-- Ordering joins sorts them or leaves the query as it is. -/
theorem query_orderJoins (stats : Option Statistics) (query : Query) :
    (query.orderJoins stats).query = query ∨
      (query.orderJoins stats).query =
        { query with joins := (query.ordered stats).map (·.1) } := by
  unfold orderJoins
  split
  · exact .inl rfl
  · exact .inr rfl

/-- The joins of a query in order of their estimates are its joins in some order. -/
theorem map_ordered_perm (stats : Option Statistics) (query : Query) :
    ((query.ordered stats).map (·.1)).Perm query.joins := by
  have h := (ordered_perm stats query).map (·.1)
  rwa [List.zipIdx_map_fst] at h

end Query

/-! ## Properties kept by a run -/

/-- A property that every move keeps is kept by every run of moves. -/
theorem Query.preserved_of_moves {P : Query → Prop}
    (hmove : ∀ {query moved : Query}, query.Moves moved → P query → P moved) {query moved : Query}
    (h : Relation.ReflTransGen Query.Moves query moved) (hquery : P query) : P moved := by
  induction h with
  | refl => exact hquery
  | tail _ hstep ih => exact hmove hstep ih

namespace Optimizer

/-- The first heuristic is applied before the others. -/
theorem query_optimize_cons (knowledge : Knowledge) (heuristic : Heuristic)
    (heuristics : List Heuristic) (query : Query) :
    (optimize ⟨heuristic :: heuristics, knowledge⟩ query).query =
      (optimize ⟨heuristics, knowledge⟩ (heuristic.apply knowledge query).query).query := by
  cases heuristics with
  | nil => rfl
  | cons next others => simp [optimize, Optimized.query, applyAll, List.getLast?_cons]

/-- A property that every heuristic of an optimizer keeps is kept by the optimizer. -/
theorem preserved_of_heuristics {P : Query → Prop} {optimizer : Optimizer}
    (hstep : ∀ heuristic ∈ optimizer.heuristics, ∀ query : Query,
      P query → P (heuristic.apply optimizer.knowledge query).query)
    {query : Query} (hquery : P query) : P (optimizer.optimize query).query := by
  obtain ⟨heuristics, knowledge⟩ := optimizer
  induction heuristics generalizing query with
  | nil => exact hquery
  | cons heuristic heuristics ih =>
    rw [query_optimize_cons]
    exact ih (hstep heuristic List.mem_cons_self query hquery)
      (fun other hother => hstep other (List.mem_cons_of_mem _ hother))

end Optimizer

end RelPlan
