import RelPlan.Proofs.Optimizer.Idempotence

/-!
# The ranking of joins

Joins are ranked by their scores, then by the rows that are read of their tables if statistics tell,
and then by the order in which they were. `Query.Precedes` says this of two joins with their
positions, so that joins that are equal are still told apart. There is one order of the joins in
which each precedes all later ones, and ordering joins gives that order and changes nothing else
(`Query.orderJoins_ranking`). Scores and rows do not depend on the order of the joins, which is why
ordering a second time changes nothing. Of the numbers of rows nothing is used but that the places
that they have in the order of all floating-point numbers are integers.
-/

namespace RelPlan

/-- A list that was in order is in that order still where the sort that it went through does not
tell its members apart. -/
theorem pairwise_mergeSort_of_stable {α : Type} {le : α → α → Bool} {R : α → α → Prop}
    {items : List α} (htrans : ∀ a b c, le a b = true → le b c = true → le a c = true)
    (htotal : ∀ a b, (le a b || le b a) = true) (hnodup : items.Nodup) (h : items.Pairwise R) :
    (items.mergeSort le).Pairwise fun earlier later =>
      le earlier later = true ∧ (le later earlier = true → R earlier later) := by
  have hsorted := List.pairwise_mergeSort htrans htotal items
  have hallowed : items.Pairwise fun earlier later => le later earlier = true → R earlier later :=
    h.imp fun {earlier later} hpair (_ : le later earlier = true) => hpair
  refine hsorted.and ((pairwise_mergeSort_iff htrans htotal hnodup hallowed).mpr ?_)
  refine h.imp fun _ hnot => ?_
  exact (Classical.not_imp.mp hnot).1

/-- The place of the number of rows that are read for a join among all floating-point numbers. -/
def Statistics.rowsKey (stats : Statistics) (join : Join) : Int :=
  orderKey (stats.rowsAfterFilters join.table join.access.selection.length)

namespace Query

/-- Whether a join of a query, with its position, is to come before another one: its score is
higher, or the scores are equal and fewer rows are read of it, or these are equal as well as far as
statistics tell and it came first. -/
def Precedes (stats : Option Statistics) (query : Query) (first second : Join × Nat) : Prop :=
  query.score second.1 < query.score first.1 ∨
    query.score first.1 = query.score second.1 ∧
      ((∃ known ∈ stats, known.rowsKey first.1 < known.rowsKey second.1) ∨
        (∀ known ∈ stats, known.rowsKey first.1 = known.rowsKey second.1) ∧ first.2 < second.2)

section Precedes

variable {stats : Option Statistics} {query : Query} {first second : Join × Nat}

instance : Decidable (query.Precedes stats first second) :=
  inferInstanceAs (Decidable (_ ∨ _ ∧ (_ ∨ _ ∧ _)))

/-- A join precedes another one if it may come before it, and came first if either may. -/
theorem precedes_iff :
    query.Precedes stats first second ↔
      (query.estimate stats first.1).le (query.estimate stats second.1) = true ∧
        ((query.estimate stats second.1).le (query.estimate stats first.1) = true →
          first.2 < second.2) := by
  rw [Precedes, estimate_le_iff, estimate_le_iff]
  cases stats with
  | none =>
    simp only [Option.mem_def, reduceCtorEq, false_and, exists_false, false_imp_iff,
      implies_true, true_and, false_or, and_true]
    omega
  | some known =>
    simp only [Statistics.rowsKey, Option.mem_def, Option.some.injEq, exists_eq_left', forall_eq']
    omega

/-- Of two joins only one precedes the other. -/
theorem not_precedes_of_precedes (h : query.Precedes stats first second) :
    ¬ query.Precedes stats second first := by
  intro hswap
  obtain ⟨hle, hbefore⟩ := precedes_iff.mp h
  obtain ⟨hle', hbefore'⟩ := precedes_iff.mp hswap
  exact Nat.lt_asymm (hbefore hle') (hbefore' hle)

end Precedes

/-- Whether an order of the joins of a query, each with its position, is the one in which each join
precedes all later ones. -/
structure IsRanking (stats : Option Statistics) (query : Query) (order : List (Join × Nat)) :
    Prop where
  perm : order.Perm query.joins.zipIdx
  precedes : order.Pairwise (query.Precedes stats)

namespace IsRanking

variable {stats : Option Statistics} {query : Query} {order other : List (Join × Nat)}

/-- There is only one ranking of the joins of a query. -/
theorem unique (h : query.IsRanking stats order) (hother : query.IsRanking stats other) :
    other = order :=
  (hother.perm.trans h.perm.symm).eq_of_pairwise
    (fun _ _ _ _ hle hge => absurd hge (not_precedes_of_precedes hle)) hother.precedes h.precedes

end IsRanking

/-- In the list of joins with their positions, the positions increase. -/
theorem pairwise_snd_zipIdx (joins : List Join) :
    joins.zipIdx.Pairwise fun earlier later => earlier.2 < later.2 := by
  have h : (joins.zipIdx.map (·.2)).Pairwise (· < ·) := by
    rw [List.zipIdx_map_snd]
    exact List.pairwise_lt_range'
  exact List.pairwise_map.mp h

/-- The order that joins are put into is their ranking. -/
theorem isRanking_ordered (stats : Option Statistics) (query : Query) :
    query.IsRanking stats (query.ordered stats) where
  perm := query.ordered_perm stats
  precedes := by
    have hnodup : query.joins.zipIdx.Nodup :=
      (pairwise_snd_zipIdx query.joins).imp fun hlt heq => Nat.ne_of_lt hlt (congrArg _ heq)
    rw [ordered_eq_mergeSort]
    refine (pairwise_mergeSort_of_stable ?_ ?_ hnodup
      (pairwise_snd_zipIdx query.joins)).imp precedes_iff.mpr
    · exact fun first second third => query.estimate_le_trans stats first.1 second.1 third.1
    · exact fun first second => query.estimate_le_total stats first.1 second.1

/-- Ordering joins puts them in their ranking, of which there is one, and changes nothing else. The
score and the estimate of every join are what they were, and a second time nothing changes. -/
theorem orderJoins_ranking (stats : Option Statistics) (query : Query) :
    (∃ order, query.IsRanking stats order ∧ (∀ other, query.IsRanking stats other → other = order) ∧
      (query.orderJoins stats).query = { query with joins := order.map (·.1) }) ∧
    (query.orderJoins stats).query.joins.Perm query.joins ∧
    (∀ join, (query.orderJoins stats).query.score join = query.score join ∧
      (query.orderJoins stats).query.estimate stats join = query.estimate stats join) ∧
    ((query.orderJoins stats).query.orderJoins stats).query = (query.orderJoins stats).query := by
  have hquery : (query.orderJoins stats).query =
      { query with joins := (query.ordered stats).map (·.1) } := by
    rw [query_orderJoins_eq, map_ordered_eq_mergeSort]
  have hranking := query.isRanking_ordered stats
  refine ⟨⟨_, hranking, fun _ => hranking.unique, hquery⟩, ?_, fun join => ?_,
    query.orderJoins_orderJoins stats⟩
  · rw [query_orderJoins_eq]
    exact List.mergeSort_perm _ _
  · rw [hquery]
    exact ⟨rfl, rfl⟩

/-- Two products of one table, of which the first one keeps a column, and a join between them. -/
def betweenProducts : Query :=
  .ofTable .all "A"
    [⟨⟨"B", [], .ofList ["X"]⟩, []⟩,
     .ofTable "C" [.compare ⟨.column (.qualified "A" "ID"), .eq, .column (.qualified "C" "ID")⟩],
     ⟨⟨"B", [], .ofList ["Y"]⟩, []⟩]
    []

/-- The join comes before the products, which keep their order since their scores are equal. -/
theorem orderJoins_ranking_betweenProducts :
    ∃ order, betweenProducts.IsRanking none order ∧ order.map (·.2) = [1, 0, 2] ∧
      order.map (betweenProducts.score ·.1) = [2, 1, 1] ∧
      (betweenProducts.orderJoins none).query.joins = order.map (·.1) := by
  obtain ⟨order, hranking, hunique, hquery⟩ := (betweenProducts.orderJoins_ranking none).1
  have horder : [1, 0, 2].map (fun index => (betweenProducts.joins[index]!, index)) = order :=
    hunique _ ⟨by decide, by decide⟩
  subst horder
  exact ⟨_, hranking, by decide, by decide, congrArg Query.joins hquery⟩

end Query

end RelPlan
