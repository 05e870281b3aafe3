import RelPlan.Plan.Steps

/-!
# Steps, numbers and plan of a query

The steps of a query, the numbers that sum it up and its plan are computed apart from each other,
and all three say the same: the steps go through the nodes of the plan from below, with one more
projection if every column is asked for, and the numbers count nodes
(`Plan.map_kind_steps_and_summary`).
-/

namespace RelPlan

namespace Plan

/-- The kinds of the nodes of a plan. A node comes after the nodes below it, and these come from
left to right. -/
def kinds : Plan → List StepKind
  | relation _ => [.scan]
  | selection _ input => input.kinds ++ [.select]
  | projection _ input => input.kinds ++ [.project]
  | join left right _ => left.kinds ++ right.kinds ++ [.join]
  | product left right => left.kinds ++ right.kinds ++ [.product]

/-- A filter is one step more if there is a condition. -/
theorem kinds_filtered (condition : Conjunction) (input : Plan) :
    (filtered condition input).kinds =
      input.kinds ++ if condition.isEmpty then [] else [.select] := by
  unfold filtered
  split <;> simp [kinds]

/-- A restriction to columns is one step more if there are columns. -/
theorem kinds_restricted (columns : NameSet) (input : Plan) :
    (restricted columns input).kinds =
      input.kinds ++ if columns.isEmpty then [] else [.project] := by
  unfold restricted
  split <;> simp [kinds]

/-- The steps of an access are the nodes of its plan. -/
theorem map_kind_ofSource (source : Source) :
    (Step.ofSource source).map (·.kind) = (ofSource source).kinds := by
  rw [ofSource, kinds_restricted, kinds_filtered, kinds]
  unfold Step.ofSource
  dsimp only
  split <;> split <;> rfl

/-- One more join has the steps of its access and one step of its own. -/
theorem kinds_addJoin (left : Plan) (join : Join) :
    (addJoin left join).kinds =
      left.kinds ++ (ofSource join.toSource).kinds ++
        [if join.hasCondition then .join else .product] := by
  unfold addJoin
  split <;> simp [kinds]

/-- The steps of a join are the nodes that it adds to a plan. -/
theorem map_kind_ofJoin (join : Join) :
    (Step.ofJoin join).map (·.kind) =
      (ofSource join.toSource).kinds ++ [if join.hasCondition then .join else .product] := by
  rw [Step.ofJoin, List.map_append, map_kind_ofSource]
  split <;> rfl

/-- Some more joins have their steps one after another. -/
theorem kinds_foldl_addJoin (left : Plan) (joins : List Join) :
    (joins.foldl addJoin left).kinds =
      left.kinds ++ (joins.flatMap Step.ofJoin).map (·.kind) := by
  induction joins generalizing left with
  | nil => simp
  | cons join joins ih => simp [ih, kinds_addJoin, map_kind_ofJoin]

/-- The nodes of a plan are those of its joins, that of the condition and that of the columns. -/
theorem kinds_ofQuery (query : Query) :
    (ofQuery query).kinds =
      (joined query).kinds ++ (if query.hasFilter then [.select] else []) ++
        if query.select.isAll then [] else [.project] := by
  have hselected : (selected query).kinds =
      (joined query).kinds ++ if query.hasFilter then [.select] else [] := by
    rw [selected, kinds_filtered, Query.hasFilter]
    cases query.filter.isEmpty <;> rfl
  rw [← hselected]
  unfold ofQuery
  split <;> simp_all [kinds, SelectList.isAll]

/-- The steps go through the nodes of the plan from below, and the columns are chosen at the end
also if all of them are asked for. -/
theorem map_kind_steps (query : Query) :
    (Step.ofQuery query).map (·.kind) =
      (ofQuery query).kinds ++ if query.select.isAll then [.project] else [] := by
  have hjoined : (Step.ofSource query.source ++ query.joins.flatMap Step.ofJoin).map (·.kind) =
      (joined query).kinds := by
    rw [List.map_append, map_kind_ofSource, joined, kinds_foldl_addJoin]
  have hfilter : (Step.ofFilter query).map (·.kind) =
      if query.hasFilter then [.select] else [] := by
    unfold Step.ofFilter
    split <;> rfl
  rw [Step.ofQuery, List.map_append, List.map_append, hjoined, hfilter, kinds_ofQuery,
    List.append_assoc _ (ite _ _ _) (ite _ _ _)]
  cases query.select.isAll <;> rfl

/-! ## Numbers of nodes -/

/-- Nodes that only accesses give are as many as there are accesses that give one. -/
theorem count_kinds_joined {kind : StepKind} {test : Source → Bool} (hjoin : kind ≠ .join)
    (hproduct : kind ≠ .product)
    (htest : ∀ source, (ofSource source).kinds.count kind = if test source then 1 else 0)
    (query : Query) : (joined query).kinds.count kind = query.sources.countP test := by
  have hfoldl (left : Plan) (joins : List Join) :
      (joins.foldl addJoin left).kinds.count kind =
        left.kinds.count kind + (joins.map (·.toSource)).countP test := by
    induction joins generalizing left with
    | nil => simp
    | cons join joins ih =>
      have hlast : [if join.hasCondition then StepKind.join else .product].count kind = 0 := by
        split <;> simp [hjoin.symm, hproduct.symm]
      rw [List.foldl_cons, ih, kinds_addJoin, List.count_append, List.count_append, htest, hlast,
        List.map_cons, List.countP_cons]
      omega
  rw [joined, hfoldl, htest, Query.sources, List.countP_cons, Nat.add_comm]

/-- Every access has one scan, and a selection or projection if something is pushed down to it. -/
theorem count_kinds_ofSource (source : Source) :
    (ofSource source).kinds.count .scan = 1 ∧
      (ofSource source).kinds.count .select =
        (if !source.access.selection.isEmpty then 1 else 0) ∧
      (ofSource source).kinds.count .project =
        (if !source.access.projection.isEmpty then 1 else 0) ∧
      (ofSource source).kinds.count .join = 0 ∧ (ofSource source).kinds.count .product = 0 := by
  rw [ofSource, kinds_restricted, kinds_filtered, kinds]
  cases source.access.selection.isEmpty <;> cases source.access.projection.isEmpty <;> decide

/-- Every join is a join or a product of the plan. -/
theorem count_joins_joined (query : Query) :
    (joined query).kinds.count .join + (joined query).kinds.count .product =
      query.joins.length := by
  have hsource (source : Source) : (ofSource source).kinds.count .join = 0 ∧
      (ofSource source).kinds.count .product = 0 := (count_kinds_ofSource source).2.2.2
  have hfoldl (left : Plan) (joins : List Join) :
      (joins.foldl addJoin left).kinds.count .join +
          (joins.foldl addJoin left).kinds.count .product =
        left.kinds.count .join + left.kinds.count .product + joins.length := by
    induction joins generalizing left with
    | nil => simp
    | cons join joins ih =>
      have hlast : [if join.hasCondition then StepKind.join else .product].count .join +
          [if join.hasCondition then StepKind.join else .product].count .product = 1 := by
        split <;> decide
      rw [List.foldl_cons, ih, kinds_addJoin]
      simp only [List.count_append, hsource, List.length_cons]
      omega
  rw [joined, hfoldl, (hsource _).1, (hsource _).2, Nat.zero_add]

/-- The numbers of a query count nodes of the plan of its joins. -/
theorem summary_eq_counts (query : Query) :
    (Summary.ofQuery query).tables = (joined query).kinds.count .scan ∧
      (Summary.ofQuery query).joins =
        (joined query).kinds.count .join + (joined query).kinds.count .product ∧
      (Summary.ofQuery query).pushedSelections = (joined query).kinds.count .select ∧
      (Summary.ofQuery query).pushedProjections = (joined query).kinds.count .project := by
  refine ⟨?_, (count_joins_joined query).symm, ?_, ?_⟩
  · have hscans : (joined query).kinds.count .scan = query.sources.countP fun _ => true :=
      count_kinds_joined (by decide) (by decide) (fun source => (count_kinds_ofSource source).1)
        query
    rw [hscans]
    simp [Summary.ofQuery, Query.sources, Nat.add_comm]
  · exact (count_kinds_joined (by decide) (by decide)
      (fun source => (count_kinds_ofSource source).2.1) query).symm
  · exact (count_kinds_joined (by decide) (by decide)
      (fun source => (count_kinds_ofSource source).2.2.1) query).symm

/-! ## What is scanned -/

/-- Of the steps of an access one is a scan, and that is of its table. -/
theorem filter_scan_ofSource (source : Source) :
    (Step.ofSource source).filter (·.kind = .scan) = [⟨.scan, "Table: " ++ source.table⟩] := by
  unfold Step.ofSource
  dsimp only
  split <;> split <;> rfl

/-- The steps of a join scan its table and nothing else. -/
theorem filter_scan_ofJoin (join : Join) :
    (Step.ofJoin join).filter (·.kind = .scan) = [⟨.scan, "Table: " ++ join.table⟩] := by
  rw [Step.ofJoin, List.filter_append, filter_scan_ofSource]
  split <;> rfl

/-- The tables of a query are scanned in order, and nothing else is. -/
theorem filter_scan_ofQuery (query : Query) :
    (Step.ofQuery query).filter (·.kind = .scan) =
      query.tables.map fun table => ⟨.scan, "Table: " ++ table⟩ := by
  have hfilter : (Step.ofFilter query).filter (·.kind = .scan) = [] := by
    unfold Step.ofFilter
    split <;> rfl
  have hselect : [Step.ofSelect query].filter (·.kind = .scan) = [] := rfl
  rw [Step.ofQuery, List.filter_append, List.filter_append, List.filter_append,
    filter_scan_ofSource, List.filter_flatMap, hfilter, hselect]
  simp [filter_scan_ofJoin, Query.tables, Query.sources, ← List.map_eq_flatMap, Function.comp_def]

/-! ## All three -/

/-- The steps of a query, its numbers and its plan describe the same: the steps are the nodes of the
plan from below, with a projection after them if every column is asked for; the scans are of the
tables in order; and the numbers count the relations, the joins and products, the selections but
for that of the condition, and the projections but for that of the columns. -/
theorem map_kind_steps_and_summary (query : Query) :
    (Step.ofQuery query).map (·.kind) =
        (ofQuery query).kinds ++ (if query.select.isAll then [.project] else []) ∧
      ((Step.ofQuery query).filter (·.kind = .scan)).map (·.description) =
        query.tables.map ("Table: " ++ ·) ∧
      (ofQuery query).kinds.count .scan = (Summary.ofQuery query).tables ∧
      (ofQuery query).kinds.count .join + (ofQuery query).kinds.count .product =
        (Summary.ofQuery query).joins ∧
      (ofQuery query).kinds.count .select =
        (Summary.ofQuery query).pushedSelections + (if query.hasFilter then 1 else 0) ∧
      (ofQuery query).kinds.count .project =
        (Summary.ofQuery query).pushedProjections + (if query.select.isAll then 0 else 1) := by
  refine ⟨map_kind_steps query, ?_, ?_⟩
  · simp [filter_scan_ofQuery, Function.comp_def]
  · obtain ⟨htables, hjoins, hselections, hprojections⟩ := summary_eq_counts query
    rw [kinds_ofQuery, htables, hjoins, hselections, hprojections]
    cases query.hasFilter <;> cases query.select.isAll <;> simp

end Plan

end RelPlan
