import RelPlan.Proofs.Optimizer.Commutation
import RelPlan.Proofs.Optimizer.Filters
import RelPlan.Proofs.Optimizer.Idempotence

/-!
# Accesses that get selections

Pushing selections down partitions the condition of a query: a conjunct stays, or it goes to the
access of the one table that it is about. `Query.PushesSelections` says of a revision what is left
in the condition, what every access got, what is warned about, and that the rest is as it was;
together this leaves nothing of the revised query open. `Query.pushSelections_partition` says that
pushing selections down gives this for every query, whatever the predicates, repeated tables and
filters that accesses have already, and that a second time nothing changes. What is said in notes is
left out.
-/

namespace RelPlan

/-- A predicate is about only one table if that is the only member of the set of its tables. -/
theorem Predicate.onlyTable?_eq_some_iff_toList {predicate : Predicate} {table : String} :
    predicate.onlyTable? = some table ↔ predicate.tables.toList = [table] := by
  unfold onlyTable?
  split
  · next single hsingle => simp [hsingle]
  · next hmore => simpa using hmore table

/-- Predicates that are pushed to an access are pushed to its filter one after another. -/
theorem Access.selection_foldl_push (access : Access) (predicates : List Predicate) :
    (predicates.foldl push access).selection =
      predicates.foldl Conjunction.pushUnique access.selection := by
  induction predicates generalizing access with
  | nil => rfl
  | cons predicate predicates ih => exact ih (access.push predicate)

/-- The first join of a table is changed and those of other tables are not. -/
theorem Join.find?_modifyAccess (table other : String) (change : Access → Access)
    (joins : List Join) :
    ((modifyAccess table change joins).find? (·.table == other)).map (·.access) =
      (joins.find? (·.table == other)).map fun join =>
        if table = other then change join.access else join.access := by
  induction joins with
  | nil => rfl
  | cons join joins ih =>
    by_cases htable : join.table = table
    · subst htable
      by_cases hother : join.table = other <;> simp [modifyAccess, hother]
    · by_cases hother : join.table = other
      · subst hother
        simp [modifyAccess, htable, Ne.symm htable]
      · simpa [modifyAccess, htable, hother] using ih

namespace Query

/-- Whether the predicate is about exactly one table and there is an access to that. -/
def IsPushable (query : Query) (predicate : Predicate) : Prop :=
  ∃ table, predicate.tables.toList = [table] ∧ (query.accessOf? table).isSome = true

/-- A predicate has a place in a filter if it is pushable. -/
theorem accepts_filters_iff_isPushable {query : Query} {predicate : Predicate} :
    Placement.filters.accepts query.tables predicate = true ↔ query.IsPushable predicate := by
  rw [Placement.accepts_filters_iff]
  refine exists_congr fun table => ?_
  rw [Predicate.onlyTable?_eq_some_iff_toList, ← Option.ne_none_iff_isSome, ne_eq,
    accessOf?_eq_none_iff, not_not, and_comm]

instance (query : Query) (predicate : Predicate) : Decidable (query.IsPushable predicate) :=
  decidable_of_iff _ accepts_filters_iff_isPushable

/-- The warning about a conjunct that is about exactly one table, if that is not in the query. -/
def unknownTable? (tables : List String) (predicate : Predicate) : Option Warning :=
  match predicate.tables.toList with
  | [table] => if table ∈ tables then none else some (.unknownTable table predicate)
  | _ => none

/-- What a query is when its selections have been pushed down. -/
structure PushesSelections (query : Query) (revision : Revision) : Prop where
  select : revision.query.select = query.select
  tables : revision.query.tables = query.tables
  projections : revision.query.projections = query.projections
  conditions : revision.query.joins.map (·.condition) = query.joins.map (·.condition)
  /-- The conjuncts that are not pushable stay in the condition, in order. -/
  filter : revision.query.filter =
    query.filter.filter fun predicate => ¬ query.IsPushable predicate
  /-- The filter of the access of a table goes on with the conjuncts about that table alone, in
  order, each unless an equivalent one is there. -/
  selection : ∀ table, (revision.query.accessOf? table).map (·.selection) =
    (query.accessOf? table).map fun access =>
      (query.filter.filter fun predicate => predicate.tables.toList = [table]).foldl
        Conjunction.pushUnique access.selection
  /-- Later accesses of a table are as they were. -/
  later : ∀ (index : Nat) (source : Source), query.sources[index]? = some source →
    source.table ∈ query.tables.take index → revision.query.sources[index]? = some source
  warnings : revision.warnings = query.filter.filterMap (unknownTable? query.tables)

/-! ## The access of a table -/

/-- The access of a table is that of the first table, or of the first join of the table. -/
theorem accessOf?_eq (query : Query) (table : String) :
    query.accessOf? table =
      if query.source.table = table then some query.source.access
      else (query.joins.find? (·.table == table)).map (·.access) := by
  by_cases h : query.source.table = table <;> simp [accessOf?, sources, h, Function.comp_def]

/-- The access of a table is changed and those of other tables are not. -/
theorem accessOf?_modifyAccess (query : Query) (table other : String) (change : Access → Access) :
    (query.modifyAccess table change).accessOf? other =
      (query.accessOf? other).map fun access =>
        if table = other then change access else access := by
  rw [accessOf?_eq, accessOf?_eq, modifyAccess]
  by_cases htable : query.source.table = table
  · subst htable
    by_cases hother : query.source.table = other <;> simp [hother, Function.comp_def]
  · rw [if_neg htable]
    by_cases hother : query.source.table = other
    · subst hother
      simp [Ne.symm htable]
    · simp [hother, Join.find?_modifyAccess, Function.comp_def]

/-- The access of a table gets a predicate that is about only that table. -/
theorem accessOf?_placeFilter (query : Query) (predicate : Predicate) (table : String) :
    (query.placeFilter predicate).accessOf? table =
      (query.accessOf? table).map fun access =>
        if predicate.onlyTable? = some table then access.push predicate else access := by
  unfold placeFilter
  cases predicate.onlyTable? with
  | none => simp
  | some only => simpa using query.accessOf?_modifyAccess only table (·.push predicate)

/-- After some predicates are put in filters, the access of a table has got those that are about
only that table, in order. -/
theorem accessOf?_putAll (query : Query) (predicates : List Predicate) (table : String) :
    (Placement.filters.putAll query predicates).accessOf? table =
      (query.accessOf? table).map fun access =>
        (predicates.filter (·.onlyTable? = some table)).foldl Access.push access := by
  induction predicates generalizing query with
  | nil => simp [Placement.putAll]
  | cons predicate predicates ih =>
    refine (ih (query.placeFilter predicate)).trans ?_
    rw [accessOf?_placeFilter, Option.map_map]
    refine congrArg (Option.map · _) (funext fun access => ?_)
    by_cases h : predicate.onlyTable? = some table <;> simp [h]

/-! ## What stays as it is -/

/-- Putting predicates in filters keeps the conditions of joins. -/
theorem bareJoins_putAll_filters (query : Query) (predicates : List Predicate) :
    (Placement.filters.putAll query predicates).bareJoins = query.bareJoins := by
  induction predicates generalizing query with
  | nil => rfl
  | cons predicate predicates ih =>
    refine (ih (query.placeFilter predicate)).trans ?_
    unfold placeFilter
    split
    · rfl
    · exact query.bareJoins_modifyAccess _ _

/-- An access of a table that has an earlier one gets no predicates. -/
theorem getElem?_sources_putAll_of_mem {query : Query} {predicates : List Predicate} {index : Nat}
    {source : Source} (hat : query.sources[index]? = some source)
    (hearlier : source.table ∈ query.tables.take index) :
    (Placement.filters.putAll query predicates).sources[index]? = some source := by
  have hnone : predicates.filter (query.accessFor? · = some index) = [] := by
    refine List.filter_eq_nil_iff.mpr fun predicate _ htarget => ?_
    obtain ⟨other, hother, -, hfirst⟩ := accessFor?_eq_some_iff.mp (of_decide_eq_true htarget)
    obtain rfl : other = source := Option.some.inj (hother.symm.trans hat)
    exact hfirst hearlier
  rw [getElem?_sources_putAll, hnone, hat]
  rfl

/-! ## Warnings -/

/-- There is a warning about a predicate of exactly one table if that is not among the tables. -/
theorem unknownTable?_eq (tables : List String) (predicate : Predicate) :
    unknownTable? tables predicate = predicate.onlyTable?.bind fun table =>
      if table ∈ tables then none else some (.unknownTable table predicate) := by
  unfold unknownTable? Predicate.onlyTable?
  generalize predicate.tables.toList = names
  rcases names with _ | ⟨table, _ | _⟩ <;> rfl

/-- Pushing a conjunct warns only if its only table is not in the query. -/
theorem warnings_pushConjunct (joined : Bool) (revision : Revision) (predicate : Predicate) :
    (pushConjunct joined revision predicate).warnings =
      revision.warnings ++ (unknownTable? revision.query.tables predicate).toList := by
  rw [unknownTable?_eq]
  obtain ⟨honly, hpush⟩ | ⟨table, honly, ⟨haccess, hpush⟩ | ⟨access, haccess, hpush⟩⟩ :=
    pushConjunct_cases joined revision predicate
  · simp [hpush, honly, Revision.keep]
  · rw [hpush, honly, Option.bind_some, if_neg (accessOf?_eq_none_iff.mp haccess)]
    rfl
  · have hmem : table ∈ revision.query.tables := by
      by_contra hnot
      exact Option.some_ne_none access (haccess.symm.trans (accessOf?_eq_none_iff.mpr hnot))
    rw [hpush, honly, Option.bind_some, if_pos hmem]
    simp

/-- Pushing selections down warns of the conjuncts whose only table is not in the query, in their
order. -/
theorem warnings_pushSelections (query : Query) :
    query.pushSelections.warnings = query.filter.filterMap (unknownTable? query.tables) :=
  Placement.filters.warnings_foldl_eq (query_pushConjunct !query.joins.isEmpty)
    (warnings_pushConjunct !query.joins.isEmpty) query.filter (.unchanged (query.withFilter []))

/-! ## The partition -/

/-- Pushing selections down does what it is meant to do. -/
theorem pushesSelections_pushSelections (query : Query) :
    query.PushesSelections query.pushSelections where
  select := (conservedBy_apply .none .selectionPushdown query).select
  tables := by rw [query_pushSelections_eq, Placement.tables_run]
  projections := projections_of_reflTransGen (reflTransGen_moves_pushSelections query)
  conditions := by
    have hbare := congrArg (List.map (·.condition)) (query.bareJoins_putAll_filters query.filter)
    simp only [bareJoins, Join.ofTable, List.map_map, Function.comp_def] at hbare
    rw [query_pushSelections_eq]
    exact hbare
  filter := by
    rw [query_pushSelections_eq]
    exact Placement.filters.filter_run_of_accepts_iff fun _ => accepts_filters_iff_isPushable
  selection table := by
    have haccess := query.accessOf?_putAll query.filter table
    simp only [Predicate.onlyTable?_eq_some_iff_toList] at haccess
    have hrun : (Placement.filters.run query).accessOf? table =
        (Placement.filters.putAll query query.filter).accessOf? table := rfl
    rw [query_pushSelections_eq, hrun, haccess, Option.map_map]
    exact congrArg (Option.map · _) (funext fun access => access.selection_foldl_push _)
  later index source hat hearlier := by
    rw [query_pushSelections_eq]
    exact getElem?_sources_putAll_of_mem hat hearlier
  warnings := query.warnings_pushSelections

/-- Pushing selections down leaves the conjuncts that are not pushable, puts all others in the
filter of the access of the one table that they are about, in order, and leaves the rest of the
query as it is. There is one warning for each conjunct about one table that is not in the query. A
second time nothing changes. -/
theorem pushSelections_partition (query : Query) :
    query.PushesSelections query.pushSelections ∧
      query.pushSelections.query.pushSelections.query = query.pushSelections.query :=
  ⟨query.pushesSelections_pushSelections, query.pushSelections_pushSelections⟩

/-- A comparison of a column of a table with a number. -/
def equalsNumber (table column number : String) : Predicate :=
  .compare ⟨.column (.qualified table column), .eq, .literal (.number number)⟩

/-- A table that is joined twice, with a filter on its first access, and a condition in which one
conjunct is in that filter, one is about both tables, and one is about a table that is not there. -/
def filteredTwice : Query :=
  .ofTable .all "A"
    [⟨⟨"B", [equalsNumber "B" "Y" "1"], ∅⟩, []⟩,
     .ofTable "B" [.compare ⟨.column (.qualified "A" "ID"), .eq, .column (.qualified "B" "ID")⟩]]
    [equalsNumber "B" "Z" "2",
     .compare ⟨.literal (.number "1"), .eq, .column (.qualified "B" "Y")⟩,
     .or [equalsNumber "A" "X" "1", equalsNumber "B" "X" "1"],
     equalsNumber "C" "X" "1",
     .or [equalsNumber "A" "X" "1", .isNull (.column (.qualified "A" "X")) false]]

/-- The first access of the joined table gets one more predicate and the second access none. -/
theorem pushSelections_partition_filteredTwice :
    filteredTwice.PushesSelections filteredTwice.pushSelections ∧
      filteredTwice.pushSelections.query.filter.map (·.text) =
        ["A.X = 1 OR B.X = 1", "C.X = 1"] ∧
      filteredTwice.pushSelections.query.sources.map
          (fun source => (source.table, source.access.selection.map (·.text))) =
        [("A", ["A.X = 1 OR A.X IS NULL"]), ("B", ["B.Y = 1", "B.Z = 2"]), ("B", [])] ∧
      filteredTwice.pushSelections.warnings.map (·.message) =
        ["predicate 'C.X = 1' references table C, which is not part of the query"] :=
  ⟨filteredTwice.pushSelections_partition.1, by decide +kernel, by decide +kernel,
    by decide +kernel⟩

end Query

end RelPlan
