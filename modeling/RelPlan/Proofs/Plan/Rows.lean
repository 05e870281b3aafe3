import Mathlib.Data.List.Forall2
import Mathlib.Data.List.Induction
import Mathlib.Data.List.TakeWhile
import RelPlan.Plan.Basic
import RelPlan.Proofs.Predicate.Names

/-!
# The rows of a plan

Plans are evaluated on a database, which has a list of rows for every table. A relation gives
the rows of its table, a selection keeps the rows of which a condition holds, a projection keeps
the columns that it names, and a join is a selection from a product. What a predicate says is
left open: it may be anything that depends on nothing but the values of the predicate's columns
and is the same for equivalent predicates.
-/

namespace RelPlan

namespace ColumnRef

/-- The column that a text stands for: a table and a name with a dot between them, or a name. -/
def ofText (text : String) : ColumnRef :=
  match text.toList.dropWhile (· != '.') with
  | [] => bare text
  | _ :: name =>
    qualified (String.ofList (text.toList.takeWhile (· != '.'))) (String.ofList name)

/-- Whether a column that is asked for is the given one. -/
def picks (asked column : ColumnRef) : Bool :=
  asked.name == column.name && (asked.table.isNone || asked.table == column.table)

/-- The text of a column without dots in its parts stands for the column. -/
theorem ofText_text {column : ColumnRef} (h : column.IsUndotted) : ofText column.text = column := by
  have hall {cs : List Char} (h : '.' ∉ cs) : ∀ c ∈ cs, (c != '.') = true := by
    intro c hc
    rw [bne_iff_ne]
    rintro rfl
    exact h hc
  obtain ⟨table, name⟩ := column
  cases table with
  | none =>
    have hname : name.toList.dropWhile (· != '.') = [] :=
      List.dropWhile_eq_nil_iff.mpr (hall h.1)
    simp only [text, ofText]
    rw [hname]
    rfl
  | some table =>
    have htable := hall (h.2 table rfl)
    have htext : (table ++ "." ++ name).toList = table.toList ++ '.' :: name.toList := by simp
    simp only [text, ofText]
    rw [htext, List.dropWhile_append_of_pos htable, List.takeWhile_append_of_pos htable]
    simp [qualified]

/-- A name without a dot stands for itself. -/
theorem ofText_of_not_mem {name : String} (h : '.' ∉ name.toList) : ofText name = bare name := by
  have hbare : (bare name).IsUndotted := ⟨h, by simp [bare]⟩
  exact ofText_text hbare

end ColumnRef

/-- A row: columns with their values in order. -/
abbrev Row (V : Type) : Type := List (ColumnRef × V)

namespace Row

variable {V : Type}

/-- The part of a row that a column picks. -/
def read (row : Row V) (column : ColumnRef) : Row V := row.filter fun field => column.picks field.1

/-- The value of a column, if the row has one. -/
def value? (row : Row V) (column : ColumnRef) : Option V := (row.read column).head?.map (·.2)

/-- The parts of a row that some columns pick, one after another. -/
def restrict (row : Row V) (columns : List ColumnRef) : Row V := columns.flatMap row.read

/-- Whether every column of a row belongs to one of some tables. -/
def IsOf (tables : List String) (row : Row V) : Prop := ∀ field ∈ row, field.1.IsOf tables

@[simp] theorem read_append (first second : Row V) (column : ColumnRef) :
    (first ++ second : Row V).read column = first.read column ++ second.read column :=
  List.filter_append ..

/-- A column of another table picks nothing. -/
theorem read_eq_nil {row : Row V} {tables : List String} (h : row.IsOf tables)
    {column : ColumnRef} {table : String} (htable : column.table = some table)
    (hother : table ∉ tables) : row.read column = [] := by
  refine List.filter_eq_nil_iff.mpr fun field hfield hpicks => hother ?_
  obtain ⟨owner, howner, heq⟩ := h field hfield
  simp only [ColumnRef.picks, htable, heq, Option.isNone_some, Bool.false_or, Bool.and_eq_true,
    beq_iff_eq, Option.some.injEq] at hpicks
  exact hpicks.2 ▸ howner

/-- Of what a bare name picks, a column picks all it does if the name is its own. -/
theorem read_read_bare (row : Row V) (name : String) (column : ColumnRef) :
    (row.read (.bare name)).read column = if name = column.name then row.read column else [] := by
  unfold read
  rw [List.filter_filter]
  split
  · next heq =>
    refine List.filter_congr fun field _ => ?_
    simp +contextual [ColumnRef.picks, ColumnRef.bare, heq]
  · next hne =>
    refine List.filter_eq_nil_iff.mpr fun field _ => ?_
    simp only [ColumnRef.picks, ColumnRef.bare, Option.isNone_none, Bool.true_or, Bool.and_true,
      Bool.and_eq_true, beq_iff_eq, not_and]
    rintro ⟨hcolumn, -⟩ heq
    exact hne (heq.trans hcolumn.symm)

/-- A restricted row is read name by name. -/
theorem read_restrict_cons (row : Row V) (name : String) (names : List String)
    (column : ColumnRef) :
    (row.restrict ((name :: names).map .bare)).read column =
      (if name = column.name then row.read column else []) ++
        (row.restrict (names.map .bare)).read column := by
  rw [List.map_cons, restrict, List.flatMap_cons, read_append, read_read_bare]
  rfl

/-- A column picks nothing from a row that is restricted to other names. -/
theorem read_restrict_of_not_mem (row : Row V) {names : List String} {column : ColumnRef}
    (hname : column.name ∉ names) : (row.restrict (names.map .bare)).read column = [] := by
  induction names with
  | nil => rfl
  | cons name names ih =>
    rw [List.mem_cons, not_or] at hname
    rw [read_restrict_cons, if_neg (Ne.symm hname.1), ih hname.2, List.nil_append]

/-- What a column picks is there still after a row is restricted to names of which one is the
name of the column. -/
theorem read_restrict (row : Row V) {names : List String} {column : ColumnRef}
    (hnodup : names.Nodup) (hname : column.name ∈ names) :
    (row.restrict (names.map .bare)).read column = row.read column := by
  induction names with
  | nil => exact absurd hname List.not_mem_nil
  | cons name names ih =>
    obtain ⟨hnot, hnodup⟩ := List.nodup_cons.mp hnodup
    rw [read_restrict_cons]
    by_cases heq : name = column.name
    · rw [if_pos heq, read_restrict_of_not_mem row (heq ▸ hnot), List.append_nil]
    · rw [if_neg heq, List.nil_append]
      exact ih hnodup ((List.mem_cons.mp hname).resolve_left (Ne.symm heq))

/-- Every column of a restricted row is a column of the row. -/
theorem IsOf.restrict {row : Row V} {tables : List String} (h : row.IsOf tables)
    (columns : List ColumnRef) : (row.restrict columns).IsOf tables := by
  intro field hfield
  obtain ⟨column, -, hmem⟩ := List.mem_flatMap.mp hfield
  exact h field (List.mem_of_mem_filter hmem)

end Row

/-- The rows of every table, without the name of the table before their columns. -/
abbrev Database (V : Type) : Type := String → List (List (String × V))

/-- What predicates say about rows, given the values of the columns. -/
structure Truth (V : Type) where
  holds : Predicate → (ColumnRef → Option V) → Bool
  /-- Only the columns of the predicate count. -/
  congr_columns : ∀ (predicate : Predicate) (first second : ColumnRef → Option V),
    (∀ column ∈ predicate.columns, first column = second column) →
      holds predicate first = holds predicate second
  /-- Equivalent predicates say the same. -/
  congr_equivalent : ∀ (first second : Predicate) (values : ColumnRef → Option V),
    first.equivalent second = true → holds first values = holds second values

namespace Truth

variable {V : Type}

/-- Whether all conjuncts hold of a row. -/
def all (truth : Truth V) (conjunction : Conjunction) (row : Row V) : Bool :=
  conjunction.all fun predicate => truth.holds predicate row.value?

@[simp] theorem all_nil (truth : Truth V) (row : Row V) : truth.all [] row = true := rfl

@[simp] theorem all_append (truth : Truth V) (first second : Conjunction) (row : Row V) :
    truth.all (first ++ second) row = (truth.all first row && truth.all second row) :=
  List.all_append

/-- Rows in which the columns of some conjuncts pick the same satisfy them alike. -/
theorem all_congr (truth : Truth V) {conjunction : Conjunction} {first second : Row V}
    (h : ∀ column ∈ conjunction.columns, first.read column = second.read column) :
    truth.all conjunction first = truth.all conjunction second := by
  rw [Bool.eq_iff_iff, all, all, List.all_eq_true, List.all_eq_true]
  refine forall₂_congr fun predicate hpredicate => ?_
  rw [truth.congr_columns predicate first.value? second.value? fun column hcolumn => ?_]
  rw [Row.value?, Row.value?, h column (List.mem_flatMap.mpr ⟨predicate, hpredicate, hcolumn⟩)]

/-- Conjuncts that all have equivalents among others hold if these do. -/
theorem all_of_equivalent (truth : Truth V) {first second : Conjunction} {row : Row V}
    (h : ∀ predicate ∈ first, ∃ other ∈ second, predicate.equivalent other = true)
    (hsecond : truth.all second row = true) : truth.all first row = true := by
  rw [all, List.all_eq_true] at hsecond ⊢
  intro predicate hpredicate
  obtain ⟨other, hother, hequiv⟩ := h predicate hpredicate
  rw [truth.congr_equivalent predicate other _ hequiv]
  exact hsecond other hother

end Truth

/-! ## Products of rows -/

/-- Every row of one list with every row of another one. -/
def Row.product {V : Type} (lefts rights : List (Row V)) : List (Row V) :=
  lefts.flatMap fun left => rights.map fun right => left ++ right

namespace Database

variable {V : Type}

/-- The rows of a table, with its name before their columns. -/
def rows (db : Database V) (table : String) : List (Row V) :=
  (db table).map fun row => row.map fun (name, value) => (.qualified table name, value)

/-- Every combination of rows of some tables. -/
def product (db : Database V) (tables : List String) : List (Row V) :=
  tables.foldl (fun rows table => Row.product rows (db.rows table)) [[]]

end Database

namespace Row

variable {V : Type} {lefts rights : List (Row V)}

/-- The rows of a product are a left and a right row one behind the other. -/
theorem mem_product {row : Row V} :
    row ∈ product lefts rights ↔ ∃ left ∈ lefts, ∃ right ∈ rights, left ++ right = row := by
  simp [product]

/-- The rows of which one test holds with those of which another one holds are the combinations
of which both hold. -/
theorem product_filter {first second : Row V → Bool} (both : Row V → Bool)
    (h : ∀ left ∈ lefts, ∀ right ∈ rights,
      both (left ++ right) = (first left && second right)) :
    product (lefts.filter first) (rights.filter second) = (product lefts rights).filter both := by
  have hrow (left : Row V) (hleft : left ∈ lefts) :
      (rights.map fun right => left ++ right).filter both =
        if first left then (rights.filter second).map fun right => left ++ right else [] := by
    rw [List.filter_map]
    cases hfirst : first left with
    | true =>
      rw [if_pos rfl]
      refine congrArg _ (List.filter_congr fun right hright => ?_)
      rw [Function.comp_apply, h left hleft right hright, hfirst, Bool.true_and]
    | false =>
      rw [if_neg Bool.false_ne_true, List.map_eq_nil_iff, List.filter_eq_nil_iff]
      intro right hright
      rw [Function.comp_apply, h left hleft right hright, hfirst]
      exact Bool.false_ne_true
  rw [product, product, List.filter_flatMap, List.flatMap_congr hrow]
  clear hrow
  induction lefts with
  | nil => rfl
  | cons left lefts ih =>
    have htail := ih fun other hother => h other (List.mem_cons_of_mem _ hother)
    rw [List.flatMap_cons, ← htail, List.filter_cons]
    split
    · rw [List.flatMap_cons]
    · rw [List.nil_append]

end Row

namespace Database

variable {V : Type}

/-- The rows of a table are of that table. -/
theorem isOf_of_mem_rows {db : Database V} {table : String} {row : Row V}
    (h : row ∈ db.rows table) : row.IsOf [table] := by
  obtain ⟨fields, -, rfl⟩ := List.mem_map.mp h
  intro field hfield
  obtain ⟨⟨name, value⟩, -, rfl⟩ := List.mem_map.mp hfield
  exact ⟨table, List.mem_singleton.mpr rfl, rfl⟩

/-- The product of one table has its rows. -/
theorem product_singleton (db : Database V) (table : String) :
    db.product [table] = db.rows table := by
  simp [product, Row.product]

/-- The product of some tables and one more is that of their rows and its rows. -/
theorem product_concat (db : Database V) (tables : List String) (table : String) :
    db.product (tables ++ [table]) = Row.product (db.product tables) (db.rows table) := by
  simp [product]

/-- The columns of a combination belong to the tables. -/
theorem isOf_of_mem_product {db : Database V} {tables : List String} {row : Row V}
    (h : row ∈ db.product tables) : row.IsOf tables := by
  induction tables using List.reverseRecOn generalizing row with
  | nil =>
    obtain rfl := List.mem_singleton.mp h
    simp [Row.IsOf]
  | append_singleton tables table ih =>
    rw [product_concat, Row.mem_product] at h
    obtain ⟨left, hleft, right, hright, rfl⟩ := h
    intro field hfield
    cases List.mem_append.mp hfield with
    | inl hmem =>
      obtain ⟨owner, howner, heq⟩ := ih hleft field hmem
      exact ⟨owner, List.mem_append_left _ howner, heq⟩
    | inr hmem =>
      obtain ⟨owner, howner, heq⟩ := isOf_of_mem_rows hright field hmem
      exact ⟨owner, List.mem_append_right _ howner, heq⟩

end Database

/-! ## Conditions on parts of rows -/

namespace Truth

variable {V : Type} {conjunction : Conjunction} {tables others : List String} {left right : Row V}

/-- Conjuncts about other tables than those of the right part say the same without it. -/
theorem all_append_left (truth : Truth V)
    (hcolumns : ∀ column ∈ conjunction.columns, column.IsOf tables)
    (hright : right.IsOf others) (hdisjoint : ∀ table ∈ tables, table ∉ others) :
    truth.all conjunction (left ++ right) = truth.all conjunction left := by
  refine truth.all_congr fun column hcolumn => ?_
  obtain ⟨table, htable, heq⟩ := hcolumns column hcolumn
  rw [Row.read_append, Row.read_eq_nil hright heq (hdisjoint table htable), List.append_nil]

/-- Conjuncts about other tables than those of the left part say the same without it. -/
theorem all_append_right (truth : Truth V)
    (hcolumns : ∀ column ∈ conjunction.columns, column.IsOf tables)
    (hleft : left.IsOf others) (hdisjoint : ∀ table ∈ tables, table ∉ others) :
    truth.all conjunction (left ++ right) = truth.all conjunction right := by
  refine truth.all_congr fun column hcolumn => ?_
  obtain ⟨table, htable, heq⟩ := hcolumns column hcolumn
  rw [Row.read_append, Row.read_eq_nil hleft heq (hdisjoint table htable), List.nil_append]

end Truth

/-! ## Rows of plans -/

/-- The rows that a plan gives on a database. -/
def Plan.rows {V : Type} (truth : Truth V) (db : Database V) : Plan → List (Row V)
  | relation table => db.rows table
  | selection condition input => (rows truth db input).filter (truth.all condition)
  | projection columns input =>
    (rows truth db input).map fun row => row.restrict (columns.map ColumnRef.ofText)
  | join left right condition =>
    (Row.product (rows truth db left) (rows truth db right)).filter (truth.all condition)
  | product left right => Row.product (rows truth db left) (rows truth db right)

/-- What is shown of a row: all of it, or the columns that are asked for. -/
def SelectList.shown {V : Type} (select : SelectList) (row : Row V) : Row V :=
  match select with
  | all => row
  | columns refs => row.restrict refs

end RelPlan
