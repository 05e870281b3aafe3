import RelPlan.Proofs.Except
import RelPlan.Proofs.Json.Printing
import RelPlan.Proofs.Optimizer.Projections
import RelPlan.Query.Codec

/-!
# Queries in JSON and back

A query is restored from every layout of its JSON form, the printed and the compact one among them,
if that does not nest more arrays and objects than may be entered (`Query.ofJson_of_isLaidOut`). How
deep a form is nested is counted as its reader counts it, so every decoder restores what was encoded
at any depth that is left for it.
-/

namespace RelPlan

namespace Json

/-! ## Nesting -/

mutual

/-- The number of arrays and objects that lie inside each other. -/
def nesting : Json → Nat
  | .null | .bool _ | .number _ | .string _ | .unreadable => 0
  | .array items => itemsNesting items + 1
  | .object fields => fieldsNesting fields + 1

/-- The number of arrays and objects that lie inside each other in some item. -/
def itemsNesting : List Json → Nat
  | [] => 0
  | item :: items => max item.nesting (itemsNesting items)

/-- The number of arrays and objects that lie inside each other in some field. -/
def fieldsNesting : List (String × Json) → Nat
  | [] => 0
  | field :: fields => max (fieldNesting field) (fieldsNesting fields)

/-- The number of arrays and objects that lie inside each other in a field. -/
def fieldNesting : String × Json → Nat
  | (_, value) => value.nesting

end

/-- An array lies inside as many as its items and one more. -/
theorem nesting_array_le_iff {items : List Json} {depth : Nat} :
    (array items).nesting ≤ depth ↔
      ∃ inner, depth = inner + 1 ∧ ∀ item ∈ items, item.nesting ≤ inner := by
  have hitems (inner : Nat) :
      itemsNesting items ≤ inner ↔ ∀ item ∈ items, item.nesting ≤ inner := by
    induction items with
    | nil => simp [itemsNesting]
    | cons item items ih => rw [itemsNesting, Nat.max_le, List.forall_mem_cons, ih]
  simp only [nesting, ← hitems]
  constructor
  · exact fun h => ⟨depth - 1, by omega, by omega⟩
  · rintro ⟨inner, rfl, h⟩
    omega

/-- An object lies inside as many as its fields and one more. -/
theorem nesting_object_le_iff {fields : List (String × Json)} {depth : Nat} :
    (object fields).nesting ≤ depth ↔
      ∃ inner, depth = inner + 1 ∧ ∀ field ∈ fields, field.2.nesting ≤ inner := by
  have hfields (inner : Nat) :
      fieldsNesting fields ≤ inner ↔ ∀ field ∈ fields, field.2.nesting ≤ inner := by
    induction fields with
    | nil => simp [fieldsNesting]
    | cons field fields ih =>
      rw [fieldsNesting, Nat.max_le, List.forall_mem_cons, ih, fieldNesting]
  simp only [nesting, ← hfields]
  constructor
  · exact fun h => ⟨depth - 1, by omega, by omega⟩
  · rintro ⟨inner, rfl, h⟩
    omega

/-- An array is plain exactly if its items are. -/
theorem isPlain_array_iff {items : List Json} :
    (array items).isPlain = true ↔ ∀ item ∈ items, item.isPlain = true := by
  rw [isPlain]
  induction items with
  | nil => simp [arePlainItems]
  | cons item items ih => rw [arePlainItems, Bool.and_eq_true, List.forall_mem_cons, ih]

/-- An object is plain exactly if its fields are. -/
theorem isPlain_object_iff {fields : List (String × Json)} :
    (object fields).isPlain = true ↔ ∀ field ∈ fields, field.2.isPlain = true := by
  rw [isPlain]
  induction fields with
  | nil => simp [arePlainFields]
  | cons field fields ih =>
    rw [arePlainFields, Bool.and_eq_true, List.forall_mem_cons, ih, isPlainField]

/-! ## Restoring -/

/-- The decoder makes this value of a form, at every depth that is enough for its nesting, and the
form can be printed. -/
structure Restores {α : Type} (decoder : Decoder α) (form : Json) (value : α) : Prop where
  plain : form.isPlain = true
  decode : ∀ depth, form.nesting ≤ depth → decoder depth form = .ok value

section

variable {α : Type} {decoder : Decoder α}

/-- Values that are restored one by one are restored from the list of their forms. -/
theorem mapM_of_restores {encode : α → Json} {values : List α}
    (h : ∀ value ∈ values, Restores decoder (encode value) value) {depth : Nat}
    (hdepth : ∀ form ∈ values.map encode, form.nesting ≤ depth) :
    (values.map encode).mapM (decoder depth) = .ok values := by
  induction values with
  | nil => rfl
  | cons value values ih =>
    rw [List.forall_mem_cons] at h
    rw [List.map_cons, List.forall_mem_cons] at hdepth
    rw [List.map_cons, List.mapM_cons, h.1.decode depth hdepth.1, ih h.2 hdepth.2]
    rfl

/-- The array of the forms of values that are restored is plain. -/
theorem isPlain_of_restores {encode : α → Json} {values : List α}
    (h : ∀ value ∈ values, Restores decoder (encode value) value) :
    (array (values.map encode)).isPlain = true :=
  isPlain_array_iff.mpr (List.forall_mem_map.mpr fun value hvalue => (h value hvalue).plain)

/-- An array is restored if each item is. -/
theorem restores_list {encode : α → Json} {values : List α}
    (h : ∀ value ∈ values, Restores decoder (encode value) value) :
    Restores (list decoder) (.array (values.map encode)) values := by
  refine ⟨isPlain_of_restores h, fun depth hdepth => ?_⟩
  obtain ⟨depth, rfl, hitems⟩ := nesting_array_le_iff.mp hdepth
  exact mapM_of_restores h hitems

/-- A record is restored if it is read from fields that are nested less deep. -/
theorem restores_object {fields : List (String × Json)} {value : α}
    (hplain : ∀ field ∈ fields, field.2.isPlain = true)
    (hdecode : ∀ depth, (∀ field ∈ fields, field.2.nesting ≤ depth) →
      decoder (depth + 1) (.object fields) = .ok value) :
    Restores decoder (.object fields) value := by
  refine ⟨isPlain_object_iff.mpr hplain, fun depth hdepth => ?_⟩
  obtain ⟨depth, rfl, hfields⟩ := nesting_object_le_iff.mp hdepth
  exact hdecode depth hfields

/-- An alternative is restored if it is read from what belongs to it. -/
theorem restores_variant {form : Json} {value : α} {name : String} (hplain : form.isPlain = true)
    (hdecode : ∀ depth, form.nesting ≤ depth →
      decoder (depth + 1) (variant name form) = .ok value) :
    Restores decoder (variant name form) value :=
  restores_object (by simpa using hplain) fun depth hform =>
    hdecode depth (hform (name, form) List.mem_cons_self)

end

end Json

open Json

/-! ## Predicates -/

/-- A column is restored from its form. -/
theorem restores_columnRef (column : ColumnRef) :
    Restores ColumnRef.decode (toJson column) column := by
  obtain ⟨table, name⟩ := column
  cases table <;> exact restores_object (by simp [ofOption, isPlain]) fun _ _ => rfl

/-- A constant is restored from its form. -/
theorem restores_literal (value : Literal) : Restores Literal.decode (toJson value) value := by
  cases value with
  | number spelling => exact restores_variant rfl fun _ _ => rfl
  | string text => exact restores_variant rfl fun _ _ => rfl
  | null => exact ⟨rfl, fun _ _ => rfl⟩

/-- An operand is restored from its form. -/
theorem restores_operand (operand : Operand) :
    Restores Operand.decode (toJson operand) operand := by
  cases operand with
  | column ref =>
    have hform := restores_columnRef ref
    exact restores_variant hform.plain fun depth hdepth =>
      map_eq_ok_iff.mpr ⟨ref, hform.decode depth hdepth, rfl⟩
  | literal value =>
    have hform := restores_literal value
    exact restores_variant hform.plain fun depth hdepth =>
      map_eq_ok_iff.mpr ⟨value, hform.decode depth hdepth, rfl⟩

/-- How two operands are compared is restored from its form. -/
theorem restores_compareOp (op : CompareOp) : Restores CompareOp.decode (toJson op) op := by
  refine ⟨rfl, fun depth _ => ?_⟩
  cases op <;> rfl

/-- A comparison is restored from its form. -/
theorem restores_comparison (comparison : Comparison) :
    Restores Comparison.decode (toJson comparison) comparison := by
  have hleft := restores_operand comparison.left
  have hop := restores_compareOp comparison.op
  have hright := restores_operand comparison.right
  refine restores_object ?_ fun depth hfields => ?_
  · simp only [List.forall_mem_cons, List.not_mem_nil, false_implies, implies_true, and_true]
    exact ⟨hleft.plain, hop.plain, hright.plain⟩
  · simp only [List.forall_mem_cons] at hfields
    change (do
        let left ← Operand.decode depth (toJson comparison.left)
        let op ← CompareOp.decode depth (toJson comparison.op)
        let right ← Operand.decode depth (toJson comparison.right)
        return (⟨left, op, right⟩ : Comparison)) = .ok comparison
    rw [hleft.decode depth hfields.1, hop.decode depth hfields.2.1,
      hright.decode depth hfields.2.2.1]
    rfl

namespace Predicate

/-- The forms of some predicates are those of each of them. -/
theorem encodeItems_eq_map (items : List Predicate) : encodeItems items = items.map encode := by
  induction items with
  | nil => rfl
  | cons item items ih => rw [encodeItems, ih, List.map_cons]

/-- A test for null is restored. -/
theorem restores_isNull (operand : Operand) (negated : Bool) :
    Restores decodeIsNull (.object [("operand", toJson operand), ("negated", toJson negated)])
      (.isNull operand negated) := by
  have hoperand := restores_operand operand
  refine restores_object ?_ fun depth hfields => ?_
  · simp only [List.forall_mem_cons, List.not_mem_nil, false_implies, implies_true, and_true]
    exact ⟨hoperand.plain, rfl⟩
  · simp only [List.forall_mem_cons] at hfields
    change (do
        let operand ← Operand.decode depth (toJson operand)
        return isNull operand negated) = .ok (isNull operand negated)
    rw [hoperand.decode depth hfields.1]
    rfl

/-- Text that is kept verbatim is restored. -/
theorem restores_verbatim (text : String) (columns : List ColumnRef) :
    Restores decodeVerbatim (.object [("text", .string text), ("columns", toJson columns)])
      (.verbatim text columns) := by
  have hcolumns : Restores (list ColumnRef.decode) (toJson columns) columns :=
    restores_list fun column _ => restores_columnRef column
  refine restores_object ?_ fun depth hfields => ?_
  · simp only [List.forall_mem_cons, List.not_mem_nil, false_implies, implies_true, and_true]
    exact ⟨rfl, hcolumns.plain⟩
  · simp only [List.forall_mem_cons] at hfields
    change (do
        let columns ← list ColumnRef.decode depth (toJson columns)
        return verbatim text columns) = .ok (verbatim text columns)
    rw [hcolumns.decode depth hfields.2.1]
    rfl

mutual

/-- A predicate is restored. -/
theorem restores_encode : ∀ predicate : Predicate, Restores decode predicate.encode predicate
  | compare comparison => by
    have hform := restores_comparison comparison
    exact restores_variant hform.plain fun depth hdepth =>
      map_eq_ok_iff.mpr ⟨comparison, hform.decode depth hdepth, rfl⟩
  | isNull operand negated => by
    have hform := restores_isNull operand negated
    exact restores_variant hform.plain hform.decode
  | or items => by
    have hitems := restores_items items
    rw [encode, encodeItems_eq_map]
    refine restores_variant (isPlain_of_restores hitems) fun depth hdepth => ?_
    obtain ⟨depth, rfl, hforms⟩ := nesting_array_le_iff.mp hdepth
    exact map_eq_ok_iff.mpr ⟨items, mapM_of_restores hitems hforms, rfl⟩
  | and items => by
    have hitems := restores_items items
    rw [encode, encodeItems_eq_map]
    refine restores_variant (isPlain_of_restores hitems) fun depth hdepth => ?_
    obtain ⟨depth, rfl, hforms⟩ := nesting_array_le_iff.mp hdepth
    exact map_eq_ok_iff.mpr ⟨items, mapM_of_restores hitems hforms, rfl⟩
  | not inner => by
    have hform := restores_encode inner
    exact restores_variant hform.plain fun depth hdepth =>
      map_eq_ok_iff.mpr ⟨inner, hform.decode depth hdepth, rfl⟩
  | verbatim text columns => by
    have hform := restores_verbatim text columns
    exact restores_variant hform.plain hform.decode

/-- Each of some predicates is restored. -/
theorem restores_items : ∀ items : List Predicate,
    ∀ item ∈ items, Restores decode item.encode item
  | [] => by simp
  | item :: items => List.forall_mem_cons.mpr ⟨restores_encode item, restores_items items⟩

end

end Predicate

/-- A conjunction is restored from its form. -/
theorem restores_conjunction (conjunction : Conjunction) :
    Restores Conjunction.decode (toJson conjunction) conjunction :=
  restores_list fun predicate _ => predicate.restores_encode

/-! ## Queries -/

/-- A set is the set of its names in order. -/
theorem NameSet.ofList_toList (set : NameSet) : ofList set.toList = set :=
  ext_mem fun _ => mem_ofList

/-- A set of names is restored from its form. -/
theorem restores_nameSet (set : NameSet) : Restores nameSet (toJson set) set := by
  have hnames : Restores (list fun _ => Json.text) (toJson set) set.toList :=
    restores_list fun _ _ => ⟨rfl, fun _ _ => rfl⟩
  refine ⟨hnames.plain, fun depth hdepth => ?_⟩
  exact map_eq_ok_iff.mpr ⟨set.toList, hnames.decode depth hdepth, set.ofList_toList⟩

/-- What is asked for is restored from its form. -/
theorem restores_selectList (select : SelectList) :
    Restores SelectList.decode (toJson select) select := by
  cases select with
  | all => exact ⟨rfl, fun _ _ => rfl⟩
  | columns columns =>
    have hform : Restores (list ColumnRef.decode) (toJson columns) columns :=
      restores_list fun column _ => restores_columnRef column
    exact restores_variant hform.plain fun depth hdepth =>
      map_eq_ok_iff.mpr ⟨columns, hform.decode depth hdepth, rfl⟩

/-- An access is restored from its form. -/
theorem restores_access (access : Access) : Restores Access.decode (toJson access) access := by
  have hselection := restores_conjunction access.selection
  have hprojection := restores_nameSet access.projection
  refine restores_object ?_ fun depth hfields => ?_
  · simp only [List.forall_mem_cons, List.not_mem_nil, false_implies, implies_true, and_true]
    exact ⟨hselection.plain, hprojection.plain⟩
  · simp only [List.forall_mem_cons] at hfields
    change (do
        let selection ← Conjunction.decode depth (toJson access.selection)
        let projection ← nameSet depth (toJson access.projection)
        return (⟨selection, projection⟩ : Access)) = .ok access
    rw [hselection.decode depth hfields.1, hprojection.decode depth hfields.2.1]
    rfl

/-- A join is restored from its form. -/
theorem restores_join (join : Join) : Restores Join.decode (toJson join) join := by
  have hcondition := restores_conjunction join.condition
  have haccess := restores_access join.access
  refine restores_object ?_ fun depth hfields => ?_
  · simp only [List.forall_mem_cons, List.not_mem_nil, false_implies, implies_true, and_true]
    exact ⟨rfl, hcondition.plain, haccess.plain⟩
  · simp only [List.forall_mem_cons] at hfields
    change (do
        let condition ← Conjunction.decode depth (toJson join.condition)
        let access ← Access.decode depth (toJson join.access)
        return ({ table := join.table, condition, access } : Join)) = .ok join
    rw [hcondition.decode depth hfields.2.1, haccess.decode depth hfields.2.2.1]
    rfl

/-- A query is restored from its form. -/
theorem restores_query (query : Query) : Restores Query.decode (toJson query) query := by
  have hselect := restores_selectList query.select
  have haccess := restores_access query.source.access
  have hjoins : Restores (list Join.decode) (toJson query.joins) query.joins :=
    restores_list fun join _ => restores_join join
  have hfilter := restores_conjunction query.filter
  refine restores_object ?_ fun depth hfields => ?_
  · simp only [List.forall_mem_cons, List.not_mem_nil, false_implies, implies_true, and_true]
    exact ⟨hselect.plain, rfl, haccess.plain, hjoins.plain, hfilter.plain⟩
  · simp only [List.forall_mem_cons] at hfields
    change (do
        let select ← SelectList.decode depth (toJson query.select)
        let access ← Access.decode depth (toJson query.source.access)
        let joins ← list Join.decode depth (toJson query.joins)
        let filter ← Conjunction.decode depth (toJson query.filter)
        return ({ select, joins, filter, source := ⟨query.source.table, access⟩ } : Query)) =
      .ok query
    rw [hselect.decode depth hfields.1, haccess.decode depth hfields.2.2.1,
      hjoins.decode depth hfields.2.2.2.1, hfilter.decode depth hfields.2.2.2.2.1]
    rfl

/-- A query survives its JSON form. If that does not nest too deep, the query is read from every
layout of it, the printed and the compact one among them. No text is a layout of the forms of two
queries, however deep they nest. -/
theorem Query.ofJson_of_isLaidOut (query : Query) :
    ((toJson query).nesting ≤ maxDepth →
      ∀ text, (toJson query).IsLaidOut text → ofJson text = .ok query) ∧
    (toJson query).IsLaidOut (toJson query).print ∧
    (toJson query).IsLaidOut (toJson query).compact ∧
    ∀ other : Query, ∀ text, (toJson query).IsLaidOut text → (toJson other).IsLaidOut text →
      query = other := by
  have hquery := restores_query query
  refine ⟨fun hdepth text htext => ?_, isLaidOut_print hquery.plain, isLaidOut_compact hquery.plain,
    fun other text htext hother => ?_⟩
  · rw [ofJson, Json.decode, read_of_isLaidOut htext]
    exact hquery.decode maxDepth hdepth
  · have hforms := eq_of_isLaidOut htext hother
    have hdecode := hquery.decode _ (Nat.le_refl _)
    rw [hforms] at hdecode
    exact Except.ok.inj (hdecode.symm.trans ((restores_query other).decode _ (Nat.le_refl _)))

/-- A query with characters that must be escaped, or that take more than two bytes. -/
def Query.escaped : Query :=
  ofTable (.columns [.bare "A\"\\\n\x07é"]) "" []
    [.or [.not (.verbatim "𝄞" []), .isNull (.literal .null) true]]

/-- Characters that must be escaped survive, and so do names that are no identifiers. -/
theorem Query.ofJson_print_escaped :
    ofJson (toJson escaped).print = .ok escaped ∧
      ofJson (toJson escaped).compact = .ok escaped := by
  obtain ⟨hread, hprint, hcompact, -⟩ := ofJson_of_isLaidOut escaped
  have hdepth : (toJson escaped).nesting ≤ maxDepth := by decide +kernel
  exact ⟨hread hdepth _ hprint, hread hdepth _ hcompact⟩

end RelPlan
