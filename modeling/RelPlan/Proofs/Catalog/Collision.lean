import Mathlib.Data.Fintype.EquivFin
import Mathlib.Data.List.Induction
import RelPlan.Catalog.Schema
import RelPlan.Proofs.Except

/-!
# Tables that have one name in upper case

A schema lists tables by names in any letter case, and queries are read in upper case. Names that
differ may be the same in upper case, be it by letter case or because one letter becomes two. Of the
tables of one such name only the last one is there once the schema is in upper case, so what the
others declare is kept exactly if the last one covers it
(`Schema.declaresAllOf_iff_of_normalize`).
-/

namespace RelPlan

namespace NameSet

/-- A set is empty exactly if there is no name in it. -/
theorem isEmpty_iff {set : NameSet} : set.isEmpty = true ↔ ∀ name, name ∉ set := by
  rw [isEmpty, List.isEmpty_iff, List.eq_nil_iff_forall_not_mem]
  rfl

/-- No set holds all names. -/
theorem exists_not_mem (set : NameSet) : ∃ name, name ∉ set := by
  obtain ⟨name, hname⟩ := Infinite.exists_notMem_finset set.toList.toFinset
  exact ⟨name, fun hmem => hname (List.mem_toFinset.mpr hmem)⟩

end NameSet

namespace Schema

@[simp] theorem mem_upperNames {names : NameSet} {name : String} :
    name ∈ upperNames names ↔ ∃ other ∈ names, Text.upper other = name := by
  simp [upperNames, NameSet.mem_toList]

/-- In upper case a set has names if and only if it had some. -/
theorem isEmpty_upperNames (names : NameSet) : (upperNames names).isEmpty = names.isEmpty := by
  rw [Bool.eq_iff_iff, NameSet.isEmpty_iff, NameSet.isEmpty_iff]
  simp

/-- The columns of the last table that has the given name in upper case. -/
def lastColumns? (schema : Schema) (name : String) : Option NameSet :=
  (schema.tables.toList.reverse.find? (Text.upper ·.1 == name)).map (·.2)

/-- Whether the columns of one table include those of another one in upper case, where no columns
stand for all. -/
def Covers (last columns : NameSet) : Prop :=
  last.isEmpty = true ∨ columns.isEmpty = false ∧
    ∀ column ∈ columns.toList, ∃ other ∈ last.toList, Text.upper other = Text.upper column

instance (last columns : NameSet) : Decidable (Covers last columns) :=
  inferInstanceAs (Decidable (_ ∨ _ ∧ ∀ _ ∈ _, ∃ _ ∈ _, _))

/-- Whether a schema in upper case has what another one declares: the columns of each table, and
every column of a table that is listed without columns. -/
def DeclaresAllOf (raised schema : Schema) : Prop :=
  ∀ entry ∈ schema.tables.toList,
    (∀ column ∈ entry.2, raised.hasColumn (Text.upper entry.1) (Text.upper column) = true) ∧
    (entry.2.isEmpty = true → ∀ column, raised.hasColumn (Text.upper entry.1) column = true)

/-- A table that is listed has the columns that it is listed with, or all. -/
theorem hasColumn_eq_of_get? {schema : Schema} {table : String} {columns : NameSet}
    (h : schema.tables.get? table = some columns) (column : String) :
    schema.hasColumn table column = (columns.isEmpty || columns.contains column) := by
  have hclosed : schema.isClosed = true := by
    cases hopen : schema.isClosed with
    | true => rfl
    | false =>
      rw [NameMap.get?, isClosed_eq_false_iff.mp hopen] at h
      simp at h
  simp [hasColumn, hclosed, h]

section Raised

variable {schema raised : Schema}

/-- A table behind others is put into what they give in upper case. -/
theorem upperTables_append_singleton {tables : List (String × NameSet)}
    {entry : String × NameSet} {done : NameMap NameSet}
    (h : upperTables (tables ++ [entry]) = .ok done) :
    ∃ earlier, upperTables tables = .ok earlier ∧
      done = earlier.insert (Text.upper entry.1) (upperNames entry.2) := by
  rw [upperTables, List.foldlM_append, bind_eq_ok_iff] at h
  obtain ⟨earlier, hearlier, h⟩ := h
  refine ⟨earlier, hearlier, ?_⟩
  rw [List.foldlM_cons, bind_eq_ok_iff] at h
  obtain ⟨last, hlast, h⟩ := h
  cases h
  dsimp only at hlast
  split at hlast
  · cases hlast
    rfl
  · cases hlast

/-- Under each name there are the columns of the last table that has it in upper case. -/
theorem get?_of_upperTables {tables : List (String × NameSet)} {done : NameMap NameSet}
    (h : upperTables tables = .ok done) (name : String) :
    done.get? name =
      (tables.reverse.find? (Text.upper ·.1 == name)).map fun entry => upperNames entry.2 := by
  induction tables using List.reverseRecOn generalizing done with
  | nil =>
    cases h
    rfl
  | append_singleton tables entry ih =>
    obtain ⟨earlier, hearlier, rfl⟩ := upperTables_append_singleton h
    rw [NameMap.get?_insert, ih hearlier, List.reverse_concat, List.find?_cons]
    by_cases hname : name = Text.upper entry.1
    · simp [hname]
    · rw [if_neg hname, beq_false_of_ne (Ne.symm hname)]

/-- In upper case a table has the columns that the last table of that name in upper case has. -/
theorem get?_of_normalize (h : schema.normalize = .ok raised) (name : String) :
    raised.tables.get? name = (schema.lastColumns? name).map upperNames := by
  obtain ⟨tables, htables, h⟩ := bind_eq_ok_iff.mp h
  cases h
  rw [get?_of_upperTables htables, lastColumns?, Option.map_map]
  rfl

/-- Every table that is listed has a last one of its name. -/
theorem exists_lastColumns? {entry : String × NameSet} (h : entry ∈ schema.tables.toList) :
    ∃ last, schema.lastColumns? (Text.upper entry.1) = some last := by
  rw [← Option.isSome_iff_exists, lastColumns?, Option.isSome_map, List.find?_isSome]
  exact ⟨entry, List.mem_reverse.mpr h, beq_self_eq_true _⟩

/-- A schema in upper case has what a table was listed with exactly if the last table of its name
covers it. -/
theorem declares_iff_covers {table : String} {columns last : NameSet}
    (h : raised.tables.get? (Text.upper table) = some (upperNames last)) :
    ((∀ column ∈ columns, raised.hasColumn (Text.upper table) (Text.upper column) = true) ∧
      (columns.isEmpty = true → ∀ column, raised.hasColumn (Text.upper table) column = true)) ↔
      Covers last columns := by
  simp only [hasColumn_eq_of_get? h, isEmpty_upperNames, Bool.or_eq_true, NameSet.contains_iff,
    mem_upperNames]
  cases hlast : last.isEmpty with
  | true => simp [Covers, hlast]
  | false =>
    cases hcolumns : columns.isEmpty with
    | true =>
      -- no list of columns is as good as all of them
      obtain ⟨name, hname⟩ := (upperNames last).exists_not_mem
      rw [mem_upperNames] at hname
      simp only [Covers, hlast, hcolumns, Bool.false_eq_true, Bool.true_eq_false, false_or,
        false_and, iff_false, not_and, not_forall, true_imp_iff]
      exact fun _ => ⟨name, hname⟩
    | false => simp [Covers, hlast, hcolumns, NameSet.mem_toList]

/-- If a schema can be put in upper case, then under each name there are the columns of the last
table that has the name in upper case, and nothing that was declared is lost exactly if the last
table of each name covers all others of the name. -/
theorem declaresAllOf_iff_of_normalize (h : schema.normalize = .ok raised) :
    (∀ name, raised.tables.get? name = (schema.lastColumns? name).map upperNames) ∧
      (raised.DeclaresAllOf schema ↔ ∀ entry ∈ schema.tables.toList,
        ∀ last ∈ schema.lastColumns? (Text.upper entry.1), Covers last entry.2) := by
  refine ⟨get?_of_normalize h, forall₂_congr fun entry hentry => ?_⟩
  obtain ⟨last, hlast⟩ := exists_lastColumns? hentry
  have hget : raised.tables.get? (Text.upper entry.1) = some (upperNames last) := by
    rw [get?_of_normalize h, hlast, Option.map_some]
  rw [declares_iff_covers hget, hlast]
  simp

end Raised

/-- The schema with the given tables and the standard words. -/
def ofTables (tables : List (String × List String)) : Schema :=
  ⟨standard.reserved, .ofList (tables.map fun table => (table.1, .ofList table.2))⟩

/-- Two tables are one in upper case, where a sharp s is two letters, and no column is lost. -/
theorem declaresAllOf_sharpS :
    (∀ name, (ofTables [("STRASSE", ["ID", "PLZ"])]).tables.get? name =
      ((ofTables [("STRASSE", ["ID"]), ("straße", ["id", "plz"])]).lastColumns? name).map
        upperNames) ∧
    (ofTables [("STRASSE", ["ID", "PLZ"])]).DeclaresAllOf
      (ofTables [("STRASSE", ["ID"]), ("straße", ["id", "plz"])]) := by
  have hnormalize : (ofTables [("STRASSE", ["ID"]), ("straße", ["id", "plz"])]).normalize =
      .ok (ofTables [("STRASSE", ["ID", "PLZ"])]) := by decide +kernel
  obtain ⟨hget, hiff⟩ := declaresAllOf_iff_of_normalize hnormalize
  exact ⟨hget, hiff.mpr (by decide +kernel)⟩

/-- The schema with two spellings of one name, of which the last one has fewer columns. -/
def spelledTwice : Schema := ofTables [("ALUNOS", ["ID", "NOME"]), ("alunos", ["ID"])]

/-- What is left of it in upper case. -/
def spelledOnce : Schema := ofTables [("ALUNOS", ["ID"])]

/-- A file that lists a table in two spellings is read, and a column is lost. -/
theorem not_declaresAllOf_spelledOnce :
    Json.decode decode
        "\x7b\"tables\": \x7b\"ALUNOS\": [\"ID\", \"NOME\"], \"alunos\": [\"ID\"]\x7d\x7d" =
      .ok spelledTwice ∧
    spelledTwice.normalize = .ok spelledOnce ∧
    spelledOnce.hasColumn "ALUNOS" "NOME" = false ∧ ¬ spelledOnce.DeclaresAllOf spelledTwice := by
  have hlost : spelledOnce.hasColumn "ALUNOS" "NOME" = false := by decide +kernel
  refine ⟨by decide +kernel, by decide +kernel, hlost, fun h => ?_⟩
  have hentry : ("ALUNOS", NameSet.ofList ["ID", "NOME"]) ∈ spelledTwice.tables.toList := by
    decide +kernel
  have hkept := (h _ hentry).1 "NOME" (by simp)
  rw [show Text.upper "ALUNOS" = "ALUNOS" by decide +kernel,
    show Text.upper "NOME" = "NOME" by decide +kernel, hlost] at hkept
  exact Bool.false_ne_true hkept

end Schema

end RelPlan
