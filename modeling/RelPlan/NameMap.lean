import RelPlan.NameSet

/-!
# Maps from names

A map is kept as a list of entries whose names are strictly increasing, by code points, so
equal maps are equal values. Inserting at a name that is there replaces its value.
-/

namespace RelPlan

/-- A finite map from names to values. -/
structure NameMap (α : Type) where
  toList : List (String × α)
  sorted : toList.Pairwise (·.1 < ·.1)
deriving DecidableEq

namespace NameMap

variable {α : Type}

/-- The entry at its place in an increasing list, instead of an entry with its name. -/
def insertSorted (name : String) (value : α) : List (String × α) → List (String × α)
  | [] => [(name, value)]
  | head :: tail =>
    if name < head.1 then (name, value) :: head :: tail
    else if name = head.1 then (name, value) :: tail
    else head :: insertSorted name value tail

/-- An entry after an insertion is the new one or an old one. -/
theorem mem_insertSorted {name : String} {value : α} {entries : List (String × α)}
    {entry : String × α} (h : entry ∈ insertSorted name value entries) :
    entry = (name, value) ∨ entry ∈ entries := by
  induction entries with
  | nil => simpa [insertSorted] using h
  | cons head tail ih =>
    unfold insertSorted at h
    split at h
    · simpa using h
    · split at h
      · rcases List.mem_cons.mp h with h | h
        · exact .inl h
        · exact .inr (List.mem_cons_of_mem _ h)
      · rcases List.mem_cons.mp h with h | h
        · exact .inr (h ▸ List.mem_cons_self)
        · rcases ih h with h | h
          · exact .inl h
          · exact .inr (List.mem_cons_of_mem _ h)

/-- An insertion keeps the names strictly increasing. -/
theorem pairwise_insertSorted {name : String} {value : α} {entries : List (String × α)}
    (h : entries.Pairwise (·.1 < ·.1)) :
    (insertSorted name value entries).Pairwise (·.1 < ·.1) := by
  induction entries with
  | nil => simp [insertSorted]
  | cons head tail ih =>
    obtain ⟨hhead, htail⟩ := List.pairwise_cons.mp h
    unfold insertSorted
    split
    · next hlt =>
      refine List.pairwise_cons.mpr ⟨?_, h⟩
      intro other hother
      rcases List.mem_cons.mp hother with rfl | hmem
      · exact hlt
      · exact String.lt_trans hlt (hhead other hmem)
    · next hlt =>
      split
      · next heq =>
        exact List.pairwise_cons.mpr ⟨fun other hmem => heq ▸ hhead other hmem, htail⟩
      · next hne =>
        refine List.pairwise_cons.mpr ⟨?_, ih htail⟩
        intro other hother
        rcases mem_insertSorted hother with rfl | hmem
        · exact NameSet.lt_of_not_lt_of_ne hlt hne
        · exact hhead other hmem

/-- The map without entries. -/
def empty : NameMap α := ⟨[], .nil⟩

instance : Inhabited (NameMap α) := ⟨empty⟩

instance : EmptyCollection (NameMap α) := ⟨empty⟩

/-- The map with the given value at a name. -/
def insert (map : NameMap α) (name : String) (value : α) : NameMap α :=
  ⟨insertSorted name value map.toList, pairwise_insertSorted map.sorted⟩

/-- The map of a list of entries; of two entries with one name the later one counts. -/
def ofList (entries : List (String × α)) : NameMap α :=
  entries.foldl (fun map entry => map.insert entry.1 entry.2) empty

/-- The value at a name. -/
def get? (map : NameMap α) (name : String) : Option α := map.toList.lookup name

/-- Whether there is a value at the name. -/
def contains (map : NameMap α) (name : String) : Bool := (map.get? name).isSome

/-- Whether the map has no entries. -/
def isEmpty (map : NameMap α) : Bool := map.toList.isEmpty

@[simp] theorem get?_empty (name : String) : (∅ : NameMap α).get? name = none := rfl

/-- Looking up after an insertion finds the new value at its name and the old ones elsewhere. -/
theorem get?_insert (map : NameMap α) (name other : String) (value : α) :
    (map.insert name value).get? other = if other = name then some value else map.get? other := by
  suffices ∀ entries : List (String × α), entries.Pairwise (·.1 < ·.1) →
      (insertSorted name value entries).lookup other =
        if other = name then some value else entries.lookup other from
    this map.toList map.sorted
  intro entries
  induction entries with
  | nil =>
    intro _
    by_cases h : other = name
    · simp [insertSorted, h]
    · simp [insertSorted, List.lookup_cons, h, beq_false_of_ne h]
  | cons head tail ih =>
    intro h
    obtain ⟨key, old⟩ := head
    obtain ⟨hhead, htail⟩ := List.pairwise_cons.mp h
    unfold insertSorted
    split
    · by_cases h : other = name
      · simp [h]
      · simp [List.lookup_cons, h, beq_false_of_ne h]
    · split
      · next heq =>
        have heq : name = key := heq
        by_cases h : other = name
        · simp [h]
        · have hkey : (other == key) = false := beq_false_of_ne (heq ▸ h)
          simp [List.lookup_cons, h, hkey, beq_false_of_ne h]
      · next hne =>
        rw [List.lookup_cons, List.lookup_cons, ih htail]
        by_cases ho : other = key
        · have : key ≠ name := fun h => hne h.symm
          simp [ho, this]
        · simp [beq_false_of_ne ho]

end NameMap

end RelPlan
