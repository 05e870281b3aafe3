/-!
# Sets of names

A set of names is kept as a list in strictly increasing order, by code points, so equal sets
are equal values and the order of a printed set is the order of its list.
-/

namespace RelPlan

/-- A finite set of names. -/
structure NameSet where
  toList : List String
  sorted : toList.Pairwise (· < ·)
deriving DecidableEq

namespace NameSet

/-- The name at its place in an increasing list, which stays as it is if it holds the name. -/
def insertSorted (name : String) : List String → List String
  | [] => [name]
  | head :: tail =>
    if name < head then name :: head :: tail
    else if name = head then head :: tail
    else head :: insertSorted name tail

/-- The members after an insertion are the new name and the old members. -/
theorem mem_insertSorted {name other : String} {names : List String} :
    other ∈ insertSorted name names ↔ other = name ∨ other ∈ names := by
  induction names with
  | nil => simp [insertSorted]
  | cons head tail ih =>
    unfold insertSorted
    split
    · simp
    · split
      · next h => subst h; simp
      · simp [ih, or_left_comm]

/-- Two different names are in order one way or the other. -/
theorem lt_of_not_lt_of_ne {first second : String} (h : ¬ first < second) (hne : first ≠ second) :
    second < first := by
  rcases String.le_total first second with hle | hle
  · exact absurd (String.le_antisymm hle (String.not_lt.mp h)) hne
  · exact String.not_le.mp fun hle' => hne (String.le_antisymm hle' hle)

/-- An insertion keeps the list strictly increasing. -/
theorem pairwise_insertSorted {name : String} {names : List String}
    (h : names.Pairwise (· < ·)) : (insertSorted name names).Pairwise (· < ·) := by
  induction names with
  | nil => simp [insertSorted]
  | cons head tail ih =>
    obtain ⟨hhead, htail⟩ := List.pairwise_cons.mp h
    unfold insertSorted
    split
    · next hlt =>
      refine List.pairwise_cons.mpr ⟨?_, h⟩
      intro other hother
      rcases List.mem_cons.mp hother with rfl | hmem
      · exact hlt
      · exact String.lt_trans hlt (hhead other hmem)
    · next hlt =>
      split
      · exact h
      · next hne =>
        refine List.pairwise_cons.mpr ⟨?_, ih htail⟩
        intro other hother
        rcases mem_insertSorted.mp hother with rfl | hmem
        · exact lt_of_not_lt_of_ne hlt hne
        · exact hhead other hmem

/-- The set without members. -/
def empty : NameSet := ⟨[], .nil⟩

instance : Inhabited NameSet := ⟨empty⟩

instance : EmptyCollection NameSet := ⟨empty⟩

/-- The set with one name more. -/
def insert (set : NameSet) (name : String) : NameSet :=
  ⟨insertSorted name set.toList, pairwise_insertSorted set.sorted⟩

/-- The set of the names of a list. -/
def ofList (names : List String) : NameSet := names.foldl insert empty

/-- Whether the set has no members. -/
def isEmpty (set : NameSet) : Bool := set.toList.isEmpty

/-- The number of members. -/
def size (set : NameSet) : Nat := set.toList.length

/-- Whether the name is a member. -/
def contains (set : NameSet) (name : String) : Bool := set.toList.contains name

instance : Membership String NameSet := ⟨fun set name => name ∈ set.toList⟩

/-- A name is in the list of a set exactly if it is in the set. -/
theorem mem_toList {set : NameSet} {name : String} : name ∈ set.toList ↔ name ∈ set := Iff.rfl

@[simp] theorem contains_iff {set : NameSet} {name : String} :
    set.contains name = true ↔ name ∈ set := by
  simp [contains, mem_toList]

@[simp] theorem not_mem_empty (name : String) : name ∉ (∅ : NameSet) :=
  List.not_mem_nil

@[simp] theorem mem_insert {set : NameSet} {name other : String} :
    other ∈ set.insert name ↔ other = name ∨ other ∈ set :=
  mem_insertSorted

/-- The set of a list has the members of the list. -/
@[simp] theorem mem_ofList {names : List String} {name : String} :
    name ∈ ofList names ↔ name ∈ names := by
  suffices ∀ set : NameSet, name ∈ names.foldl insert set ↔ name ∈ set ∨ name ∈ names by
    have h := this empty
    simpa [ofList, show name ∉ empty from not_mem_empty name] using h
  induction names with
  | nil => simp
  | cons head tail ih => intro set; simp [ih, or_assoc, or_left_comm]

end NameSet

end RelPlan
