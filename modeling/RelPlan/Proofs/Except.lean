import Mathlib.Data.List.Forall2

/-!
# Computations that may fail

What is known of the parts of a computation if the whole of it gives a result.
-/

namespace RelPlan

section Results

variable {ε α β : Type}

/-- A computation followed by another one gives what the other one makes of its result. -/
theorem bind_eq_ok_iff {first : Except ε α} {next : α → Except ε β} {result : β} :
    first >>= next = .ok result ↔ ∃ value, first = .ok value ∧ next value = .ok result := by
  cases first with
  | error fault => simp [bind, Except.bind]
  | ok value => simp [bind, Except.bind]

/-- A function of the result of a computation is the function of some result. -/
theorem map_eq_ok_iff {first : Except ε α} {change : α → β} {result : β} :
    first.map change = .ok result ↔ ∃ value, first = .ok value ∧ change value = result := by
  cases first with
  | error fault => simp [Except.map]
  | ok value => simp [Except.map]

/-- The results for some values are one for each of them. -/
theorem forall₂_of_mapM {compute : α → Except ε β} {values : List α} {results : List β}
    (h : values.mapM compute = .ok results) :
    List.Forall₂ (fun value result => compute value = .ok result) values results := by
  induction values generalizing results with
  | nil =>
    cases h
    exact .nil
  | cons value values ih =>
    rw [List.mapM_cons, bind_eq_ok_iff] at h
    obtain ⟨first, hfirst, h⟩ := h
    obtain ⟨others, hothers, h⟩ := bind_eq_ok_iff.mp h
    cases h
    exact .cons hfirst (ih hothers)

/-- Each of the results for some values is the result for one of them. -/
theorem exists_of_mem_mapM {compute : α → Except ε β} {values : List α} {results : List β}
    (h : values.mapM compute = .ok results) {result : β} (hresult : result ∈ results) :
    ∃ value ∈ values, compute value = .ok result := by
  have hall := forall₂_of_mapM h
  clear h
  induction hall with
  | nil => simp at hresult
  | cons hfirst _ ih =>
    rcases List.mem_cons.mp hresult with rfl | hmem
    · exact ⟨_, List.mem_cons_self, hfirst⟩
    · obtain ⟨value, hvalue, hcompute⟩ := ih hmem
      exact ⟨value, List.mem_cons_of_mem _ hvalue, hcompute⟩

/-- There is a result for each of the values. -/
theorem exists_eq_ok_of_mapM {compute : α → Except ε β} {values : List α} {results : List β}
    (h : values.mapM compute = .ok results) {value : α} (hvalue : value ∈ values) :
    ∃ result, compute value = .ok result := by
  have hall := forall₂_of_mapM h
  clear h
  induction hall with
  | nil => simp at hvalue
  | cons hfirst _ ih =>
    rcases List.mem_cons.mp hvalue with rfl | hmem
    · exact ⟨_, hfirst⟩
    · exact ih hmem

/-- The results are known if each of them is known from its value. -/
theorem eq_map_of_mapM {compute : α → Except ε β} {values : List α} {results : List β}
    (h : values.mapM compute = .ok results) {result : α → β}
    (hresult : ∀ value found, compute value = .ok found → found = result value) :
    results = values.map result := by
  have hall : List.Forall₂ (· = ·) (values.map result) results :=
    List.forall₂_map_left_iff.mpr
      ((forall₂_of_mapM h).imp fun value found hfound => (hresult value found hfound).symm)
  rw [List.forall₂_eq_eq_eq] at hall
  exact hall.symm

/-- The values are known if each of them is known from its result. -/
theorem map_eq_of_mapM {compute : α → Except ε β} {values : List α} {results : List β}
    (h : values.mapM compute = .ok results) {value : β → α}
    (hvalue : ∀ read found, compute read = .ok found → value found = read) :
    results.map value = values := by
  have hall : List.Forall₂ (· = ·) values (results.map value) :=
    List.forall₂_map_right_iff.mpr
      ((forall₂_of_mapM h).imp fun read found hfound => (hvalue read found hfound).symm)
  rw [List.forall₂_eq_eq_eq] at hall
  exact hall.symm

/-- The results for some values are those for each of them. -/
theorem mapM_eq_ok {compute : α → Except ε β} {result : α → β} {values : List α}
    (h : ∀ value ∈ values, compute value = .ok (result value)) :
    values.mapM compute = .ok (values.map result) := by
  induction values with
  | nil => rfl
  | cons value values ih =>
    rw [List.forall_mem_cons] at h
    rw [List.mapM_cons, h.1, ih h.2]
    rfl

/-- Results for some values are results of another computation if each of them is. -/
theorem mapM_mono {compute other : α → Except ε β} {values : List α}
    {results : List β} (h : values.mapM compute = .ok results)
    (hother : ∀ value result, compute value = .ok result → other value = .ok result) :
    values.mapM other = .ok results := by
  induction values generalizing results with
  | nil => exact h
  | cons value values ih =>
    rw [List.mapM_cons] at h ⊢
    obtain ⟨first, hfirst, h⟩ := bind_eq_ok_iff.mp h
    obtain ⟨others, hothers, h⟩ := bind_eq_ok_iff.mp h
    rw [hother value first hfirst, ih hothers]
    exact h

end Results

end RelPlan
