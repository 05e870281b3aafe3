import Mathlib.Data.List.TakeWhile
import RelPlan.Text.Reader

/-!
# What readers take off a text

A run of characters is read up to where the text goes on with a character of another kind, and a
reader that is put together from others reads what they read one after another.
-/

namespace RelPlan.Text

/-- Whether a text does not begin with a character of some kind. -/
def Ends (kind : Char → Bool) (cs : List Char) : Prop := ∀ c ∈ cs.head?, kind c = false

/-- Where no characters are left none of the kind comes next. -/
theorem ends_nil (kind : Char → Bool) : Ends kind [] := by simp [Ends]

/-- A character of another kind ends what is of the kind. -/
theorem ends_cons {kind : Char → Bool} {c : Char} (h : kind c = false) (cs : List Char) :
    Ends kind (c :: cs) := by
  simpa [Ends] using h

/-- More characters behind a text that is not empty do not change how it begins. -/
theorem Ends.append {kind : Char → Bool} {first : List Char} (h : Ends kind first)
    (hne : first ≠ []) (second : List Char) : Ends kind (first ++ second) := by
  cases first with
  | nil => exact absurd rfl hne
  | cons c first => exact ends_cons (h c rfl) _

/-- A character of another kind ends a run. -/
theorem takeWhile_append_of_ends {kind : Char → Bool} {rest : List Char} (h : Ends kind rest)
    (run : List Char) :
    (run ++ rest).takeWhile kind = run.takeWhile kind ∧
      (run ++ rest).dropWhile kind = run.dropWhile kind ++ rest := by
  induction run with
  | nil =>
    cases rest with
    | nil => simp
    | cons c rest =>
      have hc : kind c = false := h c rfl
      simp [hc]
  | cons c run ih => cases hc : kind c <;> simp [hc, ih]

namespace Reader

variable {α β : Type} {cs rest : List Char}

/-- What is read first is handed on with the text that is left. -/
theorem run_bind_of_run {reader : Reader α} {next : α → Reader β} {value : α}
    (h : reader.run cs = .some (value, rest)) :
    (reader >>= next).run cs = (next value).run rest := by
  rw [StateT.run_bind, h]
  rfl

/-- Nothing is read behind what cannot be read. -/
theorem run_bind_of_run_eq_none {reader : Reader α} {next : α → Reader β}
    (h : reader.run cs = .none) : (reader >>= next).run cs = .none := by
  rw [StateT.run_bind, h]
  rfl

/-- A run of characters, perhaps of none, is read off the text. -/
theorem run_many_append {kind : Char → Bool} {run : List Char} (hrun : ∀ c ∈ run, kind c = true)
    (hrest : Ends kind rest) : (many kind).run (run ++ rest) = .some (run, rest) := by
  obtain ⟨htake, hdrop⟩ := takeWhile_append_of_ends hrest run
  rw [run_many, htake, hdrop, List.takeWhile_eq_self_iff.mpr hrun,
    List.dropWhile_eq_nil_iff.mpr hrun, List.nil_append]

/-- A run of characters is read off the text. -/
theorem run_some_append {kind : Char → Bool} {run : List Char} (hne : run ≠ [])
    (hrun : ∀ c ∈ run, kind c = true) (hrest : Ends kind rest) :
    (some kind).run (run ++ rest) = .some (run, rest) := by
  obtain ⟨htake, hdrop⟩ := takeWhile_append_of_ends hrest run
  rw [run_some, htake, hdrop, List.takeWhile_eq_self_iff.mpr hrun,
    List.dropWhile_eq_nil_iff.mpr hrun, List.nil_append, if_neg (by simpa using hne)]

/-- A run that is read has characters of its kind. -/
theorem all_of_run_some {kind : Char → Bool} {run : List Char}
    (h : (some kind).run cs = .some (run, rest)) : ∀ c ∈ run, kind c = true := by
  rw [run_some] at h
  split at h
  · simp at h
  · simp only [Option.some.injEq, Prod.mk.injEq] at h
    rw [← h.1]
    exact List.all_eq_true.mp List.all_takeWhile

/-- A run is not read off a text that does not begin with it. -/
theorem run_some_eq_none {kind : Char → Bool} (h : Ends kind cs) : (some kind).run cs = .none := by
  rw [run_some, if_pos]
  cases cs with
  | nil => rfl
  | cons c cs => simp [h c rfl]

/-- Given characters are not read off a text that begins with another one. -/
theorem run_literal_eq_none {c : Char} {text : List Char} (h : cs.head? ≠ .some c) :
    (literal (c :: text)).run cs = .none := by
  show (if (c :: text).isPrefixOf cs then _ else _) = _
  cases cs with
  | nil => rfl
  | cons d cs =>
    have hne : ¬ c = d := fun heq => h (by rw [heq]; rfl)
    simp [hne]

/-- What may be read is read if it can be. -/
theorem run_optional (reader : Reader α) (cs : List Char) :
    (optional reader).run cs =
      match reader.run cs with
      | .some (value, rest) => .some (.some value, rest)
      | .none => .some (.none, cs) := by
  have hchoice : (optional reader).run cs =
      ((reader.run cs >>= fun (value, rest) => .some (.some value, rest)) <|>
        .some (.none, cs) : Option (Option α × List Char)) := rfl
  rw [hchoice]
  cases reader.run cs <;> rfl

/-- If a reader succeeds then it is repeated on what it leaves. -/
theorem repeatedRun_of_run {reader : Reader α} {value : α} (hshort : reader.Shortens)
    (h : reader.run cs = .some (value, rest)) :
    repeatedRun reader hshort cs =
      (value :: (repeatedRun reader hshort rest).1, (repeatedRun reader hshort rest).2) := by
  rw [repeatedRun]
  split
  · next hrun =>
    obtain ⟨rfl, rfl⟩ := Prod.mk.inj (Option.some.inj (h.symm.trans hrun))
    rfl
  · next hrun => simp [h] at hrun

/-- If a reader fails then it is not repeated. -/
theorem repeatedRun_of_run_eq_none {reader : Reader α} (hshort : reader.Shortens)
    (h : reader.run cs = .none) : repeatedRun reader hshort cs = ([], cs) := by
  rw [repeatedRun]
  split
  · next hrun => simp [h] at hrun
  · rfl

end Reader

end RelPlan.Text
