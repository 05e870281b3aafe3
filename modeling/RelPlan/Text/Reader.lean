import RelPlan.Text.Blank
import RelPlan.Text.Word

/-!
# Readers

A reader takes a value off the front of a text, or fails. A run of characters is always read
as a whole and nothing of it is given back later, so what follows a run has to begin with a
character of another kind. Readers are put together with `do` and `<|>`, and a text is read
with `run`. What is read and what is left make up the text (`append_of_run_some`), and a reader
that takes something each time may be repeated (`repeated`).
-/

namespace RelPlan.Text

/-- Takes a value off the front of a text, and leaves the rest of the text. -/
abbrev Reader := StateT (List Char) Option

namespace Reader

variable {α : Type}

/-- Reads the given characters. -/
def literal (text : List Char) : Reader Unit := fun cs =>
  if text.isPrefixOf cs then some ((), cs.drop text.length) else none

/-- Reads all characters of one kind, perhaps none. -/
def many (kind : Char → Bool) : Reader (List Char) := fun cs =>
  some (cs.takeWhile kind, cs.dropWhile kind)

/-- Reads all characters of one kind, at least one. -/
def some (kind : Char → Bool) : Reader (List Char) := do
  let run ← many kind
  if run.isEmpty then failure else return run

/-- The reader takes at least one character off the text. -/
def Shortens (reader : Reader α) : Prop :=
  ∀ cs value rest, reader.run cs = .some (value, rest) → rest.length < cs.length

/-- The values that a reader reads one after another, as many as there are, and the rest of the
text. -/
def repeatedRun (reader : Reader α) (h : reader.Shortens) (cs : List Char) :
    List α × List Char :=
  match hrun : reader.run cs with
  | .some (value, rest) =>
    have := h cs value rest hrun
    let others := repeatedRun reader h rest
    (value :: others.1, others.2)
  | .none => ([], cs)
termination_by cs.length

/-- Reads values one after another, as many as there are. -/
def repeated (reader : Reader α) (h : reader.Shortens) : Reader (List α) := fun cs =>
  .some (repeatedRun reader h cs)

/-- Reads nothing, at the end of the text only. -/
def finish : Reader Unit := fun cs => if cs.isEmpty then .some ((), []) else .none

/-- Reads nothing, where no word goes on. -/
def wordEnd [WordClass] : Reader Unit := fun cs =>
  if (cs.head?.map isWord).getD false then .none else .some ((), cs)

/-- Reads white space. -/
def gap : Reader (List Char) := some isBlank

/-- Reads white space, perhaps none. -/
def blanks : Reader (List Char) := many isBlank

/-- Reads a word. -/
def word [WordClass] : Reader (List Char) := some isWord

/-- Whether the front of the text can be read. -/
def accepts (reader : Reader α) (cs : List Char) : Bool := (reader.run cs).isSome

@[simp] theorem run_many (kind : Char → Bool) (cs : List Char) :
    (many kind).run cs = .some (cs.takeWhile kind, cs.dropWhile kind) := rfl

/-- A run is read if the text begins with a character of its kind. -/
theorem run_some (kind : Char → Bool) (cs : List Char) :
    (some kind).run cs =
      if (cs.takeWhile kind).isEmpty then .none
      else .some (cs.takeWhile kind, cs.dropWhile kind) := by
  show StateT.run (do
    let run ← many kind
    if run.isEmpty then failure else return run) cs = _
  rw [StateT.run_bind, run_many]
  simp only [Option.bind_eq_bind, Option.bind_some]
  split <;> rfl

/-- A reader that is put together from two reads with the second what the first has left. -/
theorem run_bind_eq_some_iff {β : Type} {first : Reader α} {next : α → Reader β}
    {cs rest : List Char} {value : β} :
    (first >>= next).run cs = .some (value, rest) ↔
      ∃ read mid, first.run cs = .some (read, mid) ∧ (next read).run mid = .some (value, rest) := by
  simp only [StateT.run_bind, Option.bind_eq_bind, Option.bind_eq_some_iff, Prod.exists]

/-- A reader that gives a value takes nothing off a text. -/
theorem run_pure_eq_some_iff {value read : α} {cs rest : List Char} :
    (pure value : Reader α).run cs = .some (read, rest) ↔ value = read ∧ cs = rest := by
  simp only [StateT.run_pure, Option.pure_def, Option.some.injEq, Prod.mk.injEq]

/-- Given characters are read off a text that begins with them. -/
theorem run_literal_append (text rest : List Char) :
    (literal text).run (text ++ rest) = .some ((), rest) := by
  show (if text.isPrefixOf (text ++ rest) then _ else _) = _
  have hfront : text.isPrefixOf (text ++ rest) = true :=
    List.isPrefixOf_iff_prefix.mpr (List.prefix_append text rest)
  simp [hfront]

/-- Given characters are what is taken off the text. -/
theorem append_of_run_literal {text cs rest : List Char} {u : Unit}
    (h : (literal text).run cs = .some (u, rest)) : text ++ rest = cs := by
  replace h : (if text.isPrefixOf cs then Option.some ((), cs.drop text.length) else none) =
    Option.some (u, rest) := h
  split at h
  · next hfront =>
    obtain ⟨behind, rfl⟩ := List.isPrefixOf_iff_prefix.mp hfront
    simp_all
  · simp at h

/-- A run is what is taken off the text. -/
theorem append_of_run_many {kind : Char → Bool} {cs run rest : List Char}
    (h : (many kind).run cs = .some (run, rest)) : run ++ rest = cs := by
  simp only [run_many, Option.some.injEq, Prod.mk.injEq] at h
  rw [← h.1, ← h.2, List.takeWhile_append_dropWhile]

/-- A run of at least one character is what is taken off the text. -/
theorem append_of_run_some {kind : Char → Bool} {cs run rest : List Char}
    (h : (some kind).run cs = .some (run, rest)) : run ++ rest = cs := by
  rw [run_some] at h
  split at h
  · simp at h
  · simp only [Option.some.injEq, Prod.mk.injEq] at h
    rw [← h.1, ← h.2, List.takeWhile_append_dropWhile]

/-- A run of at least one character is not empty. -/
theorem ne_nil_of_run_some {kind : Char → Bool} {cs run rest : List Char}
    (h : (some kind).run cs = .some (run, rest)) : run ≠ [] := by
  rw [run_some] at h
  split at h
  · simp at h
  · next hempty =>
    simp only [Option.some.injEq, Prod.mk.injEq] at h
    exact h.1 ▸ fun hnil => hempty (List.isEmpty_iff.mpr hnil)

end Reader

end RelPlan.Text
