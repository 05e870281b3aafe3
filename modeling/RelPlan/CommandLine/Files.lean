import RelPlan.Catalog.Error

/-!
# Files

The files that commands read are named by paths. What a path names is up to the system, so the
files are a parameter of every command. Some paths may name what is typed, which can be read once.
-/

namespace RelPlan

/-- What comes of reading files, where what is typed may be used up. -/
abbrev Reading := StateM String

/-- The text of a file, or why there is none. -/
abbrev Files := String → Reading (Except FileFailure String)

/-- Some files by their paths, with their texts. -/
structure WorkingDirectory where
  entries : List (String × String)

namespace WorkingDirectory

/-- The directory that holds the given files. -/
def ofFiles (files : List (String × String)) : WorkingDirectory := ⟨files⟩

/-- The text of the file at a path. There are no others. -/
def read (directory : WorkingDirectory) : Files := fun path =>
  match directory.entries.lookup path with
  | some text => return .ok text
  | none => return .error .missing

end WorkingDirectory

end RelPlan
