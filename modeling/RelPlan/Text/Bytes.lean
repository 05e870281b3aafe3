/-!
# Lengths and positions in bytes

Positions in a text count the bytes of its UTF-8 encoding. A position between two characters
splits the text there; one inside a character belongs to no cut that is made here.
-/

namespace RelPlan.Text

/-- The number of bytes that the characters take. -/
def byteLength (cs : List Char) : Nat := cs.foldr (fun c length => c.utf8Size + length) 0

/-- The characters from the given position on. -/
def dropBytes : Nat → List Char → List Char
  | 0, cs => cs
  | _ + 1, [] => []
  | n + 1, c :: cs => dropBytes (n + 1 - c.utf8Size) cs

/-- The characters before the given position. -/
def takeBytes : Nat → List Char → List Char
  | 0, _ => []
  | _ + 1, [] => []
  | n + 1, c :: cs => c :: takeBytes (n + 1 - c.utf8Size) cs

@[simp] theorem byteLength_nil : byteLength [] = 0 := rfl

@[simp] theorem byteLength_cons (c : Char) (cs : List Char) :
    byteLength (c :: cs) = c.utf8Size + byteLength cs := rfl

@[simp] theorem byteLength_append (first second : List Char) :
    byteLength (first ++ second) = byteLength first + byteLength second := by
  induction first with
  | nil => exact (Nat.zero_add _).symm
  | cons c first ih => rw [List.cons_append, byteLength_cons, byteLength_cons, ih, Nat.add_assoc]

@[simp] theorem dropBytes_zero (cs : List Char) : dropBytes 0 cs = cs := by
  cases cs <;> rfl

@[simp] theorem takeBytes_zero (cs : List Char) : takeBytes 0 cs = [] := by
  cases cs <;> rfl

/-- Dropping the bytes of a first part and some more drops those bytes behind it. -/
theorem dropBytes_append_of_le {front : List Char} {n : Nat} (h : byteLength front ≤ n)
    (text : List Char) : dropBytes n (front ++ text) = dropBytes (n - byteLength front) text := by
  induction front generalizing n with
  | nil => simp
  | cons c front ih =>
    rw [byteLength_cons] at h
    have hc := c.utf8Size_pos
    obtain ⟨n, rfl⟩ : ∃ m, n = m + 1 := ⟨n - 1, by omega⟩
    rw [List.cons_append, dropBytes, ih (by omega), byteLength_cons, Nat.sub_sub]

/-- The bytes of a first part and some more are the first part and those bytes behind it. -/
theorem takeBytes_append_of_le {front : List Char} {n : Nat} (h : byteLength front ≤ n)
    (text : List Char) :
    takeBytes n (front ++ text) = front ++ takeBytes (n - byteLength front) text := by
  induction front generalizing n with
  | nil => simp
  | cons c front ih =>
    rw [byteLength_cons] at h
    have hc := c.utf8Size_pos
    obtain ⟨n, rfl⟩ : ∃ m, n = m + 1 := ⟨n - 1, by omega⟩
    rw [List.cons_append, takeBytes, ih (by omega), List.cons_append, byteLength_cons, Nat.sub_sub]

/-- Dropping the bytes of a first part leaves the second. -/
theorem dropBytes_append (first second : List Char) :
    dropBytes (byteLength first) (first ++ second) = second := by
  rw [dropBytes_append_of_le (Nat.le_refl _), Nat.sub_self, dropBytes_zero]

/-- Taking the bytes of a first part gives that part. -/
theorem takeBytes_append (first second : List Char) :
    takeBytes (byteLength first) (first ++ second) = first := by
  rw [takeBytes_append_of_le (Nat.le_refl _), Nat.sub_self, takeBytes_zero, List.append_nil]

end RelPlan.Text
