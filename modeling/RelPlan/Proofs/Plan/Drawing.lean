import Mathlib.Data.List.Forall2
import RelPlan.Plan.Tree
import RelPlan.Proofs.Query.Reading

/-!
# Reading drawn plans

A drawn plan has one line for each node, from the root on and from left to right, and the plan can
be read off it: the margin of a line tells which nodes it is under, and its branch whether another
node stands beside it. A node has two nodes under it exactly if the first of them has a middle
branch, so plans that are drawn in the same way have the same operators with the same texts
(`Query.drawing_of_tree`). What is written at a node may begin with anything, even with what looks
like a branch, as long as it is on one line.
-/

namespace RelPlan

/-- A tree with a text at each node and at most two nodes under it. -/
inductive Drawing where
  | leaf (label : String)
  | stem (label : String) (input : Drawing)
  | fork (label : String) (left right : Drawing)
deriving DecidableEq

namespace Drawing

/-- What is written at the root. -/
def label : Drawing → String
  | leaf label | stem label _ | fork label _ _ => label

/-- The nodes from the root on and from left to right: how many nodes each one is under, and what is
written at it. -/
def nodes (depth : Nat) : Drawing → List (Nat × String)
  | leaf label => [(depth, label)]
  | stem label input => (depth, label) :: input.nodes (depth + 1)
  | fork label left right =>
    (depth, label) :: (left.nodes (depth + 1) ++ right.nodes (depth + 1))

/-- Whether what is written at each node is on one line. -/
def IsSingleLine (drawing : Drawing) : Prop := ∀ node ∈ drawing.nodes 0, '\n' ∉ node.2.toList

instance (drawing : Drawing) : Decidable drawing.IsSingleLine := List.decidableBAll _ _

/-! ## Lines -/

/-- The branch to a node with a sibling below it. -/
def middleBranch : List Char := Plan.middleBranch.toList

/-- The branch to the last node under another one. -/
def lastBranch : List Char := Plan.lastBranch.toList

/-- What stands left of the nodes under a node with a sibling below it. -/
def middleMargin : List Char := Plan.middleMargin.toList

/-- What stands left of the nodes under the last one. -/
def lastMargin : List Char := Plan.lastMargin.toList

/-- The lines of the nodes under the root, each after the given margin. -/
def linesBelow (margin : List Char) : Drawing → List (List Char)
  | leaf _ => []
  | stem _ input =>
    (margin ++ lastBranch ++ input.label.toList) :: input.linesBelow (margin ++ lastMargin)
  | fork _ left right =>
    (margin ++ middleBranch ++ left.label.toList) :: left.linesBelow (margin ++ middleMargin) ++
      (margin ++ lastBranch ++ right.label.toList) :: right.linesBelow (margin ++ lastMargin)

/-- The characters of margins and branches. -/
def branchChars : List Char := ['│', '├', '└', '─', ' ']

/-- Whether this may stand left of a node that is under so many others. -/
structure IsBranches (depth : Nat) (branches : List Char) : Prop where
  width : branches.length = 4 * depth
  chars : ∀ c ∈ branches, c ∈ branchChars

/-- A line shows a node behind its margin and branch. -/
def Shows (line : List Char) (node : Nat × String) : Prop :=
  ∃ branches, IsBranches node.1 branches ∧ line = branches ++ node.2.toList

/-! ## Reading -/

/-- What stands on a line behind its front, if it begins with that. -/
def behind? (front line : List Char) : Option (List Char) :=
  if front.isPrefixOf line then some (line.drop front.length) else none

/-- Reads the nodes under a node off the lines behind its own one, and what is left of these. -/
def read? (margin : List Char) (label : String) (lines : List (List Char)) :
    Option (Drawing × {rest : List (List Char) // rest.length ≤ lines.length}) :=
  match lines with
  | [] => some (leaf label, ⟨[], Nat.le_refl _⟩)
  | line :: lines =>
    match behind? (margin ++ middleBranch) line, behind? (margin ++ lastBranch) line with
    | some first, _ => do
      let (left, ⟨rest, hrest⟩) ← read? (margin ++ middleMargin) (.ofList first) lines
      match rest, hrest with
      | [], _ => none
      | line :: rest, hrest =>
        let second ← behind? (margin ++ lastBranch) line
        let (right, ⟨rest', hrest'⟩) ← read? (margin ++ lastMargin) (.ofList second) rest
        return (fork label left right, ⟨rest', by simp at hrest ⊢; omega⟩)
    | none, some only => do
      let (input, ⟨rest, hrest⟩) ← read? (margin ++ lastMargin) (.ofList only) lines
      return (stem label input, ⟨rest, by simp; omega⟩)
    | none, none => some (leaf label, ⟨line :: lines, Nat.le_refl _⟩)
termination_by lines.length
decreasing_by all_goals simp_all; try omega

/-- Reads the nodes under a node off the lines behind its own one, and gives what is left. -/
def readBelow (margin : List Char) (label : String) (lines : List (List Char)) :
    Option (Drawing × List (List Char)) :=
  (read? margin label lines).map fun found => (found.1, found.2.val)

/-- Reads a drawing off a text in which every line ends with a line break. -/
def ofText? (text : String) : Option Drawing :=
  match (Text.splitAt '\n' text.toList).dropLast with
  | [] => none
  | label :: lines =>
    match readBelow [] (.ofList label) lines with
    | some (drawing, []) => some drawing
    | _ => none

/-! ## What is drawn is read -/

section

variable {margin text : List Char}

/-- A text is found behind what is before it. -/
theorem behind?_append (front text : List Char) : behind? front (front ++ text) = some text := by
  rw [behind?, if_pos (List.isPrefixOf_iff_prefix.mpr (List.prefix_append front text)),
    List.drop_left]

/-- Nothing is found behind what a line does not begin with. -/
theorem behind?_eq_none {front line : List Char} (h : ¬ front <+: line) :
    behind? front line = none := by
  rw [behind?, if_neg fun hbegins => h (List.isPrefixOf_iff_prefix.mp hbegins)]

/-- Neither a margin nor a branch stands where another one does. -/
theorem not_prefix_append {first second : List Char} (hlength : first.length = second.length)
    (hne : first ≠ second) : ¬ margin ++ first <+: margin ++ second ++ text := by
  rw [List.append_assoc, List.prefix_append_right_inj]
  intro hbegins
  exact hne ((List.prefix_of_prefix_length_le hbegins (List.prefix_append second text)
    (Nat.le_of_eq hlength)).eq_of_length hlength)

/-- Whether the lines do not go on with a node that has the margin left of it. -/
def Leaves (margin : List Char) (lines : List (List Char)) : Prop :=
  ∀ line ∈ lines.head?, ¬ margin <+: line

/-- Lines that leave a margin leave a longer one. -/
theorem Leaves.append {lines : List (List Char)} (h : Leaves margin lines) (more : List Char) :
    Leaves (margin ++ more) lines :=
  fun line hline hbegins => h line hline ((List.prefix_append margin more).trans hbegins)

/-- No node is read off lines that leave the margin. -/
theorem readBelow_of_leaves {lines : List (List Char)} (h : Leaves margin lines) (label : String) :
    readBelow margin label lines = some (leaf label, lines) := by
  rw [readBelow]
  cases lines with
  | nil => rw [read?]; rfl
  | cons line lines =>
    have hnone (branch : List Char) : behind? (margin ++ branch) line = none :=
      behind?_eq_none fun hbegins => h line rfl ((List.prefix_append margin branch).trans hbegins)
    rw [read?, hnone, hnone]
    rfl

/-- A node is read that is the only one under another. -/
theorem readBelow_stem {line only : List Char} {lines rest : List (List Char)} {input : Drawing}
    (hmiddle : behind? (margin ++ middleBranch) line = none)
    (hlast : behind? (margin ++ lastBranch) line = some only)
    (hinput : readBelow (margin ++ lastMargin) (.ofList only) lines = some (input, rest))
    (label : String) : readBelow margin label (line :: lines) = some (stem label input, rest) := by
  obtain ⟨⟨_, ⟨_, hlength⟩⟩, hread, heq⟩ := Option.map_eq_some_iff.mp hinput
  obtain ⟨rfl, rfl⟩ := Prod.mk.inj heq
  rw [readBelow, read?, hmiddle, hlast]
  simp only [hread]
  rfl

/-- Two nodes are read that are under another one. -/
theorem readBelow_fork {line first between second : List Char} {left right : Drawing}
    {lines rest rest' : List (List Char)}
    (hmiddle : behind? (margin ++ middleBranch) line = some first)
    (hleft : readBelow (margin ++ middleMargin) (.ofList first) lines =
      some (left, between :: rest))
    (hlast : behind? (margin ++ lastBranch) between = some second)
    (hright : readBelow (margin ++ lastMargin) (.ofList second) rest = some (right, rest'))
    (label : String) :
    readBelow margin label (line :: lines) = some (fork label left right, rest') := by
  obtain ⟨⟨_, ⟨_, hlengthLeft⟩⟩, hreadLeft, heqLeft⟩ := Option.map_eq_some_iff.mp hleft
  obtain ⟨⟨_, ⟨_, hlength⟩⟩, hreadRight, heqRight⟩ := Option.map_eq_some_iff.mp hright
  obtain ⟨rfl, rfl⟩ := Prod.mk.inj heqLeft
  obtain ⟨rfl, rfl⟩ := Prod.mk.inj heqRight
  rw [readBelow, read?, hmiddle]
  simp only [hreadLeft, Option.bind_eq_bind, Option.bind_some, hlast, hreadRight]
  rfl

/-- The nodes under a node are read off their lines, up to where these leave the margin. -/
theorem readBelow_linesBelow (drawing : Drawing) {rest : List (List Char)}
    (hrest : Leaves margin rest) :
    readBelow margin drawing.label (drawing.linesBelow margin ++ rest) = some (drawing, rest) := by
  induction drawing generalizing margin rest with
  | leaf label => exact readBelow_of_leaves hrest label
  | stem label input ih =>
    have hinput := ih (hrest.append lastMargin)
    have hmiddle : behind? (margin ++ middleBranch) (margin ++ lastBranch ++ input.label.toList) =
        none := behind?_eq_none (not_prefix_append (by decide) (by decide))
    exact readBelow_stem hmiddle (behind?_append _ _) (by rwa [String.ofList_toList]) label
  | fork label left right ihLeft ihRight =>
    have hright := ihRight (hrest.append lastMargin)
    have hbetween : Leaves (margin ++ middleMargin)
        ((margin ++ lastBranch ++ right.label.toList) ::
          (right.linesBelow (margin ++ lastMargin) ++ rest)) := by
      rintro line hline
      obtain rfl := Option.some.inj hline
      exact not_prefix_append (by decide) (by decide)
    have hleft := ihLeft hbetween
    have hlines : (fork label left right).linesBelow margin ++ rest =
        (margin ++ middleBranch ++ left.label.toList) ::
          (left.linesBelow (margin ++ middleMargin) ++
            (margin ++ lastBranch ++ right.label.toList) ::
              (right.linesBelow (margin ++ lastMargin) ++ rest)) := by
      simp [linesBelow]
    rw [hlines]
    exact readBelow_fork (behind?_append _ _) (by rwa [String.ofList_toList]) (behind?_append _ _)
      (by rwa [String.ofList_toList]) label

end

/-! ## One line for each node -/

/-- One more piece makes the branches one level deeper. -/
theorem IsBranches.append {depth : Nat} {branches part : List Char} (h : IsBranches depth branches)
    (hpart : part ∈ [middleBranch, lastBranch, middleMargin, lastMargin]) :
    IsBranches (depth + 1) (branches ++ part) := by
  have hparts : ([middleBranch, lastBranch, middleMargin, lastMargin].all fun part =>
      part.length == 4 && part.all branchChars.contains) = true := by decide
  obtain ⟨hwidth, hchars⟩ : part.length = 4 ∧ ∀ c ∈ part, c ∈ branchChars := by
    simpa using List.all_eq_true.mp hparts part hpart
  refine ⟨?_, List.forall_mem_append.mpr ⟨h.chars, hchars⟩⟩
  rw [List.length_append, h.width, hwidth, Nat.mul_succ]

/-- The lines show the nodes in their order. -/
theorem forall₂_shows (drawing : Drawing) {margin branch : List Char} {depth : Nat}
    (hmargin : IsBranches depth margin) (hbranch : IsBranches depth branch) :
    List.Forall₂ Shows ((branch ++ drawing.label.toList) :: drawing.linesBelow margin)
      (drawing.nodes depth) := by
  induction drawing generalizing margin branch depth with
  | leaf label => exact .cons ⟨branch, hbranch, rfl⟩ .nil
  | stem label input ih =>
    refine .cons ⟨branch, hbranch, rfl⟩ (ih ?_ ?_) <;> exact hmargin.append (by simp)
  | fork label left right ihLeft ihRight =>
    refine .cons ⟨branch, hbranch, rfl⟩ (List.rel_append (ihLeft ?_ ?_) (ihRight ?_ ?_)) <;>
      exact hmargin.append (by simp)

/-- Lines that show nodes on one line each have no line breaks. -/
theorem not_mem_of_forall₂_shows {lines : List (List Char)} {nodes : List (Nat × String)}
    (h : List.Forall₂ Shows lines nodes) (hnodes : ∀ node ∈ nodes, '\n' ∉ node.2.toList) :
    ∀ line ∈ lines, '\n' ∉ line := by
  induction h with
  | nil => simp
  | cons hline _ ih =>
    obtain ⟨branches, hbranches, rfl⟩ := hline
    rw [List.forall_mem_cons] at hnodes ⊢
    refine ⟨fun hmem => ?_, ih hnodes.2⟩
    rcases List.mem_append.mp hmem with hbranch | hlabel
    · exact absurd (hbranches.chars _ hbranch) (by decide)
    · exact hnodes.1 hlabel

end Drawing

/-! ## Drawn plans -/

namespace Plan

/-- What is drawn of a plan. -/
def drawing : Plan → Drawing
  | relation table => .leaf (relation table).label
  | selection condition input => .stem (selection condition input).label input.drawing
  | projection columns input => .stem (projection columns input).label input.drawing
  | join left right condition => .fork (join left right condition).label left.drawing right.drawing
  | product left right => .fork (product left right).label left.drawing right.drawing

/-- The plans have the same operators, and the same is written at each. -/
inductive Resembles : Plan → Plan → Prop
  | relation (table : String) : Resembles (relation table) (relation table)
  | selection {condition other : Conjunction} {input otherInput : Plan}
      (hlabel : (selection condition input).label = (selection other otherInput).label)
      (hinput : Resembles input otherInput) :
      Resembles (selection condition input) (selection other otherInput)
  | projection {columns others : List String} {input otherInput : Plan}
      (hlabel : (projection columns input).label = (projection others otherInput).label)
      (hinput : Resembles input otherInput) :
      Resembles (projection columns input) (projection others otherInput)
  | join {left right otherLeft otherRight : Plan} {condition other : Conjunction}
      (hlabel : (join left right condition).label = (join otherLeft otherRight other).label)
      (hleft : Resembles left otherLeft) (hright : Resembles right otherRight) :
      Resembles (join left right condition) (join otherLeft otherRight other)
  | product {left right otherLeft otherRight : Plan} (hleft : Resembles left otherLeft)
      (hright : Resembles right otherRight) :
      Resembles (product left right) (product otherLeft otherRight)

/-- The sign of an operator is the first character of what is written at it. -/
def sign? : Plan → Option Char
  | relation _ => none
  | selection _ _ => some 'σ'
  | projection _ _ => some 'π'
  | join _ _ _ => some '⋈'
  | product _ _ => some '×'

/-- The label of a node begins with its sign, if it has one. -/
theorem head?_label {plan : Plan} {sign : Char} (h : plan.sign? = some sign) :
    plan.label.toList.head? = some sign := by
  cases plan <;> cases h <;> simp [label, selectionSign, projectionSign, joinSign, productSign]

/-- Different operators have different texts. -/
theorem sign?_eq_of_label_eq {plan other : Plan} {sign otherSign : Char}
    (hplan : plan.sign? = some sign) (hother : other.sign? = some otherSign)
    (h : plan.label = other.label) : sign = otherSign := by
  have hhead := head?_label hplan
  rw [h, head?_label hother] at hhead
  exact (Option.some.inj hhead).symm

/-- The drawing of a plan has the label of its first node on top. -/
theorem label_drawing (plan : Plan) : plan.drawing.label = plan.label := by
  cases plan <;> rfl

/-- The lines of a plan are those of what is drawn of it. -/
theorem map_toList_linesBelow (plan : Plan) (margin : String) :
    (plan.linesBelow margin).map String.toList = plan.drawing.linesBelow margin.toList := by
  induction plan generalizing margin with
  | relation table => rfl
  | selection condition input ih | projection columns input ih =>
    simp [linesBelow, drawing, Drawing.linesBelow, ih, label_drawing, Drawing.lastBranch,
      Drawing.lastMargin]
  | join left right condition ihLeft ihRight | product left right ihLeft ihRight =>
    simp [linesBelow, drawing, Drawing.linesBelow, ihLeft, ihRight, label_drawing,
      Drawing.lastBranch, Drawing.lastMargin, Drawing.middleBranch, Drawing.middleMargin]

/-- Plans of which the same is drawn resemble each other. -/
theorem resembles_of_drawing_eq {plan other : Plan} (h : plan.drawing = other.drawing) :
    plan.Resembles other := by
  induction plan generalizing other with
  | relation table =>
    cases other with
    | relation other =>
      obtain rfl : table = other := Drawing.leaf.inj h
      exact .relation table
    | _ => simp [drawing] at h
  | selection condition input ih =>
    cases other with
    | selection other otherInput =>
      obtain ⟨hlabel, hinput⟩ := Drawing.stem.inj h
      exact .selection hlabel (ih hinput)
    | projection others otherInput =>
      exact absurd (sign?_eq_of_label_eq rfl rfl (Drawing.stem.inj h).1) (by decide)
    | _ => simp [drawing] at h
  | projection columns input ih =>
    cases other with
    | projection others otherInput =>
      obtain ⟨hlabel, hinput⟩ := Drawing.stem.inj h
      exact .projection hlabel (ih hinput)
    | selection other otherInput =>
      exact absurd (sign?_eq_of_label_eq rfl rfl (Drawing.stem.inj h).1) (by decide)
    | _ => simp [drawing] at h
  | join left right condition ihLeft ihRight =>
    cases other with
    | join otherLeft otherRight other =>
      obtain ⟨hlabel, hleft, hright⟩ := Drawing.fork.inj h
      exact .join hlabel (ihLeft hleft) (ihRight hright)
    | product otherLeft otherRight =>
      exact absurd (sign?_eq_of_label_eq rfl rfl (Drawing.fork.inj h).1) (by decide)
    | _ => simp [drawing] at h
  | product left right ihLeft ihRight =>
    cases other with
    | product otherLeft otherRight =>
      obtain ⟨-, hleft, hright⟩ := Drawing.fork.inj h
      exact .product (ihLeft hleft) (ihRight hright)
    | join otherLeft otherRight other =>
      exact absurd (sign?_eq_of_label_eq rfl rfl (Drawing.fork.inj h).1) (by decide)
    | _ => simp [drawing] at h

/-- A text of lines without line breaks inside is split into them. -/
theorem splitAt_foldr_lines {lines : List String} (h : ∀ line ∈ lines, '\n' ∉ line.toList) :
    Text.splitAt '\n' (lines.foldr (fun line rest => line ++ "\n" ++ rest) "").toList =
      lines.map String.toList ++ [[]] := by
  induction lines with
  | nil => rfl
  | cons line lines ih =>
    rw [List.forall_mem_cons] at h
    have htext : ((line :: lines).foldr (fun line rest => line ++ "\n" ++ rest) "").toList =
        line.toList ++ '\n' :: (lines.foldr (fun line rest => line ++ "\n" ++ rest) "").toList := by
      simp
    rw [htext, Text.splitAt_append_cons h.1, ih h.2]
    rfl

variable {plan : Plan}

/-- The lines of a plan are its label and those below it in the drawing. -/
theorem map_toList_treeLines (plan : Plan) :
    plan.treeLines.map String.toList = plan.label.toList :: plan.drawing.linesBelow [] := by
  rw [treeLines, List.map_cons, map_toList_linesBelow]
  rfl

/-- The lines of a plan show its nodes. -/
theorem forall₂_shows_treeLines (plan : Plan) :
    List.Forall₂ Drawing.Shows (plan.treeLines.map String.toList) (plan.drawing.nodes 0) := by
  have hroot : Drawing.IsBranches 0 [] := ⟨rfl, by simp⟩
  rw [map_toList_treeLines, ← label_drawing]
  exact plan.drawing.forall₂_shows hroot hroot

/-- The lines of a drawn plan are found between the line breaks if no label has one. -/
theorem splitAt_tree (h : plan.drawing.IsSingleLine) :
    Text.splitAt '\n' plan.tree.toList = plan.treeLines.map String.toList ++ [[]] := by
  have hlines := Drawing.not_mem_of_forall₂_shows plan.forall₂_shows_treeLines h
  rw [List.forall_mem_map] at hlines
  exact splitAt_foldr_lines hlines

/-- A drawn plan is read. -/
theorem ofText?_tree (h : plan.drawing.IsSingleLine) :
    Drawing.ofText? plan.tree = some plan.drawing := by
  have hleaves : Drawing.Leaves [] [] := by simp [Drawing.Leaves]
  have hread := Drawing.readBelow_linesBelow plan.drawing hleaves
  rw [Drawing.ofText?, splitAt_tree h, List.dropLast_concat, map_toList_treeLines]
  rw [label_drawing, List.append_nil] at hread
  simp only [String.ofList_toList, hread]

end Plan

/-- A drawn plan determines the plan. Its text has one line for each node, from the root on and from
left to right, in which what is written at the node follows the branches, and a line break behind
each. The drawing is read back from the text alone, so queries with the same drawn plan have plans
that resemble each other. -/
theorem Query.drawing_of_tree {query : Query} (h : (Plan.ofQuery query).drawing.IsSingleLine) :
    (∃ lines, Text.splitAt '\n' query.tree.toList = lines ++ [[]] ∧
      List.Forall₂ Drawing.Shows lines ((Plan.ofQuery query).drawing.nodes 0)) ∧
    Drawing.ofText? query.tree = some (Plan.ofQuery query).drawing ∧
    ∀ other : Query, (Plan.ofQuery other).drawing.IsSingleLine → query.tree = other.tree →
      (Plan.ofQuery query).Resembles (Plan.ofQuery other) := by
  refine ⟨⟨_, Plan.splitAt_tree h, Plan.forall₂_shows_treeLines _⟩, Plan.ofText?_tree h, ?_⟩
  intro other hother htree
  have hread : some (Plan.ofQuery query).drawing = some (Plan.ofQuery other).drawing :=
    calc
      _ = Drawing.ofText? query.tree := (Plan.ofText?_tree h).symm
      _ = Drawing.ofText? other.tree := by rw [htree]
      _ = _ := Plan.ofText?_tree hother
  exact Plan.resembles_of_drawing_eq (Option.some.inj hread)

/-- A query for one column of two tables that are joined. -/
def Query.forColumn (column : ColumnRef) : Query :=
  ofTable (.columns [column]) "A"
    [.ofTable "B" [.compare ⟨.column (.qualified "A" "ID"), .eq, .column (.qualified "B" "A_ID")⟩]]
    [.compare ⟨.column (.qualified "B" "Y"), .greater, .literal (.number "10")⟩]

/-- A column of a table and a column whose name has a dot are drawn in the same way. -/
theorem Query.drawing_of_tree_forColumn :
    (forColumn (.qualified "A" "X")).tree =
        "π A.X\n└── σ B.Y > 10\n    └── ⋈ A.ID = B.A_ID\n        ├── A\n        └── B\n" ∧
      Drawing.ofText? (forColumn (.qualified "A" "X")).tree =
        some (.stem "π A.X" (.stem "σ B.Y > 10"
          (.fork "⋈ A.ID = B.A_ID" (.leaf "A") (.leaf "B")))) ∧
      (Plan.ofQuery (forColumn (.qualified "A" "X"))).Resembles
        (Plan.ofQuery (forColumn (.bare "A.X"))) := by
  have hline : (Plan.ofQuery (forColumn (.qualified "A" "X"))).drawing.IsSingleLine := by
    decide +kernel
  obtain ⟨-, hdrawing, hother⟩ := drawing_of_tree hline
  refine ⟨by decide +kernel, hdrawing.trans (by decide +kernel), ?_⟩
  exact hother (forColumn (.bare "A.X")) (by decide +kernel) (by decide +kernel)

end RelPlan
