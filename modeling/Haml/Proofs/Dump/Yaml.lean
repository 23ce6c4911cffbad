import Haml.Dump.Yaml
import Haml.Proofs.Outline.Relayout
import Haml.Proofs.Text.Scalar

/-! # Reading YAML dumps

A YAML dump has three lines for each node, in document order: its text behind a dash that stands in
the column of the key above, its number, and the key of its children. The margin of the second line
tells how deep the node is, so the lines of a dump tell its rows, and these tell everything but the
physical positions of the lines. Every text stays on its line.
-/

namespace Haml

namespace Yaml

/-- The lines of a dump that show a row. Its text is on one line, and is read back from it. -/
structure Shows (row : Row) (lines : List Text) : Prop where
  layout : ∃ heading ∈ ["children:".toList, "children: []".toList],
    lines = [
      lead row.depth ++ ("text: ".toList ++ Scalar.write (indent (row.depth + 1)) row.text),
      margin row.depth ++ ("line_number: ".toList ++ Text.ofNat row.number),
      margin row.depth ++ heading]
  whole : ∀ c ∈ Scalar.lineBreaks, c ∉ Scalar.write (indent (row.depth + 1)) row.text
  read : Scalar.read? (Scalar.write (indent (row.depth + 1)) row.text) = some row.text

private theorem feed_not_mem_margin (depth : Nat) : '\n' ∉ margin depth := by
  simp [margin, List.mem_replicate]

private theorem feed_not_mem_lead (depth : Nat) : '\n' ∉ lead depth := by
  cases depth with
  | zero => exact List.not_mem_nil
  | succ depth =>
    rw [lead]
    exact List.not_mem_append (feed_not_mem_margin depth) (by decide)

/-- The margin of a line with a number ends where its key starts. -/
theorem takeWhile_margin (depth : Nat) (digits : Text) :
    (margin depth ++ ("line_number: ".toList ++ digits)).takeWhile (· == ' ') = margin depth := by
  rw [margin, List.takeWhile_append_of_pos (by simp)]
  exact List.append_nil _

namespace Shows

variable {row other : Row} {lines : List Text}

theorem length_eq (shows : Shows row lines) : lines.length = 3 := by
  obtain ⟨heading, _, rfl⟩ := shows.layout
  rfl

theorem unbroken (shows : Shows row lines) : ∀ line ∈ lines, '\n' ∉ line := by
  obtain ⟨heading, known, rfl⟩ := shows.layout
  have scalar := shows.whole '\n' (by decide)
  have number : '\n' ∉ Text.ofNat row.number := Text.not_mem_ofNat (by decide) row.number
  have key : '\n' ∉ heading := by
    simp only [List.mem_cons, List.not_mem_nil, or_false] at known
    rcases known with rfl | rfl <;> decide
  simp only [List.forall_mem_cons, List.not_mem_nil, IsEmpty.forall_iff, implies_true, and_true]
  exact ⟨List.not_mem_append (feed_not_mem_lead _) (List.not_mem_append (by decide) scalar),
    List.not_mem_append (feed_not_mem_margin _) (List.not_mem_append (by decide) number),
    List.not_mem_append (feed_not_mem_margin _) key⟩

/-- The same lines show the same row, but for its physical position. -/
theorem unplaced_eq (shows : Shows row lines) (shown : Shows other lines) :
    row.unplaced = other.unplaced := by
  obtain ⟨heading, _, layout⟩ := shows.layout
  obtain ⟨otherHeading, _, otherLayout⟩ := shown.layout
  rw [layout, List.cons.injEq, List.cons.injEq] at otherLayout
  obtain ⟨texts, numbers, _⟩ := otherLayout
  have depth : row.depth = other.depth := by
    have margins := congrArg (List.takeWhile (· == ' ')) numbers
    rw [takeWhile_margin, takeWhile_margin] at margins
    have widths := congrArg List.length margins
    simp only [margin, indent, List.length_replicate] at widths
    omega
  rw [depth] at texts numbers
  have number : row.number = other.number := by
    have digits := List.append_cancel_left (List.append_cancel_left numbers)
    have same := congrArg (Decimal.natural? 10) digits
    rw [Decimal.natural?_ofNat, Decimal.natural?_ofNat] at same
    exact Option.some.inj same
  have text : row.text = other.text := by
    have scalars := List.append_cancel_left (List.append_cancel_left texts)
    have same := congrArg Scalar.read? scalars
    rw [← depth, shows.read, depth, shown.read] at same
    exact Option.some.inj same
  simp only [Row.unplaced, depth, number, text]

end Shows

end Yaml

section Blocks

open Yaml

/-- The lines of a node itself, where so many others enclose it. -/
def Yaml.block (depth : Nat) (node : Node) : List Text :=
  [lead depth ++ ("text: ".toList ++ Scalar.write (indent (depth + 1)) node.text),
    margin depth ++ ("line_number: ".toList ++ Text.ofNat node.number),
    margin depth ++ (if node.children.isEmpty then "children: []" else "children:").toList]

theorem Yaml.shows_block {node : Node} (flat : Scalar.IsFlat node.text) (depth : Nat) :
    Shows ⟨depth, node.number, node.sourceLine, node.text⟩ (block depth node) where
  layout := ⟨_, by split <;> simp, rfl⟩
  whole _ ends := Scalar.lineBreak_not_mem_write flat ends _
  read := Scalar.read?_write _ node.text

theorem Node.yamlLines_eq (depth : Nat) (node : Node) :
    node.yamlLines depth = block depth node ++ Outline.yamlLines (depth + 1) node.children := by
  rcases node with ⟨text, number, sourceLine, children⟩
  rfl

theorem Outline.yamlLines_cons (depth : Nat) (node : Node) (later : Outline) :
    Outline.yamlLines depth (node :: later) =
      block depth node ++
        (Outline.yamlLines (depth + 1) node.children ++ Outline.yamlLines depth later) := by
  rw [Outline.yamlLines, Node.yamlLines_eq, List.append_assoc]

/-- The lines of the entries of a list show the rows, three lines each. -/
theorem Outline.exists_blocks {outline : Outline}
    (flat : ∀ node ∈ outline.descendants, Scalar.IsFlat node.text) (depth : Nat) :
    ∃ blocks : List (List Text), Outline.yamlLines depth outline = blocks.flatten ∧
      List.Forall₂ Shows (Outline.rowsAt depth outline) blocks := by
  induction outline using Outline.induction generalizing depth with
  | nil => exact ⟨[], by simp [Outline.yamlLines], by simp⟩
  | cons text number sourceLine children later nested beside =>
    rw [Outline.descendants_cons] at flat
    obtain ⟨own, flat⟩ := List.forall_mem_cons.mp flat
    obtain ⟨below, after⟩ := List.forall_mem_append.mp flat
    obtain ⟨inner, innerLines, innerShows⟩ := nested below (depth + 1)
    obtain ⟨outer, outerLines, outerShows⟩ := beside after depth
    refine ⟨block depth ⟨text, number, sourceLine, children⟩ :: (inner ++ outer), ?_, ?_⟩
    · rw [Outline.yamlLines_cons, innerLines, outerLines, List.flatten_cons, List.flatten_append]
    · rw [Outline.rowsAt_cons]
      exact .cons (shows_block own depth) (List.rel_append innerShows outerShows)

theorem Node.exists_blocks {node : Node}
    (flat : ∀ inner ∈ node.preorder, Scalar.IsFlat inner.text) :
    ∃ blocks : List (List Text),
      node.yamlLines 0 = blocks.flatten ∧ List.Forall₂ Shows (node.rowsAt 0) blocks := by
  rcases node with ⟨text, number, sourceLine, children⟩
  rw [Node.preorder] at flat
  obtain ⟨own, below⟩ := List.forall_mem_cons.mp flat
  obtain ⟨inner, innerLines, innerShows⟩ := Outline.exists_blocks below 1
  refine ⟨block 0 ⟨text, number, sourceLine, children⟩ :: inner, ?_, ?_⟩
  · rw [Node.yamlLines_eq, innerLines, List.flatten_cons]
  · rw [Node.rowsAt]
    exact .cons (shows_block own 0) innerShows

theorem Yaml.flatten_ne_nil {row : Row} {block : List Text} (shows : Shows row block)
    (later : List (List Text)) : (block :: later).flatten ≠ [] := by
  intro empty
  rw [List.flatten_cons, List.append_eq_nil_iff] at empty
  have length := shows.length_eq
  simp [empty.1] at length

private theorem Yaml.unbroken_flatten {rows : List Row} {blocks : List (List Text)}
    (shows : List.Forall₂ Shows rows blocks) : ∀ line ∈ blocks.flatten, '\n' ∉ line := by
  induction shows with
  | nil => simp
  | cons head tail ih =>
    rw [List.flatten_cons]
    exact List.forall_mem_append.mpr ⟨head.unbroken, ih⟩

/-- Lines that show two lists of rows show the same rows, but for physical positions: every row has
three lines. -/
theorem Yaml.map_unplaced_eq {rows others : List Row} {blocks otherBlocks : List (List Text)}
    (shows : List.Forall₂ Shows rows blocks) (shown : List.Forall₂ Shows others otherBlocks)
    (same : blocks.flatten = otherBlocks.flatten) :
    rows.map Row.unplaced = others.map Row.unplaced := by
  induction shows generalizing others otherBlocks with
  | nil =>
    cases shown with
    | nil => rfl
    | cons first later => exact absurd same.symm (flatten_ne_nil first _)
  | cons head tail ih =>
    cases shown with
    | nil => exact absurd same (flatten_ne_nil head _)
    | cons first later =>
      rw [List.flatten_cons, List.flatten_cons] at same
      obtain ⟨rfl, rest⟩ := List.append_inj same (head.length_eq.trans first.length_eq.symm)
      rw [List.map_cons, List.map_cons, head.unplaced_eq first, ih later rest]

end Blocks

section Positions

theorem Outline.isEmpty_unplaced (outline : Outline) :
    outline.unplaced.isEmpty = outline.isEmpty := by
  cases outline <;> simp only [Outline.unplaced, List.isEmpty_nil, List.isEmpty_cons]

/-- Physical positions are no part of a dump. -/
theorem Outline.yamlLines_unplaced (depth : Nat) (outline : Outline) :
    Outline.yamlLines depth outline.unplaced = Outline.yamlLines depth outline := by
  induction outline using Outline.induction generalizing depth with
  | nil => simp only [Outline.unplaced]
  | cons text number sourceLine children later nested beside =>
    simp only [Outline.unplaced, Node.unplaced, Outline.yamlLines, Node.yamlLines, nested, beside,
      Outline.isEmpty_unplaced]

theorem Node.yamlLines_unplaced (depth : Nat) (node : Node) :
    node.unplaced.yamlLines depth = node.yamlLines depth := by
  rcases node with ⟨text, number, sourceLine, children⟩
  simp only [Node.unplaced, Node.yamlLines, Outline.yamlLines_unplaced, Outline.isEmpty_unplaced]

theorem Node.rowsAt_unplaced (depth : Nat) (node : Node) :
    node.unplaced.rowsAt depth = (node.rowsAt depth).map Row.unplaced := by
  rcases node with ⟨text, number, sourceLine, children⟩
  simp only [Node.unplaced, Node.rowsAt, Outline.rowsAt_unplaced, List.map_cons, Row.unplaced]

theorem Node.rowsAt_injective (depth : Nat) {node other : Node}
    (same : node.rowsAt depth = other.rowsAt depth) : node = other := by
  have alone (node : Node) : Outline.rowsAt depth [node] = node.rowsAt depth := by
    simp only [Outline.rowsAt, List.append_nil]
  have lists := Outline.rowsAt_injective depth ((alone node).trans (same.trans (alone other).symm))
  exact List.singleton_inj.mp lists

end Positions

/-- The YAML dump of a node. -/
def Node.yamlDump (node : Node) : Text :=
  (node.yamlLines 0).flatMap (· ++ ['\n'])

section Dump

variable {node other : Node} (flat : ∀ inner ∈ node.preorder, Scalar.IsFlat inner.text)
include flat

/-- The lines of a dump show the rows of its node, three lines each. -/
theorem Node.exists_blocks_splitOn :
    ∃ blocks : List (List Text), node.yamlDump.splitOn '\n' = blocks.flatten ++ [[]] ∧
      List.Forall₂ Yaml.Shows (node.rowsAt 0) blocks := by
  obtain ⟨blocks, lines, shows⟩ := Node.exists_blocks flat
  refine ⟨blocks, ?_, shows⟩
  rw [Node.yamlDump, lines]
  exact Text.splitOn_flatMap_feed (Yaml.unbroken_flatten shows)

theorem Node.yamlDump_eq_iff (otherFlat : ∀ inner ∈ other.preorder, Scalar.IsFlat inner.text) :
    node.yamlDump = other.yamlDump ↔ node.unplaced = other.unplaced := by
  constructor
  · intro same
    obtain ⟨blocks, lines, shows⟩ := Node.exists_blocks_splitOn flat
    obtain ⟨otherBlocks, otherLines, shown⟩ := Node.exists_blocks_splitOn otherFlat
    rw [same, otherLines] at lines
    have rows := Yaml.map_unplaced_eq shows shown (List.append_cancel_right lines).symm
    apply Node.rowsAt_injective 0
    rw [Node.rowsAt_unplaced, Node.rowsAt_unplaced, rows]
  · intro same
    rw [Node.yamlDump, Node.yamlDump, ← node.yamlLines_unplaced 0, same, other.yamlLines_unplaced 0]

end Dump

/-- The YAML dumps of two nodes, or of two outlines under their roots, are the same exactly if they
differ in physical positions at most. A dump has three lines for each row, in document order, with
the dash of a nested node in the column of the keys above; its text is on one line, from which
undoing the style of the scalar gives it back. -/
theorem Outline.yamlDump_determines_unplaced :
    (∀ node other : Node, (∀ inner ∈ node.preorder, Scalar.IsFlat inner.text) →
      (∀ inner ∈ other.preorder, Scalar.IsFlat inner.text) →
        (node.yamlDump = other.yamlDump ↔ node.unplaced = other.unplaced)) ∧
    (∀ outline other : Outline, (∀ inner ∈ outline.descendants, Scalar.IsFlat inner.text) →
      (∀ inner ∈ other.descendants, Scalar.IsFlat inner.text) →
        (outline.yamlDump = other.yamlDump ↔ outline.unplaced = other.unplaced)) ∧
    ∀ node : Node, (∀ inner ∈ node.preorder, Scalar.IsFlat inner.text) →
      ∃ blocks : List (List Text), node.yamlDump.splitOn '\n' = blocks.flatten ++ [[]] ∧
        List.Forall₂ Yaml.Shows (node.rowsAt 0) blocks := by
  refine ⟨fun node other => Node.yamlDump_eq_iff, fun outline other flat otherFlat => ?_,
    fun node => Node.exists_blocks_splitOn⟩
  have root {outline : Outline} (flat : ∀ inner ∈ outline.descendants, Scalar.IsFlat inner.text) :
      ∀ inner ∈ (Node.root outline).preorder, Scalar.IsFlat inner.text := by
    rw [Node.root, Node.preorder]
    exact List.forall_mem_cons.mpr ⟨(by decide : Scalar.IsFlat []), flat⟩
  refine (Node.yamlDump_eq_iff (root flat) (root otherFlat)).trans ?_
  simp [Node.root, Node.unplaced]

/-- Texts that look like scalars of another style than the one they are written in. -/
theorem Outline.yamlDump_determines_unplaced_of_quotes :
    let outline : Outline := [⟨"'it''s'".toList, 1, 1, [⟨"\"a\tb".toList, 2, 2, []⟩]⟩]
    let other : Outline := [⟨"'it''s'".toList, 1, 4, [⟨"\"a\tb".toList, 2, 9, []⟩]⟩]
    let unquoted : Outline := [⟨"it's".toList, 1, 1, [⟨"\"a\\tb".toList, 2, 2, []⟩]⟩]
    outline.yamlDump = other.yamlDump ∧ outline.yamlDump ≠ unquoted.yamlDump := by
  intro outline other unquoted
  have flat : ∀ inner ∈ outline.descendants, Scalar.IsFlat inner.text := by decide
  have otherFlat : ∀ inner ∈ other.descendants, Scalar.IsFlat inner.text := by decide
  have unquotedFlat : ∀ inner ∈ unquoted.descendants, Scalar.IsFlat inner.text := by decide
  obtain ⟨_, outlines, _⟩ := Outline.yamlDump_determines_unplaced
  refine ⟨(outlines outline other flat otherFlat).mpr rfl, fun same => ?_⟩
  have unplaced := (outlines outline unquoted flat unquotedFlat).mp same
  simp [outline, unquoted, Outline.unplaced, Node.unplaced] at unplaced

end Haml
