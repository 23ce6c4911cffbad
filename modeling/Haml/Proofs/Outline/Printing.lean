import Haml.Proofs.Outline.Nesting

/-! # Writing an outline down

An outline is written in document order, one line a node, with the same indentation for every level.
Reading what is written gives the outline back: the first indented line is always nested one level
deep, so the unit that is guessed from it is the width of the indentation, and the depths of the
lines are those of the nodes. The numbers of the nodes are not written, so every node is given its
position instead.
-/

namespace Haml

open Indentation

/-- A text that can stand on a line of its own behind any indentation. -/
structure Text.IsPrintable (text : Text) : Prop where
  visible : text.allBlank = false
  unbroken : '\n' ∉ text
  flush : ∀ c ∈ text.head?, isIndent c = false
  ending : text.getLast? ≠ some '\r'

instance (text : Text) : Decidable text.IsPrintable :=
  decidable_of_iff (text.allBlank = false ∧ '\n' ∉ text ∧ text.head?.all (!isIndent ·) = true ∧
      text.getLast? ≠ some '\r') <| by
    simp only [Option.all_eq_true, Bool.not_eq_true']
    exact ⟨fun ⟨visible, unbroken, flush, ending⟩ => ⟨visible, unbroken, flush, ending⟩,
      fun fine => ⟨fine.visible, fine.unbroken, fine.flush, fine.ending⟩⟩

theorem Text.IsPrintable.isLine {text : Text} (printable : text.IsPrintable) : text.IsLine where
  nonempty := by
    rintro rfl
    exact absurd printable.visible (by decide)
  unbroken := printable.unbroken
  ending := printable.ending

/-- The line of a row, indented once for each line that encloses it. -/
def Row.line (indent : Text) (row : Row) : Text :=
  (List.replicate row.depth indent).flatten ++ row.text

/-- What scanning makes of the line of a row. -/
def Row.entry (row : Row) : Outline.Entry :=
  ⟨row.depth, row.sourceLine, row.text⟩

mutual

/-- A node after `count` other lines, with its position for its numbers. -/
def Node.renumbered (count : Nat) (node : Node) : Node :=
  match node with
  | ⟨text, _, _, children⟩ =>
    ⟨text, count + 1, count + 1, Outline.renumbered (count + 1) children⟩

/-- An outline after `count` other lines, with the position of each node for its numbers. -/
def Outline.renumbered (count : Nat) : Outline → Outline
  | [] => []
  | node :: later => node.renumbered count :: Outline.renumbered (count + node.size) later

end

namespace Outline

/-- An outline in document order, one line a node. -/
def print (indent : Text) (outline : Outline) : Text :=
  outline.rows.flatMap fun row => row.line indent ++ ['\n']

/-- Renumbering changes nothing but the two numbers of each row. -/
theorem rowsAt_renumbered (depth count : Nat) (outline : Outline) :
    rowsAt depth (outline.renumbered count) =
      ((rowsAt depth outline).zipIdx (count + 1)).map fun (row, position) =>
        ⟨row.depth, position, position, row.text⟩ := by
  induction outline using induction generalizing depth count with
  | nil => simp [renumbered]
  | cons text number sourceLine children later nested beside =>
    have shift : count + (1 + size children) + 1 = count + 1 + 1 + size children := by omega
    simp only [renumbered, Node.renumbered, Node.size, rowsAt_cons, nested, beside, shift,
      List.zipIdx_cons, List.zipIdx_append, length_rowsAt, List.map_cons, List.map_append]

section Nesting

/-- The rows of an outline never skip a level, and neither do rows that follow them. -/
theorem orphan?_rowsAt {depth allowed : Nat} (outline : Outline) {rest : List Entry}
    (reached : depth ≤ allowed) (follows : ∀ deeper, depth ≤ deeper → orphan? deeper rest = none) :
    orphan? allowed ((rowsAt depth outline).map Row.entry ++ rest) = none := by
  induction outline using induction generalizing depth allowed rest with
  | nil => simpa using follows allowed reached
  | cons text number sourceLine children later nested beside =>
    simp only [rowsAt_cons, List.map_cons, List.map_append, List.cons_append, List.append_assoc,
      orphan?, Row.entry, reached, ↓reduceIte]
    -- What follows the children is the rest of the outline and then `rest`, at this depth or less,
    -- so it may follow a row of any depth from here on.
    apply nested (Nat.le_refl _)
    intro deeper below
    exact beside (by omega) follows

/-- Numbering entries whose positions count up from where the numbers do gives both alike. -/
theorem numbered_zipIdx (count : Nat) (rows : List Row) :
    numbered count ((rows.zipIdx (count + 1)).map fun (row, position) =>
        ⟨row.depth, position, row.text⟩) =
      (rows.zipIdx (count + 1)).map fun (row, position) =>
        ⟨row.depth, position, position, row.text⟩ := by
  induction rows generalizing count with
  | nil => rfl
  | cons row later ih => simp only [List.zipIdx_cons, List.map_cons, numbered, ih (count + 1)]

/-- The first row that is nested at all is nested one level deep. -/
theorem depth_of_first_nested {outline : Outline} {row : Row}
    (first : outline.rows.find? (0 < ·.depth) = some row) : row.depth = 1 := by
  rw [rows] at first
  induction outline with
  | nil => simp at first
  | cons node later ih =>
    rw [rowsAt_cons, List.find?_cons_of_neg (by simp), List.find?_append] at first
    cases held : node.children with
    | nil =>
      rw [held] at first
      exact ih (by simpa using first)
    | cons child others =>
      rw [held, rowsAt_cons, List.find?_cons_of_pos (by simp), Option.some_or] at first
      exact congrArg Row.depth (Option.some.inj first).symm

/-- Some row is nested exactly if some node has a child. -/
theorem exists_nested_row_iff (outline : Outline) :
    (∃ row ∈ outline.rows, 0 < row.depth) ↔ ∃ node ∈ outline.descendants, node.children ≠ [] := by
  rw [rows]
  induction outline with
  | nil => simp
  | cons node later ih =>
    simp only [rowsAt_cons, descendants_cons, List.exists_mem_cons_iff, List.mem_append,
      or_and_right, exists_or, ih, Nat.lt_irrefl, false_or]
    cases held : node.children with
    | nil => simp
    | cons child others => simp [rowsAt_cons]

end Nesting

section Lines

variable {indent : Text} {outline : Outline} (blank : ∀ c ∈ indent, isIndent c = true)
  (printable : ∀ node ∈ outline.descendants, node.text.IsPrintable)

private theorem printable_of_mem_rows
    (printable : ∀ node ∈ outline.descendants, node.text.IsPrintable) {row : Row}
    (member : row ∈ outline.rows) : row.text.IsPrintable := by
  obtain ⟨node, present, text⟩ := exists_node_of_mem_rows member
  exact text ▸ printable node present

include blank

private theorem isIndent_of_mem_replicate (depth : Nat) :
    ∀ c ∈ (List.replicate depth indent).flatten, isIndent c = true := by
  intro c member
  obtain ⟨level, repeated, within⟩ := List.mem_flatten.mp member
  exact blank c (List.eq_of_mem_replicate repeated ▸ within)

/-- The line of a row is as wide as its depth says, and has the text of the row behind that. -/
theorem width_line {row : Row} (printable : row.text.IsPrintable) :
    width (row.line indent) = row.depth * indent.length ∧ content (row.line indent) = row.text := by
  obtain ⟨wide, rest⟩ :=
    indented_append (isIndent_of_mem_replicate blank row.depth) printable.flush
  refine ⟨wide.trans ?_, rest⟩
  rw [List.length_flatten, List.map_replicate, List.sum_replicate_nat]

include printable

theorem lines_print : (outline.print indent).lines = outline.rows.map (Row.line indent) := by
  have whole : ∀ row ∈ outline.rows, (row.line indent).IsLine := by
    intro row member
    exact isLine_indented (isIndent_of_mem_replicate blank row.depth)
      (printable_of_mem_rows printable member).isLine
  rw [print]
  generalize outline.rows = rows at whole ⊢
  induction rows with
  | nil => simp [Text.lines]
  | cons row later ih =>
    obtain ⟨first, rest⟩ := List.forall_mem_cons.mp whole
    rw [List.flatMap_cons, List.append_assoc, List.singleton_append,
      Text.lines_append_feed first.unbroken first.ending, ih rest, List.map_cons]

omit blank in
private theorem allBlank_line {row : Row} (member : row ∈ outline.rows) :
    (row.line indent).allBlank = false :=
  allBlank_indented _ (printable_of_mem_rows printable member).visible

theorem visibleLines_print :
    visibleLines (outline.print indent) =
      (outline.rows.zipIdx 1).map fun (row, position) => (row.line indent, position) := by
  rw [visibleLines, lines_print blank printable, List.zipIdx_map]
  refine List.filter_eq_self.mpr ?_
  intro line member
  obtain ⟨⟨row, position⟩, counted, rfl⟩ := List.mem_map.mp member
  have visible : (row.line indent).allBlank = false :=
    allBlank_line printable (List.fst_mem_of_mem_zipIdx counted)
  simpa using visible

/-- The unit is guessed from the first row that is nested. -/
theorem unit_print (nonempty : indent ≠ []) :
    unit (outline.print indent) =
      ((outline.rows.find? (0 < ·.depth)).map (·.depth * indent.length)).getD 1 := by
  have widths : outline.rows.map (width ∘ Row.line indent) =
      outline.rows.map (·.depth * indent.length) := by
    refine List.map_congr_left fun row member => ?_
    exact (width_line blank (printable_of_mem_rows printable member)).1
  have visible : ∀ line ∈ outline.rows.map (Row.line indent), (!line.allBlank) = true := by
    intro line member
    obtain ⟨row, present, rfl⟩ := List.mem_map.mp member
    rw [allBlank_line printable present, Bool.not_false]
  have positive : (fun wide => decide (0 < wide)) ∘ (fun row : Row => row.depth * indent.length) =
      fun row => decide (0 < row.depth) := by
    funext row
    simp [List.length_pos_iff.mpr nonempty]
  rw [unit, lines_print blank printable, List.filter_eq_self.mpr visible, List.map_map, widths,
    List.find?_map, positive]

private theorem unit_print_of_nested (nonempty : indent ≠ [])
    (nested : ∃ node ∈ outline.descendants, node.children ≠ []) :
    unit (outline.print indent) = indent.length := by
  obtain ⟨row, member, deep⟩ := (exists_nested_row_iff outline).mpr nested
  rw [unit_print blank printable nonempty]
  cases found : outline.rows.find? (0 < ·.depth) with
  | none => exact absurd (decide_eq_true deep) (List.find?_eq_none.mp found row member)
  | some first => simp [depth_of_first_nested found]

private theorem unit_print_of_flat (nonempty : indent ≠ [])
    (flat : ∀ node ∈ outline.descendants, node.children = []) :
    unit (outline.print indent) = 1 := by
  have outermost : outline.rows.find? (0 < ·.depth) = none := by
    rw [List.find?_eq_none]
    intro row member deep
    obtain ⟨node, present, children⟩ :=
      (exists_nested_row_iff outline).mp ⟨row, member, of_decide_eq_true deep⟩
    exact children (flat node present)
  rw [unit_print blank printable nonempty, outermost]
  rfl

/-- In units, the line of a row is as wide as the row is deep. Where no node has a child, the unit
need not be the width of the indentation, but no line is indented either. -/
theorem depth_mul_unit_print (nonempty : indent ≠ []) {row : Row} (member : row ∈ outline.rows) :
    row.depth * indent.length = row.depth * unit (outline.print indent) := by
  by_cases nested : ∃ node ∈ outline.descendants, node.children ≠ []
  · rw [unit_print_of_nested blank printable nonempty nested]
  · have outermost : row.depth = 0 := by
      by_contra deep
      exact nested ((exists_nested_row_iff outline).mp ⟨row, member, Nat.pos_of_ne_zero deep⟩)
    rw [outermost, Nat.zero_mul, Nat.zero_mul]

/-- Scanning what is written gives the depth, the position and the text of every row. -/
theorem entries_print (nonempty : indent ≠ []) :
    (visibleLines (outline.print indent)).map (entry (unit (outline.print indent))) =
      (outline.rows.zipIdx 1).map fun (row, position) => ⟨row.depth, position, row.text⟩ := by
  rw [visibleLines_print blank printable, List.map_map]
  refine List.map_congr_left ?_
  rintro ⟨row, position⟩ counted
  have member := List.fst_mem_of_mem_zipIdx counted
  obtain ⟨wide, text⟩ := width_line blank (printable_of_mem_rows printable member)
  have depth : width (row.line indent) / unit (outline.print indent) = row.depth := by
    rw [wide, depth_mul_unit_print blank printable nonempty member,
      Nat.mul_div_cancel _ (unit_pos _)]
  simp only [Function.comp_apply, entry, depth, text]

end Lines

/-- Every outline can be written down and read back. Whatever spaces and tabs are chosen for one
level, reading gives the same outline, with the position of every node in document order for both
of its numbers. The unit is the width of the indentation, or one where nothing is nested. -/
theorem parse_print_eq_renumbered {indent : Text} {outline : Outline} (nonempty : indent ≠ [])
    (blank : ∀ c ∈ indent, isIndent c = true)
    (printable : ∀ node ∈ outline.descendants, node.text.IsPrintable) :
    parse (outline.print indent) = .ok (outline.renumbered 0) ∧
      ((outline.renumbered 0).rows = (outline.rows.zipIdx 1).map fun (row, position) =>
        ⟨row.depth, position, position, row.text⟩) ∧
      ((∃ node ∈ outline.descendants, node.children ≠ []) →
        unit (outline.print indent) = indent.length) ∧
      ((∀ node ∈ outline.descendants, node.children = []) → unit (outline.print indent) = 1) := by
  have rows := rowsAt_renumbered 0 0 outline
  refine ⟨?_, rows, unit_print_of_nested blank printable nonempty,
    unit_print_of_flat blank printable nonempty⟩
  apply parse_of_rows
  · rw [visibleLines_print blank printable]
    intro line member
    obtain ⟨⟨row, position⟩, counted, rfl⟩ := List.mem_map.mp member
    have present := List.fst_mem_of_mem_zipIdx counted
    rw [(width_line blank (printable_of_mem_rows printable present)).1,
      depth_mul_unit_print blank printable nonempty present]
    exact Nat.dvd_mul_left ..
  · have fine : orphan? 0 ((rowsAt 0 (outline.renumbered 0)).map Row.entry ++ []) = none :=
      orphan?_rowsAt _ (Nat.le_refl 0) (fun _ _ => rfl)
    rw [List.append_nil, rows, List.map_map] at fine
    rw [entries_print blank printable nonempty]
    exact fine
  · rw [entries_print blank printable nonempty]
    exact rows.trans (numbered_zipIdx 0 _).symm

theorem parse_print_of_two_level_dedent :
    parse "%ul\n \t%li \r a\n \t \t\u00a0= x\n \t%li\n%p\n".toList =
        .ok [⟨"%ul".toList, 1, 1, [⟨"%li \r a".toList, 2, 2, [⟨"\u00a0= x".toList, 3, 3, []⟩]⟩,
          ⟨"%li".toList, 4, 4, []⟩]⟩, ⟨"%p".toList, 5, 5, []⟩] ∧
      unit "%ul\n \t%li \r a\n \t \t\u00a0= x\n \t%li\n%p\n".toList = 2 := by
  have read := @parse_print_eq_renumbered " \t".toList
    [⟨"%ul".toList, 0, 0, [⟨"%li \r a".toList, 0, 0, [⟨"\u00a0= x".toList, 0, 0, []⟩]⟩,
      ⟨"%li".toList, 0, 0, []⟩]⟩, ⟨"%p".toList, 0, 0, []⟩]
    (by decide) (by simp [isIndent]) (by decide)
  exact ⟨read.1, read.2.2.1 (by simp [descendants, Node.preorder])⟩

end Outline

end Haml
