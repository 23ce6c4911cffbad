import Haml.Outline.Basic

/-! # Outlines as forests

An outline is proved about by one induction: the lines nested under its first line and the lines
after it are outlines again. Its rows, its descendants and its size are three views of the same
lines in the same order, and the rows determine the outline. Rendering takes the lines in another
order, in which every line comes after the lines nested under it.
-/

namespace Haml

theorem Node.postorder_eq (node : Node) :
    node.postorder = Outline.postorder node.children ++ [node] := by
  rcases node with ⟨text, number, sourceLine, children⟩
  simp only [Node.postorder]

namespace Outline

/-- What holds of the empty outline, and of an outline whenever it holds of the lines under its
first line and of the lines after it, holds of every outline. -/
@[elab_as_elim]
theorem induction {motive : Outline → Prop} (nil : motive [])
    (cons : ∀ (text : Text) (number sourceLine : Nat) (children later : List Node),
      motive children → motive later → motive (⟨text, number, sourceLine, children⟩ :: later)) :
    (outline : Outline) → motive outline
  | [] => nil
  | ⟨text, number, sourceLine, children⟩ :: later =>
    cons text number sourceLine children later (induction nil cons children)
      (induction nil cons later)

@[simp]
theorem rowsAt_nil (depth : Nat) : rowsAt depth [] = [] := by
  simp only [rowsAt]

theorem rowsAt_cons (depth : Nat) (node : Node) (later : List Node) :
    rowsAt depth (node :: later) =
      ⟨depth, node.number, node.sourceLine, node.text⟩ ::
        (rowsAt (depth + 1) node.children ++ rowsAt depth later) := by
  rcases node with ⟨text, number, sourceLine, children⟩
  simp only [rowsAt, Node.rowsAt, List.cons_append]

theorem rowsAt_append (depth : Nat) (first second : List Node) :
    rowsAt depth (first ++ second) = rowsAt depth first ++ rowsAt depth second := by
  induction first with
  | nil => simp only [List.nil_append, rowsAt_nil]
  | cons node rest ih =>
    simp only [List.cons_append, rowsAt_cons, ih, List.append_assoc]

/-- The rows of an outline end with those of its last node. -/
theorem rowsAt_reverse_cons (depth : Nat) (node : Node) (earlier : List Node) :
    rowsAt depth (node :: earlier).reverse =
      rowsAt depth earlier.reverse ++
        ⟨depth, node.number, node.sourceLine, node.text⟩ :: rowsAt (depth + 1) node.children := by
  simp only [List.reverse_cons, rowsAt_append, rowsAt_cons, rowsAt_nil, List.append_nil]

@[simp]
theorem descendants_nil : descendants [] = [] := by
  simp only [descendants]

theorem descendants_cons (node : Node) (later : List Node) :
    descendants (node :: later) = node :: (descendants node.children ++ descendants later) := by
  rcases node with ⟨text, number, sourceLine, children⟩
  simp only [descendants, Node.preorder, List.cons_append]

theorem length_rowsAt (depth : Nat) (outline : Outline) :
    (rowsAt depth outline).length = outline.size := by
  induction outline using induction generalizing depth with
  | nil => simp only [rowsAt_nil, List.length_nil, size]
  | cons text number sourceLine children later nested beside =>
    simp only [rowsAt_cons, List.length_cons, List.length_append, size, Node.size, nested, beside]
    omega

/-- The descendants carry what the rows carry, in the same order. -/
theorem map_descendants (depth : Nat) (outline : Outline) :
    outline.descendants.map (fun node => (node.number, node.sourceLine, node.text)) =
      (rowsAt depth outline).map (fun row => (row.number, row.sourceLine, row.text)) := by
  induction outline using induction generalizing depth with
  | nil => simp only [descendants_nil, rowsAt_nil, List.map_nil]
  | cons text number sourceLine children later nested beside =>
    simp only [descendants_cons, rowsAt_cons, List.map_cons, List.map_append, nested (depth + 1),
      beside depth]

theorem length_descendants (outline : Outline) : outline.descendants.length = outline.size := by
  have sameLength := congrArg List.length (map_descendants 0 outline)
  simpa only [List.length_map, length_rowsAt] using sameLength

/-- Every descendant has its row. -/
theorem exists_placed_row {outline : Outline} {node : Node}
    (member : node ∈ outline.descendants) :
    ∃ row ∈ outline.rows, row.number = node.number ∧ row.sourceLine = node.sourceLine ∧
      row.text = node.text := by
  have carried := List.mem_map_of_mem
    (f := fun node : Node => (node.number, node.sourceLine, node.text)) member
  rw [map_descendants 0] at carried
  obtain ⟨row, present, same⟩ := List.mem_map.mp carried
  simp only [Prod.mk.injEq] at same
  exact ⟨row, present, same⟩

theorem exists_row_of_mem_descendants {outline : Outline} {node : Node}
    (member : node ∈ outline.descendants) :
    ∃ row ∈ outline.rows, row.number = node.number ∧ row.text = node.text := by
  obtain ⟨row, present, number, _, text⟩ := exists_placed_row member
  exact ⟨row, present, number, text⟩

/-- Every row has its node. -/
theorem exists_node_of_mem_rows {outline : Outline} {row : Row} (member : row ∈ outline.rows) :
    ∃ node ∈ outline.descendants, node.text = row.text := by
  have carried := List.mem_map_of_mem
    (f := fun row : Row => (row.number, row.sourceLine, row.text)) member
  rw [rows, ← map_descendants 0] at carried
  obtain ⟨node, present, same⟩ := List.mem_map.mp carried
  simp only [Prod.mk.injEq] at same
  exact ⟨node, present, same.2.2⟩

private theorem le_depth_of_mem_rowsAt {depth : Nat} {outline : Outline} {row : Row}
    (member : row ∈ rowsAt depth outline) : depth ≤ row.depth := by
  induction outline using induction generalizing depth with
  | nil => simp at member
  | cons text number sourceLine children later nested beside =>
    rw [rowsAt_cons, List.mem_cons, List.mem_append] at member
    rcases member with rfl | below | after
    · exact Nat.le_refl depth
    · have deeper := nested below
      omega
    · exact beside after

/-- The rows nested under a line are those up to the next row that is as high as the line. -/
theorem takeWhile_rowsAt (depth : Nat) (children later : List Node) :
    (rowsAt (depth + 1) children ++ rowsAt depth later).takeWhile (depth < ·.depth) =
      rowsAt (depth + 1) children := by
  have beyond : (rowsAt depth later).takeWhile (depth < ·.depth) = [] := by
    cases later with
    | nil => rw [rowsAt_nil, List.takeWhile_nil]
    | cons next rest => rw [rowsAt_cons, List.takeWhile_cons_of_neg (by simp)]
  rw [List.takeWhile_append_of_pos, beyond, List.append_nil]
  intro row member
  have deeper := le_depth_of_mem_rowsAt member
  exact decide_eq_true (by omega)

/-- Depths in document order determine the nesting, so no two outlines have the same rows. -/
theorem rowsAt_injective (depth : Nat) {first second : Outline}
    (same : rowsAt depth first = rowsAt depth second) : first = second := by
  induction first using induction generalizing depth second with
  | nil =>
    cases second with
    | nil => rfl
    | cons node later => simp [rowsAt_cons] at same
  | cons text number sourceLine children later nested beside =>
    cases second with
    | nil => simp [rowsAt_cons] at same
    | cons node rest =>
      rcases node with ⟨otherText, otherNumber, otherLine, otherChildren⟩
      simp only [rowsAt_cons, List.cons.injEq, Row.mk.injEq, true_and] at same
      obtain ⟨⟨rfl, rfl, rfl⟩, tail⟩ := same
      have below : rowsAt (depth + 1) children = rowsAt (depth + 1) otherChildren := by
        rw [← takeWhile_rowsAt depth children later, tail, takeWhile_rowsAt]
      rw [below] at tail
      rw [nested (depth + 1) below, beside depth (List.append_cancel_left tail)]

@[simp]
theorem postorder_nil : postorder [] = [] := by
  simp only [postorder]

theorem postorder_cons (node : Node) (later : List Node) :
    postorder (node :: later) = postorder node.children ++ node :: postorder later := by
  rcases node with ⟨text, number, sourceLine, children⟩
  simp only [postorder, Node.postorder, List.append_assoc, List.singleton_append]

/-- The two orders list the same nodes. -/
theorem postorder_perm (outline : Outline) : outline.postorder.Perm outline.descendants := by
  induction outline using induction with
  | nil => simp
  | cons text number sourceLine children later nested beside =>
    rw [postorder_cons, descendants_cons]
    exact List.perm_middle.trans ((nested.append beside).cons _)

end Outline

end Haml
