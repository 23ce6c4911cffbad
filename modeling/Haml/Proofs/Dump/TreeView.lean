import Haml.Dump.TreeView
import Haml.Proofs.Outline.Forest
import Haml.Proofs.Text.Lines
import Haml.Proofs.Text.Numeral
import Mathlib.Data.List.Forall2

/-! # Reading tree views

A line of a tree view is read from its left end: the spaces before the icon are two for each level,
the number is what follows the icon up to the next space, and all the rest is the text, whatever it
starts with. So a view tells everything about its outline except for the physical positions of the
lines and for what was cut off long texts. The icon tells nothing more, since it depends on the
first character only.
-/

namespace Haml

open TreeView

/-- What a view shows of a text: all of it up to 40 characters, or else the first 40 and dots. -/
def Text.glimpse (text : Text) : Text :=
  if text.length ≤ 40 then text else text.take 40 ++ ['.', '.', '.']

/-- A row as a view shows it: without its physical position, and with the glimpse of its text. -/
def Row.sketch (row : Row) : Row :=
  { row with sourceLine := 0, text := row.text.glimpse }

mutual

/-- A node as a view shows it. -/
def Node.sketch (node : Node) : Node :=
  match node with
  | ⟨text, number, _, children⟩ => ⟨text.glimpse, number, 0, Outline.sketch children⟩

/-- An outline as a view shows it: without physical positions, and with glimpses of its texts. -/
def Outline.sketch : Outline → Outline
  | [] => []
  | node :: later => node.sketch :: Outline.sketch later

end

namespace TreeView

/-- The number in a line of a view and the text behind it, read from behind the icon. -/
def readColumns (depth : Nat) (columns : Text) : Option Row :=
  match Text.readNumeral (columns.dropWhile (· == ' ')) with
  | some (number, ' ' :: text) => some ⟨depth, number, 0, text⟩
  | _ => none

/-- The row that a line of a view shows. -/
def readLine (line : Text) : Option Row :=
  match line.dropWhile (· == ' ') with
  | _ :: ' ' :: columns => readColumns ((line.takeWhile (· == ' ')).length / 2) columns
  | _ => none

/-- The line that shows a row, without the line feed behind it. -/
def shownLine (row : Row) : Text :=
  List.replicate (2 * row.depth) ' ' ++ icon (LineKind.of false row.text) :: ' ' ::
    padLeft 3 (Text.ofNat row.number) ++ ' ' :: row.text.glimpse

private theorem icon_ne_space (kind : LineKind) : icon kind ≠ ' ' := by
  cases kind <;> decide

private theorem feed_ne_icon (kind : LineKind) : '\n' ≠ icon kind := by
  cases kind <;> decide

private theorem kind_of_exclamation (rest : Text) :
    LineKind.of false ('!' :: rest) = .expression := by
  unfold LineKind.of
  split <;> simp_all

/-- Only the first character of a line makes its kind, where no document types are enabled. -/
theorem kind_eq_of_head? {first second : Text} (same : first.head? = second.head?) :
    LineKind.of false first = LineKind.of false second := by
  cases first with
  | nil =>
    obtain rfl := List.head?_eq_none_iff.mp same.symm
    rfl
  | cons c rest =>
    obtain ⟨other, rfl⟩ := List.head?_eq_some_iff.mp same.symm
    by_cases exclamation : c = '!'
    · rw [exclamation, kind_of_exclamation, kind_of_exclamation]
    by_cases mark : c ∈ ['%', '.', '#', '=', '-']
    · simp only [List.mem_cons, List.not_mem_nil, or_false] at mark
      rcases mark with rfl | rfl | rfl | rfl | rfl <;> rfl
    · simp only [List.mem_cons, List.not_mem_nil, or_false, not_or] at mark
      simp [LineKind.of, mark, exclamation]

private theorem shorten_eq_glimpse (text : Text) : shorten 40 text = text.glimpse := by
  rw [shorten, Text.glimpse]
  split
  · next long =>
    rw [if_neg (by omega)]
    rfl
  · next short => rw [if_pos (by omega)]

theorem line_eq (row : Row) : line row = shownLine row ++ ['\n'] := by
  simp [line, shownLine, shorten_eq_glimpse]

private theorem glimpse_glimpse (text : Text) : text.glimpse.glimpse = text.glimpse := by
  rw [Text.glimpse, Text.glimpse]
  split
  · rfl
  · next long =>
    have length : (text.take 40).length = 40 := by
      rw [List.length_take]
      omega
    rw [if_neg (by simp [length]), List.take_left' length]

private theorem head?_glimpse (text : Text) : text.glimpse.head? = text.head? := by
  cases text with
  | nil => rfl
  | cons c rest =>
    rw [Text.glimpse]
    split <;> rfl

private theorem mem_of_mem_glimpse {text : Text} {c : Char} (member : c ∈ text.glimpse) :
    c ∈ text ∨ c = '.' := by
  rw [Text.glimpse] at member
  split at member
  · exact .inl member
  · rcases List.mem_append.mp member with kept | dot
    · exact .inl (List.mem_of_mem_take kept)
    · exact .inr (by simpa using dot)

/-- What a view leaves out of a row does not show in its line. -/
theorem line_sketch (row : Row) : line row.sketch = line row := by
  simp only [line, Row.sketch, shorten_eq_glimpse, glimpse_glimpse,
    kind_eq_of_head? (head?_glimpse row.text)]

private theorem feed_not_mem_shownLine {row : Row} (unbroken : '\n' ∉ row.text) :
    '\n' ∉ shownLine row := by
  have digits : '\n' ∉ Text.ofNat row.number := Text.not_mem_ofNat (by decide) row.number
  have text : '\n' ∉ row.text.glimpse := by
    intro feed
    rcases mem_of_mem_glimpse feed with inside | dot
    · exact unbroken inside
    · exact absurd dot (by decide)
  have before : '\n' ∉ padLeft 3 (Text.ofNat row.number) := by
    simp [padLeft, List.mem_replicate, digits]
  simp [shownLine, List.mem_replicate, feed_ne_icon, before, text]

/-- The spaces before the icon are two for each level, and no more. -/
theorem takeWhile_shownLine (row : Row) :
    (shownLine row).takeWhile (· == ' ') = List.replicate (2 * row.depth) ' ' := by
  rw [shownLine, List.append_assoc, List.takeWhile_append_of_pos (by simp)]
  simp [icon_ne_space]

private theorem dropWhile_shownLine (row : Row) :
    (shownLine row).dropWhile (· == ' ') =
      icon (LineKind.of false row.text) :: ' ' ::
        (padLeft 3 (Text.ofNat row.number) ++ ' ' :: row.text.glimpse) := by
  rw [shownLine, List.append_assoc, List.dropWhile_append_of_pos (by simp)]
  simp [icon_ne_space]

/-- The number ends at the first space behind it, and the text is all that follows. -/
theorem readColumns_padLeft (depth width number : Nat) (text : Text) :
    readColumns depth (padLeft width (Text.ofNat number) ++ ' ' :: text) =
      some ⟨depth, number, 0, text⟩ := by
  have aligned : (padLeft width (Text.ofNat number) ++ ' ' :: text).dropWhile (· == ' ') =
      Text.ofNat number ++ ' ' :: text := by
    obtain ⟨first, later, split, digit⟩ := Text.exists_cons_ofNat number
    have shown : (first == ' ') = false := by
      rw [beq_eq_false_iff_ne]
      rintro rfl
      exact absurd digit (by decide)
    rw [padLeft, List.append_assoc, List.dropWhile_append_of_pos (by simp), split,
      List.cons_append, List.dropWhile_cons_of_neg (by simp [shown])]
  rw [readColumns, aligned, Text.readNumeral_ofNat (by simp)]
  rfl

/-- A line is read as the row that it shows. -/
theorem readLine_shownLine (row : Row) : readLine (shownLine row) = some row.sketch := by
  rw [readLine, dropWhile_shownLine, takeWhile_shownLine, List.length_replicate,
    Nat.mul_div_cancel_left _ (by decide)]
  exact readColumns_padLeft row.depth 3 row.number row.text.glimpse

end TreeView

namespace Outline

theorem rowsAt_sketch (depth : Nat) (outline : Outline) :
    rowsAt depth outline.sketch = (rowsAt depth outline).map Row.sketch := by
  induction outline using induction generalizing depth with
  | nil => simp [sketch]
  | cons text number sourceLine children later nested beside =>
    simp only [sketch, Node.sketch, rowsAt_cons, nested, beside, List.map_cons, List.map_append,
      Row.sketch]

theorem treeView_sketch (outline : Outline) : outline.sketch.treeView = outline.treeView := by
  rw [treeView, treeView, rows, rows, rowsAt_sketch, List.flatMap_map]
  simp only [line_sketch]

/-- A view has one line a row. -/
theorem splitOn_treeView {outline : Outline}
    (unbroken : ∀ node ∈ outline.descendants, '\n' ∉ node.text) :
    outline.treeView.splitOn '\n' = outline.rows.map shownLine ++ [[]] := by
  have feeds : outline.treeView = (outline.rows.map shownLine).flatMap (· ++ ['\n']) := by
    rw [treeView, List.flatMap_map]
    exact List.flatMap_congr fun row _ => line_eq row
  rw [feeds]
  apply Text.splitOn_flatMap_feed
  intro shown member
  obtain ⟨row, present, rfl⟩ := List.mem_map.mp member
  obtain ⟨node, inside, same⟩ := exists_node_of_mem_rows present
  exact feed_not_mem_shownLine (same ▸ unbroken node inside)

/-- Views are the same exactly if what they show of the outlines is. Every node has one line, in
document order, from which its row is read back; before the icon it has two spaces for each
level. -/
theorem treeView_shows_sketch {outline other : Outline}
    (unbroken : ∀ node ∈ outline.descendants, '\n' ∉ node.text)
    (otherUnbroken : ∀ node ∈ other.descendants, '\n' ∉ node.text) :
    (outline.treeView = other.treeView ↔ outline.sketch = other.sketch) ∧
    ∃ lines, outline.treeView.splitOn '\n' = lines ++ [[]] ∧ lines.length = outline.size ∧
      List.Forall₂ (fun row line =>
        readLine line = some row.sketch ∧
          line.takeWhile (· == ' ') = List.replicate (2 * row.depth) ' ' ∧
          (line.dropWhile (· == ' ')).head? = some (icon (LineKind.of false row.text)))
        outline.rows lines := by
  refine ⟨⟨fun same => ?_, fun same => ?_⟩, outline.rows.map shownLine, splitOn_treeView unbroken,
    ?_, ?_⟩
  · have lines : outline.rows.map shownLine = other.rows.map shownLine := by
      apply List.append_cancel_right
      rw [← splitOn_treeView unbroken, same, splitOn_treeView otherUnbroken]
    have read := congrArg (List.map readLine) lines
    simp only [List.map_map, Function.comp_def, readLine_shownLine] at read
    apply rowsAt_injective 0
    rw [rowsAt_sketch, rowsAt_sketch, ← rows, ← rows]
    simpa [Function.comp_def] using congrArg (List.filterMap id) read
  · rw [← treeView_sketch outline, same, treeView_sketch other]
  · rw [List.length_map, rows, length_rowsAt]
  · rw [List.forall₂_map_right_iff, List.forall₂_same]
    intro row _
    refine ⟨readLine_shownLine row, takeWhile_shownLine row, ?_⟩
    rw [dropWhile_shownLine, List.head?_cons]

/-- Texts that look like the columns before them, with different ends beyond what is shown, under
one line or beside it. -/
theorem treeView_shows_sketch_of_long_text :
    let long := "  12 = ".toList ++ List.replicate 33 'x'
    let outline : Outline := [⟨"%ul".toList, 1, 1, [⟨long ++ "yes".toList, 1000, 2, []⟩]⟩]
    let other : Outline := [⟨"%ul".toList, 1, 3, [⟨long ++ "no".toList, 1000, 9, []⟩]⟩]
    let beside : Outline := [⟨"%ul".toList, 1, 1, []⟩, ⟨long ++ "yes".toList, 1000, 2, []⟩]
    outline.treeView = other.treeView ∧ outline.treeView ≠ beside.treeView := by
  intro long outline other beside
  have unbroken : ∀ node ∈ outline.descendants, '\n' ∉ node.text := by decide
  have otherUnbroken : ∀ node ∈ other.descendants, '\n' ∉ node.text := by decide
  have besideUnbroken : ∀ node ∈ beside.descendants, '\n' ∉ node.text := by decide
  refine ⟨(treeView_shows_sketch unbroken otherUnbroken).1.mpr rfl, fun same => ?_⟩
  have sketches := (treeView_shows_sketch unbroken besideUnbroken).1.mp same
  cases sketches

end Outline

end Haml
