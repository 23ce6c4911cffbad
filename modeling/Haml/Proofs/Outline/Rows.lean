import Haml.Proofs.Outline.Grouping
import Haml.Proofs.Outline.Scanning
import Mathlib.Data.List.Basic

/-! # The rows of a template

The outline that is read from a template lists its lines that are not blank: each one once, in
order, at the depth that its indentation says, with the next number and with its physical position.
-/

namespace Haml.Outline

open Indentation

/-- Reading fails where scanning does. -/
theorem parse_of_scan_error {source : Text} {error : Indentation.Error}
    (failed : scan source = .error error) : parse source = .error error := by
  rw [parse, failed]
  rfl

/-- Reading groups what scanning gives. -/
theorem parse_of_scan_ok {source : Text} {entries : List Entry}
    (scanned : scan source = .ok entries) :
    parse source = (group 0 0 [] [] entries).map (·.1) := by
  rw [parse, scanned]
  cases grouped : group 0 0 [] [] entries with
  | error error => simp [grouped, bind, Except.bind, Except.map]
  | ok reached => simp [grouped, bind, Except.bind, Except.map, pure, Except.pure]

/-- Numbering entries is counting lines. -/
theorem numbered_map_entry (unit count : Nat) (lines : List (Text × Nat)) :
    numbered count (lines.map (entry unit)) =
      (lines.zipIdx (count + 1)).map fun ((line, position), number) =>
        ⟨width line / unit, number, position, content line⟩ := by
  induction lines generalizing count with
  | nil => rfl
  | cons line later ih =>
    simp only [List.map_cons, numbered, List.zipIdx_cons, ih (count + 1), entry]

/-- The rows of what is read are those of the lines that are not blank. -/
theorem rows_of_parse {source : Text} {outline : Outline} (success : parse source = .ok outline) :
    outline.rows = numbered 0 ((visibleLines source).map (entry (unit source))) := by
  cases scanned : scan source with
  | error error =>
    rw [parse_of_scan_error scanned] at success
    cases success
  | ok entries =>
    obtain ⟨_, rfl⟩ := (scan_eq_ok_iff source entries).mp scanned
    have settled := group_settles 0 0 ((visibleLines source).map (entry (unit source)))
      (fun _ _ => Nat.zero_le _)
    rw [parse_of_scan_ok scanned] at success
    cases grouped : group 0 0 [] [] ((visibleLines source).map (entry (unit source))) with
    | error error =>
      rw [grouped] at success
      cases success
    | ok reached =>
      rw [grouped] at success settled
      obtain rfl := Except.ok.inj success
      exact settled.2.1

/-- Every row of what is read stands for a line that is not blank. -/
theorem row_of_parse {source : Text} {outline : Outline} (success : parse source = .ok outline)
    {row : Row} (member : row ∈ outline.rows) :
    0 < row.number ∧ ∃ line position, (line, position) ∈ visibleLines source ∧
      row.text = content line := by
  rw [rows_of_parse success, numbered_map_entry] at member
  obtain ⟨⟨⟨line, position⟩, number⟩, counted, rfl⟩ := List.mem_map.mp member
  have positive : 0 + 1 ≤ number := List.le_snd_of_mem_zipIdx counted
  exact ⟨positive, line, position, List.fst_mem_of_mem_zipIdx counted, rfl⟩

/-- Every node of an outline that is read has the text of its physical line behind the
indentation. -/
theorem exists_physical_line {source : Text} {outline : Outline}
    (success : parse source = .ok outline) {node : Node} (member : node ∈ outline.descendants) :
    0 < node.sourceLine ∧ ∃ line, source.lines[node.sourceLine - 1]? = some line ∧
      content line = node.text := by
  obtain ⟨row, present, _, sourceLine, text⟩ := exists_placed_row member
  rw [rows_of_parse success, numbered_map_entry] at present
  obtain ⟨⟨⟨line, position⟩, number⟩, counted, rfl⟩ := List.mem_map.mp present
  have visible : (line, position) ∈ visibleLines source := List.fst_mem_of_mem_zipIdx counted
  have placed := List.mk_mem_zipIdx_iff_le_and_getElem?_sub.mp (List.mem_filter.mp visible).1
  rw [← sourceLine, ← text]
  exact ⟨placed.1, line, placed.2, rfl⟩

/-- No line is lost, repeated, moved, nested wrongly or numbered wrongly. The outline that is read
lists exactly the lines that are not blank, in order. So its size is the number of these lines,
none of its nodes is taken for the root, and no text of a node is blank, starts with a space or a
tab, or holds a line feed. -/
theorem rows_eq_visibleLines {source : Text} {outline : Outline}
    (success : parse source = .ok outline) :
    (outline.rows = ((visibleLines source).zipIdx 1).map fun ((line, position), number) =>
      ⟨width line / unit source, number, position, content line⟩) ∧
    outline.size = (visibleLines source).length ∧
    outline.descendants.length = (visibleLines source).length ∧
    (Node.root outline).isRoot = true ∧
    ∀ node ∈ outline.descendants,
      node.isRoot = false ∧ node.text.allBlank = false ∧ node.text.head? ≠ some ' ' ∧
        node.text.head? ≠ some '\t' ∧ '\n' ∉ node.text := by
  have rows := (rows_of_parse success).trans (numbered_map_entry _ 0 _)
  have size : outline.size = (visibleLines source).length := by
    have sameLength := congrArg List.length rows
    rw [Outline.rows, length_rowsAt] at sameLength
    simpa only [List.length_map, List.length_zipIdx] using sameLength
  refine ⟨rows, size, (length_descendants outline).trans size, rfl, ?_⟩
  intro node member
  obtain ⟨row, present, number, text⟩ := exists_row_of_mem_descendants member
  obtain ⟨positive, line, position, visible, content⟩ := row_of_parse success present
  obtain ⟨notBlank, unbroken⟩ := mem_visibleLines visible
  rw [← text, content]
  refine ⟨?_, allBlank_content notBlank, ?_, ?_, ?_⟩
  · rw [number] at positive
    simpa only [Node.isRoot, beq_eq_false_iff_ne] using Nat.ne_of_gt positive
  · intro space
    exact absurd (content_head line space) (by decide)
  · intro tab
    exact absurd (content_head line tab) (by decide)
  · exact fun feed => unbroken ((List.dropWhile_sublist isIndent).mem feed)

theorem rows_of_list_template :
    ∃ outline, parse "%ul\r\n  %li a\n \t\n  %li b\n%p\n".toList = .ok outline ∧
      outline.rows = [⟨0, 1, 1, "%ul".toList⟩, ⟨1, 2, 2, "%li a".toList⟩, ⟨1, 3, 4, "%li b".toList⟩,
        ⟨0, 4, 5, "%p".toList⟩] := by
  have success : parse "%ul\r\n  %li a\n \t\n  %li b\n%p\n".toList =
      .ok [⟨"%ul".toList, 1, 1, [⟨"%li a".toList, 2, 2, []⟩, ⟨"%li b".toList, 3, 4, []⟩]⟩,
        ⟨"%p".toList, 4, 5, []⟩] := by cbv
  exact ⟨_, success, (rows_eq_visibleLines success).1.trans (by cbv)⟩

end Haml.Outline
