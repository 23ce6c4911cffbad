import Haml.Outline.Parse
import Haml.Proofs.Text.Lines
import Mathlib.Data.List.TakeWhile

/-! # Scanning lines

Scanning succeeds exactly when the width of every line that is not blank is a whole number of
units, and then gives each line its entry. Otherwise it reports the first line that fails. What is
left of a line without its indentation is not blank, does not start with a space or a tab, and
holds no line feed.
-/

namespace Haml.Indentation

theorem unit_pos (source : Text) : 0 < unit source := by
  simp only [unit]
  cases found : ((source.lines.filter fun line => !line.allBlank).map width).find? (0 < ·) with
  | none => exact Nat.one_pos
  | some width => simpa using List.find?_some found

theorem content_head (line : Text) {c : Char} (first : (content line).head? = some c) :
    isIndent c = false := by
  have stopped := List.head?_dropWhile_not isIndent line
  rw [← content, first] at stopped
  simpa using stopped

/-- Spaces and tabs before a text that starts with neither are its indentation. -/
theorem indented_append {indent text : Text} (blank : ∀ c ∈ indent, isIndent c = true)
    (flush : ∀ c ∈ text.head?, isIndent c = false) :
    width (indent ++ text) = indent.length ∧ content (indent ++ text) = text := by
  have stops : text.takeWhile isIndent = [] ∧ text.dropWhile isIndent = text := by
    cases text with
    | nil => exact ⟨rfl, rfl⟩
    | cons c rest => simp [flush c rfl]
  constructor
  · rw [width, List.takeWhile_append_of_pos blank, stops.1, List.append_nil]
  · rw [content, List.dropWhile_append_of_pos blank, stops.2]

theorem isLine_indented {indent text : Text} (blank : ∀ c ∈ indent, isIndent c = true)
    (whole : text.IsLine) : (indent ++ text).IsLine := by
  apply whole.append_left
  intro feed
  exact absurd (blank _ feed) (by decide)

theorem allBlank_indented (indent : Text) {text : Text} (visible : text.allBlank = false) :
    Text.allBlank (indent ++ text) = false := by
  simp only [Text.allBlank, List.all_append, Bool.and_eq_false_iff]
  exact .inr visible

theorem allBlank_content {line : Text} (visible : line.allBlank = false) :
    (content line).allBlank = false := by
  rw [Text.allBlank, List.all_eq_false] at visible ⊢
  obtain ⟨c, member, notBlank⟩ := visible
  refine ⟨c, ?_, notBlank⟩
  rw [← List.takeWhile_append_dropWhile (p := isIndent) (l := line)] at member
  rcases List.mem_append.mp member with indenting | kept
  · have indents := List.mem_takeWhile_imp indenting
    simp only [isIndent, Bool.or_eq_true, beq_iff_eq] at indents
    rcases indents with rfl | rfl <;> exact absurd rfl notBlank
  · exact kept

end Haml.Indentation

namespace Haml.Outline

open Indentation

theorem mem_visibleLines {source line : Text} {position : Nat}
    (member : (line, position) ∈ visibleLines source) :
    line.allBlank = false ∧ '\n' ∉ line := by
  simp only [visibleLines, List.mem_filter, Bool.not_eq_true'] at member
  exact ⟨member.2, Text.not_mem_of_mem_lines (List.fst_mem_of_mem_zipIdx member.1)⟩

/-- The unit is found among the lines that are not blank. -/
theorem unit_eq_find? (source : Text) :
    unit source = (((visibleLines source).map (width ·.1)).find? (0 < ·)).getD 1 := by
  have texts : (visibleLines source).map Prod.fst =
      source.lines.filter fun line => !line.allBlank := by
    have split := List.filter_map (f := Prod.fst) (l := source.lines.zipIdx 1)
      (p := fun line : Text => !line.allBlank)
    rw [List.zipIdx_map_fst] at split
    exact split.symm
  rw [unit, ← texts, List.map_map]
  rfl

/-- The entry of a line whose width is a whole number of units. -/
def entry (unit : Nat) : Text × Nat → Entry
  | (line, sourceLine) => ⟨width line / unit, sourceLine, content line⟩

theorem scanLine_of_even {unit : Nat} (positive : 0 < unit) {line : Text × Nat}
    (even : unit ∣ width line.1) : scanLine unit line = .ok (entry unit line) := by
  simp only [scanLine, Indentation.depth, Nat.ne_of_gt positive, Nat.mod_eq_zero_of_dvd even,
    ↓reduceIte, entry]

theorem scanLine_of_uneven {unit : Nat} (positive : 0 < unit) {line : Text × Nat}
    (uneven : ¬ unit ∣ width line.1) :
    scanLine unit line = .error ⟨line.2, .uneven (width line.1) unit⟩ := by
  rw [Nat.dvd_iff_mod_eq_zero] at uneven
  simp only [scanLine, Indentation.depth, Nat.ne_of_gt positive, uneven, ↓reduceIte]

private theorem mapM_scanLine_of_even {unit : Nat} (positive : 0 < unit) {lines : List (Text × Nat)}
    (even : ∀ line ∈ lines, unit ∣ width line.1) :
    lines.mapM (scanLine unit) = .ok (lines.map (entry unit)) := by
  induction lines with
  | nil => rfl
  | cons line later ih =>
    obtain ⟨first, rest⟩ := List.forall_mem_cons.mp even
    rw [List.mapM_cons, scanLine_of_even positive first, ih rest]
    rfl

theorem mapM_scanLine_of_uneven {unit : Nat} (positive : 0 < unit)
    {before after : List (Text × Nat)} {line : Text × Nat}
    (even : ∀ other ∈ before, unit ∣ width other.1) (uneven : ¬ unit ∣ width line.1) :
    (before ++ line :: after).mapM (scanLine unit) =
      .error ⟨line.2, .uneven (width line.1) unit⟩ := by
  induction before with
  | nil =>
    rw [List.nil_append, List.mapM_cons, scanLine_of_uneven positive uneven]
    rfl
  | cons other rest ih =>
    obtain ⟨first, later⟩ := List.forall_mem_cons.mp even
    rw [List.cons_append, List.mapM_cons, scanLine_of_even positive first, ih later]
    rfl

/-- Either all widths fit the unit, or there is a first one that does not. -/
theorem even_or_first_uneven (unit : Nat) (lines : List (Text × Nat)) :
    (∀ line ∈ lines, unit ∣ width line.1) ∨
      ∃ before line after, lines = before ++ line :: after ∧
        (∀ other ∈ before, unit ∣ width other.1) ∧ ¬ unit ∣ width line.1 := by
  cases found : lines.find? (fun line => !decide (unit ∣ width line.1)) with
  | none =>
    left
    simpa using List.find?_eq_none.mp found
  | some line =>
    right
    obtain ⟨uneven, before, after, split, even⟩ := List.find?_eq_some_iff_append.mp found
    exact ⟨before, line, after, split, by simpa using even, by simpa using uneven⟩

/-- Scanning gives every line its entry, provided that all widths fit. -/
theorem scan_eq_ok_iff (source : Text) (entries : List Entry) :
    scan source = .ok entries ↔
      (∀ line ∈ visibleLines source, unit source ∣ width line.1) ∧
        entries = (visibleLines source).map (entry (unit source)) := by
  have positive := unit_pos source
  constructor
  · intro success
    rcases even_or_first_uneven (unit source) (visibleLines source) with
      even | ⟨before, line, after, split, even, uneven⟩
    · rw [scan, mapM_scanLine_of_even positive even] at success
      exact ⟨even, (Except.ok.inj success).symm⟩
    · rw [scan, split, mapM_scanLine_of_uneven positive even uneven] at success
      cases success
  · rintro ⟨even, rfl⟩
    exact mapM_scanLine_of_even positive even

end Haml.Outline
