import Haml.Proofs.Outline.Nesting

/-! # One template after another

Two templates that are read can be read as one, if the first one ends with a line feed and both are
indented alike. A block that is still open where the first one ends is attached there just as at the
end of a template, because the second one starts at the top level. Its lines keep their nesting, and
only their numbers and positions go on from those of the first.
-/

namespace Haml

open Indentation

mutual

/-- A node after `count` other lines that are not blank, and `lines` other lines in all. -/
def Node.shifted (count lines : Nat) (node : Node) : Node :=
  match node with
  | ⟨text, number, sourceLine, children⟩ =>
    ⟨text, number + count, sourceLine + lines, Outline.shifted count lines children⟩

/-- An outline after `count` other lines that are not blank, and `lines` other lines in all. -/
def Outline.shifted (count lines : Nat) : Outline → Outline
  | [] => []
  | node :: later => node.shifted count lines :: Outline.shifted count lines later

end

/-- A row after `count` other lines that are not blank, and `lines` other lines in all. -/
def Row.shifted (count lines : Nat) (row : Row) : Row :=
  { row with number := row.number + count, sourceLine := row.sourceLine + lines }

namespace Text

theorem lines_eq_nil_iff (text : Text) : lines text = [] ↔ text = [] := by
  constructor
  · intro none
    fun_cases lines text with
    | case1 => rfl
    | _ => simp_all [lines]
  · rintro rfl
    rw [lines]

/-- A text that ends with a line feed, if it is not empty. -/
def IsEnded (text : Text) : Prop :=
  text = [] ∨ text.getLast? = some '\n'

theorem IsEnded.of_cons {c : Char} {rest : Text} (ended : IsEnded (c :: rest)) : IsEnded rest := by
  cases rest with
  | nil => exact .inl rfl
  | cons next rest =>
    have last := ended.resolve_left (List.cons_ne_nil _ _)
    exact .inr (by rwa [List.getLast?_cons_cons] at last)

/-- Behind a line feed the lines start anew. -/
theorem lines_append_of_isEnded {first : Text} (ended : IsEnded first) (second : Text) :
    lines (first ++ second) = lines first ++ lines second := by
  fun_induction lines first with
  | case1 => rfl
  | case2 rest ih =>
    rw [List.cons_append, lines, ih ended.of_cons]
    rfl
  | case3 rest ih =>
    rw [List.cons_append, List.cons_append, lines, ih ended.of_cons.of_cons]
    rfl
  | case4 c rest notFeed notReturn none ih =>
    -- Only a line feed is both the first and the last character of an ended text.
    obtain rfl := (lines_eq_nil_iff rest).mp none
    have last := ended.resolve_left (List.cons_ne_nil _ _)
    exact absurd (Option.some.inj last) notFeed
  | case5 c rest notFeed notReturn line others split ih =>
    have followed := ih ended.of_cons
    rw [split, List.cons_append] at followed
    rw [List.cons_append, List.cons_append]
    refine lines_cons_of_lines notFeed ?_ followed
    rintro rfl feed
    cases rest with
    | nil => simp [lines] at split
    | cons next rest => exact notReturn rest rfl (by rw [Option.some.inj feed])

end Text

namespace Outline

theorem rowsAt_shifted (depth count lines : Nat) (outline : Outline) :
    rowsAt depth (outline.shifted count lines) =
      (rowsAt depth outline).map (Row.shifted count lines) := by
  induction outline using induction generalizing depth with
  | nil => simp [shifted]
  | cons text number sourceLine children later nested beside =>
    simp only [shifted, Node.shifted, rowsAt_cons, nested, beside, List.map_cons, List.map_append,
      Row.shifted]

/-- The lines of the second template are found behind those of the first. -/
theorem visibleLines_append {first : Text} (ended : first.IsEnded) (second : Text) :
    visibleLines (first ++ second) =
      visibleLines first ++
        (visibleLines second).map (Prod.map id (· + first.lines.length)) := by
  rw [visibleLines, Text.lines_append_of_isEnded ended, List.zipIdx_append, List.filter_append,
    Nat.add_comm, ← List.map_snd_add_zipIdx_eq_zipIdx, List.filter_map]
  rfl

section Units

/-- No line that is not blank is indented. -/
def IsFlat (source : Text) : Prop :=
  ∀ line ∈ visibleLines source, width line.1 = 0

variable {first second : Text}

private theorem find?_of_isFlat {source : Text} (flat : IsFlat source) :
    ((visibleLines source).map (width ·.1)).find? (0 < ·) = none := by
  rw [List.find?_eq_none]
  intro wide member
  obtain ⟨line, visible, rfl⟩ := List.mem_map.mp member
  simp [flat line visible]

/-- The first indented line of both templates is that of the first one, if this is indented. -/
theorem unit_append (ended : first.IsEnded) (second : Text) :
    unit (first ++ second) =
      ((((visibleLines first).map (width ·.1)).find? (0 < ·)).or
        (((visibleLines second).map (width ·.1)).find? (0 < ·))).getD 1 := by
  rw [unit_eq_find?, visibleLines_append ended, List.map_append, List.find?_append, List.map_map]
  rfl

/-- Both templates keep their unit, or have no use for one. -/
theorem unit_append_or_isFlat (ended : first.IsEnded)
    (agree : IsFlat first ∨ IsFlat second ∨ unit first = unit second) :
    (unit (first ++ second) = unit first ∨ IsFlat first) ∧
      (unit (first ++ second) = unit second ∨ IsFlat second) := by
  have whole := unit_append ended second
  have own := unit_eq_find? first
  rcases agree with flat | flat | same
  · rw [find?_of_isFlat flat, Option.none_or, ← unit_eq_find?] at whole
    exact ⟨.inr flat, .inl whole⟩
  · rw [find?_of_isFlat flat, Option.or_none, ← unit_eq_find?] at whole
    exact ⟨.inl whole, .inr flat⟩
  · have kept : unit (first ++ second) = unit first := by
      cases found : ((visibleLines first).map (width ·.1)).find? (0 < ·) with
      | none => rw [whole, found, Option.none_or, ← unit_eq_find?, same]
      | some wide => rw [whole, own, found, Option.some_or]
    exact ⟨.inl kept, .inl (kept.trans same)⟩

variable {source : Text} {other : Nat} (fits : other = unit source ∨ IsFlat source)
include fits

/-- Without indentation every unit gives the same depths. -/
theorem map_entry_of_fits :
    (visibleLines source).map (entry other) = (visibleLines source).map (entry (unit source)) := by
  rcases fits with rfl | flat
  · rfl
  · apply List.map_congr_left
    intro line visible
    simp only [entry, flat line visible, Nat.zero_div]

private theorem dvd_width_of_fits
    (even : ∀ line ∈ visibleLines source, unit source ∣ width line.1) :
    ∀ line ∈ visibleLines source, other ∣ width line.1 := by
  intro line visible
  rcases fits with rfl | flat
  · exact even line visible
  · rw [flat line visible]
    exact Nat.dvd_zero other

end Units

section Nesting

/-- What may start a template may follow any line. -/
theorem orphan?_of_top {entries : List Entry} (fine : orphan? 0 entries = none) (allowed : Nat) :
    orphan? allowed entries = none := by
  cases entries with
  | nil => rfl
  | cons entry later =>
    rw [orphan?] at fine ⊢
    split_ifs at fine with top
    rw [if_pos (by omega), fine]

/-- Entries that are well nested stay so before others that start at the top level. -/
theorem orphan?_append_of_top {allowed : Nat} {first second : List Entry}
    (fine : orphan? allowed first = none) (follows : orphan? 0 second = none) :
    orphan? allowed (first ++ second) = none := by
  induction first generalizing allowed with
  | nil => exact orphan?_of_top follows allowed
  | cons entry later ih =>
    rw [orphan?] at fine
    split_ifs at fine with fits
    rw [List.cons_append, orphan?, if_pos fits]
    exact ih fine

/-- An entry that stands `lines` further down. -/
def Entry.moved (lines : Nat) (entry : Entry) : Entry :=
  { entry with sourceLine := entry.sourceLine + lines }

private theorem orphan?_map_moved {lines allowed : Nat} {entries : List Entry}
    (fine : orphan? allowed entries = none) :
    orphan? allowed (entries.map (Entry.moved lines)) = none := by
  induction entries generalizing allowed with
  | nil => rfl
  | cons entry later ih =>
    rw [orphan?] at fine
    split_ifs at fine with fits
    rw [List.map_cons, orphan?, Entry.moved, if_pos fits]
    exact ih fine

private theorem numbered_map_moved (count lines start : Nat) (entries : List Entry) :
    numbered (start + count) (entries.map (Entry.moved lines)) =
      (numbered start entries).map (Row.shifted count lines) := by
  induction entries generalizing start with
  | nil => rfl
  | cons entry later ih =>
    have next : start + count + 1 = start + 1 + count := by omega
    rw [List.map_cons, numbered, numbered, List.map_cons, next, ih]
    rfl

end Nesting

/-- A template that is read fits its unit and is well nested. -/
theorem fine_of_parse {source : Text} {outline : Outline} (success : parse source = .ok outline) :
    (∀ line ∈ visibleLines source, unit source ∣ width line.1) ∧
      orphan? 0 ((visibleLines source).map (entry (unit source))) = none := by
  rcases even_or_first_uneven (unit source) (visibleLines source) with
    even | ⟨before, line, after, split, even, uneven⟩
  · have outcome := parse_of_even even
    rw [success] at outcome
    exact ⟨even, outcome⟩
  · rw [parse_of_uneven split even uneven] at success
    cases success

/-- The scanned lines of both templates are those of each. -/
theorem entries_append {first second : Text} (ended : first.IsEnded)
    (agree : IsFlat first ∨ IsFlat second ∨ unit first = unit second) :
    (visibleLines (first ++ second)).map (entry (unit (first ++ second))) =
      (visibleLines first).map (entry (unit first)) ++
        ((visibleLines second).map (entry (unit second))).map
          (Entry.moved first.lines.length) := by
  obtain ⟨fits, otherFits⟩ := unit_append_or_isFlat ended agree
  rw [← map_entry_of_fits fits, ← map_entry_of_fits otherFits, visibleLines_append ended,
    List.map_append, List.map_map, List.map_map]
  rfl

/-- Reading is compositional over concatenation. Two templates that are read can be read as one, if
the first one ends with a line feed or is empty, and unless both are indented by different units.
The outline is that of the first template and behind it that of the second, whose numbers and
positions go on from those of the first. -/
theorem parse_append {first second : Text} {outline other : Outline}
    (read : parse first = .ok outline) (readOther : parse second = .ok other)
    (ended : first = [] ∨ first.getLast? = some '\n')
    (agree : (∀ line ∈ visibleLines first, width line.1 = 0) ∨
      (∀ line ∈ visibleLines second, width line.1 = 0) ∨ unit first = unit second) :
    parse (first ++ second) = .ok (outline ++ other.shifted outline.size first.lines.length) := by
  obtain ⟨even, fine⟩ := fine_of_parse read
  obtain ⟨otherEven, otherFine⟩ := fine_of_parse readOther
  obtain ⟨fits, otherFits⟩ := unit_append_or_isFlat ended agree
  have size : outline.size = ((visibleLines first).map (entry (unit first))).length := by
    rw [← length_numbered 0, ← rows_of_parse read, rows, length_rowsAt]
  apply parse_of_rows
  · rw [visibleLines_append ended]
    refine List.forall_mem_append.mpr ⟨dvd_width_of_fits fits even, ?_⟩
    intro line member
    obtain ⟨original, visible, rfl⟩ := List.mem_map.mp member
    exact dvd_width_of_fits otherFits otherEven original visible
  · rw [entries_append ended agree]
    exact orphan?_append_of_top fine (orphan?_map_moved otherFine)
  · have shift := numbered_map_moved outline.size first.lines.length 0
      ((visibleLines second).map (entry (unit second)))
    rw [entries_append ended agree, numbered_append, ← size, shift, ← rows_of_parse read,
      ← rows_of_parse readOther, rows, rowsAt_append, rowsAt_shifted]
    rfl

theorem parse_append_of_open_block :
    parse ("%ul\n  %li\n    a\n \n".toList ++ "%p\r\n\t\t= x\n".toList) =
      .ok [⟨"%ul".toList, 1, 1, [⟨"%li".toList, 2, 2, [⟨"a".toList, 3, 3, []⟩]⟩]⟩,
        ⟨"%p".toList, 4, 5, [⟨"= x".toList, 5, 6, []⟩]⟩] := by
  have first : parse "%ul\n  %li\n    a\n \n".toList =
      .ok [⟨"%ul".toList, 1, 1, [⟨"%li".toList, 2, 2, [⟨"a".toList, 3, 3, []⟩]⟩]⟩] := by cbv
  have second : parse "%p\r\n\t\t= x\n".toList =
      .ok [⟨"%p".toList, 1, 1, [⟨"= x".toList, 2, 2, []⟩]⟩] := by cbv
  exact parse_append first second (.inr (by decide)) (.inr (.inr (by decide)))

end Outline

end Haml
