import Haml.Text.Lines

/-! # Joining and splitting lines

Splitting a text gives parts without a line feed. Joining gives a text whose lines are the parts
again only if no part is empty, holds a line feed or ends with a carriage return: an empty last
part leaves no line, and a carriage return before a line feed belongs to the ending.
-/

namespace Haml.Text

/-- A text that stays one line, as it is, wherever it is joined with others. -/
structure IsLine (text : Text) : Prop where
  nonempty : text ≠ []
  unbroken : '\n' ∉ text
  ending : text.getLast? ≠ some '\r'

/-- What stands before a line belongs to the line. -/
theorem IsLine.append_left {start line : Text} (unbroken : '\n' ∉ start) (whole : IsLine line) :
    IsLine (start ++ line) where
  nonempty := by simp [whole.nonempty]
  unbroken := by simp [unbroken, whole.unbroken]
  ending := by
    rw [List.getLast?_append, List.getLast?_eq_some_getLast whole.nonempty, Option.some_or,
      ← List.getLast?_eq_some_getLast]
    exact whole.ending

theorem not_mem_intercalate {c : Char} {separator : Text} {parts : List Text}
    (between : c ∉ separator) (within : ∀ part ∈ parts, c ∉ part) :
    c ∉ List.intercalate separator parts := by
  induction parts with
  | nil => simp
  | cons part later ih =>
    obtain ⟨first, rest⟩ := List.forall_mem_cons.mp within
    cases later with
    | nil => simpa using first
    | cons next later =>
      rw [List.intercalate_cons_cons]
      simp [first, between, ih rest]

theorem not_mem_of_mem_lines {text line : Text} (member : line ∈ text.lines) : '\n' ∉ line := by
  fun_induction lines text generalizing line with
  | case1 => cases member
  | case2 rest ih =>
    rcases List.mem_cons.mp member with rfl | member
    · exact List.not_mem_nil
    · exact ih member
  | case3 rest ih =>
    rcases List.mem_cons.mp member with rfl | member
    · exact List.not_mem_nil
    · exact ih member
  | case4 c rest notFeed _ _ _ =>
    obtain rfl := List.mem_singleton.mp member
    simpa using fun feed => notFeed feed.symm
  | case5 c rest notFeed _ first later split ih =>
    rcases List.mem_cons.mp member with rfl | member
    · have unbroken := ih (split ▸ List.mem_cons_self ..)
      simpa using ⟨fun feed => notFeed feed.symm, unbroken⟩
    · exact ih (split ▸ List.mem_cons_of_mem _ member)

/-- A character that ends no line joins the line that follows. -/
theorem lines_cons_of_lines {c : Char} {rest line : Text} {later : List Text} (notFeed : c ≠ '\n')
    (notReturn : c = '\r' → rest.head? ≠ some '\n') (split : rest.lines = line :: later) :
    lines (c :: rest) = (c :: line) :: later := by
  rw [lines, split]
  · exact notFeed
  · rintro tail rfl rfl
    exact notReturn rfl rfl

/-- What stands before an ending is a line, unless a carriage return at its end belongs to the
ending. -/
theorem lines_append {line ending : Text} {later : List Text} (unbroken : '\n' ∉ line)
    (apart : line.getLast? = some '\r' → ending.head? ≠ some '\n')
    (ends : lines ending = [] :: later) : lines (line ++ ending) = line :: later := by
  induction line with
  | nil => exact ends
  | cons c tail ih =>
    simp only [List.mem_cons, not_or] at unbroken
    refine lines_cons_of_lines (Ne.symm unbroken.1) ?_ (ih unbroken.2 ?_)
    · rintro rfl
      cases tail with
      | nil => exact apart rfl
      | cons next tail =>
        intro feed
        exact unbroken.2 (Option.some.inj feed ▸ List.mem_cons_self ..)
    · cases tail with
      | nil => simp
      | cons next tail => rwa [List.getLast?_cons_cons] at apart

/-- What stands before a line feed is a line, unless the line feed has a carriage return. -/
theorem lines_append_feed {line : Text} (unbroken : '\n' ∉ line)
    (ending : line.getLast? ≠ some '\r') (rest : Text) :
    lines (line ++ '\n' :: rest) = line :: lines rest := by
  refine lines_append unbroken (fun last => absurd last ending) ?_
  rw [lines]

theorem lines_append_return_feed {line : Text} (unbroken : '\n' ∉ line) (rest : Text) :
    lines (line ++ '\r' :: '\n' :: rest) = line :: lines rest := by
  refine lines_append unbroken (fun _ => by simp) ?_
  rw [lines]

theorem lines_of_unbroken {text : Text} (unbroken : '\n' ∉ text) (nonempty : text ≠ []) :
    lines text = [text] := by
  induction text with
  | nil => exact absurd rfl nonempty
  | cons c tail ih =>
    simp only [List.mem_cons, not_or] at unbroken
    cases tail with
    | nil =>
      rw [lines, lines]
      · exact Ne.symm unbroken.1
      · intro rest _ empty
        cases empty
    | cons next tail =>
      refine lines_cons_of_lines (Ne.symm unbroken.1) ?_ (ih unbroken.2 (List.cons_ne_nil _ _))
      intro _ feed
      exact unbroken.2 (Option.some.inj feed ▸ List.mem_cons_self ..)

/-- Splitting takes apart what joining has put together. -/
theorem lines_joinLines {parts : List Text} (whole : ∀ part ∈ parts, IsLine part) :
    lines (joinLines parts) = parts := by
  induction parts with
  | nil => rw [joinLines, List.intercalate_nil, lines]
  | cons first rest ih =>
    have line := whole first (List.mem_cons_self ..)
    have later := ih (fun part member => whole part (List.mem_cons_of_mem _ member))
    cases rest with
    | nil =>
      rw [joinLines, List.intercalate_singleton]
      exact lines_of_unbroken line.unbroken line.nonempty
    | cons second rest =>
      rw [joinLines, List.intercalate_cons_cons, List.append_assoc, List.singleton_append,
        lines_append_feed line.unbroken line.ending]
      exact congrArg (first :: ·) later

@[simp]
theorem joinLines_nil : joinLines [] = [] :=
  List.intercalate_nil

@[simp]
theorem joinLines_singleton (line : Text) : joinLines [line] = line :=
  List.intercalate_singleton

theorem joinLines_append {first second : List Text} (firstNonempty : first ≠ [])
    (secondNonempty : second ≠ []) :
    joinLines (first ++ second) = joinLines first ++ '\n' :: joinLines second := by
  obtain ⟨next, later, rfl⟩ := List.exists_cons_of_ne_nil secondNonempty
  induction first with
  | nil => exact absurd rfl firstNonempty
  | cons line rest ih =>
    cases rest with
    | nil => simp [joinLines, List.intercalate_cons_cons]
    | cons other rest =>
      have tail := ih (List.cons_ne_nil _ _)
      simp only [joinLines, List.cons_append, List.intercalate_cons_cons,
        List.append_assoc] at tail ⊢
      rw [tail]

theorem joinLines_cons_eq_nil_iff (line : Text) (later : List Text) :
    joinLines (line :: later) = [] ↔ line = [] ∧ later = [] := by
  cases later with
  | nil => simp
  | cons next later => simp [joinLines, List.intercalate_cons_cons]

theorem joinLines_cons_ne_nil {line : Text} (nonempty : line ≠ []) (later : List Text) :
    joinLines (line :: later) ≠ [] := by
  simp [joinLines_cons_eq_nil_iff, nonempty]

/-- Lines that all end with a line feed have nothing behind the last one. -/
theorem joinLines_concat_nil (lines : List Text) :
    joinLines (lines ++ [[]]) = lines.flatMap (· ++ ['\n']) := by
  induction lines with
  | nil => rfl
  | cons line later ih =>
    rw [List.cons_append, ← List.singleton_append,
      joinLines_append (List.cons_ne_nil _ _) (by simp), ih, joinLines_singleton,
      List.flatMap_cons, List.append_assoc, List.singleton_append]

theorem splitOn_flatMap_feed {lines : List Text} (unbroken : ∀ line ∈ lines, '\n' ∉ line) :
    (lines.flatMap (· ++ ['\n'])).splitOn '\n' = lines ++ [[]] := by
  rw [← joinLines_concat_nil]
  refine List.splitOn_intercalate '\n' ?_ (by simp)
  exact List.forall_mem_append.mpr ⟨unbroken, List.forall_mem_singleton.mpr List.not_mem_nil⟩

/-- Joining blocks that are joined already is joining all of their lines. -/
theorem joinLines_map_joinLines {blocks : List (List Text)}
    (nonempty : ∀ block ∈ blocks, block ≠ []) :
    joinLines (blocks.map joinLines) = joinLines blocks.flatten := by
  induction blocks with
  | nil => rfl
  | cons block later ih =>
    obtain ⟨first, rest⟩ := List.forall_mem_cons.mp nonempty
    cases later with
    | nil => simp
    | cons next blocks =>
      have followed : (next :: blocks).flatten ≠ [] := by
        simpa using fun empty => absurd empty (rest next (List.mem_cons_self ..))
      rw [List.flatten_cons, joinLines_append first followed, ← ih rest]
      simp only [List.map_cons, joinLines, List.intercalate_cons_cons, List.append_assoc,
        List.singleton_append]

/-- A block that is joined already may stand among other lines. -/
theorem joinLines_splice {block : List Text} (nonempty : block ≠ []) (before after : List Text) :
    joinLines (before ++ joinLines block :: after) = joinLines (before ++ (block ++ after)) := by
  have atFront : joinLines (joinLines block :: after) = joinLines (block ++ after) := by
    cases after with
    | nil => simp
    | cons next later =>
      rw [joinLines_append nonempty (List.cons_ne_nil _ _), ← List.singleton_append,
        joinLines_append (List.cons_ne_nil _ _) (List.cons_ne_nil _ _), joinLines_singleton]
  cases before with
  | nil => exact atFront
  | cons first rest =>
    rw [joinLines_append (List.cons_ne_nil _ _) (List.cons_ne_nil _ _), atFront,
      ← joinLines_append (List.cons_ne_nil _ _) (by simp [nonempty])]

end Haml.Text
