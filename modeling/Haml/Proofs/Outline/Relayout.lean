import Haml.Proofs.Outline.Nesting
import Mathlib.Data.List.Forall2

/-! # Layout that does not matter

A template may be laid out anew: all indentation widened by one factor, with spaces and tabs in any
mixture, other line endings, more or fewer blank lines. What is read from it stays the same. The
lines that are not blank keep their order and their content, and all their widths grow by the
factor. So does the unit, which is one of these widths unless no line is indented. Hence every line
fits the unit as before and keeps its depth, also in a template that is refused.
-/

namespace Haml

open Indentation

/-- What ends a line. -/
inductive Ending where
  | feed
  | returnFeed
  deriving DecidableEq, Repr

/-- The characters of an ending. -/
def Ending.text : Ending → Text
  | .feed => ['\n']
  | .returnFeed => ['\r', '\n']

/-- Lines with their endings as one text. -/
def Text.ofLines (layout : List (Text × Ending)) : Text :=
  layout.flatMap fun (line, ending) => line ++ ending.text

/-- The second layout arises from the lines of the first: visible lines are indented `factor` times
as far, and blank lines come and go. -/
inductive Relaid (factor : Nat) : List Text → List (Text × Ending) → Prop
  | nil : Relaid factor [] []
  /-- A visible line keeps what stands behind its indentation. -/
  | visible {line indent : Text} {ending : Ending} {lines : List Text}
      {layout : List (Text × Ending)} : line.allBlank = false →
      (∀ c ∈ indent, isIndent c = true) → indent.length = factor * width line →
      Relaid factor lines layout →
      Relaid factor (line :: lines) ((indent ++ content line, ending) :: layout)
  | inserted {blank : Text} {ending : Ending} {lines : List Text}
      {layout : List (Text × Ending)} : blank.allBlank = true → '\n' ∉ blank →
      Relaid factor lines layout → Relaid factor lines ((blank, ending) :: layout)
  | removed {blank : Text} {lines : List Text} {layout : List (Text × Ending)} :
      blank.allBlank = true → Relaid factor lines layout → Relaid factor (blank :: lines) layout

mutual

/-- A node without the physical positions of its lines. -/
def Node.unplaced (node : Node) : Node :=
  match node with
  | ⟨text, number, _, children⟩ => ⟨text, number, 0, Outline.unplaced children⟩

/-- An outline without the physical positions of its lines. -/
def Outline.unplaced : Outline → Outline
  | [] => []
  | node :: later => node.unplaced :: Outline.unplaced later

end

/-- A row without its physical position. -/
def Row.unplaced (row : Row) : Row :=
  { row with sourceLine := 0 }

/-- The fault after all widths have grown by the factor. -/
def Indentation.Fault.widened (factor : Nat) : Fault → Fault
  | .zeroUnit => .zeroUnit
  | .uneven width unit => .uneven (factor * width) (factor * unit)
  | .orphan depth expected => .orphan depth expected

namespace Outline

theorem rowsAt_unplaced (depth : Nat) (outline : Outline) :
    rowsAt depth outline.unplaced = (rowsAt depth outline).map Row.unplaced := by
  induction outline using induction generalizing depth with
  | nil => simp [unplaced]
  | cons text number sourceLine children later nested beside =>
    simp only [unplaced, Node.unplaced, rowsAt_cons, nested, beside, List.map_cons, List.map_append,
      Row.unplaced]

section Lines

/-- The second line is the first one, `factor` times as far indented. -/
def Widened (factor : Nat) (line other : Text × Nat) : Prop :=
  content other.1 = content line.1 ∧ width other.1 = factor * width line.1

/-- A blank line leaves a blank line, whatever ends it. -/
theorem exists_blank_of_ending {blank : Text} (allBlank : blank.allBlank = true)
    (unbroken : '\n' ∉ blank) (ending : Ending) (rest : Text) :
    ∃ line : Text, line.allBlank = true ∧
      Text.lines (blank ++ ending.text ++ rest) = line :: Text.lines rest := by
  cases ending with
  | returnFeed =>
    refine ⟨blank, allBlank, ?_⟩
    rw [Ending.text, List.append_assoc]
    exact Text.lines_append_return_feed unbroken rest
  | feed =>
    rw [Ending.text, List.append_assoc]
    by_cases ending : blank.getLast? = some '\r'
    · -- The carriage return goes to the ending, and blank characters are left.
      obtain ⟨start, rfl⟩ := List.getLast?_eq_some_iff.mp ending
      rw [Text.allBlank, List.all_append, Bool.and_eq_true] at allBlank
      refine ⟨start, allBlank.1, ?_⟩
      rw [List.append_assoc]
      exact Text.lines_append_return_feed (fun feed => unbroken (List.mem_append_left _ feed)) rest
    · exact ⟨blank, allBlank, Text.lines_append_feed unbroken ending rest⟩

private theorem lines_append_ending {line : Text} (unbroken : '\n' ∉ line)
    (noReturn : line.getLast? ≠ some '\r') (ending : Ending) (rest : Text) :
    Text.lines (line ++ ending.text ++ rest) = line :: Text.lines rest := by
  rw [List.append_assoc]
  cases ending with
  | feed => exact Text.lines_append_feed unbroken noReturn rest
  | returnFeed => exact Text.lines_append_return_feed unbroken rest

/-- The visible lines among the given ones, with positions that count from `start`. -/
def visibleFrom (start : Nat) (lines : List Text) : List (Text × Nat) :=
  (lines.zipIdx start).filter fun (line, _) => !line.allBlank

private theorem visibleFrom_cons_of_visible {line : Text} (visible : line.allBlank = false)
    (start : Nat) (later : List Text) :
    visibleFrom start (line :: later) = (line, start) :: visibleFrom (start + 1) later := by
  simp [visibleFrom, List.zipIdx_cons, visible]

private theorem visibleFrom_cons_of_blank {line : Text} (blank : line.allBlank = true) (start : Nat)
    (later : List Text) : visibleFrom start (line :: later) = visibleFrom (start + 1) later := by
  simp [visibleFrom, List.zipIdx_cons, blank]

/-- A visible line stays one line that ends as it did, however it is indented. -/
theorem isLine_relaid {line indent : Text} (visible : line.allBlank = false)
    (unbroken : '\n' ∉ line) (noReturn : line.getLast? ≠ some '\r')
    (indents : ∀ c ∈ indent, isIndent c = true) : (indent ++ content line).IsLine := by
  have shown := allBlank_content visible
  have behind : (content line).IsLine := by
    have nonempty : content line ≠ [] := by
      intro empty
      simp [empty, Text.allBlank] at shown
    refine ⟨nonempty, fun feed => unbroken ((List.dropWhile_sublist isIndent).mem feed), ?_⟩
    intro last
    apply noReturn
    rw [← List.takeWhile_append_dropWhile (p := isIndent) (l := line), List.getLast?_append]
    exact (congrArg (Option.or · _) last).trans rfl
  exact isLine_indented indents behind

/-- Laying out anew keeps the visible lines in order. -/
theorem visibleFrom_relaid {factor : Nat} {lines : List Text} {layout : List (Text × Ending)}
    (relaid : Relaid factor lines layout)
    (whole : ∀ line ∈ lines, '\n' ∉ line ∧ line.getLast? ≠ some '\r') (start other : Nat) :
    List.Forall₂ (Widened factor)
      (visibleFrom start (Text.ofLines (lines.map (·, .feed))).lines)
      (visibleFrom other (Text.ofLines layout).lines) := by
  -- A blank line that comes or goes shifts the positions in one layout only, so they count from
  -- two places.
  induction relaid generalizing start other with
  | nil => simp [Text.ofLines, Text.lines, visibleFrom]
  | @visible line indent ending lines layout visible indents wide relaid ih =>
    obtain ⟨⟨unbroken, noReturn⟩, rest⟩ := List.forall_mem_cons.mp whole
    have relaidLine := isLine_relaid visible unbroken noReturn indents
    obtain ⟨width, behind⟩ := indented_append indents (fun c first => content_head line first)
    have shown := allBlank_indented indent (allBlank_content visible)
    simp only [Text.ofLines, List.map_cons, List.flatMap_cons]
    rw [lines_append_ending unbroken noReturn, visibleFrom_cons_of_visible visible,
      lines_append_ending relaidLine.unbroken relaidLine.ending, visibleFrom_cons_of_visible shown]
    exact .cons ⟨behind, width.trans wide⟩ (ih rest _ _)
  | @inserted blank ending lines layout allBlank unbroken relaid ih =>
    obtain ⟨line, left, split⟩ :=
      exists_blank_of_ending allBlank unbroken ending (Text.ofLines layout)
    have after : Text.ofLines ((blank, ending) :: layout) =
        blank ++ ending.text ++ Text.ofLines layout := rfl
    rw [after, split, visibleFrom_cons_of_blank left]
    exact ih whole _ _
  | @removed blank lines layout allBlank relaid ih =>
    obtain ⟨⟨unbroken, noReturn⟩, rest⟩ := List.forall_mem_cons.mp whole
    simp only [Text.ofLines, List.map_cons, List.flatMap_cons]
    rw [lines_append_ending unbroken noReturn, visibleFrom_cons_of_blank allBlank]
    exact ih rest _ _

end Lines

section Outcome

variable {factor : Nat}

/-- The first width that is not zero grows with the others, if there is one. -/
theorem find?_widened (positive : 1 ≤ factor) {lines others : List (Text × Nat)}
    (widened : List.Forall₂ (Widened factor) lines others) :
    (∀ line ∈ lines, width line.1 = 0) ∨
      ((others.map (width ·.1)).find? (0 < ·)).getD 1 =
        factor * ((lines.map (width ·.1)).find? (0 < ·)).getD 1 := by
  induction widened with
  | nil => exact .inl (by simp)
  | @cons line other lines others first later ih =>
    by_cases flush : width line.1 = 0
    · have otherFlush : width other.1 = 0 := by rw [first.2, flush, Nat.mul_zero]
      simpa [flush, otherFlush] using ih
    · have indented := Nat.pos_of_ne_zero flush
      have otherIndented : 0 < width other.1 := by
        rw [first.2]
        exact Nat.mul_pos positive indented
      right
      simp only [List.map_cons, List.find?_cons, indented, otherIndented, decide_true,
        Option.getD_some]
      exact first.2

/-- How a line fits its unit in the two layouts: it fits both units or none, and is as deep under
the one as under the other; and where it fits none, the two units differ by the factor. -/
structure Aligned (factor here there : Nat) (line other : Text × Nat) : Prop where
  content : content other.1 = content line.1
  fits : there ∣ width other.1 ↔ here ∣ width line.1
  depth : width other.1 / there = width line.1 / here
  uneven : ¬ here ∣ width line.1 → width other.1 = factor * width line.1 ∧ there = factor * here

private theorem forall₂_aligned (positive : 1 ≤ factor) {source other : Text}
    (widened : List.Forall₂ (Widened factor) (visibleLines source) (visibleLines other)) :
    List.Forall₂ (Aligned factor (unit source) (unit other)) (visibleLines source)
      (visibleLines other) := by
  have units := find?_widened positive widened
  rw [← unit_eq_find?, ← unit_eq_find?] at units
  rcases units with flush | scaled
  · -- No line is indented, so every unit fits.
    have both := (List.forall₂_and_left _ _).mpr ⟨flush, widened⟩
    refine both.imp fun line other ⟨zero, same⟩ => ?_
    have otherZero : width other.1 = 0 := by rw [same.2, zero, Nat.mul_zero]
    refine ⟨same.1, by simp [zero, otherZero], by simp [zero, otherZero], ?_⟩
    intro uneven
    exact absurd (zero ▸ Nat.dvd_zero _) uneven
  · refine widened.imp fun line other same => ?_
    refine ⟨same.1, ?_, ?_, fun _ => ⟨same.2, scaled⟩⟩
    · rw [same.2, scaled]
      exact Nat.mul_dvd_mul_iff_left positive
    · rw [same.2, scaled]
      exact Nat.mul_div_mul_left _ _ positive

/-- The two positions are those of one visible line in the two layouts. -/
def NamesSame (lines others : List (Text × Nat)) (position place : Nat) : Prop :=
  ∃ (index : Nat) (line other : Text), lines[index]? = some (line, position) ∧
    others[index]? = some (other, place) ∧ content other = content line

variable {here there : Nat} {lines others : List (Text × Nat)}

theorem NamesSame.head {line other : Text × Nat} (aligned : Aligned factor here there line other)
    (lines others : List (Text × Nat)) :
    NamesSame (line :: lines) (other :: others) line.2 other.2 :=
  ⟨0, line.1, other.1, rfl, rfl, aligned.content⟩

theorem NamesSame.cons {position place : Nat} (same : NamesSame lines others position place)
    (line other : Text × Nat) : NamesSame (line :: lines) (other :: others) position place := by
  obtain ⟨index, text, relaid, first, second, content⟩ := same
  exact ⟨index + 1, text, relaid, by simpa using first, by simpa using second, content⟩

/-- All widths fit in both layouts, or the same line is the first one that does not. -/
theorem even_or_first_uneven_aligned
    (aligned : List.Forall₂ (Aligned factor here there) lines others) :
    ((∀ line ∈ lines, here ∣ width line.1) ∧ ∀ other ∈ others, there ∣ width other.1) ∨
      ∃ before line after first other later, lines = before ++ line :: after ∧
        others = first ++ other :: later ∧ (∀ line ∈ before, here ∣ width line.1) ∧
        (∀ other ∈ first, there ∣ width other.1) ∧ ¬ here ∣ width line.1 ∧
        Aligned factor here there line other ∧ NamesSame lines others line.2 other.2 := by
  induction aligned with
  | nil => exact .inl (by simp)
  | @cons line other lines others head tail ih =>
    by_cases even : here ∣ width line.1
    · have otherEven := head.fits.mpr even
      rcases ih with ⟨rest, otherRest⟩ |
        ⟨before, bad, after, first, otherBad, later, rfl, rfl, fits, otherFits, uneven, same, named⟩
      · left
        exact ⟨List.forall_mem_cons.mpr ⟨even, rest⟩,
          List.forall_mem_cons.mpr ⟨otherEven, otherRest⟩⟩
      · right
        exact ⟨line :: before, bad, after, other :: first, otherBad, later, rfl, rfl,
          List.forall_mem_cons.mpr ⟨even, fits⟩, List.forall_mem_cons.mpr ⟨otherEven, otherFits⟩,
          uneven, same, named.cons line other⟩
    · right
      exact ⟨[], line, lines, [], other, others, rfl, rfl, by simp, by simp, even, head,
        .head head lines others⟩

/-- No line is too deep in either layout, or the same line is the first one that is. -/
theorem orphan?_aligned (aligned : List.Forall₂ (Aligned factor here there) lines others)
    (allowed : Nat) :
    (orphan? allowed (lines.map (entry here)) = none ∧
        orphan? allowed (others.map (entry there)) = none) ∨
      ∃ position place depth expected,
        orphan? allowed (lines.map (entry here)) = some ⟨position, .orphan depth expected⟩ ∧
        orphan? allowed (others.map (entry there)) = some ⟨place, .orphan depth expected⟩ ∧
        NamesSame lines others position place := by
  induction aligned generalizing allowed with
  | nil => exact .inl ⟨rfl, rfl⟩
  | @cons line other lines others head tail ih =>
    simp only [List.map_cons, orphan?, entry, head.depth]
    by_cases fits : width line.1 / here ≤ allowed
    · simp only [fits, ↓reduceIte]
      rcases ih (width line.1 / here + 1) with
        fine | ⟨position, place, depth, expected, first, second, named⟩
      · exact .inl fine
      · exact .inr ⟨position, place, depth, expected, first, second, named.cons line other⟩
    · simp only [fits, ↓reduceIte]
      exact .inr ⟨line.2, other.2, _, _, rfl, rfl, .head head lines others⟩

/-- The rows of aligned lines differ in their physical positions only. -/
theorem numbered_aligned (aligned : List.Forall₂ (Aligned factor here there) lines others)
    (count : Nat) :
    (numbered count (others.map (entry there))).map Row.unplaced =
      (numbered count (lines.map (entry here))).map Row.unplaced := by
  induction aligned generalizing count with
  | nil => rfl
  | @cons line other lines others head tail ih =>
    simp only [List.map_cons, numbered, entry, Row.unplaced, head.depth, head.content]
    exact congrArg _ (ih (count + 1))

end Outcome

/-- Layout that should not matter does not matter. Either both templates are read, and the outlines
differ in physical positions only, or both are refused, for the same visible line and with the same
fault, but for the factor between the widths that it names. -/
theorem parse_relaid {factor : Nat} (positive : 1 ≤ factor) {lines : List Text}
    {layout : List (Text × Ending)} (relaid : Relaid factor lines layout)
    (whole : ∀ line ∈ lines, '\n' ∉ line ∧ line.getLast? ≠ some '\r') :
    match parse (Text.ofLines (lines.map (·, .feed))), parse (Text.ofLines layout) with
    | .ok outline, .ok other => other.unplaced = outline.unplaced
    | .error error, .error other =>
      NamesSame (visibleLines (Text.ofLines (lines.map (·, .feed))))
          (visibleLines (Text.ofLines layout)) error.line other.line ∧
        error.fault ≠ .zeroUnit ∧ other.fault = error.fault.widened factor
    | _, _ => False := by
  have aligned := forall₂_aligned positive (visibleFrom_relaid relaid whole 1 1)
  generalize Text.ofLines (lines.map (·, .feed)) = source at aligned ⊢
  generalize Text.ofLines layout = other at aligned ⊢
  rcases even_or_first_uneven_aligned aligned with ⟨even, otherEven⟩ |
    ⟨before, bad, after, first, otherBad, later, split, otherSplit, fits, otherFits, uneven, same,
      named⟩
  · rcases orphan?_aligned aligned 0 with
      ⟨fine, otherFine⟩ | ⟨position, place, depth, expected, found, otherFound, named⟩
    · obtain ⟨outline, read⟩ := exists_parse_of_fine even fine
      obtain ⟨otherOutline, otherRead⟩ := exists_parse_of_fine otherEven otherFine
      rw [read, otherRead]
      apply rowsAt_injective 0
      rw [rowsAt_unplaced, rowsAt_unplaced, ← rows, ← rows, rows_of_parse read,
        rows_of_parse otherRead]
      exact numbered_aligned aligned 0
    · rw [parse_of_orphan even found, parse_of_orphan otherEven otherFound]
      exact ⟨named, by simp, rfl⟩
  · have otherUneven := fun even => uneven (same.fits.mp even)
    obtain ⟨wide, scaled⟩ := same.uneven uneven
    rw [parse_of_uneven split fits uneven, parse_of_uneven otherSplit otherFits otherUneven]
    exact ⟨named, by simp, by rw [Fault.widened, wide, scaled]⟩

theorem parse_relaid_of_uneven_line :
    ∃ other, parse (Text.ofLines [("\t\r".toList, .feed), ("%ul".toList, .returnFeed),
        (" \t \t%li".toList, .feed), ([], .returnFeed), ("\t\t\t\t\t\t%p".toList, .returnFeed)]) =
          .error other ∧
      NamesSame (visibleLines "%ul\n\n  %li\n   %p\n".toList)
        (visibleLines (Text.ofLines [("\t\r".toList, .feed), ("%ul".toList, .returnFeed),
          (" \t \t%li".toList, .feed), ([], .returnFeed), ("\t\t\t\t\t\t%p".toList, .returnFeed)]))
        4 other.line ∧
      other.fault = .uneven 6 4 := by
  have relaid : Relaid 2 ["%ul".toList, [], "  %li".toList, "   %p".toList]
      [("\t\r".toList, .feed), ("%ul".toList, .returnFeed), (" \t \t%li".toList, .feed),
        ([], .returnFeed), ("\t\t\t\t\t\t%p".toList, .returnFeed)] :=
    .inserted (by decide) (by decide) <|
      @Relaid.visible 2 "%ul".toList [] _ _ _ (by decide) (by simp) (by decide) <|
      .removed (by decide) <|
      @Relaid.visible 2 "  %li".toList " \t \t".toList _ _ _ (by decide) (by simp [isIndent])
        (by decide) <|
      .inserted (by decide) (by decide) <|
      @Relaid.visible 2 "   %p".toList "\t\t\t\t\t\t".toList _ _ _ (by decide)
        (by simp [isIndent]) (by decide) .nil
  have alike := parse_relaid (by decide) relaid (by decide)
  have failed : parse (Text.ofLines (["%ul".toList, [], "  %li".toList, "   %p".toList].map
      (·, .feed))) = .error ⟨4, .uneven 3 2⟩ := by cbv
  rw [failed] at alike
  split at alike
  · next same _ => cases same
  · next error other same there =>
    obtain rfl := Except.error.inj same
    exact ⟨other, there, alike.1, alike.2.2⟩
  · exact alike.elim

end Outline

end Haml
