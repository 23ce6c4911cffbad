import Haml.Proofs.Outline.Rows

/-! # Well-nested templates

A template is read exactly when the width of every line is a whole number of units, the first line
is not indented, and every other line is at most one level deeper than the line before it. The
error names the first line whose width does not fit, also where a line before it is nested too
deep; only where all widths fit does it name the first line that is nested too deep.
-/

namespace Haml.Outline

open Indentation

/-- How deep a line may be that follows the given lines: one level under the last of them, and
`first` where there are none. -/
def allowance (unit first : Nat) (before : List (Text × Nat)) : Nat :=
  match before.getLast? with
  | none => first
  | some (line, _) => width line / unit + 1

/-- Every line is as deep as the lines before it allow, and the first one is at most `first`
levels deep. -/
def WellNested (unit first : Nat) (lines : List (Text × Nat)) : Prop :=
  ∀ before line position after, lines = before ++ (line, position) :: after →
    width line / unit ≤ allowance unit first before

theorem allowance_cons (unit first : Nat) (line : Text × Nat) (later : List (Text × Nat)) :
    allowance unit first (line :: later) = allowance unit (width line.1 / unit + 1) later := by
  cases later with
  | nil => rfl
  | cons next rest => rw [allowance, List.getLast?_cons_cons, allowance, List.getLast?_cons]

theorem wellNested_nil (unit first : Nat) : WellNested unit first [] := by
  intro before line position after split
  simp at split

theorem wellNested_cons (unit first : Nat) (line : Text × Nat) (later : List (Text × Nat)) :
    WellNested unit first (line :: later) ↔
      width line.1 / unit ≤ first ∧ WellNested unit (width line.1 / unit + 1) later := by
  constructor
  · intro nested
    refine ⟨nested [] line.1 line.2 later rfl, ?_⟩
    rintro before other position after rfl
    rw [← allowance_cons unit first]
    exact nested (line :: before) other position after rfl
  · rintro ⟨fits, nested⟩ before other position after split
    cases before with
    | nil =>
      obtain ⟨rfl, rfl⟩ := List.cons.inj split
      exact fits
    | cons same rest =>
      obtain ⟨rfl, rfl⟩ := List.cons.inj split
      rw [allowance_cons]
      exact nested rest other position after rfl

/-- Grouping finds no fault exactly where the lines are well nested. -/
theorem orphan?_eq_none_iff (unit first : Nat) (lines : List (Text × Nat)) :
    orphan? first (lines.map (entry unit)) = none ↔ WellNested unit first lines := by
  induction lines generalizing first with
  | nil => simpa [orphan?] using wellNested_nil unit first
  | cons line later ih =>
    rw [wellNested_cons, List.map_cons, orphan?]
    split_ifs with fits
    · exact (ih _).trans (and_iff_right fits).symm
    · exact iff_of_false (by simp) (fun nested => fits nested.1)

/-- Otherwise it finds the first line that is too deep, and what depth was allowed there. -/
theorem orphan?_eq_some_iff (unit first : Nat) (lines : List (Text × Nat))
    (error : Indentation.Error) :
    orphan? first (lines.map (entry unit)) = some error ↔
      ∃ before line position after, lines = before ++ (line, position) :: after ∧
        WellNested unit first before ∧ allowance unit first before < width line / unit ∧
        error = ⟨position, .orphan (width line / unit) (allowance unit first before)⟩ := by
  induction lines generalizing first with
  | nil => simp [orphan?]
  | cons line later ih =>
    rw [List.map_cons, orphan?]
    split_ifs with fits
    · rw [ih]
      constructor
      · rintro ⟨before, other, position, after, rfl, nested, deep, rfl⟩
        refine ⟨line :: before, other, position, after, rfl, ?_, ?_, ?_⟩
        · exact (wellNested_cons unit first line before).mpr ⟨fits, nested⟩
        · rwa [allowance_cons]
        · rw [allowance_cons]
          rfl
      · rintro ⟨before, other, position, after, split, nested, deep, rfl⟩
        cases before with
        | nil =>
          obtain ⟨rfl, rfl⟩ := List.cons.inj split
          exact absurd fits (Nat.not_le_of_lt deep)
        | cons same rest =>
          obtain ⟨rfl, rfl⟩ := List.cons.inj split
          rw [allowance_cons] at deep ⊢
          have within := ((wellNested_cons _ _ _ _).mp nested).2
          exact ⟨rest, other, position, after, rfl, within, deep, rfl⟩
    · constructor
      · intro found
        obtain rfl := Option.some.inj found
        have deep := Nat.lt_of_not_le fits
        exact ⟨[], line.1, line.2, later, rfl, wellNested_nil unit first, deep, rfl⟩
      · rintro ⟨before, other, position, after, split, nested, deep, rfl⟩
        cases before with
        | nil =>
          obtain ⟨rfl, rfl⟩ := List.cons.inj split
          rfl
        | cons same rest =>
          obtain ⟨rfl, rfl⟩ := List.cons.inj split
          exact absurd ((wellNested_cons _ _ _ _).mp nested).1 fits

/-- Where all widths fit, reading is refused for the first line that is too deep. -/
theorem parse_of_even {source : Text}
    (even : ∀ line ∈ visibleLines source, unit source ∣ width line.1) :
    match parse source with
    | .ok _ => orphan? 0 ((visibleLines source).map (entry (unit source))) = none
    | .error error => orphan? 0 ((visibleLines source).map (entry (unit source))) = some error := by
  have scanned := (scan_eq_ok_iff source _).mpr ⟨even, rfl⟩
  have settled := group_settles 0 0 ((visibleLines source).map (entry (unit source)))
    (fun _ _ => Nat.zero_le _)
  rw [parse_of_scan_ok scanned]
  cases grouped : group 0 0 [] [] ((visibleLines source).map (entry (unit source))) with
  | error error =>
    rw [grouped] at settled
    exact settled
  | ok reached =>
    rw [grouped] at settled
    exact settled.1

/-- Where some width does not fit, reading is refused for the first such line. -/
theorem parse_of_uneven {source : Text} {before after : List (Text × Nat)} {line : Text × Nat}
    (split : visibleLines source = before ++ line :: after)
    (even : ∀ other ∈ before, unit source ∣ width other.1) (uneven : ¬ unit source ∣ width line.1) :
    parse source = .error ⟨line.2, .uneven (width line.1) (unit source)⟩ := by
  apply parse_of_scan_error
  rw [scan, split]
  exact mapM_scanLine_of_uneven (unit_pos source) even uneven

theorem parse_of_orphan {source : Text} {error : Indentation.Error}
    (even : ∀ line ∈ visibleLines source, unit source ∣ width line.1)
    (found : orphan? 0 ((visibleLines source).map (entry (unit source))) = some error) :
    parse source = .error error := by
  have outcome := parse_of_even even
  cases result : parse source with
  | error other =>
    rw [result] at outcome
    rw [Option.some.inj (outcome.symm.trans found)]
  | ok outline =>
    rw [result] at outcome
    cases outcome.symm.trans found

theorem exists_parse_of_fine {source : Text}
    (even : ∀ line ∈ visibleLines source, unit source ∣ width line.1)
    (fine : orphan? 0 ((visibleLines source).map (entry (unit source))) = none) :
    ∃ outline, parse source = .ok outline := by
  have outcome := parse_of_even even
  cases result : parse source with
  | error error =>
    rw [result] at outcome
    cases fine.symm.trans outcome
  | ok outline => exact ⟨outline, rfl⟩

/-- Where all widths fit and no line is too deep, reading gives the outline with the rows of the
lines. -/
theorem parse_of_rows {source : Text} {outline : Outline}
    (even : ∀ line ∈ visibleLines source, unit source ∣ width line.1)
    (fine : orphan? 0 ((visibleLines source).map (entry (unit source))) = none)
    (rows : outline.rows = numbered 0 ((visibleLines source).map (entry (unit source)))) :
    parse source = .ok outline := by
  obtain ⟨read, success⟩ := exists_parse_of_fine even fine
  rw [success, rowsAt_injective 0 ((rows_of_parse success).trans rows.symm)]

/-- Exactly the well-nested templates are read, and the error blames the right line. Among the
lines that are not blank, this is the first one whose width is not a whole number of units. Where
there is none, it is the first one that is more than one level deeper than the line before it, or
indented at all if no line is before it; the error then names its depth and the depth at which it
has no parent. -/
theorem parse_outcome (source : Text) :
    ((∃ outline, parse source = .ok outline) ↔
      (∀ line ∈ visibleLines source, unit source ∣ width line.1) ∧
        WellNested (unit source) 0 (visibleLines source)) ∧
    ∀ error, parse source = .error error ↔
      (∃ before line position after, visibleLines source = before ++ (line, position) :: after ∧
        (∀ other ∈ before, unit source ∣ width other.1) ∧ ¬ unit source ∣ width line ∧
        error = ⟨position, .uneven (width line) (unit source)⟩) ∨
      ((∀ line ∈ visibleLines source, unit source ∣ width line.1) ∧
        ∃ before line position after depth expected,
          visibleLines source = before ++ (line, position) :: after ∧
          WellNested (unit source) 0 before ∧ depth = width line / unit source ∧
          expected = allowance (unit source) 0 before ∧ expected < depth ∧
          error = ⟨position, .orphan depth expected⟩ ∧
          error.message = s!"malformed indentation on line {position}: " ++
            s!"line is nested {depth} level(s) deep but has no parent line at depth {expected}") := by
  rcases even_or_first_uneven (unit source) (visibleLines source) with
    even | ⟨before, ⟨line, position⟩, after, split, even, uneven⟩
  · have outcome := parse_of_even even
    constructor
    · rw [and_iff_right even, ← orphan?_eq_none_iff]
      cases result : parse source <;> rw [result] at outcome <;> simp [outcome]
    · intro error
      have blamed : parse source = .error error ↔
          orphan? 0 ((visibleLines source).map (entry (unit source))) = some error := by
        cases result : parse source <;> rw [result] at outcome <;> simp [outcome]
      rw [blamed, orphan?_eq_some_iff]
      constructor
      · rintro ⟨before, line, position, after, split, nested, deep, rfl⟩
        exact .inr ⟨even, before, line, position, after, _, _, split, nested, rfl, rfl, deep, rfl,
          rfl⟩
      · rintro (⟨_, line, position, _, split, _, uneven, _⟩ |
          ⟨_, before, line, position, after, _, _, split, nested, rfl, rfl, deep, same, _⟩)
        · exact absurd (even (line, position) (by simp [split])) uneven
        · exact ⟨before, line, position, after, split, nested, deep, same⟩
  · have failed := parse_of_uneven split even uneven
    have odd : ¬ ∀ line ∈ visibleLines source, unit source ∣ width line.1 :=
      fun all => uneven (all _ (by simp [split]))
    constructor
    · rw [failed]
      exact iff_of_false (by simp) (fun read => odd read.1)
    · intro error
      constructor
      · intro same
        obtain rfl := Except.error.inj (failed.symm.trans same)
        exact .inl ⟨before, line, position, after, split, even, uneven, rfl⟩
      · rintro (⟨_, _, _, _, other, first, bad, rfl⟩ | ⟨all, _⟩)
        · exact parse_of_uneven other first bad
        · exact absurd all odd

/-- A width that does not fit is reported although a line before it is nested too deep. -/
example : parse "ul\n  li\n      a\n   p\n".toList = .error ⟨4, .uneven 3 2⟩ := by
  cbv

end Haml.Outline
