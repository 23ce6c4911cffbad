import Haml.Proofs.Element.Reading
import Haml.Proofs.Outline.Rows
import Haml.Proofs.Script.Listing
import Haml.Proofs.Script.Literal

/-! # The layout of a program

Code of a template goes into the program in three places: expressions, statements and attribute
blocks. As long as it holds no line feed and no statement is blank, every line of the listing is
a line of the program, behind the indentation of the statements around it.
-/

namespace Haml

/-- No code that computes a part of the markup holds a line feed. -/
def Markup.Unbroken (markup : Markup) : Prop :=
  ∀ source, Piece.code source ∈ markup.pieces → '\n' ∉ source

namespace Markup.Unbroken

theorem pushLiteral {markup : Markup} (unbroken : markup.Unbroken) (text : Text) :
    (markup.pushLiteral text).Unbroken := by
  intro source member
  apply unbroken source
  rw [Markup.pushLiteral] at member
  split at member
  · exact member
  · split at member
    · simp only [List.mem_append, List.mem_singleton, reduceCtorEq, or_false] at member
      exact (List.dropLast_sublist _).mem member
    · simpa using member

theorem literal (text : Text) : (Markup.literal text).Unbroken :=
  pushLiteral (fun source member => by cases member) text

theorem pushCode {markup : Markup} (unbroken : markup.Unbroken) {source : Text}
    (flat : '\n' ∉ source) : (markup.pushCode source).Unbroken := by
  intro other member
  simp only [Markup.pushCode, List.mem_append, List.mem_singleton, Piece.code.injEq] at member
  rcases member with member | rfl
  · exact unbroken other member
  · exact flat

end Markup.Unbroken

namespace Script

/-- No name that a program uses, nor its indentation, holds a line feed. -/
structure Options.Unbroken (script : Options) : Prop where
  output : '\n' ∉ script.output
  line : '\n' ∉ script.line
  helper : '\n' ∉ script.helper
  indent : '\n' ∉ script.indent

theorem Options.standard_unbroken : standard.Unbroken :=
  ⟨by decide, by decide, by decide, by decide⟩

/-- The code that an element line gives to the program holds no line feed. -/
structure FlatCode (element : Element) : Prop where
  attributes : ∀ block ∈ element.attributes, '\n' ∉ block
  expression : ∀ source, element.inline = some (.expression source) → '\n' ∉ source

/-- The line gives no code that breaks a line of the program or leaves one empty. Text that is shown
may hold anything, as it stands in literals. -/
def KeepsLines (options : Haml.Options) (text : Text) : Prop :=
  match LineKind.of options.doctypes text with
  | .text | .doctype => True
  | .expression => '\n' ∉ text
  | .statement => '\n' ∉ text ∧ Text.allBlank (text.dropOne '-') = false
  | .element => ∀ element, Element.parse options.selfClosing text = .ok element → FlatCode element

/-- A physical line keeps to its lines unless it is a blank statement. -/
theorem keepsLines_of_unbroken {options : Haml.Options} {text : Text} (unbroken : '\n' ∉ text)
    (shown : LineKind.of options.doctypes text = .statement →
      Text.allBlank (text.dropOne '-') = false) :
    KeepsLines options text := by
  rw [KeepsLines]
  cases kind : LineKind.of options.doctypes text with
  | text => trivial
  | doctype => trivial
  | expression => exact unbroken
  | statement => exact ⟨unbroken, shown kind⟩
  | element =>
    intro element read
    have characters := Element.parse_forall (P := (· ≠ '\n'))
      (fun c member same => unbroken (same ▸ member)) read
    exact ⟨fun block member feed => characters.1 block member _ feed rfl,
      fun source same feed => characters.2 source same _ feed rfl⟩

private theorem feed_not_mem_sum {markup : Markup} (unbroken : markup.Unbroken) :
    '\n' ∉ sum markup := by
  rw [sum]
  split
  · exact feed_not_mem_literal []
  · refine Text.not_mem_intercalate (by decide) ?_
    intro part member
    obtain ⟨piece, present, rfl⟩ := List.mem_map.mp member
    cases piece with
    | literal text => exact feed_not_mem_literal text
    | code source => exact unbroken source present

private theorem feed_not_mem_object (fields : List (Text × Text)) : '\n' ∉ Text.object fields := by
  have field (pair : Text × Text) : '\n' ∉ Text.quoted pair.1 ++ ':' :: Text.quoted pair.2 := by
    simp [Text.feed_not_mem_quoted]
  refine List.not_mem_append (List.not_mem_cons_of_ne_of_not_mem (by decide) ?_) (by decide)
  apply Text.not_mem_intercalate (by decide)
  intro part member
  obtain ⟨pair, _, rfl⟩ := List.mem_map.mp member
  exact field pair

private theorem feed_not_mem_evaluation {source : Text} (flat : '\n' ∉ source) :
    '\n' ∉ evaluation source := by
  dsimp only [evaluation]
  split
  · exact feed_not_mem_literal []
  · have code : '\n' ∉ Text.trim (source.dropWhile fun c => c == '!' || c == '=') :=
      fun feed => flat ((List.dropWhile_sublist _).mem (Text.mem_of_mem_trim feed))
    simp [code]

theorem isLine_append {script : Options} (names : script.Unbroken) {value : Text}
    (flat : '\n' ∉ value) : Text.IsLine (append script value) := by
  refine Text.IsLine.append_left ?_ ⟨by decide, by decide, by decide⟩
  simp [names.output, flat]

private theorem isLine_lineMarker {script : Options} (names : script.Unbroken) (number : Nat) :
    Text.IsLine (lineMarker script number) := by
  have digits : '\n' ∉ Text.ofNat number := fun feed =>
    absurd (Nat.isDigit_of_mem_toDigits (by decide) (by decide) feed) (by decide)
  refine Text.IsLine.append_left ?_ ⟨by decide, by decide, by decide⟩
  simp [names.line, digits]

theorem tags_unbroken {script : Options} (names : script.Unbroken) {element : Element}
    (flat : FlatCode element) :
    ((dialect script).tags element).opening.Unbroken ∧
      (∀ body ∈ ((dialect script).tags element).body, body.Unbroken) ∧
      ∀ closing ∈ ((dialect script).tags element).closing, closing.Unbroken := by
  refine ⟨?_, ?_, ?_⟩
  · refine Markup.Unbroken.pushLiteral ?_ _
    rw [Dialect.openingStart]
    cases block : element.attributes with
    | none => exact ((Markup.Unbroken.literal _).pushLiteral _).pushLiteral _
    | some block =>
      refine (Markup.Unbroken.literal _).pushCode ?_
      simp [dialect, attributes, names.helper, flat.attributes _ block, feed_not_mem_object]
  · intro body member
    obtain ⟨inline, held, rfl⟩ := Option.map_eq_some_iff.mp member
    cases inline with
    | text text => exact Markup.Unbroken.literal _
    | expression source =>
      have code := feed_not_mem_evaluation (flat.expression source held)
      exact Markup.Unbroken.pushCode (fun _ member => by cases member) code
  · intro closing member
    rw [Dialect.tags] at member
    split at member
    · cases member
    · obtain rfl := Option.some.inj member
      exact Markup.Unbroken.literal _

private theorem isLine_of_mem_expression {script : Options} (names : script.Unbroken)
    {source line : Text} (flat : '\n' ∉ source) (member : line ∈ expression script source) :
    Text.IsLine line := by
  have code : '\n' ∉ Text.trim (source.dropOne '=') :=
    fun feed => flat (Text.mem_of_mem_dropOne (Text.mem_of_mem_trim feed))
  dsimp only [expression] at member
  split at member
  · cases member
  · obtain rfl := List.mem_singleton.mp member
    exact isLine_append names (by simp [code])

private theorem isLine_of_mem_statementListing {text : Text} {level : Nat} {childless : Bool}
    {inside : List (Nat × Text)} (unbroken : '\n' ∉ text)
    (shown : Text.allBlank (text.dropOne '-') = false)
    (within : ∀ placed ∈ inside, Text.IsLine placed.2) :
    ∀ placed ∈ statementListing level text childless inside, Text.IsLine placed.2 := by
  have head : Text.IsLine (Text.trim (text.dropOne '-')) :=
    Text.isLine_trim (fun feed => unbroken (Text.mem_of_mem_dropOne feed)) shown
  intro placed member
  cases childless with
  | true =>
    obtain rfl := List.mem_singleton.mp member
    exact head
  | false =>
    simp only [statementListing, Bool.false_eq_true, ↓reduceIte, List.mem_append, List.mem_cons,
      List.not_mem_nil, or_false] at member
    rcases member with (rfl | nested) | rfl
    · exact Text.IsLine.append_left head.unbroken ⟨by decide, by decide, by decide⟩
    · exact within placed nested
    · exact (⟨by decide, by decide, by decide⟩ : Text.IsLine ['}'])

private theorem isLine_of_mem_elementListing {script : Options} (names : script.Unbroken)
    {element : Element} (flat : FlatCode element) {level : Nat} {childless : Bool}
    {inside : List (Nat × Text)}
    (within : ∀ placed ∈ inside, Text.IsLine placed.2) :
    ∀ placed ∈ elementListing script level element childless inside, Text.IsLine placed.2 := by
  obtain ⟨opening, body, closing⟩ := tags_unbroken names flat
  intro placed member
  rcases List.mem_cons.mp member with rfl | member
  · exact isLine_append names (feed_not_mem_sum opening)
  cases closes : ((dialect script).tags element).closing with
  | none => simp [closes] at member
  | some ending =>
    simp only [closes, List.mem_append, List.mem_singleton] at member
    rcases member with held | rfl
    · cases childless with
      | false => exact within placed held
      | true =>
        obtain ⟨markup, present, rfl⟩ := Option.map_eq_some_iff.mp (Option.mem_toList.mp held)
        exact isLine_append names (feed_not_mem_sum (body markup present))
    · exact isLine_append names (feed_not_mem_sum (closing ending closes))

/-- Every line of the listing stays a line of the program. -/
theorem isLine_of_mem_listing {script : Options} (names : script.Unbroken) {options : Haml.Options}
    {outline : Outline} (keeps : ∀ node ∈ outline.descendants, KeepsLines options node.text)
    (level : Nat) : ∀ placed ∈ listing script options level outline, Text.IsLine placed.2 := by
  induction outline using Outline.induction generalizing level with
  | nil => simp
  | cons text number sourceLine children later nested beside =>
    simp only [Outline.descendants_cons, List.forall_mem_cons, List.forall_mem_append] at keeps
    obtain ⟨keeps, below, after⟩ := keeps
    have marked {rest : List (Nat × Text)} (lines : ∀ placed ∈ rest, Text.IsLine placed.2) :
        ∀ placed ∈ (level, lineMarker script number) :: rest, Text.IsLine placed.2 :=
      List.forall_mem_cons.mpr ⟨isLine_lineMarker names number, lines⟩
    have content (shown : Text) :
        ∀ placed ∈ [(level, append script (sum (.literal shown)))], Text.IsLine placed.2 :=
      List.forall_mem_singleton.mpr (isLine_append names (feed_not_mem_sum (.literal shown)))
    rw [listing_cons, List.forall_mem_append]
    refine ⟨?_, beside after level⟩
    rw [KeepsLines] at keeps
    cases kind : LineKind.of options.doctypes text with
    | text =>
      simp only [nodeListing, kind]
      exact marked (content text)
    | doctype =>
      simp only [nodeListing, kind]
      exact marked (content _)
    | expression =>
      simp only [kind] at keeps
      have flat : '\n' ∉ text.drop 1 := fun feed => keeps (List.mem_of_mem_drop feed)
      simp only [nodeListing, kind]
      apply marked
      intro placed member
      obtain ⟨line, present, rfl⟩ := List.mem_map.mp member
      exact isLine_of_mem_expression names flat present
    | statement =>
      simp only [kind] at keeps
      simp only [nodeListing, kind]
      exact isLine_of_mem_statementListing keeps.1 keeps.2 (nested below (level + 1))
    | element =>
      simp only [kind] at keeps
      simp only [nodeListing, kind]
      cases read : Element.parse options.selfClosing text with
      | error fault => simp
      | ok element =>
        exact marked (isLine_of_mem_elementListing names (keeps element read) (nested below level))

private theorem feed_not_mem_programLines {script : Options} (names : script.Unbroken)
    {options : Haml.Options} {outline : Outline}
    (keeps : ∀ node ∈ outline.descendants, KeepsLines options node.text) :
    ∀ line ∈ programLines script options outline, '\n' ∉ line := by
  have declared : ∀ line ∈ declarations script, '\n' ∉ line := by
    refine List.forall_mem_cons.mpr ⟨?_, List.forall_mem_singleton.mpr ?_⟩
    · exact List.not_mem_append (List.not_mem_append (by decide) names.output) (by decide)
    · exact List.not_mem_append (List.not_mem_append (by decide) names.line) (by decide)
  have returned : '\n' ∉ result script :=
    List.not_mem_append (List.not_mem_append (by decide) names.output) (by decide)
  intro line member
  rcases List.mem_append.mp member with member | last
  · rcases List.mem_append.mp member with first | member
    · exact declared line first
    · obtain ⟨placed, present, rfl⟩ := List.mem_map.mp member
      have line := isLine_of_mem_listing names keeps 0 placed present
      exact (isLine_printed names.indent line).unbroken
  · rw [List.mem_singleton.mp last]
    exact returned

/-- The program of an outline is its lines joined, and splitting it gives them back. -/
theorem render_layout {script : Options} (names : script.Unbroken) {options : Haml.Options}
    {outline : Outline} {program : Text}
    (keeps : ∀ node ∈ outline.descendants, KeepsLines options node.text)
    (success : (outline.render (target script) options).outcome = .ok program) :
    program = Text.joinLines (programLines script options outline) ∧
      program.splitOn '\n' = programLines script options outline := by
  have joined := render_eq_listing names.indent (isLine_of_mem_listing names keeps 0) success
  refine ⟨joined, ?_⟩
  have nonempty : programLines script options outline ≠ [] := by simp [programLines]
  rw [joined]
  exact List.splitOn_intercalate '\n' (feed_not_mem_programLines names keeps) nonempty

/-- The text of a node is the content of a line that is not blank. -/
theorem exists_visible_of_mem_descendants {source : Text} {outline : Outline}
    (parsed : Outline.parse source = .ok outline) {node : Node}
    (member : node ∈ outline.descendants) :
    ∃ line ∈ Outline.visibleLines source, node.text = Indentation.content line.1 := by
  obtain ⟨row, present, _, text⟩ := Outline.exists_row_of_mem_descendants member
  obtain ⟨_, line, position, visible, content⟩ := Outline.row_of_parse parsed present
  exact ⟨(line, position), visible, text.symm.trans content⟩

/-- Rendering from the inside out is printing from the top. If a template whose statements are not
blank compiles, its program is the two declarations, the lines of one walk through the outline in
document order, each behind as many indentations as statements stand around it, and the result. No
line is lost, joined with another or broken, so splitting the program gives the same lines. -/
theorem compile_layout {script : Options} (names : script.Unbroken) {options : Haml.Options}
    {source program : Text}
    (shown : ∀ line ∈ Outline.visibleLines source,
      LineKind.of options.doctypes (Indentation.content line.1) = .statement →
        Text.allBlank ((Indentation.content line.1).dropOne '-') = false)
    (success : (compile (target script) options source).outcome = .ok program) :
    ∃ outline, Outline.parse source = .ok outline ∧
      program = Text.joinLines (programLines script options outline) ∧
      program.splitOn '\n' = programLines script options outline := by
  rw [compile, Emission.outcome_bind] at success
  obtain ⟨outline, read, rendered⟩ := exists_of_bind_eq_ok success
  have parsed : Outline.parse source = .ok outline := by
    rw [Emission.outcome_ofExcept] at read
    cases parsed : Outline.parse source with
    | error error =>
      rw [parsed] at read
      cases read
    | ok found =>
      rw [parsed] at read
      obtain rfl := Except.ok.inj read
      rfl
  refine ⟨outline, parsed, render_layout names ?_ rendered⟩
  intro node member
  obtain ⟨line, visible, text⟩ := exists_visible_of_mem_descendants parsed member
  have unbroken := (Outline.mem_visibleLines visible).2
  rw [text]
  refine keepsLines_of_unbroken ?_ (shown line visible)
  exact fun feed => unbroken ((List.dropWhile_sublist Indentation.isIndent).mem feed)

theorem compile_layout_of_nested_statements :
    ∃ program, (compile (target .standard) .standard
        "- if (a)\n  - for (;;)\n    %p= b\n  .c d\n- e()\r\n".toList).outcome = .ok program ∧
      program.splitOn '\n' = ["var _$output = \"\";", "var _$line = 0;", "if (a) \x7b",
        "  for (;;) \x7b", "    _$line = 3;", "    _$output += \"<p >\";", "    _$output += (b);",
        "    _$output += \"</p>\";", "  \x7d", "  _$line = 4;",
        "  _$output += \"<div class=\\\"c\\\" >\";", "  _$output += \"d\";",
        "  _$output += \"</div>\";", "\x7d", "e()", "return _$output;"].map String.toList := by
  have parsed : Outline.parse "- if (a)\n  - for (;;)\n    %p= b\n  .c d\n- e()\r\n".toList =
      .ok [⟨"- if (a)".toList, 1, 1, [⟨"- for (;;)".toList, 2, 2, [⟨"%p= b".toList, 3, 3, []⟩]⟩,
          ⟨".c d".toList, 4, 4, []⟩]⟩, ⟨"- e()".toList, 5, 5, []⟩] := by cbv
  have compiles : ∃ program, (compile (target .standard) .standard
      "- if (a)\n  - for (;;)\n    %p= b\n  .c d\n- e()\r\n".toList).outcome = .ok program :=
    exists_of_isOk (by rw [compile, parsed]; decide +kernel)
  obtain ⟨program, success⟩ := compiles
  obtain ⟨outline, read, _, split⟩ :=
    compile_layout Options.standard_unbroken (by decide +kernel) success
  obtain rfl := Except.ok.inj (parsed.symm.trans read)
  exact ⟨program, success, split.trans (by decide +kernel)⟩

end Script

end Haml
