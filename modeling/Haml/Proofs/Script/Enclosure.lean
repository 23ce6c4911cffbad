import Haml.Proofs.Script.Layout

/-! # Statements around their children

A statement braces the code of its children if there is any. All lines but statements give code,
and so does a statement with a condition or with children that give some. What is left is a chain of
blank statements, each the only child of the one above: it gives no code, so a statement around it
stands without braces, and a condition there controls the line that comes next.
-/

namespace Haml.Script

variable {script : Options} {options : Haml.Options}

mutual

/-- Whether the line is a blank statement around silent lines. -/
def nodeIsSilent (options : Haml.Options) : Node → Bool
  | ⟨text, _, _, children⟩ =>
    LineKind.of options.doctypes text == .statement && Text.allBlank (text.dropOne '-') &&
      isSilent options children

/-- Whether there are no lines, or only one, which is a blank statement around silent lines. -/
def isSilent (options : Haml.Options) : List Node → Bool
  | [] => true
  | node :: later => later.isEmpty && nodeIsSilent options node

end

/-- The code is the statement with an opening brace, the given lines, and a closing brace. -/
def IsBraceBlock (text : Text) (inner : List Text) (code : Text) : Prop :=
  code.splitOn '\n' = (Text.trim (text.dropOne '-') ++ [' ', '{']) :: (inner ++ [['}']])

private theorem joinLines_statement_eq_nil_iff (script : Options) (text body : Text) :
    Text.joinLines (statement script text body) = [] ↔
      Text.allBlank (text.dropOne '-') = true ∧ body = [] := by
  rw [statement]
  cases body with
  | nil => simp [Text.trim_eq_nil_iff]
  | cons c rest => simp [Text.joinLines_cons_eq_nil_iff]

/-- A line gives no code exactly if it is a blank statement around none. -/
theorem code_eq_nil_iff {text : Text} (number : Nat) {sourceLine : Nat} {inside lines : List Text}
    (success : (dialect script).bodyLines options text sourceLine inside = .ok lines) :
    Text.joinLines ((dialect script).markerLines options text number ++ lines) = [] ↔
      LineKind.of options.doctypes text = .statement ∧
        Text.allBlank (text.dropOne '-') = true ∧ Text.joinLines inside = [] := by
  by_cases kind : LineKind.of options.doctypes text = .statement
  · rw [Dialect.bodyLines, kind] at success
    obtain rfl := Except.ok.inj success
    rw [markerLines_of_statement number kind, List.nil_append, dialect_statement,
      joinLines_statement_eq_nil_iff]
    simp [kind]
  · have marker : lineMarker script number ≠ [] := by simp [lineMarker]
    rw [markerLines_of_ne kind, List.singleton_append, Text.joinLines_cons_eq_nil_iff]
    simp [kind, marker]

private theorem joinLines_forest_eq_nil_iff {outline : Outline} {codes : List Text}
    (success : (Render.forest (target script) options outline).outcome = .ok codes) :
    Text.joinLines codes = [] ↔ isSilent options outline = true := by
  induction outline using Outline.induction generalizing codes with
  | nil =>
    rw [Render.forest] at success
    obtain rfl := Except.ok.inj success
    simp [isSilent]
  | cons text number sourceLine children later nested beside =>
    rw [Render.outcome_forest_cons, Render.outcome_node rfl] at success
    obtain ⟨code, rendered, success⟩ := exists_of_bind_eq_ok success
    obtain ⟨rest, followed, success⟩ := exists_of_bind_eq_ok success
    obtain ⟨inside, within, rendered⟩ := exists_of_bind_eq_ok rendered
    obtain ⟨lines, body, rendered⟩ := exists_of_bind_eq_ok rendered
    obtain rfl := Except.ok.inj success
    obtain rfl := Except.ok.inj rendered
    rw [Text.joinLines_cons_eq_nil_iff]
    refine (and_congr_left' (code_eq_nil_iff number body)).trans ?_
    rw [nested within]
    cases later with
    | nil =>
      rw [Render.forest] at followed
      obtain rfl := Except.ok.inj followed
      simp [isSilent, nodeIsSilent, and_assoc]
    | cons next others =>
      -- A second line has code of its own in the list, empty or not.
      rw [Render.outcome_forest_cons] at followed
      obtain ⟨other, _, followed⟩ := exists_of_bind_eq_ok followed
      obtain ⟨more, _, followed⟩ := exists_of_bind_eq_ok followed
      obtain rfl := Except.ok.inj followed
      simp [isSilent]

/-- The text of a node holds no line feed. -/
theorem feed_not_mem_of_mem_descendants {source : Text} {outline : Outline}
    (parsed : Outline.parse source = .ok outline) {node : Node}
    (member : node ∈ outline.descendants) : '\n' ∉ node.text := by
  obtain ⟨line, visible, text⟩ := exists_visible_of_mem_descendants parsed member
  have unbroken := (Outline.mem_visibleLines visible).2
  rw [text]
  exact fun feed => unbroken ((List.dropWhile_sublist Indentation.isIndent).mem feed)

private theorem feed_not_mem_indented (flat : '\n' ∉ script.indent) {line : Text}
    (unbroken : '\n' ∉ line) : '\n' ∉ indented script line := by
  rw [indented]
  split
  · exact List.not_mem_nil
  · exact List.not_mem_append flat unbroken

/-- The lines of a statement stay apart in its code. -/
theorem splitOn_statement (flat : '\n' ∉ script.indent) {text : Text} (unbroken : '\n' ∉ text)
    (body : Text) :
    (Text.joinLines (statement script text body)).splitOn '\n' = statement script text body := by
  have head : '\n' ∉ Text.trim (text.dropOne '-') :=
    fun feed => unbroken (Text.mem_of_mem_dropOne (Text.mem_of_mem_trim feed))
  apply List.splitOn_intercalate
  · intro line member
    dsimp only [statement] at member
    split at member
    · rwa [List.mem_singleton.mp member]
    · simp only [List.cons_append, List.mem_cons, List.mem_append, List.mem_map, List.not_mem_nil,
        or_false] at member
      rcases member with rfl | ⟨inner, present, rfl⟩ | rfl
      · exact List.not_mem_append head (by decide)
      · exact feed_not_mem_indented flat (Text.not_mem_of_mem_lines present)
      · decide
  · rw [statement]
    split <;> simp

/-- The code of a statement is a block exactly if it has a body, and then it holds that body. -/
theorem isBraceBlock_statement_iff (flat : '\n' ∉ script.indent) {text : Text}
    (unbroken : '\n' ∉ text) (inner : List Text) (body : Text) :
    IsBraceBlock text inner (Text.joinLines (statement script text body)) ↔
      body ≠ [] ∧ inner = body.lines.map (indented script) := by
  rw [IsBraceBlock, splitOn_statement flat unbroken, statement]
  cases body with
  | nil => simp
  | cons c rest => simp [eq_comm]

/-- The code of a statement node is that of its line around the joined code of its children. -/
theorem code_of_statement {node : Node} {inside : List Text}
    (kind : LineKind.of options.doctypes node.text = .statement)
    (within : (Render.forest (target script) options node.children).outcome = .ok inside) :
    (Render.node (target script) options node).outcome =
      .ok (Text.joinLines (statement script node.text (Text.joinLines inside))) := by
  rcases node with ⟨text, number, sourceLine, children⟩
  rw [Render.outcome_node rfl, within, except_ok_bind, target_dialect, Dialect.bodyLines, kind,
    except_ok_bind, markerLines_of_statement number kind, List.nil_append]
  rfl

/-- A statement is a block around the code of its children exactly if they are not silent. -/
theorem statement_encloses_iff (flat : '\n' ∉ script.indent) {source program : Text}
    (success : (compile (target script) options source).outcome = .ok program) :
    ∃ outline, Outline.parse source = .ok outline ∧ ∀ node ∈ outline.descendants,
      LineKind.of options.doctypes node.text = .statement →
        ∃ inside code,
          (Render.forest (target script) options node.children).outcome = .ok inside ∧
          (Render.node (target script) options node).outcome = .ok code ∧
          ((∃ inner, IsBraceBlock node.text inner code) ↔
            isSilent options node.children = false) ∧
          ∀ inner, IsBraceBlock node.text inner code →
            inner = (Text.joinLines inside).lines.map (indented script) := by
  obtain ⟨outline, parsed, rendered⟩ := exists_outline_of_compile success
  rw [Outline.outcome_render rfl] at rendered
  obtain ⟨codes, rendered, _⟩ := exists_of_bind_eq_ok rendered
  refine ⟨outline, parsed, fun node member kind => ?_⟩
  have unbroken := feed_not_mem_of_mem_descendants parsed member
  obtain ⟨code, written⟩ := Render.exists_code_of_mem_descendants rendered member
  obtain ⟨inside, within⟩ := Render.exists_inside_of_node written
  have silent := joinLines_forest_eq_nil_iff within
  refine ⟨inside, _, within, code_of_statement kind within, ?_, ?_⟩
  · simp only [isBraceBlock_statement_iff flat unbroken, exists_and_left, exists_eq, and_true,
      ne_eq, silent, Bool.not_eq_true]
  · intro inner block
    exact ((isBraceBlock_statement_iff flat unbroken inner _).mp block).2

/-- A blank statement between a condition and an expression is a block too. -/
theorem statement_encloses_blank_statement :
    ∃ outline, Outline.parse "- if (a)\n  -\n    = b\n= c\n".toList = .ok outline ∧
      ∃ node ∈ outline.descendants, node.text = "- if (a)".toList ∧
        ∃ code, (Render.node (target .standard) .standard node).outcome = .ok code ∧
          IsBraceBlock node.text (["   \x7b", "    _$line = 3;", "    _$output += (b);",
            "  \x7d"].map String.toList) code := by
  have parsed : Outline.parse "- if (a)\n  -\n    = b\n= c\n".toList =
      .ok [⟨"- if (a)".toList, 1, 1, [⟨['-'], 2, 2, [⟨"= b".toList, 3, 3, []⟩]⟩]⟩,
        ⟨"= c".toList, 4, 4, []⟩] := by cbv
  obtain ⟨program, success⟩ : ∃ program, (compile (target .standard) .standard
      "- if (a)\n  -\n    = b\n= c\n".toList).outcome = .ok program :=
    exists_of_isOk (by rw [compile, parsed]; decide +kernel)
  obtain ⟨outline, read, encloses⟩ :=
    statement_encloses_iff Options.standard_unbroken.indent success
  obtain rfl := Except.ok.inj (parsed.symm.trans read)
  obtain ⟨inside, code, within, written, isBlock, holds⟩ :=
    encloses _ (List.mem_cons_self ..) (by decide)
  obtain ⟨inner, block⟩ := isBlock.mpr (by decide)
  have nested : (Render.forest (target .standard) .standard
      [⟨['-'], 2, 2, [⟨"= b".toList, 3, 3, []⟩]⟩]).outcome =
      .ok [" \x7b\n  _$line = 3;\n  _$output += (b);\n\x7d".toList] := by decide +kernel
  obtain rfl := Except.ok.inj (within.symm.trans nested)
  refine ⟨_, parsed, _, List.mem_cons_self .., rfl, code, written, ?_⟩
  convert block using 1
  rw [holds inner block]
  decide +kernel

/-- A condition around a blank statement has no braces, so it controls the line that comes next. -/
theorem silent_statement_controls_next_line :
    ∃ outline, Outline.parse "- if (x)\n  -\n= y\n".toList = .ok outline ∧
      (compile (target .standard) .standard "- if (x)\n  -\n= y\n".toList).outcome =
        .ok ("var _$output = \"\";\nvar _$line = 0;\nif (x)\n_$line = 3;\n" ++
          "_$output += (y);\nreturn _$output;").toList ∧
      ∃ node ∈ outline.descendants, LineKind.of false node.text = .statement ∧
        node.children ≠ [] ∧
        (Render.node (target .standard) .standard node).outcome = .ok "if (x)".toList ∧
        ∀ inner, ¬ IsBraceBlock node.text inner "if (x)".toList := by
  have parsed : Outline.parse "- if (x)\n  -\n= y\n".toList =
      .ok [⟨"- if (x)".toList, 1, 1, [⟨['-'], 2, 2, []⟩]⟩, ⟨"= y".toList, 3, 3, []⟩] := by cbv
  refine ⟨_, parsed, ?_, _, List.mem_cons_self .., by decide, by simp, by decide +kernel, ?_⟩
  · rw [compile, parsed]
    decide +kernel
  · intro inner block
    have single : ("if (x)".toList).splitOn '\n' = ["if (x)".toList] := by decide
    have lines := congrArg List.length (single.symm.trans block)
    simp at lines

end Haml.Script
