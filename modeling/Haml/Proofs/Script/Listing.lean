import Haml.Compiler
import Haml.Proofs.Outline.Forest
import Haml.Proofs.Render.Outcome
import Haml.Proofs.Text.Lines
import Haml.Target.Script

/-! # The listing of a program

Rendering joins the code of the children of a line, and a statement takes that text apart again to
indent it. The listing writes the same program in one pass from the top: every line of it is
written once, with the number of statements around it. The two agree as long as no line of the
listing is empty, holds a line feed or ends with a carriage return.
-/

namespace Haml.Script

/-- The lines of a statement inside `level` others, around the lines nested under it. -/
def statementListing (level : Nat) (text : Text) (childless : Bool) (inside : List (Nat × Text)) :
    List (Nat × Text) :=
  let head := Text.trim (text.dropOne '-')
  if childless then [(level, head)]
  else (level, head ++ [' ', '{']) :: inside ++ [(level, ['}'])]

/-- The lines of an element inside `level` statements, around the lines nested under it. -/
def elementListing (script : Options) (level : Nat) (element : Element) (childless : Bool)
    (inside : List (Nat × Text)) : List (Nat × Text) :=
  let content (markup : Markup) := (level, append script (sum markup))
  let tags := (dialect script).tags element
  let held := if childless then (tags.body.map content).toList else inside
  content tags.opening ::
    match tags.closing with
    | none => []
    | some closing => held ++ [content closing]

mutual

/-- The lines of a node inside `level` statements, each with the number of statements around it. -/
def nodeListing (script : Options) (options : Haml.Options) (level : Nat) :
    Node → List (Nat × Text)
  | ⟨text, number, _, children⟩ =>
    let marker := (level, lineMarker script number)
    let content (text : Text) := (level, append script (sum (.literal text)))
    match LineKind.of options.doctypes text with
    | .text => [marker, content text]
    | .doctype => [marker, content ((Doctype.declaration? text).getD [])]
    | .expression => marker :: (expression script (text.drop 1)).map (level, ·)
    | .statement =>
      statementListing level text children.isEmpty (listing script options (level + 1) children)
    | .element =>
      match Element.parse options.selfClosing text with
      | .error _ => []
      | .ok element =>
        marker :: elementListing script level element children.isEmpty
          (listing script options level children)

/-- The lines of an outline inside `level` statements, in document order. -/
def listing (script : Options) (options : Haml.Options) (level : Nat) :
    List Node → List (Nat × Text)
  | [] => []
  | node :: later => nodeListing script options level node ++ listing script options level later

end

/-- A line behind the indentation of the statements around it. -/
def printed (script : Options) (placed : Nat × Text) : Text :=
  (List.replicate placed.1 script.indent).flatten ++ placed.2

@[simp]
theorem listing_nil (script : Options) (options : Haml.Options) (level : Nat) :
    listing script options level [] = [] := by
  simp only [listing]

theorem listing_cons (script : Options) (options : Haml.Options) (level : Nat) (node : Node)
    (later : List Node) :
    listing script options level (node :: later) =
      nodeListing script options level node ++ listing script options level later := by
  simp only [listing]

@[simp]
theorem printed_zero (script : Options) (line : Text) : printed script (0, line) = line := by
  simp [printed]

theorem printed_succ (script : Options) (level : Nat) (line : Text) :
    printed script (level + 1, line) = script.indent ++ printed script (level, line) := by
  simp [printed, List.replicate_succ]

/-- A line with one more statement around it. -/
def deeper (placed : Nat × Text) : Nat × Text :=
  (placed.1 + 1, placed.2)

theorem statementListing_succ (level : Nat) (text : Text) (childless : Bool)
    (inside : List (Nat × Text)) :
    statementListing (level + 1) text childless (inside.map deeper) =
      (statementListing level text childless inside).map deeper := by
  cases childless <;> simp [statementListing, deeper]

theorem elementListing_succ (script : Options) (level : Nat) (element : Element)
    (childless : Bool) (inside : List (Nat × Text)) :
    elementListing script (level + 1) element childless (inside.map deeper) =
      (elementListing script level element childless inside).map deeper := by
  simp only [elementListing, List.map_cons]
  cases ((dialect script).tags element).closing with
  | none => rfl
  | some closing =>
    cases childless with
    | false => simp [deeper]
    | true => cases ((dialect script).tags element).body <;> simp [deeper]

/-- One more statement around an outline is one more around each of its lines. -/
theorem listing_succ (script : Options) (options : Haml.Options) (level : Nat) (outline : Outline) :
    listing script options (level + 1) outline =
      (listing script options level outline).map deeper := by
  induction outline using Outline.induction generalizing level with
  | nil => simp
  | cons text number sourceLine children later nested beside =>
    rw [listing_cons, listing_cons, List.map_append, beside]
    congr 1
    cases kind : LineKind.of options.doctypes text with
    | text => simp [nodeListing, kind, deeper]
    | doctype => simp [nodeListing, kind, deeper]
    | expression => simp [nodeListing, kind, deeper]
    | statement => simp only [nodeListing, kind, nested, statementListing_succ]
    | element =>
      simp only [nodeListing, kind, nested]
      cases Element.parse options.selfClosing text with
      | error fault => rfl
      | ok element => simp only [List.map_cons, elementListing_succ, deeper]

section Splicing

variable {script : Options} {options : Haml.Options}

theorem isLine_printed (flat : '\n' ∉ script.indent) {placed : Nat × Text}
    (line : Text.IsLine placed.2) : Text.IsLine (printed script placed) := by
  refine line.append_left ?_
  simp only [List.mem_flatten, List.mem_replicate, not_exists, not_and]
  rintro indent ⟨_, rfl⟩
  exact flat

private theorem indented_printed {placed : Nat × Text} (line : Text.IsLine placed.2) :
    indented script (printed script placed) = printed script (deeper placed) := by
  have nonempty : (printed script placed).isEmpty = false := by simp [printed, line.nonempty]
  rw [indented, nonempty, deeper, printed_succ]
  rfl

/-- The code of a node as its listing gives it. -/
def listed (script : Options) (options : Haml.Options) (node : Node) : List Text :=
  (nodeListing script options 0 node).map (printed script)

/-- The codes of nodes are the texts of their listings, none of which is empty. -/
structure Prints (script : Options) (options : Haml.Options) (outline : Outline)
    (codes : List Text) : Prop where
  same : codes = (outline.map (listed script options)).map Text.joinLines
  nonempty : ∀ lines ∈ outline.map (listed script options), lines ≠ []

private theorem flatten_listed (outline : Outline) :
    (outline.map (listed script options)).flatten =
      (listing script options 0 outline).map (printed script) := by
  induction outline with
  | nil => simp
  | cons node later ih =>
    rw [List.map_cons, List.flatten_cons, ih, listing_cons, List.map_append, listed]

/-- The joined codes of nodes are the text of the listing of all of them. -/
theorem Prints.joinLines_eq {outline : Outline} {codes : List Text}
    (prints : Prints script options outline codes) :
    Text.joinLines codes =
      Text.joinLines ((listing script options 0 outline).map (printed script)) := by
  rw [prints.same, Text.joinLines_map_joinLines prints.nonempty, flatten_listed]

theorem Prints.listing_ne_nil {outline : Outline} {codes : List Text}
    (prints : Prints script options outline codes) (nonempty : outline ≠ []) :
    listing script options 0 outline ≠ [] := by
  obtain ⟨node, later, rfl⟩ := List.exists_cons_of_ne_nil nonempty
  have first := prints.nonempty _ (List.mem_cons_self ..)
  simp only [listed, ne_eq, List.map_eq_nil_iff] at first
  simp [listing_cons, first]

theorem Prints.ne_nil (flat : '\n' ∉ script.indent) {outline : Outline} {codes : List Text}
    (solid : ∀ placed ∈ listing script options 0 outline, Text.IsLine placed.2)
    (prints : Prints script options outline codes) {code : Text} (member : code ∈ codes) :
    code ≠ [] := by
  rw [prints.same] at member
  obtain ⟨lines, present, rfl⟩ := List.mem_map.mp member
  obtain ⟨first, rest, rfl⟩ := List.exists_cons_of_ne_nil (prints.nonempty lines present)
  have listed : first ∈ (listing script options 0 outline).map (printed script) := by
    rw [← flatten_listed]
    exact List.mem_flatten.mpr ⟨_, present, List.mem_cons_self ..⟩
  obtain ⟨placed, found, rfl⟩ := List.mem_map.mp listed
  exact Text.joinLines_cons_ne_nil (isLine_printed flat (solid placed found)).nonempty rest

/-- A statement takes apart the joined code of its children into the lines of their listing. -/
theorem statement_of_prints (flat : '\n' ∉ script.indent) {children : List Node}
    {inside : List Text}
    (solid : ∀ placed ∈ listing script options 0 children, Text.IsLine placed.2)
    (prints : Prints script options children inside) (text : Text) :
    statement script text (Text.joinLines inside) =
      (statementListing 0 text children.isEmpty (listing script options 1 children)).map
        (printed script) := by
  rw [statement, prints.joinLines_eq]
  cases children with
  | nil => simp [statementListing]
  | cons child later =>
    have lines : Text.lines (Text.joinLines
        ((listing script options 0 (child :: later)).map (printed script))) =
        (listing script options 0 (child :: later)).map (printed script) := by
      apply Text.lines_joinLines
      intro line member
      obtain ⟨placed, present, rfl⟩ := List.mem_map.mp member
      exact isLine_printed flat (solid placed present)
    have nested : ((listing script options 0 (child :: later)).map (printed script)).map
        (indented script) = (listing script options 1 (child :: later)).map (printed script) := by
      rw [listing_succ, List.map_map, List.map_map]
      apply List.map_congr_left
      intro placed present
      exact indented_printed (solid placed present)
    have body : (Text.joinLines
        ((listing script options 0 (child :: later)).map (printed script))).isEmpty = false := by
      obtain ⟨first, rest, found⟩ :=
        List.exists_cons_of_ne_nil (prints.listing_ne_nil (List.cons_ne_nil _ _))
      have line := solid first (found ▸ List.mem_cons_self ..)
      have code := Text.joinLines_cons_ne_nil (isLine_printed flat line).nonempty
        (rest.map (printed script))
      rw [found, List.map_cons]
      simpa using code
    rw [body, lines, nested]
    simp [statementListing]

@[simp]
theorem dialect_content (markup : Markup) :
    (dialect script).content markup = [append script (sum markup)] :=
  rfl

@[simp]
theorem dialect_statement (text body : Text) :
    (dialect script).statement text body = statement script text body :=
  rfl

@[simp]
theorem target_dialect : (target script).dialect = dialect script :=
  rfl

/-- An element splices the joined code of its children between its tags. -/
theorem elementLines_of_prints {children : List Node} {inside : List Text} {element : Element}
    (prints : ((dialect script).tags element).closing ≠ none →
      Prints script options children inside)
    (before : List Text) :
    Text.joinLines (before ++ (dialect script).elementLines element inside) =
      Text.joinLines (before ++
        (elementListing script 0 element children.isEmpty (listing script options 0 children)).map
          (printed script)) := by
  cases closes : ((dialect script).tags element).closing with
  | none => simp [Dialect.elementLines, closes, elementListing]
  | some closing =>
    have prints := prints (by simp [closes])
    cases children with
    | nil =>
      obtain rfl : inside = [] := prints.same
      cases hold : ((dialect script).tags element).body <;>
        simp [Dialect.elementLines, closes, elementListing, hold]
    | cons child later =>
      obtain ⟨first, rest, rfl⟩ : ∃ first rest, inside = first :: rest := ⟨_, _, prints.same⟩
      have nonempty : (listing script options 0 (child :: later)).map (printed script) ≠ [] := by
        simpa using prints.listing_ne_nil (List.cons_ne_nil _ _)
      have spliced := Text.joinLines_splice nonempty
        (before ++ [append script (sum ((dialect script).tags element).opening)])
        [append script (sum closing)]
      rw [← prints.joinLines_eq] at spliced
      simpa [Dialect.elementLines, closes, elementListing] using spliced

/-- The lines nested under a statement are among its own, one level deeper. -/
theorem solid_of_statementListing {text : Text} {children : List Node}
    (solid : ∀ placed ∈ statementListing 0 text children.isEmpty
      (listing script options 1 children), Text.IsLine placed.2) :
    ∀ placed ∈ listing script options 0 children, Text.IsLine placed.2 := by
  intro placed member
  cases children with
  | nil => simp at member
  | cons child later =>
    refine solid (deeper placed) ?_
    rw [listing_succ]
    simp only [statementListing, List.isEmpty_cons, Bool.false_eq_true, ↓reduceIte, List.mem_append,
      List.mem_cons]
    exact .inl (.inr (List.mem_map_of_mem member))

/-- The lines nested under an element that has a closing tag are among its own. -/
theorem solid_of_elementListing {element : Element} {children : List Node}
    (closes : ((dialect script).tags element).closing ≠ none)
    (solid : ∀ placed ∈ elementListing script 0 element children.isEmpty
      (listing script options 0 children), Text.IsLine placed.2) :
    ∀ placed ∈ listing script options 0 children, Text.IsLine placed.2 := by
  intro placed member
  obtain ⟨closing, closes⟩ := Option.ne_none_iff_exists'.mp closes
  cases children with
  | nil => simp at member
  | cons child later =>
    refine solid placed ?_
    simp only [elementListing, closes, List.isEmpty_cons, Bool.false_eq_true, ↓reduceIte,
      List.mem_append, List.mem_cons]
    exact .inr (.inl member)

theorem markerLines_of_statement {text : Text} (number : Nat)
    (kind : LineKind.of options.doctypes text = .statement) :
    (dialect script).markerLines options text number = [] := by
  rw [Dialect.markerLines, kind]
  rfl

/-- All lines but statements have a marker. -/
theorem markerLines_of_ne {text : Text} {number : Nat}
    (other : LineKind.of options.doctypes text ≠ .statement) :
    (dialect script).markerLines options text number = [lineMarker script number] := by
  have marked : (LineKind.of options.doctypes text).isMarked = true := by
    revert other
    cases LineKind.of options.doctypes text <;> simp [LineKind.isMarked]
  rw [Dialect.markerLines, marked]
  rfl

/-- The code of a line is the text of its listing if this holds of the lines nested under it. The
nested lines matter, and then are lines of the listing, only under a statement and under an
element that has a closing tag. -/
theorem joinLines_eq_listed (flat : '\n' ∉ script.indent) {text : Text} (number : Nat)
    {sourceLine : Nat} {children : List Node} {inside lines : List Text}
    (solid : ∀ placed ∈ nodeListing script options 0 ⟨text, number, sourceLine, children⟩,
      Text.IsLine placed.2)
    (nested : (∀ placed ∈ listing script options 0 children, Text.IsLine placed.2) →
      Prints script options children inside)
    (success : (dialect script).bodyLines options text sourceLine inside = .ok lines) :
    listed script options ⟨text, number, sourceLine, children⟩ ≠ [] ∧
      Text.joinLines ((dialect script).markerLines options text number ++ lines) =
        Text.joinLines (listed script options ⟨text, number, sourceLine, children⟩) := by
  cases kind : LineKind.of options.doctypes text with
  | text =>
    rw [Dialect.bodyLines, kind] at success
    obtain rfl := Except.ok.inj success
    rw [markerLines_of_ne (by simp [kind])]
    simp [listed, nodeListing, kind]
  | expression =>
    rw [Dialect.bodyLines, kind] at success
    obtain rfl := Except.ok.inj success
    rw [markerLines_of_ne (by simp [kind])]
    simp [listed, nodeListing, kind, Function.comp_def, dialect]
  | doctype =>
    rw [Dialect.bodyLines, kind] at success
    cases known : Doctype.declaration? text with
    | none => simp [known] at success
    | some declaration =>
      rw [known] at success
      obtain rfl := Except.ok.inj success
      rw [markerLines_of_ne (by simp [kind])]
      simp [listed, nodeListing, kind, known]
  | statement =>
    rw [Dialect.bodyLines, kind] at success
    obtain rfl := Except.ok.inj success
    simp only [nodeListing, kind] at solid
    have inner := solid_of_statementListing solid
    have lines := statement_of_prints flat inner (nested inner) text
    simp only [listed, nodeListing, kind]
    refine ⟨?_, ?_⟩
    · rw [← lines]
      simp only [statement]
      split <;> simp
    · rw [← lines, markerLines_of_statement number kind, dialect_statement, List.nil_append]
  | element =>
    rw [Dialect.bodyLines, kind] at success
    cases read : Element.parse options.selfClosing text with
    | error fault => simp [read] at success
    | ok element =>
      rw [read] at success
      obtain rfl := Except.ok.inj success
      rw [markerLines_of_ne (by simp [kind])]
      simp only [nodeListing, kind, read] at solid
      simp only [listed, nodeListing, kind, read]
      refine ⟨List.cons_ne_nil _ _, ?_⟩
      exact elementLines_of_prints (fun closes =>
        nested (solid_of_elementListing closes (List.forall_mem_cons.mp solid).2))
        [lineMarker script number]

/-- Rendering a forest gives the texts of the listings of its nodes. -/
theorem prints_of_forest (flat : '\n' ∉ script.indent) {outline : Outline} {codes : List Text}
    (solid : ∀ placed ∈ listing script options 0 outline, Text.IsLine placed.2)
    (success : (Render.forest (target script) options outline).outcome = .ok codes) :
    Prints script options outline codes := by
  induction outline using Outline.induction generalizing codes with
  | nil =>
    rw [Render.forest] at success
    obtain rfl := Except.ok.inj success
    exact ⟨rfl, by simp⟩
  | cons text number sourceLine children later nested beside =>
    rw [listing_cons] at solid
    rw [Render.outcome_forest_cons, Render.outcome_node rfl] at success
    obtain ⟨code, rendered, success⟩ := exists_of_bind_eq_ok success
    obtain ⟨rest, followed, success⟩ := exists_of_bind_eq_ok success
    obtain ⟨inside, children, rendered⟩ := exists_of_bind_eq_ok rendered
    obtain ⟨lines, body, rendered⟩ := exists_of_bind_eq_ok rendered
    obtain rfl := Except.ok.inj success
    obtain rfl := Except.ok.inj rendered
    have first := joinLines_eq_listed flat number
      (fun placed member => solid placed (List.mem_append_left _ member))
      (fun inner => nested inner children) body
    have others :=
      beside (fun placed member => solid placed (List.mem_append_right _ member)) followed
    refine ⟨?_, ?_⟩
    · rw [List.map_cons, List.map_cons, ← others.same, ← first.2]
      rfl
    · rw [List.map_cons]
      exact List.forall_mem_cons.mpr ⟨first.1, others.nonempty⟩

end Splicing

/-- The two declarations that a program starts with. -/
def declarations (script : Options) : List Text :=
  ["var ".toList ++ script.output ++ " = \"\";".toList,
    "var ".toList ++ script.line ++ " = 0;".toList]

/-- The line that a program ends with. -/
def result (script : Options) : Text :=
  "return ".toList ++ script.output ++ ";".toList

/-- The lines of a program: the declarations, the listing and the result. -/
def programLines (script : Options) (options : Haml.Options) (outline : Outline) : List Text :=
  declarations script ++ (listing script options 0 outline).map (printed script) ++ [result script]

theorem declaration_eq (name : Text) {value ending : Text}
    (written : " = ".toList ++ (value ++ [';']) = ending) :
    "var ".toList ++ name ++ " = ".toList ++ value ++ [';'] = "var ".toList ++ name ++ ending := by
  rw [← written, List.append_assoc _ value, List.append_assoc _ " = ".toList]

theorem program_eq (script : Options) (blocks : List Text) :
    program script blocks =
      Text.joinLines (declarations script ++ (blocks.filter (!·.isEmpty) ++ [result script])) := by
  have output : "var ".toList ++ script.output ++ " = ".toList ++ literal [] ++ [';'] =
      "var ".toList ++ script.output ++ " = \"\";".toList := declaration_eq script.output rfl
  have line : "var ".toList ++ script.line ++ " = ".toList ++ ['0'] ++ [';'] =
      "var ".toList ++ script.line ++ " = 0;".toList := declaration_eq script.line rfl
  dsimp only [program]
  rw [output, line, List.append_assoc]
  rfl

/-- The program of an outline, written from the top. -/
theorem render_eq_listing {script : Options} {options : Haml.Options} (flat : '\n' ∉ script.indent)
    {outline : Outline} {program : Text}
    (solid : ∀ placed ∈ listing script options 0 outline, Text.IsLine placed.2)
    (success : (outline.render (target script) options).outcome = .ok program) :
    program = Text.joinLines (programLines script options outline) := by
  rw [Outline.outcome_render rfl] at success
  obtain ⟨blocks, rendered, success⟩ := exists_of_bind_eq_ok success
  obtain rfl := Except.ok.inj success
  have prints := prints_of_forest flat solid rendered
  have kept : blocks.filter (!·.isEmpty) = blocks := by
    rw [List.filter_eq_self]
    intro block member
    simpa using prints.ne_nil flat solid member
  have written : (target script).dialect.program blocks =
      Text.joinLines (declarations script ++ (blocks ++ [result script])) := by
    exact (program_eq script blocks).trans (by rw [kept])
  cases outline with
  | nil =>
    obtain rfl : blocks = [] := prints.same
    simpa [programLines] using written
  | cons first later =>
    have present : blocks ≠ [] := by simp [prints.same]
    have listed : (listing script options 0 (first :: later)).map (printed script) ≠ [] := by
      simpa using prints.listing_ne_nil (List.cons_ne_nil _ _)
    calc (target script).dialect.program blocks
      _ = Text.joinLines (declarations script ++ (blocks ++ [result script])) := written
      _ = Text.joinLines (declarations script ++ [Text.joinLines blocks, result script]) :=
        (Text.joinLines_splice present _ _).symm
      _ = Text.joinLines (declarations script ++
          ((listing script options 0 (first :: later)).map (printed script) ++
            [result script])) := by
        rw [prints.joinLines_eq, Text.joinLines_splice listed]
      _ = _ := by rw [programLines, List.append_assoc]

end Haml.Script
