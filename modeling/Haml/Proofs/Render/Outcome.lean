import Haml.Compiler
import Haml.Proofs.Except
import Haml.Proofs.Outline.Forest

/-! # Rendering without gaps

On a target that lacks nothing, no request fails. What remains of rendering is a plain function of
the outline that fails only on element lines whose braces do not match and on unknown document
types. `elementLines` and `Dialect.tags` are the two parts of it that rendering spreads over
several requests.
-/

namespace Haml

namespace Emission

variable {α β : Type}

@[simp]
theorem outcome_pure (value : α) : (Pure.pure value : Emission α).outcome = .ok value :=
  rfl

@[simp]
theorem outcome_bind (first : Emission α) (next : α → Emission β) :
    (first >>= next).outcome = first.outcome >>= fun value => (next value).outcome := by
  rcases first with ⟨calls, _ | value⟩ <;> rfl

@[simp]
theorem outcome_map (change : α → β) (emission : Emission α) :
    (change <$> emission).outcome = change <$> emission.outcome := by
  rcases emission with ⟨calls, _ | value⟩ <;> rfl

@[simp]
theorem outcome_ofExcept (result : Except CompileError α) : (ofExcept result).outcome = result :=
  rfl

end Emission

theorem Target.outcome_answer {α : Type} {target : Target} (full : target.missing = [])
    (capability : Capability) (code : α) : (target.answer capability code).outcome = .ok code := by
  simp [Target.answer, full]

namespace Dialect

/-- The opening tag up to its end. -/
def openingStart (dialect : Dialect) (element : Element) : Markup :=
  let start := Markup.literal ('<' :: element.tag ++ [' '])
  match element.attributes with
  | some block => start.pushCode (dialect.attributes block element.defaults)
  | none =>
    (start.pushLiteral ((element.id.map (Element.writtenAttribute "id")).getD [])).pushLiteral
      ((element.classAttribute.map (Element.writtenAttribute "class")).getD [])

/-- What the element holds on its own line. -/
def inlineBody (dialect : Dialect) (element : Element) : Option Markup :=
  element.inline.map fun
    | .text text => .literal text.withEntities
    | .expression source => .code (dialect.evaluation source)

/-- The markup of an element, all of which the dialect can write. -/
def tags (dialect : Dialect) (element : Element) : Element.Tags where
  opening := (dialect.openingStart element).pushLiteral
    (if element.selfClosing then "/>".toList else ['>'])
  body := dialect.inlineBody element
  closing :=
    if element.selfClosing then none else some (.literal ("</".toList ++ element.tag ++ ['>']))

/-- The lines of an element around the code of its children. -/
def elementLines (dialect : Dialect) (element : Element) (inside : List Text) : List Text :=
  let tags := dialect.tags element
  dialect.content tags.opening ++
    match tags.closing with
    | none => []
    | some closing =>
      (match inside, tags.body with
        | [], some body => dialect.content body
        | [], none => []
        | _ :: _, _ => [Text.joinLines inside]) ++ dialect.content closing

/-- The marker of a line, where its kind has one. -/
def markerLines (dialect : Dialect) (options : Options) (text : Text) (number : Nat) : List Text :=
  if (LineKind.of options.doctypes text).isMarked then dialect.lineMarker number else []

/-- The lines of code after the marker, or why the line is refused. -/
def bodyLines (dialect : Dialect) (options : Options) (text : Text) (sourceLine : Nat)
    (inside : List Text) : Except CompileError (List Text) :=
  match LineKind.of options.doctypes text with
  | .element =>
    match Element.parse options.selfClosing text with
    | .ok element => .ok (dialect.elementLines element inside)
    | .error fault => .error (.braces sourceLine text fault)
  | .expression => .ok (dialect.expression (text.drop 1))
  | .statement => .ok (dialect.statement text (Text.joinLines inside))
  | .doctype =>
    match Doctype.declaration? text with
    | some declaration => .ok (dialect.content (.literal declaration))
    | none => .error (.unsupported (.doctype (Doctype.key text)))
  | .text => .ok (dialect.content (.literal text))

end Dialect

section Full

variable {target : Target} (full : target.missing = [])
include full

theorem Element.outcome_openingStart (element : Element) :
    (element.openingStart target).outcome = .ok (target.dialect.openingStart element) := by
  rw [Element.openingStart, Dialect.openingStart]
  cases element.attributes with
  | none => rfl
  | some block =>
    simp only [Target.attributes, Emission.outcome_bind, Target.outcome_answer full]
    rfl

theorem Element.outcome_body (element : Element) :
    (element.body target).outcome = .ok (target.dialect.inlineBody element) := by
  rw [Element.body, Dialect.inlineBody]
  rcases element.inline with _ | _ | source
  · rfl
  · rfl
  · simp only [Target.evaluation, Emission.outcome_bind, Target.outcome_answer full]
    rfl

theorem Element.outcome_tags (element : Element) :
    (element.tags target).outcome = .ok (target.dialect.tags element) := by
  rw [Element.tags]
  simp only [Emission.outcome_bind, Element.outcome_openingStart full, Element.outcome_body full,
    except_ok_bind]
  cases closes : element.selfClosing <;> simp [Dialect.tags, closes]

namespace Render

/-- An element line fails only for its braces. -/
theorem outcome_element (options : Options) (text : Text) (sourceLine : Nat) (inside : List Text) :
    (element target options text sourceLine inside).outcome =
      match Element.parse options.selfClosing text with
      | .ok element => .ok (target.dialect.elementLines element inside)
      | .error fault => .error (.braces sourceLine text fault) := by
  rw [element]
  cases Element.parse options.selfClosing text with
  | error fault => rfl
  | ok element =>
    simp only [Emission.outcome_bind, Emission.outcome_ofExcept, except_mapError_ok,
      except_ok_bind, Element.outcome_tags full, Target.content, Target.outcome_answer full,
      Dialect.elementLines]
    cases (target.dialect.tags element).closing with
    | none => simp
    | some closing =>
      rcases inside with _ | ⟨first, later⟩
      · cases (target.dialect.tags element).body <;> simp [Target.outcome_answer full]
      · simp [Target.outcome_answer full]

theorem outcome_doctype (text : Text) :
    (doctype target text).outcome =
      match Doctype.declaration? text with
      | some declaration => .ok (target.dialect.content (.literal declaration))
      | none => .error (.unsupported (.doctype (Doctype.key text))) := by
  rw [doctype]
  cases Doctype.declaration? text with
  | none => rfl
  | some declaration => exact Target.outcome_answer full _ _

theorem outcome_body (options : Options) (text : Text) (sourceLine : Nat) (inside : List Text) :
    (body target options text sourceLine inside).outcome =
      target.dialect.bodyLines options text sourceLine inside := by
  rw [body, Dialect.bodyLines]
  cases LineKind.of options.doctypes text with
  | element => exact outcome_element full options text sourceLine inside
  | expression => exact Target.outcome_answer full _ _
  | statement => exact Target.outcome_answer full _ _
  | doctype => exact outcome_doctype full text
  | text => exact Target.outcome_answer full _ _

theorem outcome_marker (options : Options) (text : Text) (number : Nat) :
    (marker target options text number).outcome =
      .ok (target.dialect.markerLines options text number) := by
  rw [marker, Dialect.markerLines]
  cases (LineKind.of options.doctypes text).isMarked with
  | false => rfl
  | true => exact Target.outcome_answer full _ _

/-- A node is rendered after the lines nested under it, and its marker stands before its lines. -/
theorem outcome_node (options : Options) (text : Text) (number sourceLine : Nat)
    (children : List Node) :
    (node target options ⟨text, number, sourceLine, children⟩).outcome = do
      let inside ← (forest target options children).outcome
      let lines ← target.dialect.bodyLines options text sourceLine inside
      return Text.joinLines (target.dialect.markerLines options text number ++ lines) := by
  rw [node]
  simp only [Emission.outcome_bind, outcome_marker full, outcome_body full, except_ok_bind]
  rfl

omit full in
theorem outcome_forest_cons (options : Options) (first : Node) (later : List Node) :
    (forest target options (first :: later)).outcome = do
      let code ← (node target options first).outcome
      let codes ← (forest target options later).outcome
      return code :: codes := by
  rw [forest]
  simp only [Emission.outcome_bind, Emission.outcome_map]
  rfl

end Render

theorem Outline.outcome_render (options : Options) (outline : Outline) :
    (outline.render target options).outcome = do
      let blocks ← (Render.forest target options outline).outcome
      return target.dialect.program blocks := by
  rw [Outline.render]
  simp only [Emission.outcome_bind, Target.program, Target.outcome_answer full]
  rfl

end Full

namespace Render

variable {target : Target} {options : Options}

/-- Rendering a node goes through the code of its children. -/
theorem exists_inside_of_node {line : Node} {code : Text}
    (success : (node target options line).outcome = .ok code) :
    ∃ inside, (forest target options line.children).outcome = .ok inside := by
  rcases line with ⟨text, number, sourceLine, children⟩
  rw [node, Emission.outcome_bind] at success
  obtain ⟨inside, rendered, _⟩ := exists_of_bind_eq_ok success
  exact ⟨inside, rendered⟩

/-- Rendering a forest renders every node of it, at any depth. -/
theorem exists_code_of_mem_descendants {outline : Outline} {codes : List Text}
    (success : (forest target options outline).outcome = .ok codes) {line : Node}
    (member : line ∈ outline.descendants) :
    ∃ code, (node target options line).outcome = .ok code := by
  induction outline using Outline.induction generalizing codes with
  | nil => simp at member
  | cons text number sourceLine children later nested beside =>
    rw [outcome_forest_cons] at success
    obtain ⟨code, first, success⟩ := exists_of_bind_eq_ok success
    obtain ⟨rest, followed, _⟩ := exists_of_bind_eq_ok success
    rw [Outline.descendants_cons, List.mem_cons, List.mem_append] at member
    rcases member with rfl | below | after
    · exact ⟨code, first⟩
    · obtain ⟨inside, rendered⟩ := exists_inside_of_node first
      exact nested rendered below
    · exact beside followed after

end Render

/-- A template that compiles is read into an outline that is rendered. -/
theorem exists_outline_of_compile {target : Target} {options : Options} {source program : Text}
    (success : (compile target options source).outcome = .ok program) :
    ∃ outline, Outline.parse source = .ok outline ∧
      (outline.render target options).outcome = .ok program := by
  rw [compile, Emission.outcome_bind, Emission.outcome_ofExcept] at success
  cases parsed : Outline.parse source with
  | error error =>
    rw [parsed] at success
    cases success
  | ok outline =>
    rw [parsed, except_mapError_ok] at success
    exact ⟨outline, rfl, success⟩

end Haml
