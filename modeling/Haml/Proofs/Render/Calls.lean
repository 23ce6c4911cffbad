import Haml.Proofs.Render.Outcome
import Haml.Target.Transcript

/-! # What a template asks of its target

On a target that lacks nothing, what is asked for depends on the lines only. Every line makes its
own requests, after those of the lines nested under it, and also where the code of these is dropped.
The finished program is asked for once, at the end, and never for a template that is refused.
-/

namespace Haml

namespace Emission

variable {α β : Type}

/-- The calls of the rest follow those of a part that succeeds. -/
theorem calls_bind {first : Emission α} {value : α} (success : first.outcome = .ok value)
    (next : α → Emission β) : (first >>= next).calls = first.calls ++ (next value).calls := by
  rcases first with ⟨calls, outcome⟩
  subst success
  rfl

@[simp]
theorem calls_pure (value : α) : (Pure.pure value : Emission α).calls = [] :=
  rfl

@[simp]
theorem calls_map (change : α → β) (emission : Emission α) :
    (change <$> emission).calls = emission.calls :=
  rfl

/-- The emission asks for no finished program, whatever comes of it. -/
def IsPartial (emission : Emission α) : Prop :=
  .program ∉ emission.calls

namespace IsPartial

theorem pure (value : α) : IsPartial (Pure.pure value : Emission α) := by
  simp [IsPartial]

theorem ofExcept (result : Except CompileError α) : IsPartial (ofExcept result) := by
  simp [IsPartial, Emission.ofExcept]

theorem fail (error : CompileError) : IsPartial (fail error : Emission α) := by
  simp [IsPartial, Emission.fail]

theorem map {emission : Emission α} (isPartial : IsPartial emission) (change : α → β) :
    IsPartial (change <$> emission) :=
  isPartial

theorem bind {first : Emission α} {next : α → Emission β} (isPartial : IsPartial first)
    (later : ∀ value, IsPartial (next value)) : IsPartial (first >>= next) := by
  rcases first with ⟨calls, error | value⟩
  · exact isPartial
  · simpa [IsPartial] using ⟨isPartial, later value⟩

theorem answer (target : Target) {capability : Capability} (other : capability ≠ .program)
    (code : α) : IsPartial (target.answer capability code) := by
  rw [Target.answer]
  split
  · exact fail _
  · simpa [IsPartial] using Ne.symm other

end IsPartial

end Emission

open Emission (IsPartial)

section Partial

variable (target : Target) (options : Options)

private theorem Element.isPartial_openingStart (element : Element) :
    IsPartial (element.openingStart target) := by
  rw [Element.openingStart]
  cases element.attributes with
  | none => exact .pure _
  | some block => exact .bind (.answer target (by decide) _) fun _ => .pure _

private theorem Element.isPartial_body (element : Element) : IsPartial (element.body target) := by
  rw [Element.body]
  rcases element.inline with _ | text | source
  · exact .pure _
  · exact .pure _
  · exact .bind (.answer target (by decide) _) fun _ => .pure _

theorem Element.isPartial_tags (element : Element) : IsPartial (element.tags target) := by
  rw [Element.tags]
  refine .bind (element.isPartial_openingStart target) fun start => ?_
  refine .bind (element.isPartial_body target) fun body => ?_
  split
  · exact .pure _
  · exact .pure _

namespace Render

theorem isPartial_element (text : Text) (sourceLine : Nat) (inside : List Text) :
    IsPartial (element target options text sourceLine inside) := by
  have content (markup : Markup) : IsPartial (target.content markup) :=
    .answer target (by decide) _
  rw [element]
  refine .bind (.ofExcept _) fun element => ?_
  refine .bind (element.isPartial_tags target) fun tags => ?_
  refine .bind (content tags.opening) fun opening => ?_
  split
  · exact .pure _
  · next closing _ =>
    -- Whatever is held between the tags, the closing one follows.
    have close (held : List Text) : IsPartial (do
        let lines ← target.content closing
        return opening ++ held ++ lines) := .bind (content closing) fun _ => .pure _
    dsimp only
    split
    · exact .bind (content _) close
    · exact .bind (.pure _) close
    · exact .bind (.pure _) close

private theorem isPartial_body (text : Text) (sourceLine : Nat) (inside : List Text) :
    IsPartial (body target options text sourceLine inside) := by
  rw [body]
  cases LineKind.of options.doctypes text with
  | element => exact isPartial_element target options text sourceLine inside
  | expression => exact .answer target (by decide) _
  | statement => exact .answer target (by decide) _
  | doctype =>
    change IsPartial (doctype target text)
    rw [doctype]
    cases Doctype.declaration? text with
    | none => exact .fail _
    | some declaration => exact .answer target (by decide) _
  | text => exact .answer target (by decide) _

private theorem isPartial_marker (text : Text) (number : Nat) :
    IsPartial (marker target options text number) := by
  rw [marker]
  split
  · exact .answer target (by decide) _
  · exact .pure _

theorem isPartial_forest (outline : Outline) : IsPartial (forest target options outline) := by
  induction outline using Outline.induction with
  | nil =>
    rw [forest]
    exact .pure _
  | cons text number sourceLine children later nested beside =>
    rw [forest]
    refine .bind ?_ fun code => beside.map _
    rw [node]
    refine .bind nested fun inside => ?_
    refine .bind (isPartial_marker target options text number) fun marker => ?_
    exact .bind (isPartial_body target options text sourceLine inside) fun body => .pure _

end Render

end Partial

namespace Element

/-- Whether the element shows the value of an expression. -/
def hasExpression (element : Element) : Bool :=
  match element.inline with
  | some (.expression _) => true
  | _ => false

/-- What an element asks for: its attributes and its expression, then to be shown. What it holds on
its own line is shown only where it has no child. -/
def requests (element : Element) (childless : Bool) : List Capability :=
  (if element.attributes.isSome then [.attributes] else []) ++
    (if element.hasExpression then [.evaluation] else []) ++
    .content ::
      if element.selfClosing then []
      else (if childless && element.inline.isSome then [.content] else []) ++ [.content]

end Element

namespace Node

/-- The kind of the line of a node. -/
def kind (options : Options) (node : Node) : LineKind :=
  LineKind.of options.doctypes node.text

/-- The element of an element line whose braces match. -/
def element? (options : Options) (node : Node) : Option Element :=
  match node.kind options with
  | .element => (Element.parse options.selfClosing node.text).toOption
  | _ => none

/-- What the line of a node asks for, apart from the lines nested under it. -/
def requests (options : Options) (node : Node) : List Capability :=
  match node.kind options with
  | .element =>
    .lineMarker :: ((node.element? options).map (·.requests node.children.isEmpty)).getD []
  | .expression => [.lineMarker, .expression]
  | .statement => [.statement]
  | .doctype | .text => [.lineMarker, .content]

end Node

section Full

variable {target : Target} (full : target.missing = [])
include full

theorem Target.answer_eq {α : Type} (capability : Capability) (code : α) :
    target.answer capability code = ⟨[capability], .ok code⟩ := by
  simp [Target.answer, full]

private theorem Element.calls_openingStart (element : Element) :
    (element.openingStart target).calls =
      if element.attributes.isSome then [.attributes] else [] := by
  rw [Element.openingStart]
  cases element.attributes with
  | none => rfl
  | some block =>
    simp only [Target.attributes, Target.answer_eq full]
    rfl

private theorem Element.calls_body (element : Element) :
    (element.body target).calls = if element.hasExpression then [.evaluation] else [] := by
  rw [Element.body, Element.hasExpression]
  rcases element.inline with _ | text | source
  · rfl
  · rfl
  · simp only [Target.evaluation, Target.answer_eq full]
    rfl

theorem Element.calls_tags (element : Element) :
    (element.tags target).calls =
      (if element.attributes.isSome then [.attributes] else []) ++
        if element.hasExpression then [.evaluation] else [] := by
  rw [Element.tags, Emission.calls_bind (element.outcome_openingStart full),
    Emission.calls_bind (element.outcome_body full), element.calls_openingStart full,
    element.calls_body full]
  cases element.selfClosing <;> simp

namespace Render

theorem calls_element {options : Options} {text : Text} {element : Element}
    (read : Element.parse options.selfClosing text = .ok element) (sourceLine : Nat)
    (inside : List Text) :
    (Render.element target options text sourceLine inside).calls =
      element.requests inside.isEmpty := by
  rw [Render.element, read, except_mapError_ok, Emission.calls_bind rfl,
    Emission.calls_bind (element.outcome_tags full), element.calls_tags full]
  simp only [Target.content, Target.answer_eq full, Dialect.tags]
  rw [Element.requests]
  cases element.selfClosing with
  | true => simp [Emission.ofExcept]
  | false =>
    cases inside with
    | cons first later => simp [Emission.ofExcept]
    | nil =>
      cases held : element.inline <;> simp [Emission.ofExcept, Dialect.inlineBody, held]

/-- A line that is not refused makes its requests, the marker first. -/
theorem calls_line {options : Options} (line : Node) {inside lines : List Text}
    (childless : inside.isEmpty = line.children.isEmpty)
    (success : target.dialect.bodyLines options line.text line.sourceLine inside = .ok lines) :
    (marker target options line.text line.number).calls ++
        (body target options line.text line.sourceLine inside).calls = line.requests options := by
  rw [Dialect.bodyLines] at success
  rw [marker, body, Node.requests, Node.element?, Node.kind]
  cases kind : LineKind.of options.doctypes line.text with
  | element =>
    simp only [kind] at success
    cases read : Element.parse options.selfClosing line.text with
    | error fault => simp [read] at success
    | ok element =>
      have shown := calls_element full read line.sourceLine inside
      simp [LineKind.isMarked, Target.lineMarker, Target.answer_eq full, shown, childless,
        Except.toOption]
  | expression =>
    simp [LineKind.isMarked, Target.lineMarker, Target.expression, Target.answer_eq full]
  | statement => simp [LineKind.isMarked, Target.statement, Target.answer_eq full]
  | doctype =>
    simp only [kind] at success
    cases known : Doctype.declaration? line.text with
    | none => simp [known] at success
    | some declaration =>
      simp [LineKind.isMarked, Target.lineMarker, Target.content, doctype, known,
        Target.answer_eq full]
  | text => simp [LineKind.isMarked, Target.lineMarker, Target.content, Target.answer_eq full]

omit full in
/-- Every node of a forest that is rendered has its code. -/
theorem isEmpty_of_forest {options : Options} {outline : Outline} {codes : List Text}
    (success : (forest target options outline).outcome = .ok codes) :
    codes.isEmpty = outline.isEmpty := by
  cases outline with
  | nil =>
    rw [forest] at success
    obtain rfl := Except.ok.inj success
    rfl
  | cons first later =>
    rw [outcome_forest_cons] at success
    obtain ⟨code, _, success⟩ := exists_of_bind_eq_ok success
    obtain ⟨rest, _, success⟩ := exists_of_bind_eq_ok success
    obtain rfl := Except.ok.inj success
    rfl

theorem calls_node {options : Options} {line : Node} {code : Text}
    (success : (node target options line).outcome = .ok code) :
    (node target options line).calls =
      (forest target options line.children).calls ++ line.requests options := by
  rcases line with ⟨text, number, sourceLine, children⟩
  rw [outcome_node full] at success
  obtain ⟨inside, rendered, success⟩ := exists_of_bind_eq_ok success
  obtain ⟨lines, written, _⟩ := exists_of_bind_eq_ok success
  have bodyOutcome := (outcome_body full options text sourceLine inside).trans written
  have line := calls_line full ⟨text, number, sourceLine, children⟩ (isEmpty_of_forest rendered)
    written
  rw [node, Emission.calls_bind rendered, Emission.calls_bind (outcome_marker full ..),
    Emission.calls_bind bodyOutcome, Emission.calls_pure, List.append_nil, ← line]

/-- Rendering makes the requests of all lines, each after those of the lines nested under it. -/
theorem calls_forest {options : Options} {outline : Outline} {codes : List Text}
    (success : (forest target options outline).outcome = .ok codes) :
    (forest target options outline).calls = outline.postorder.flatMap (Node.requests options) := by
  induction outline using Outline.induction generalizing codes with
  | nil =>
    rw [forest]
    rfl
  | cons text number sourceLine children later nested beside =>
    rw [outcome_forest_cons] at success
    obtain ⟨code, first, success⟩ := exists_of_bind_eq_ok success
    obtain ⟨rest, followed, _⟩ := exists_of_bind_eq_ok success
    obtain ⟨inside, rendered⟩ := exists_inside_of_node first
    rw [forest, Emission.calls_bind first, Emission.calls_map, calls_node full first,
      nested rendered, beside followed, Outline.postorder_cons, List.flatMap_append,
      List.flatMap_cons, List.append_assoc]

end Render

end Full

section Counts

variable (options : Options)

theorem Element.count_requests (element : Element) (childless : Bool) (capability : Capability) :
    (element.requests childless).count capability =
      match capability with
      | .attributes => if element.attributes.isSome then 1 else 0
      | .evaluation => if element.hasExpression then 1 else 0
      | .content =>
        if element.selfClosing then 1 else 2 + if childless && element.inline.isSome then 1 else 0
      | _ => 0 := by
  rw [requests]
  cases element.attributes.isSome <;> cases element.hasExpression <;> cases element.selfClosing <;>
    cases childless && element.inline.isSome <;> cases capability <;> rfl

private theorem Node.element?_of_kind {options : Options} {node : Node}
    (other : node.kind options ≠ .element) : node.element? options = none := by
  rw [element?]
  split
  · contradiction
  · rfl

/-- How often a line asks for each capability. -/
theorem Node.count_requests (node : Node) (capability : Capability) :
    (node.requests options).count capability =
      match capability with
      | .program => 0
      | .lineMarker => if node.kind options != .statement then 1 else 0
      | .statement => if node.kind options == .statement then 1 else 0
      | .expression => if node.kind options == .expression then 1 else 0
      | .attributes => if (node.element? options).any (·.attributes.isSome) then 1 else 0
      | .evaluation => if (node.element? options).any (·.hasExpression) then 1 else 0
      | .content =>
        (if node.kind options == .text || node.kind options == .doctype then 1 else 0) +
          (if (node.element? options).any (·.selfClosing) then 1 else 0) +
          2 * (if (node.element? options).any (!·.selfClosing) then 1 else 0) +
          if node.children.isEmpty &&
            (node.element? options).any fun element => !element.selfClosing && element.inline.isSome
          then 1 else 0 := by
  rw [requests]
  cases kind : node.kind options with
  | element =>
    cases node.element? options with
    | none => cases capability <;> simp
    | some element =>
      simp only [Option.map_some, Option.getD_some, Option.any_some, List.count_cons,
        element.count_requests]
      cases capability with
      | content => by_cases closes : element.selfClosing = true <;> simp [closes]
      | _ => simp
  | expression | statement | doctype | text =>
    rw [element?_of_kind (by simp [kind])]
    cases capability <;> simp

/-- A capability that a line asks for at most once is asked for as often as there are such lines. -/
theorem count_requests_eq_countP {capability : Capability} {asks : Node → Bool}
    (each : ∀ node : Node, (node.requests options).count capability = if asks node then 1 else 0)
    (nodes : List Node) :
    (nodes.flatMap (Node.requests options)).count capability = nodes.countP asks := by
  induction nodes with
  | nil => rfl
  | cons node later ih =>
    rw [List.flatMap_cons, List.count_append, each, ih, List.countP_cons, Nat.add_comm]

private theorem count_content_requests (nodes : List Node) :
    (nodes.flatMap (Node.requests options)).count .content =
      nodes.countP (fun node => node.kind options == .text || node.kind options == .doctype) +
        nodes.countP (fun node => (node.element? options).any (·.selfClosing)) +
        2 * nodes.countP (fun node => (node.element? options).any (!·.selfClosing)) +
        nodes.countP (fun node => node.children.isEmpty &&
          (node.element? options).any fun element =>
            !element.selfClosing && element.inline.isSome) := by
  induction nodes with
  | nil => rfl
  | cons node later ih =>
    simp only [List.flatMap_cons, List.count_append, Node.count_requests, ih, List.countP_cons]
    omega

end Counts

section Success

variable {target : Target} (full : target.missing = []) {options : Options} {outline : Outline}
  {program : Text} (success : (outline.render target options).outcome = .ok program)
include full success

/-- What rendering asks for: the requests of all lines and then, once, the finished program. -/
theorem Outline.calls_render :
    (outline.render target options).calls =
      outline.postorder.flatMap (Node.requests options) ++ [.program] := by
  rw [outcome_render full] at success
  obtain ⟨blocks, rendered, _⟩ := exists_of_bind_eq_ok success
  rw [render, Emission.calls_bind rendered, Render.calls_forest full rendered, Target.program,
    Target.answer_eq full]

/-- Only the lines ask for anything but the finished program. -/
theorem Outline.count_render {capability : Capability} (other : capability ≠ .program) :
    (outline.render target options).count capability =
      (outline.descendants.flatMap (Node.requests options)).count capability := by
  have requests := outline.postorder_perm.flatMap_right (Node.requests options)
  rw [Emission.count, calls_render full success, List.count_append, requests.count_eq,
    List.count_singleton, if_neg (by simpa using Ne.symm other), Nat.add_zero]

theorem Outline.count_program : (outline.render target options).count .program = 1 := by
  have never : (outline.postorder.flatMap (Node.requests options)).count .program =
      outline.postorder.countP fun _ => false :=
    count_requests_eq_countP options (fun node => by simp [node.count_requests]) _
  rw [Emission.count, calls_render full success, List.count_append, never]
  simp

end Success

/-- A template that is refused never asks for its program. -/
theorem Outline.isPartial_render {target : Target} (full : target.missing = []) {options : Options}
    {outline : Outline} {error : CompileError}
    (failed : (outline.render target options).outcome = .error error) :
    IsPartial (outline.render target options) := by
  have isPartial := Render.isPartial_forest target options outline
  rw [render]
  rcases forest : Render.forest target options outline with ⟨calls, failure | blocks⟩
  · rwa [forest] at isPartial
  · rw [outcome_render full, forest] at failed
    cases failed

namespace Transcript

/-- Rendering asks for each capability exactly as often as the outline demands, dropped lines
included. A template that is refused never asks for its program. -/
theorem render_counts (options : Options) (outline : Outline) :
    (∀ text, (outline.render target options).outcome = .ok text →
      (outline.render target options).count .program = 1 ∧
      (outline.render target options).count .lineMarker =
        outline.descendants.countP (fun node => node.kind options != .statement) ∧
      (outline.render target options).count .statement =
        outline.descendants.countP (fun node => node.kind options == .statement) ∧
      (outline.render target options).count .expression =
        outline.descendants.countP (fun node => node.kind options == .expression) ∧
      (outline.render target options).count .attributes =
        outline.descendants.countP
          (fun node => (node.element? options).any (·.attributes.isSome)) ∧
      (outline.render target options).count .evaluation =
        outline.descendants.countP (fun node => (node.element? options).any (·.hasExpression)) ∧
      (outline.render target options).count .content =
        outline.descendants.countP
            (fun node => node.kind options == .text || node.kind options == .doctype) +
          outline.descendants.countP
            (fun node => (node.element? options).any (·.selfClosing)) +
          2 * outline.descendants.countP
            (fun node => (node.element? options).any (!·.selfClosing)) +
          outline.descendants.countP (fun node => node.children.isEmpty &&
            (node.element? options).any fun element =>
              !element.selfClosing && element.inline.isSome)) ∧
    ∀ error, (outline.render target options).outcome = .error error →
      (outline.render target options).count .program = 0 := by
  constructor
  · intro text success
    have once {capability : Capability} {asks : Node → Bool} (other : capability ≠ .program)
        (each : ∀ node : Node,
          (node.requests options).count capability = if asks node then 1 else 0) :
        (outline.render target options).count capability = outline.descendants.countP asks :=
      (Outline.count_render rfl success other).trans (count_requests_eq_countP options each _)
    refine ⟨Outline.count_program rfl success, ?_, ?_, ?_, ?_, ?_, ?_⟩
    · exact once (by decide) fun node => node.count_requests options .lineMarker
    · exact once (by decide) fun node => node.count_requests options .statement
    · exact once (by decide) fun node => node.count_requests options .expression
    · exact once (by decide) fun node => node.count_requests options .attributes
    · exact once (by decide) fun node => node.count_requests options .evaluation
    · exact (Outline.count_render rfl success (by decide)).trans (count_content_requests options _)
  · intro error failed
    exact List.count_eq_zero.mpr (Outline.isPartial_render rfl failed)

theorem render_counts_of_dropped_lines :
    [.program, .lineMarker, .statement, .expression, .attributes, .evaluation, .content].map
        (fun capability => (Outline.render target ⟨Element.selfClosingTags, true⟩
          [⟨"!!! 5".toList, 1, 1, []⟩, ⟨"%a{b}= c".toList, 2, 2, [⟨"text".toList, 3, 3, []⟩]⟩,
            ⟨"%img= d".toList, 4, 4, [⟨"%p x".toList, 5, 5, []⟩]⟩,
            ⟨"- if (y)".toList, 6, 6, [⟨"= z".toList, 7, 7, []⟩]⟩,
            ⟨"%p w".toList, 8, 8, []⟩]).count capability) =
      [1, 7, 1, 1, 1, 2, 11] := by
  have rendered : (Outline.render target ⟨Element.selfClosingTags, true⟩
      [⟨"!!! 5".toList, 1, 1, []⟩, ⟨"%a{b}= c".toList, 2, 2, [⟨"text".toList, 3, 3, []⟩]⟩,
        ⟨"%img= d".toList, 4, 4, [⟨"%p x".toList, 5, 5, []⟩]⟩,
        ⟨"- if (y)".toList, 6, 6, [⟨"= z".toList, 7, 7, []⟩]⟩,
        ⟨"%p w".toList, 8, 8, []⟩]).outcome.isOk = true := by decide +kernel
  obtain ⟨text, success⟩ := exists_of_isOk rendered
  obtain ⟨program, marker, statement, expression, attributes, evaluation, content⟩ :=
    (render_counts _ _).1 text success
  simp only [List.map_cons, List.map_nil, program, marker, statement, expression, attributes,
    evaluation, content]
  decide +kernel

end Transcript

end Haml
