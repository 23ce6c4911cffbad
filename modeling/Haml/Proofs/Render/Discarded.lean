import Haml.Proofs.Render.Outcome
import Haml.Target.Script
import Haml.Target.Transcript
import Mathlib.Data.List.Basic

/-! # Lines under lines that drop them

Text, expressions, document types and elements that close themselves take nothing of the lines
nested under them. Other lines may be nested there instead, or none at all: as long as these can be
rendered, the code of the line is the same, and so is that of every line around it and the whole
program. The calls are not the same, since dropped lines are asked for too.
-/

namespace Haml.Render

/-- The lines that take nothing of the lines nested under them. -/
inductive Drops (options : Options) (text : Text) : Prop where
  | text : LineKind.of options.doctypes text = .text → Drops options text
  | expression : LineKind.of options.doctypes text = .expression → Drops options text
  | doctype : LineKind.of options.doctypes text = .doctype → Drops options text
  | selfClosing {element : Element} : LineKind.of options.doctypes text = .element →
      Element.parse options.selfClosing text = .ok element → element.selfClosing = true →
      Drops options text

/-- One outline is another with other lines, which can be rendered, nested under some of the lines
that drop them, however deep these stand. -/
inductive Replanted (target : Target) (options : Options) : Outline → Outline → Prop where
  | nil : Replanted target options [] []
  | keep {text : Text} {number sourceLine : Nat} {children others later rest : List Node} :
      Replanted target options children others → Replanted target options later rest →
      Replanted target options (⟨text, number, sourceLine, children⟩ :: later)
        (⟨text, number, sourceLine, others⟩ :: rest)
  | replace {text : Text} {number sourceLine : Nat} {children others later rest : List Node}
      {codes : List Text} : Drops options text →
      (forest target options others).outcome = .ok codes → Replanted target options later rest →
      Replanted target options (⟨text, number, sourceLine, children⟩ :: later)
        (⟨text, number, sourceLine, others⟩ :: rest)

variable {target : Target} {options : Options}

/-- An element that closes itself has no closing tag. -/
theorem closing_of_selfClosing {element : Element} (closes : element.selfClosing = true)
    {tags : Element.Tags} (written : (element.tags target).outcome = .ok tags) :
    tags.closing = none := by
  rw [Element.tags] at written
  simp only [closes, ↓reduceIte, Emission.outcome_bind] at written
  obtain ⟨start, _, written⟩ := exists_of_bind_eq_ok written
  obtain ⟨body, _, written⟩ := exists_of_bind_eq_ok written
  cases written
  rfl

private theorem outcome_element_of_selfClosing {text : Text} {element : Element}
    (read : Element.parse options.selfClosing text = .ok element)
    (closes : element.selfClosing = true) (sourceLine : Nat) (inside others : List Text) :
    (Render.element target options text sourceLine inside).outcome =
      (Render.element target options text sourceLine others).outcome := by
  simp only [Render.element, read, except_mapError_ok, Emission.outcome_bind,
    Emission.outcome_ofExcept, except_ok_bind]
  cases written : (element.tags target).outcome with
  | error error => rfl
  | ok tags => simp only [except_ok_bind, closing_of_selfClosing closes written]

/-- The lines of a line that drops its children do not depend on these. -/
theorem Drops.outcome_body {text : Text} (drops : Drops options text) (sourceLine : Nat)
    (inside others : List Text) :
    (body target options text sourceLine inside).outcome =
      (body target options text sourceLine others).outcome := by
  cases drops with
  | text kind => simp only [body, kind]
  | expression kind => simp only [body, kind]
  | doctype kind => simp only [body, kind]
  | selfClosing kind read closes =>
    simp only [body, kind]
    exact outcome_element_of_selfClosing read closes sourceLine inside others

/-- A line that drops its children has the same code with others, if these can be rendered. -/
theorem Drops.node_of_node {text : Text} (drops : Drops options text) {number sourceLine : Nat}
    {children others : List Node} {codes : List Text} {code : Text}
    (rendered : (forest target options others).outcome = .ok codes)
    (success : (node target options ⟨text, number, sourceLine, children⟩).outcome = .ok code) :
    (node target options ⟨text, number, sourceLine, others⟩).outcome = .ok code := by
  obtain ⟨inside, before⟩ := exists_inside_of_node success
  simp only [node, Emission.outcome_bind, before, rendered, except_ok_bind] at success ⊢
  rw [← drops.outcome_body sourceLine inside codes]
  exact success

/-- Any line has the same code with other children of the same code. -/
theorem node_of_same_children {text : Text} {number sourceLine : Nat} {children others : List Node}
    {code : Text}
    (same : ∀ {inside}, (forest target options children).outcome = .ok inside →
      (forest target options others).outcome = .ok inside)
    (success : (node target options ⟨text, number, sourceLine, children⟩).outcome = .ok code) :
    (node target options ⟨text, number, sourceLine, others⟩).outcome = .ok code := by
  obtain ⟨inside, before⟩ := exists_inside_of_node success
  simp only [node, Emission.outcome_bind, before, same before] at success ⊢
  exact success

private theorem forest_of_same_parts {line other : Node} {later rest : List Node}
    {codes : List Text}
    (first : ∀ {code}, (node target options line).outcome = .ok code →
      (node target options other).outcome = .ok code)
    (beside : ∀ {codes}, (forest target options later).outcome = .ok codes →
      (forest target options rest).outcome = .ok codes)
    (success : (forest target options (line :: later)).outcome = .ok codes) :
    (forest target options (other :: rest)).outcome = .ok codes := by
  rw [outcome_forest_cons] at success ⊢
  obtain ⟨code, written, success⟩ := exists_of_bind_eq_ok success
  obtain ⟨after, followed, joined⟩ := exists_of_bind_eq_ok success
  rw [first written, except_ok_bind, beside followed, except_ok_bind]
  exact joined

/-- Each line of an outline that can be rendered keeps its code. -/
theorem Replanted.outcome_forest {outline other : Outline} {codes : List Text}
    (replanted : Replanted target options outline other)
    (success : (forest target options outline).outcome = .ok codes) :
    (forest target options other).outcome = .ok codes := by
  induction replanted generalizing codes with
  | nil => exact success
  | keep _ _ nested beside =>
    exact forest_of_same_parts (node_of_same_children nested) beside success
  | replace drops rendered _ beside =>
    exact forest_of_same_parts (drops.node_of_node rendered) beside success

end Haml.Render

namespace Haml

/-- What is nested under lines that drop it cannot show in the program. If an outline can be
rendered, then it is rendered to the same program after the lines nested under any of its texts,
expressions, document types and elements that close themselves, at any depth and within any other
lines, were replaced by other lines that can be rendered. This holds for every target, for
transcripts and scripts among them. -/
theorem Outline.render_replanted {target : Target} {options : Options} {outline other : Outline}
    {program : Text} (replanted : Render.Replanted target options outline other)
    (success : (outline.render target options).outcome = .ok program) :
    (other.render target options).outcome = .ok program := by
  rw [render, Emission.outcome_bind] at success ⊢
  obtain ⟨codes, rendered, finished⟩ := exists_of_bind_eq_ok success
  rw [replanted.outcome_forest rendered, except_ok_bind, finished]

/-- A secret is taken out from under a text, and put under an expression and a line break, all
within an element and a statement. -/
theorem Outline.render_replanted_of_secrets :
    let secret : Node := ⟨"= secret".toList, 6, 6, []⟩
    let outline (underText underRest : List Node) : Outline :=
      [⟨"- if (x)".toList, 1, 1, [⟨"%p".toList, 2, 2, [⟨"text".toList, 3, 3, underText⟩,
        ⟨"= y".toList, 4, 4, underRest⟩, ⟨"%br".toList, 5, 5, underRest⟩]⟩]⟩]
    ((outline [] [secret]).render Transcript.target .standard).outcome = .ok (Text.joinLines <|
      ["[stmt - if (x)]", "[line 2]", "<p >", "[line 3]", "text", "[line 4]", "[expr y]", "[line 5]",
        "<br />", "</p>", "[end]"].map String.toList) ∧
    ∃ program, ((outline [secret] []).render (Script.target .standard) .standard).outcome =
        .ok program ∧
      ((outline [] [secret]).render (Script.target .standard) .standard).outcome =
        .ok program := by
  intro secret outline
  have replanted {target : Target} {codes : List Text}
      (rendered : (Render.forest target .standard [secret]).outcome = .ok codes) :
      Render.Replanted target .standard (outline [secret] []) (outline [] [secret]) := by
    have nothing : (Render.forest target .standard []).outcome = .ok [] := by
      rw [Render.forest]
      rfl
    have read : Element.parse Options.standard.selfClosing "%br".toList =
        .ok ⟨"br".toList, none, [], none, none, true⟩ := by decide +kernel
    have inside : Render.Replanted target .standard
        [⟨"text".toList, 3, 3, [secret]⟩, ⟨"= y".toList, 4, 4, []⟩, ⟨"%br".toList, 5, 5, []⟩]
        [⟨"text".toList, 3, 3, []⟩, ⟨"= y".toList, 4, 4, [secret]⟩,
          ⟨"%br".toList, 5, 5, [secret]⟩] :=
      .replace (.text (by decide)) nothing (.replace (.expression (by decide)) rendered
        (.replace (.selfClosing (by decide) read rfl) rendered .nil))
    exact .keep (.keep inside .nil) .nil
  have script : ∃ program, ((outline [secret] []).render (Script.target .standard)
      .standard).outcome = .ok program := exists_of_isOk (by decide +kernel)
  obtain ⟨program, success⟩ := script
  exact ⟨render_replanted (replanted rfl) (by decide +kernel), program, success,
    render_replanted (replanted rfl) success⟩

end Haml
