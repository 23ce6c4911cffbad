import Haml.Proofs.Guarded.Element
import Haml.Proofs.Guarded.Outline
import Haml.Compiler

/-! # Compiling without a breach

Rendering cuts the mark off an expression line and reads element lines; all else that it does has no
rule to break. So every outline, whatever its texts are, is rendered without a breach, for every
target: a template is compiled to a program or refused with an error.
-/

namespace Haml.Guarded

/-- A reading as part of an emission, its error as a compile error. -/
def emit {ε α : Type} (wrap : ε → CompileError) (reading : Guarded (Except ε) α) :
    Guarded Emission α :=
  ExceptT.mk (Emission.ofExcept (reading.run.mapError wrap))

/-- The lines of code for an element line, given the code of its children. -/
def element (target : Target) (options : Options) (text : Text) (sourceLine : Nat)
    (inside : List Text) : Guarded Emission (List Text) := do
  let element ← emit (.braces sourceLine text) (readElement options.selfClosing text)
  let tags ← unbroken (element.tags target)
  let opening ← unbroken (target.content tags.opening)
  match tags.closing with
  | none => return opening
  | some closing =>
    let held ← unbroken <|
      match inside, tags.body with
      | [], some body => target.content body
      | [], none => pure []
      | _ :: _, _ => pure [Text.joinLines inside]
    return opening ++ held ++ (← unbroken (target.content closing))

/-- The lines of code for a line, after its marker, given the code of its children. -/
def body (target : Target) (options : Options) (text : Text) (sourceLine : Nat)
    (inside : List Text) : Guarded Emission (List Text) :=
  match LineKind.of options.doctypes text with
  | .element => element target options text sourceLine inside
  | .expression => do unbroken (target.expression (← sliceFrom 1 text))
  | .statement => unbroken (target.statement text (Text.joinLines inside))
  | .doctype => unbroken (Render.doctype target text)
  | .text => unbroken (target.content (.literal text))

mutual

/-- The code for a node. -/
def node (target : Target) (options : Options) : Node → Guarded Emission Text
  | ⟨text, number, sourceLine, children⟩ => do
    let inside ← forest target options children
    let marker ← unbroken (Render.marker target options text number)
    let body ← body target options text sourceLine inside
    return Text.joinLines (marker ++ body)

/-- The code for each node of a forest. -/
def forest (target : Target) (options : Options) : List Node → Guarded Emission (List Text)
  | [] => pure []
  | first :: later => do
    let code ← node target options first
    (code :: ·) <$> forest target options later

end

/-- The program for an outline. -/
def render (target : Target) (options : Options) (outline : Outline) : Guarded Emission Text := do
  unbroken (target.program (← forest target options outline))

/-- Converts a template to a program for the target. -/
def convert (target : Target) (options : Options) (source : Text) : Guarded Emission Text := do
  let outline ← emit .indentation (readOutline source)
  render target options outline

private theorem emit_unbroken {ε α : Type} (wrap : ε → CompileError) (plain : Except ε α) :
    emit wrap (unbroken plain) = unbroken (Emission.ofExcept (plain.mapError wrap)) := by
  apply ExceptT.ext
  cases plain <;> rfl

theorem element_eq (target : Target) (options : Options) (text : Text) (sourceLine : Nat)
    (inside : List Text) :
    element target options text sourceLine inside =
      unbroken (Render.element target options text sourceLine inside) := by
  rw [element, Render.element, readElement_eq, emit_unbroken]
  simp only [unbroken_bind]
  congr 1
  funext element
  congr 1
  funext tags
  congr 1
  funext opening
  cases tags.closing with
  | none => exact (unbroken_pure opening).symm
  | some closing =>
    cases inside with
    | nil => cases tags.body <;> simp only [unbroken_bind, unbroken_pure]
    | cons code more => simp only [unbroken_bind, unbroken_pure]

/-- An expression line starts with its mark, which is one byte. -/
theorem sliceFrom_one_of_expression {m : Type → Type} [Monad m] {doctypes : Bool} {text : Text}
    (kind : LineKind.of doctypes text = .expression) :
    (sliceFrom 1 text : Guarded m Text) = pure (text.drop 1) := by
  have marked : ∃ c rest, text = c :: rest ∧ c.utf8Size = 1 := by
    unfold LineKind.of at kind
    split at kind
    all_goals first
      | exact ⟨_, _, rfl, by decide⟩
      | cases kind
  obtain ⟨c, rest, rfl, single⟩ := marked
  have cut := sliceFrom_append (m := m) [c] rest
  rwa [Text.byteSize, single] at cut

theorem body_eq (target : Target) (options : Options) (text : Text) (sourceLine : Nat)
    (inside : List Text) :
    body target options text sourceLine inside =
      unbroken (Render.body target options text sourceLine inside) := by
  rw [body, Render.body]
  cases kind : LineKind.of options.doctypes text with
  | element => exact element_eq target options text sourceLine inside
  | expression => simp only [sliceFrom_one_of_expression kind, pure_bind]
  | statement => rfl
  | doctype => rfl
  | text => rfl

/-- Every forest is rendered without a breach, by induction on its nodes. -/
theorem forest_eq (target : Target) (options : Options) (outline : Outline) :
    forest target options outline = unbroken (Render.forest target options outline) := by
  induction outline using Outline.induction with
  | nil =>
    rw [forest, Render.forest]
    exact (unbroken_pure []).symm
  | cons text number sourceLine children later nested beside =>
    rw [forest, Render.forest, node, Render.node, nested, beside]
    simp only [unbroken_bind, unbroken_map, unbroken_pure, body_eq]

theorem render_eq (target : Target) (options : Options) (outline : Outline) :
    render target options outline = unbroken (outline.render target options) := by
  rw [render, forest_eq, Outline.render, unbroken_bind]

theorem convert_eq (target : Target) (options : Options) (source : Text) :
    convert target options source = unbroken (compile target options source) := by
  rw [convert, compile, readOutline_eq, emit_unbroken, unbroken_bind]
  simp only [render_eq]

/-- An emission that breaks no rule ends with a value or with an error. -/
theorem outcome_unbroken {α : Type} (plain : Emission α) :
    (∃ value, (unbroken plain).run.outcome = .ok (.ok value)) ∨
      ∃ error, (unbroken plain).run.outcome = .error error := by
  obtain ⟨calls, outcome⟩ := plain
  cases outcome with
  | ok value => exact .inl ⟨value, rfl⟩
  | error error => exact .inr ⟨error, rfl⟩

/-- Compiling never breaks a rule, whatever the template, the options and the target are. Every
template is read, and every outline is rendered, as without guards. No template is refused for a
unit of no width, and each is compiled to a program or refused with an error. -/
theorem compile_unbroken (target : Target) (options : Options) :
    (∀ source, readOutline source = unbroken (Outline.parse source) ∧
      ∀ line, Outline.parse source ≠ .error ⟨line, .zeroUnit⟩) ∧
    (∀ outline, render target options outline = unbroken (outline.render target options)) ∧
    ∀ source, convert target options source = unbroken (compile target options source) ∧
      ((∃ program, (convert target options source).run.outcome = .ok (.ok program)) ∨
        ∃ error, (convert target options source).run.outcome = .error error) := by
  refine ⟨fun source => ⟨readOutline_eq source, parse_ne_zeroUnit source⟩,
    render_eq target options, fun source => ⟨convert_eq target options source, ?_⟩⟩
  rw [convert_eq]
  exact outcome_unbroken (compile target options source)

end Haml.Guarded
