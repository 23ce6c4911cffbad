import Haml.Doctype
import Haml.Element.Parse
import Haml.Element.Tags
import Haml.LineKind
import Haml.Options
import Haml.Outline.Basic

/-! # Rendering an outline

A line is rendered after the lines nested under it, whose code it may take in. Text, expression,
document type and self-closing element lines drop the code of their children, but an error among
these is an error of the template all the same.
-/

namespace Haml

namespace Render

/-- The lines of code for an element line, given the code of its children. -/
def element (target : Target) (options : Options) (text : Text) (sourceLine : Nat)
    (inside : List Text) : Emission (List Text) := do
  let element ← Emission.ofExcept <|
    (Element.parse options.selfClosing text).mapError (.braces sourceLine text)
  let tags ← element.tags target
  let opening ← target.content tags.opening
  match tags.closing with
  | none => return opening
  | some closing =>
    let held ←
      match inside, tags.body with
      | [], some body => target.content body
      | [], none => pure []
      | _ :: _, _ => pure [Text.joinLines inside]
    return opening ++ held ++ (← target.content closing)

/-- The lines of code for a document type line. -/
def doctype (target : Target) (text : Text) : Emission (List Text) :=
  match Doctype.declaration? text with
  | some declaration => target.content (.literal declaration)
  | none => .fail (.unsupported (.doctype (Doctype.key text)))

/-- The lines of code for a line, after its marker, given the code of its children. -/
def body (target : Target) (options : Options) (text : Text) (sourceLine : Nat)
    (inside : List Text) : Emission (List Text) :=
  match LineKind.of options.doctypes text with
  | .element => element target options text sourceLine inside
  | .expression => target.expression (text.drop 1)
  | .statement => target.statement text (Text.joinLines inside)
  | .doctype => doctype target text
  | .text => target.content (.literal text)

/-- The marker of a line, where its kind has one. -/
def marker (target : Target) (options : Options) (text : Text) (number : Nat) :
    Emission (List Text) :=
  if (LineKind.of options.doctypes text).isMarked then target.lineMarker number else pure []

mutual

/-- The code for a node. -/
def node (target : Target) (options : Options) : Node → Emission Text
  | ⟨text, number, sourceLine, children⟩ => do
    let inside ← forest target options children
    let marker ← marker target options text number
    let body ← body target options text sourceLine inside
    return Text.joinLines (marker ++ body)

/-- The code for each node of a forest. -/
def forest (target : Target) (options : Options) : List Node → Emission (List Text)
  | [] => pure []
  | first :: later => do
    let code ← node target options first
    (code :: ·) <$> forest target options later

end

end Render

/-- The program for an outline. -/
def Outline.render (target : Target) (options : Options) (outline : Outline) : Emission Text := do
  target.program (← Render.forest target options outline)

end Haml
