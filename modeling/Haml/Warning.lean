import Haml.Doctype
import Haml.Element.Parse
import Haml.LineKind
import Haml.Options
import Haml.Outline.Basic

/-! # Warnings

An element that closes itself has no place for what is nested under it. This is no error, but the
loss is reported, unless rendering has failed before at another line.
-/

namespace Haml

/-- A report that the lines under an element are left out. -/
structure Warning where
  /-- The position of the element among all physical lines, counted from 1. -/
  line : Nat
  tag : Text
  deriving DecidableEq, Repr

/-- The warning in words. -/
def Warning.message (warning : Warning) : String :=
  "ignoring content nested under a self-closing element line=" ++ toString warning.line ++
    " tag=" ++ String.ofList warning.tag

namespace Render

/-- Whether a line can be rendered for a target that lacks nothing. -/
def accepts (options : Options) (line : Node) : Bool :=
  match LineKind.of options.doctypes line.text with
  | .element => (Element.parse options.selfClosing line.text).isOk
  | .doctype => (Doctype.declaration? line.text).isSome
  | .expression | .statement | .text => true

/-- The warning that a rendered line gives. -/
def warning? (options : Options) (line : Node) : Option Warning :=
  match LineKind.of options.doctypes line.text, Element.parse options.selfClosing line.text with
  | .element, .ok element =>
    if element.selfClosing && !line.children.isEmpty then some ⟨line.sourceLine, element.tag⟩
    else none
  | _, _ => none

end Render

/-- The warnings of an outline that is rendered for a target that lacks nothing, up to the line that
it is refused for. -/
def Outline.warnings (options : Options) (outline : Outline) : List Warning :=
  (outline.postorder.takeWhile (Render.accepts options)).filterMap (Render.warning? options)

end Haml
