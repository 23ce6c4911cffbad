import Haml.Outline.Parse
import Haml.Render

/-! # Compiling templates

A template is read into an outline, which is then rendered for a target. One compiler may convert
many templates; the calls that it makes on its target add up.
-/

namespace Haml

/-- Converts a template to a program for the target. -/
def compile (target : Target) (options : Options) (source : Text) : Emission Text := do
  let outline ← Emission.ofExcept ((Outline.parse source).mapError .indentation)
  outline.render target options

/-- One template converted, and all calls made by then. -/
structure Conversion where
  outcome : Except CompileError Text
  calls : List Capability

/-- Converts templates in order, after the given calls. -/
def compileAll (target : Target) (options : Options) (calls : List Capability) :
    List Text → List Conversion
  | [] => []
  | source :: later =>
    let emission := compile target options source
    let total := calls ++ emission.calls
    ⟨emission.outcome, total⟩ :: compileAll target options total later

end Haml
