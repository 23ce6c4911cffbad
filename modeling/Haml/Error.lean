import Haml.Element.Basic
import Haml.Outline.Indentation
import Haml.Target.Capability

/-! # Compile errors

A template is refused for its indentation, for the braces of one of its element lines, or because
it asks for something that the target or the table of document types does not have.
-/

namespace Haml

/-- What a template asks for in vain. -/
inductive Construct where
  /-- Something that the target cannot write. -/
  | capability (missing : Capability)
  /-- A document type with a key that has no declaration. -/
  | doctype (key : Text)
  deriving DecidableEq, Repr

namespace Construct

/-- The construct as errors name it. -/
def name : Construct → String
  | .capability missing => missing.name
  | .doctype key => "doctype `" ++ String.ofList key ++ "`"

end Construct

/-- Why a template is refused. -/
inductive CompileError where
  /-- A line has no place in the outline. -/
  | indentation (error : Indentation.Error)
  /-- The braces of an element line, found at the given physical line, do not match. -/
  | braces (line : Nat) (text : Text) (fault : Element.BraceFault)
  /-- The template asks for something that is not there. -/
  | unsupported (construct : Construct)
  deriving DecidableEq, Repr

namespace CompileError

/-- The error in words. -/
def message : CompileError → String
  | .indentation error => error.message
  | .braces line text _ =>
    s!"unbalanced attribute block on line {line}: " ++ String.ofList text
  | .unsupported construct =>
    "unsupported construct: backend does not implement `" ++ construct.name ++ "`"

end CompileError

end Haml
