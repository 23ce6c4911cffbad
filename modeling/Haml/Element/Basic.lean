import Haml.Text.Basic

/-! # Elements

An element line names a tag, an identity and classes, may carry one block of attributes in braces,
and ends with text or with an expression to be evaluated.
-/

namespace Haml

/-- What an element holds on its own line. -/
inductive Inline where
  /-- Text to be shown as it is. -/
  | text (text : Text)
  /-- An expression with the mark that introduces it. -/
  | expression (expression : Text)
  deriving DecidableEq, Repr

/-- The parts of an element line. -/
structure Element where
  tag : Text
  id : Option Text
  classes : List Text
  /-- The attribute block with its outer braces. -/
  attributes : Option Text
  inline : Option Inline
  /-- Whether the element is closed in its opening tag. -/
  selfClosing : Bool
  deriving DecidableEq, Repr

namespace Element

/-- The value of the class attribute: the classes with a space between neighbours. -/
def classAttribute (element : Element) : Option Text :=
  if element.classes.isEmpty then none else some (List.intercalate [' '] element.classes)

/-- The tags that are closed in their opening tag unless other tags are configured. -/
def selfClosingTags : List Text :=
  ["meta", "img", "link", "br", "hr", "input", "area", "base"].map String.toList

/-- Why the braces of an element line do not match. -/
inductive BraceFault where
  /-- The line ends inside this many blocks. -/
  | unclosed (depth : Nat)
  /-- A brace that closes nothing stands at this byte of the line. -/
  | unexpectedClose (offset : Nat)
  deriving DecidableEq, Repr

namespace BraceFault

/-- The fault in words. -/
def message : BraceFault → String
  | .unclosed depth => s!"{depth} attribute block(s) left open at end of line"
  | .unexpectedClose offset =>
    s!"closing brace without a matching opening brace at offset {offset}"

end BraceFault

end Element

end Haml
