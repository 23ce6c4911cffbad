import Haml.Text.Basic

/-! # Kinds of lines

The first character of a line says what the line is. A line of three exclamation marks is a
document type only where such lines are enabled, and an expression otherwise.
-/

namespace Haml

/-- What a line of a template stands for. -/
inductive LineKind where
  | element
  | expression
  | statement
  | doctype
  | text
  deriving DecidableEq, Repr

namespace LineKind

/-- The kind of a line, given whether document type lines are enabled. -/
def of (doctypes : Bool) (line : Text) : LineKind :=
  match line with
  | '%' :: _ | '.' :: _ | '#' :: _ => .element
  | '!' :: '!' :: '!' :: _ => if doctypes then .doctype else .expression
  | '=' :: _ | '!' :: _ => .expression
  | '-' :: _ => .statement
  | _ => .text

/-- Whether the program notes the number of such a line before it runs it. -/
def isMarked : LineKind → Bool
  | .statement => false
  | _ => true

end LineKind

end Haml
