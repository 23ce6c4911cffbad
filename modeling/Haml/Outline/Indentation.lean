import Haml.Text.Blank
import Haml.Text.Lines

/-! # Indentation

The nesting of a line is the number of spaces and tabs that it starts with, measured in the
template's own unit: the width of its first indented line. No other blank character indents.
-/

namespace Haml.Indentation

/-- Whether the character indents the line that it stands at the start of. -/
def isIndent (c : Char) : Bool :=
  c == ' ' || c == '\t'

/-- The number of spaces and tabs that a line starts with. -/
def width (line : Text) : Nat :=
  (line.takeWhile isIndent).length

/-- A line without the spaces and tabs that it starts with. -/
def content (line : Text) : Text :=
  line.dropWhile isIndent

/-- The width of one nesting level: that of the first indented line, blank lines not counted,
and one where no line is indented. -/
def unit (source : Text) : Nat :=
  let widths := (source.lines.filter fun line => !line.allBlank).map width
  (widths.find? (0 < ·)).getD 1

/-- Why a line has no place in an outline. -/
inductive Fault where
  /-- A level of no width measures nothing. -/
  | zeroUnit
  /-- The width is not a whole number of levels. -/
  | uneven (width unit : Nat)
  /-- The line is nested deeper than one level under the line before it. -/
  | orphan (depth expected : Nat)
  deriving DecidableEq, Repr

namespace Fault

/-- The fault in words. -/
def message : Fault → String
  | .zeroUnit => "attempt to calculate the remainder with a divisor of zero"
  | .uneven width unit =>
    s!"{width} leading whitespace characters is not a multiple of the indentation unit ({unit})"
  | .orphan depth expected =>
    s!"line is nested {depth} level(s) deep but has no parent line at depth {expected}"

end Fault

/-- A fault with the physical line that it is found on. -/
structure Error where
  line : Nat
  fault : Fault
  deriving DecidableEq, Repr

namespace Error

/-- The error in words. -/
def message (error : Error) : String :=
  s!"malformed indentation on line {error.line}: {error.fault.message}"

end Error

/-- The nesting depth of a line under the given unit. -/
def depth (unit : Nat) (line : Text) : Except Fault Nat :=
  if unit = 0 then
    .error .zeroUnit
  else if width line % unit = 0 then
    .ok (width line / unit)
  else
    .error (.uneven (width line) unit)

end Haml.Indentation
