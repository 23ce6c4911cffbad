/-! # Capabilities

A target is asked for seven things while a template is compiled. It may lack any of them.
-/

namespace Haml

/-- Something that a target can be asked for. -/
inductive Capability where
  /-- The finished program around the code of the top-level lines. -/
  | program
  /-- Code that shows markup. -/
  | content
  /-- Code that shows the value of an expression line. -/
  | expression
  /-- A statement around the code of the lines nested under it. -/
  | statement
  /-- Code that notes the number of the line that runs next. -/
  | lineMarker
  /-- Code that computes the attributes of an element. -/
  | attributes
  /-- Code that computes what an element holds. -/
  | evaluation
  deriving DecidableEq, Repr

namespace Capability

/-- The capability as errors and call counts name it. -/
def name : Capability → String
  | .program => "initialize"
  | .content => "emit_content"
  | .expression => "emit_expression"
  | .statement => "emit_statement"
  | .lineMarker => "emit_line_marker"
  | .attributes => "build_attributes"
  | .evaluation => "evaluate"

/-- All capabilities. -/
def all : List Capability :=
  [.program, .content, .expression, .statement, .lineMarker, .attributes, .evaluation]

/-- The capability with the given name, if there is one. -/
def ofName? (name : String) : Option Capability :=
  all.find? (·.name == name)

end Capability

end Haml
