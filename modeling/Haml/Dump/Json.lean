import Haml.Outline.Basic
import Haml.Text.Json

/-! # Outlines as JSON

A node becomes an object of its text, its number and its children. The physical position of the
line is not part of it.
-/

namespace Haml

mutual

/-- A node as a JSON document. -/
def Node.toJson : Node → Json
  | ⟨text, number, _, children⟩ =>
    .object [("text".toList, .string text), ("line_number".toList, .number number),
      ("children".toList, .array (Outline.toJson children))]

/-- The nodes of a forest as JSON documents. -/
def Outline.toJson : Outline → List Json
  | [] => []
  | node :: later => node.toJson :: Outline.toJson later

end

/-- The JSON dump of an outline under its root. -/
def Outline.jsonDump (outline : Outline) : Text :=
  (Node.root outline).toJson.pretty

end Haml
