import Haml.Outline.Basic
import Haml.Text.Scalar

/-! # Outlines as YAML

A node becomes a mapping of its text, its number and its children, one entry a line. The dashes of
the children stand in the column of the key above them.
-/

namespace Haml

namespace Yaml

/-- How far the keys of a node are indented that so many others enclose. -/
def indent (depth : Nat) : Nat :=
  2 * depth

/-- What stands before the keys of a node that so many others enclose. -/
def margin (depth : Nat) : Text :=
  List.replicate (indent depth) ' '

/-- What stands before the first key of a node: for a nested one a dash, in the column of the keys
of the node above. -/
def lead : Nat → Text
  | 0 => []
  | depth + 1 => margin depth ++ ['-', ' ']

end Yaml

open Yaml

mutual

/-- The lines of the mapping that stands for a node. -/
def Node.yamlLines (depth : Nat) : Node → List Text
  | ⟨text, number, _, children⟩ =>
    let heading := if children.isEmpty then "children: []" else "children:"
    (lead depth ++ ("text: ".toList ++ Scalar.write (indent (depth + 1)) text)) ::
      (margin depth ++ ("line_number: ".toList ++ Text.ofNat number)) ::
      (margin depth ++ heading.toList) :: Outline.yamlLines (depth + 1) children

/-- The lines of the entries that stand for the nodes of a forest. -/
def Outline.yamlLines (depth : Nat) : Outline → List Text
  | [] => []
  | node :: later => node.yamlLines depth ++ Outline.yamlLines depth later

end

/-- The YAML dump of an outline under its root. -/
def Outline.yamlDump (outline : Outline) : Text :=
  ((Node.root outline).yamlLines 0).flatMap (· ++ ['\n'])

end Haml
