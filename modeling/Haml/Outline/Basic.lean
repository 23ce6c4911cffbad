import Haml.Text.Basic

/-! # Outlines

An outline is a forest of lines: each node is one line of a template, and the lines nested under
it are its children. The nodes of an outline are counted and listed in document order, a line
before the lines nested under it. They are rendered in another order, in which every line comes
after the lines nested under it.
-/

namespace Haml

/-- One line of a template with the lines nested under it. -/
structure Node where
  /-- The line without its indentation. -/
  text : Text
  /-- The position of the line among the lines that are not blank, counted from 1. -/
  number : Nat
  /-- The position of the line among all physical lines, counted from 1. -/
  sourceLine : Nat
  /-- The lines nested directly under this one. -/
  children : List Node
  deriving Inhabited, Repr

/-- The top-level lines of a template. -/
abbrev Outline := List Node

/-- One line of a template with its nesting depth, apart from the lines around it. -/
structure Row where
  /-- How many lines enclose this one. -/
  depth : Nat
  /-- The position of the line among the lines that are not blank, counted from 1. -/
  number : Nat
  /-- The position of the line among all physical lines, counted from 1. -/
  sourceLine : Nat
  /-- The line without its indentation. -/
  text : Text
  deriving DecidableEq, Repr

namespace Node

/-- The node above all top-level lines; it has no text, and its number is zero. -/
def root (outline : Outline) : Node :=
  { text := [], number := 0, sourceLine := 0, children := outline }

/-- Only the node above all lines has the number zero. -/
def isRoot (node : Node) : Bool :=
  node.number == 0

end Node

mutual

/-- A node and everything nested under it, in document order. -/
def Node.preorder (node : Node) : List Node :=
  match node with
  | ⟨text, number, sourceLine, children⟩ =>
    ⟨text, number, sourceLine, children⟩ :: Outline.descendants children

/-- All nodes of an outline in document order. -/
def Outline.descendants : Outline → List Node
  | [] => []
  | node :: later => node.preorder ++ Outline.descendants later

end

mutual

/-- Everything nested under a node, and then the node. -/
def Node.postorder (node : Node) : List Node :=
  match node with
  | ⟨text, number, sourceLine, children⟩ =>
    Outline.postorder children ++ [⟨text, number, sourceLine, children⟩]

/-- All nodes of an outline, each one after everything nested under it. -/
def Outline.postorder : Outline → List Node
  | [] => []
  | node :: later => node.postorder ++ Outline.postorder later

end

mutual

/-- The number of lines in a node's subtree, its own line included. -/
def Node.size (node : Node) : Nat :=
  match node with
  | ⟨_, _, _, children⟩ => 1 + Outline.size children

/-- The number of lines of an outline. -/
def Outline.size : Outline → Nat
  | [] => 0
  | node :: later => node.size + Outline.size later

end

mutual

/-- The rows of a node that stands at the given depth. -/
def Node.rowsAt (depth : Nat) (node : Node) : List Row :=
  match node with
  | ⟨text, number, sourceLine, children⟩ =>
    ⟨depth, number, sourceLine, text⟩ :: Outline.rowsAt (depth + 1) children

/-- The rows of an outline whose top level stands at the given depth. -/
def Outline.rowsAt (depth : Nat) : Outline → List Row
  | [] => []
  | node :: later => node.rowsAt depth ++ Outline.rowsAt depth later

end

/-- The rows of an outline in document order, top-level lines at depth zero. -/
def Outline.rows (outline : Outline) : List Row :=
  Outline.rowsAt 0 outline

end Haml
