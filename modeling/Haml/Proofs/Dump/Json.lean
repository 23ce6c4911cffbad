import Haml.Dump.Json
import Haml.Proofs.Outline.Relayout
import Haml.Proofs.Text.Json

/-! # Reading JSON dumps

The JSON dump of a node is read back as the node without the physical positions of its lines,
whatever the texts hold and however deep the nesting is. So dumps are the same exactly if nothing
but physical positions differs.
-/

namespace Haml

mutual

/-- The node that an object of a dump stands for. Its fields have to be there in their order. -/
def Node.ofJson? : Json → Option Node
  | .object [(first, .string text), (second, .number number), (third, .array items)] =>
    if first = "text".toList ∧ second = "line_number".toList ∧ third = "children".toList then
      (Outline.ofJson? items).map (⟨text, number, 0, ·⟩)
    else none
  | _ => none

/-- The nodes that the objects of an array stand for. -/
def Outline.ofJson? : List Json → Option Outline
  | [] => some []
  | item :: later => (Node.ofJson? item).bind fun node => (Outline.ofJson? later).map (node :: ·)

end

theorem Node.ofJson?_object {items : List Json} {children : Outline}
    (read : Outline.ofJson? items = some children) (text : Text) (number : Nat) :
    Node.ofJson? (.object [("text".toList, .string text), ("line_number".toList, .number number),
      ("children".toList, .array items)]) = some ⟨text, number, 0, children⟩ := by
  rw [Node.ofJson?, if_pos ⟨rfl, rfl, rfl⟩, read, Option.map_some]

theorem Outline.ofJson?_toJson (outline : Outline) :
    Outline.ofJson? outline.toJson = some outline.unplaced := by
  induction outline using Outline.induction with
  | nil => rw [Outline.toJson, Outline.ofJson?, Outline.unplaced]
  | cons text number sourceLine children later nested beside =>
    rw [Outline.toJson, Outline.ofJson?, Node.toJson, Node.ofJson?_object nested, beside,
      Option.bind_some, Option.map_some, Outline.unplaced, Node.unplaced]

theorem Node.ofJson?_toJson (node : Node) : Node.ofJson? node.toJson = some node.unplaced := by
  rcases node with ⟨text, number, sourceLine, children⟩
  rw [Node.toJson, Node.ofJson?_object (Outline.ofJson?_toJson children), Node.unplaced]

/-- Physical positions are no part of a dump. -/
theorem Outline.toJson_unplaced (outline : Outline) : outline.unplaced.toJson = outline.toJson := by
  induction outline using Outline.induction with
  | nil => simp only [Outline.unplaced]
  | cons text number sourceLine children later nested beside =>
    simp only [Outline.unplaced, Node.unplaced, Outline.toJson, Node.toJson, nested, beside]

theorem Node.toJson_unplaced (node : Node) : node.unplaced.toJson = node.toJson := by
  rcases node with ⟨text, number, sourceLine, children⟩
  simp only [Node.unplaced, Node.toJson, Outline.toJson_unplaced]

/-- The dump of a node is read back. -/
theorem Node.read?_pretty_toJson (node : Node) :
    (Json.read? node.toJson.pretty).bind Node.ofJson? = some node.unplaced := by
  rw [Json.read?_pretty, Option.bind_some, Node.ofJson?_toJson]

theorem Node.pretty_toJson_eq_iff (node other : Node) :
    node.toJson.pretty = other.toJson.pretty ↔ node.unplaced = other.unplaced := by
  constructor
  · intro same
    have read := node.read?_pretty_toJson
    rw [same, other.read?_pretty_toJson] at read
    exact (Option.some.inj read).symm
  · intro same
    rw [← node.toJson_unplaced, same, other.toJson_unplaced]

/-- Reading a JSON dump takes all of it and gives back the node without physical positions, which
have no influence on the dump. So two nodes, or two outlines under their roots, have the same dump
exactly if they differ in physical positions at most. -/
theorem Outline.jsonDump_determines_unplaced :
    (∀ node : Node, (Json.read? node.toJson.pretty).bind Node.ofJson? = some node.unplaced) ∧
    (∀ node other : Node,
      node.toJson.pretty = other.toJson.pretty ↔ node.unplaced = other.unplaced) ∧
    ∀ outline other : Outline,
      outline.jsonDump = other.jsonDump ↔ outline.unplaced = other.unplaced := by
  refine ⟨Node.read?_pretty_toJson, Node.pretty_toJson_eq_iff, fun outline other => ?_⟩
  rw [jsonDump, jsonDump, Node.pretty_toJson_eq_iff]
  simp [Node.root, Node.unplaced]

end Haml
