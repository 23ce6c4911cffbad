import Haml.Outline.Basic
import Haml.Text.Shown

/-! # Expectations about outlines

An expectation names a node by the positions of its ancestors and itself among their siblings, and
says something about that node. Where it is not met, a message says what was found instead.
-/

namespace Haml

/-- What is expected of a node. -/
inductive Expectation where
  | text (text : Text)
  | number (number : Nat)
  | childCount (count : Nat)
  | childTexts (texts : List Text)
  /-- No child. -/
  | leaf
  deriving DecidableEq, Repr

/-- How an expectation is not met. -/
inductive Discrepancy where
  | noChild (index count : Nat)
  | text (expected found : Text)
  | number (expected found : Nat)
  | childCount (expected found : Nat)
  | childTexts (expected found : List Text)
  deriving DecidableEq, Repr

/-- A discrepancy with the node that it is found at. -/
structure Disappointment where
  place : List Nat
  discrepancy : Discrepancy
  deriving DecidableEq, Repr

namespace Discrepancy

/-- Texts as a message lists them. -/
def listed (texts : List Text) : String :=
  "[" ++ ", ".intercalate (texts.map Text.shown) ++ "]"

/-- The message of a comparison that failed at the given place. -/
def comparison (place summary found expected : String) : String :=
  s!"assertion `left == right` failed: {place}: {summary}\n  left: {found}\n right: {expected}"

/-- The discrepancy in words. -/
def message (place : String) : Discrepancy → String
  | .noChild index count => s!"{place}: child index {index} out of bounds ({count} children)"
  | .text expected found =>
    comparison place s!"expected text {expected.shown}, found {found.shown}"
      found.shown expected.shown
  | .number expected found =>
    comparison place s!"expected line number {expected}, found {found}"
      (toString found) (toString expected)
  | .childCount expected found =>
    comparison place s!"expected {expected} children, found {found}"
      (toString found) (toString expected)
  | .childTexts expected found =>
    comparison place "child texts differ" (listed found) (listed expected)

end Discrepancy

namespace Disappointment

/-- A node as messages name it. -/
def placeName (place : List Nat) : String :=
  place.foldl (fun name index => s!"{name}.children[{index}]") "root"

/-- The disappointment in words. -/
def message (disappointment : Disappointment) : String :=
  disappointment.discrepancy.message (placeName disappointment.place)

end Disappointment

namespace Node

/-- The node under this one, which stands at `place`, that the path leads to. -/
def descend (place : List Nat) (node : Node) : List Nat → Except Disappointment (List Nat × Node)
  | [] => .ok (place, node)
  | index :: path =>
    match node.children[index]? with
    | some child => descend (place ++ [index]) child path
    | none => .error ⟨place, .noChild index node.children.length⟩

/-- How the node does not meet the expectation, if it does not. -/
def discrepancy? (node : Node) : Expectation → Option Discrepancy
  | .text text => if node.text = text then none else some (.text text node.text)
  | .number number => if node.number = number then none else some (.number number node.number)
  | .childCount count =>
    if node.children.length = count then none
    else some (.childCount count node.children.length)
  | .childTexts texts =>
    let found := node.children.map (·.text)
    if found = texts then none else some (.childTexts texts found)
  | .leaf => if node.children.length = 0 then none else some (.childCount 0 node.children.length)

/-- Checks an expectation about the node that the path leads to. -/
def expect (root : Node) (path : List Nat) (expectation : Expectation) :
    Except Disappointment Unit := do
  let (place, node) ← root.descend [] path
  match node.discrepancy? expectation with
  | none => return ()
  | some discrepancy => throw ⟨place, discrepancy⟩

end Node

end Haml
