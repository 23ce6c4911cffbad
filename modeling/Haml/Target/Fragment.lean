import Haml.Target.Basic

/-! # Fragments

A fragment is code under construction. Requests add lines at its end, or give back code that goes
elsewhere; one that fails leaves it as it is.
-/

namespace Haml

/-- Code under construction, at some nesting depth. -/
structure Fragment where
  depth : Nat
  lines : List Text
  deriving DecidableEq, Repr

/-- Something that is asked for while a fragment is built. -/
inductive Request where
  /-- A line that is given as it is. -/
  | push (line : Text)
  | content (markup : Markup)
  | expression (source : Text)
  | statement (line body : Text)
  | lineMarker (number : Nat)
  | attributes (block : Text) (defaults : AttributeDefaults)
  | evaluation (source : Text)
  | program (blocks : List Text)

/-- What a request comes to. -/
inductive Answer where
  /-- Lines that the fragment goes on with. -/
  | lines (lines : List Text)
  /-- Code that the fragment does not take in. -/
  | code (source : Text)

namespace Request

/-- The answer of a target. -/
def answer (target : Target) : Request → Emission Answer
  | .push line => pure (.lines [line])
  | .content markup => .lines <$> target.content markup
  | .expression source => .lines <$> target.expression source
  | .statement line body => .lines <$> target.statement line body
  | .lineMarker number => .lines <$> target.lineMarker number
  | .attributes block defaults => .code <$> target.attributes block defaults
  | .evaluation source => .code <$> target.evaluation source
  | .program blocks => .code <$> target.program blocks

end Request

namespace Fragment

/-- A fragment without lines. -/
def empty (depth : Nat) : Fragment :=
  ⟨depth, []⟩

/-- Whether the fragment has no line. An empty line counts as one. -/
def isEmpty (fragment : Fragment) : Bool :=
  fragment.lines.isEmpty

/-- The code of the fragment. -/
def text (fragment : Fragment) : Text :=
  Text.joinLines fragment.lines

/-- The fragment after an answer. -/
def take (fragment : Fragment) : Answer → Fragment
  | .lines lines => { fragment with lines := fragment.lines ++ lines }
  | .code _ => fragment

/-- The fragment after the outcome of a request. -/
def absorb (fragment : Fragment) : Except CompileError Answer → Fragment
  | .ok answer => fragment.take answer
  | .error _ => fragment

/-- One request, what came of it, and the fragment after it. -/
structure Step where
  emission : Emission Answer
  fragment : Fragment

/-- Puts requests to a target in order. -/
def run (target : Target) (fragment : Fragment) : List Request → List Step
  | [] => []
  | request :: later =>
    let emission := request.answer target
    let next := fragment.absorb emission.outcome
    ⟨emission, next⟩ :: run target next later

end Fragment

end Haml
