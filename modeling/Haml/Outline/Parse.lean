import Haml.Outline.Basic
import Haml.Outline.Indentation

/-! # Reading an outline

Every line that is not blank is scanned for its depth, and the scanned lines are grouped level by
level. Lines at the depth of the level become nodes, each with the next number. A run of deeper
lines is held back until it ends, and is then grouped one level deeper under the node before it. A
run that has no node before it is refused. A width that does not fit the unit is reported before
any such run, wherever the two stand.
-/

namespace Haml.Outline

open Indentation

/-- A line that is not blank, with the depth that its indentation gives it. -/
structure Entry where
  depth : Nat
  /-- The position of the line among all physical lines, counted from 1. -/
  sourceLine : Nat
  /-- The line without its indentation. -/
  text : Text
  deriving DecidableEq, Repr

/-- The lines that are not blank, each with its physical position counted from 1. -/
def visibleLines (source : Text) : List (Text × Nat) :=
  (source.lines.zipIdx 1).filter fun (line, _) => !line.allBlank

/-- The entry of a line that stands at the given physical position. -/
def scanLine (unit : Nat) : Text × Nat → Except Indentation.Error Entry
  | (line, sourceLine) =>
    match Indentation.depth unit line with
    | .ok depth => .ok ⟨depth, sourceLine, content line⟩
    | .error fault => .error ⟨sourceLine, fault⟩

/-- The entries of a template, or the first line whose width does not fit the unit. -/
def scan (source : Text) : Except Indentation.Error (List Entry) :=
  (visibleLines source).mapM (scanLine (unit source))

mutual

/-- The nodes at the given depth, and how many lines have a number by then. So far there are
`nodes`, last first, after them the deeper lines `run`, last first, which are held back, and
`count` numbers. -/
def group (depth count : Nat) (nodes : List Node) (run : List Entry) :
    List Entry → Except Indentation.Error (List Node × Nat)
  | [] => do
    let (nodes, count) ← attach depth count nodes run.reverse
    return (nodes.reverse, count)
  | entry :: later =>
    if depth < entry.depth then
      group depth count nodes (entry :: run) later
    else do
      let (nodes, count) ← attach depth count nodes run.reverse
      group depth (count + 1) (⟨entry.text, count + 1, entry.sourceLine, []⟩ :: nodes) [] later
  -- A run goes one level down only under a node, and that node is a line which stays behind.
  termination_by later =>
    (run.length + later.length + min 1 nodes.length, later.length + 1)
  decreasing_by all_goals simp [Prod.lex_def] <;> omega

/-- Groups a run of deeper lines under the last of the nodes so far. -/
def attach (depth count : Nat) : (nodes : List Node) → (run : List Entry) →
    Except Indentation.Error (List Node × Nat)
  | nodes, [] => .ok (nodes, count)
  | [], first :: _ => .error ⟨first.sourceLine, .orphan first.depth depth⟩
  | parent :: earlier, first :: rest => do
    let (children, count) ← group (depth + 1) count [] [] (first :: rest)
    return ({ parent with children } :: earlier, count)
  termination_by nodes run => (run.length + min 1 nodes.length, 0)
  decreasing_by simp [Prod.lex_def]

end

/-- Reads the outline of a template. -/
def parse (source : Text) : Except Indentation.Error Outline := do
  let entries ← scan source
  let (outline, _) ← group 0 0 [] [] entries
  return outline

end Haml.Outline
