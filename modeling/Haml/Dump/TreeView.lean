import Haml.LineKind
import Haml.Outline.Basic

/-! # Tree views

A tree view shows an outline one node a line: indentation for the depth, an icon for the kind, the
number of the line, and the text, shortened where it is long.
-/

namespace Haml.TreeView

/-- The icon of a kind of line. -/
def icon : LineKind → Char
  | .element => '◇'
  | .expression => '='
  | .statement => 'λ'
  | .doctype => '⧉'
  | .text => '¶'

/-- A text of more than `limit` characters cut to that length, with dots after it. -/
def shorten (limit : Nat) (text : Text) : Text :=
  if limit < text.length then text.take limit ++ "...".toList else text

/-- The text with spaces before it up to the given width. -/
def padLeft (width : Nat) (text : Text) : Text :=
  List.replicate (width - text.length) ' ' ++ text

/-- The line that shows a row. -/
def line (row : Row) : Text :=
  List.replicate (2 * row.depth) ' ' ++ icon (LineKind.of false row.text) :: ' ' ::
    padLeft 3 (Text.ofNat row.number) ++ ' ' :: shorten 40 row.text ++ ['\n']

end Haml.TreeView

/-- The tree view of an outline. -/
def Haml.Outline.treeView (outline : Haml.Outline) : Haml.Text :=
  outline.rows.flatMap Haml.TreeView.line
