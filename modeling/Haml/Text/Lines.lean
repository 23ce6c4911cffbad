import Haml.Text.Basic

/-! # Physical lines

A line ends with a line feed, or with a carriage return and a line feed. What follows the last
ending is a line of its own unless it is empty, and a carriage return anywhere else belongs to
its line.
-/

namespace Haml.Text

/-- The lines of a text, each without its ending. -/
def lines : Text → List Text
  | [] => []
  | '\n' :: rest => [] :: lines rest
  | '\r' :: '\n' :: rest => [] :: lines rest
  | c :: rest =>
    match lines rest with
    | [] => [[c]]
    | line :: later => (c :: line) :: later

end Haml.Text
