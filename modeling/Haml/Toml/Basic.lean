import Haml.Decimal.Floating

/-! # TOML documents

The values that a TOML document holds. Dates and times are kept as text in their usual form.
-/

namespace Haml.Toml

/-- A value of a TOML document. -/
inductive Value where
  | string (text : Text)
  | integer (value : Int)
  | float (value : Floating)
  | boolean (value : Bool)
  | moment (text : Text)
  | array (items : List Value)
  | table (entries : List (Text × Value))

/-- A reader takes a value from the start of a text and leaves the rest, or refuses the text. -/
abbrev Reader (α : Type) := Text → Option (α × Text)

/-- Whether the character separates words within a line. -/
def isSpacing (c : Char) : Bool :=
  c == ' ' || c == '\t'

/-- The text from its first character that is no spacing. -/
def skipSpacing (text : Text) : Text :=
  text.dropWhile isSpacing

/-- Whether the character may stand in a comment or in a literal string. -/
def isVisible (c : Char) : Bool :=
  c == '\t' || (0x20 ≤ c.toNat && c.toNat ≠ 0x7F)

/-- What follows a line ending at the start of the text. -/
def newline? : Text → Option Text
  | '\n' :: rest => some rest
  | '\r' :: '\n' :: rest => some rest
  | _ => none

/-- What follows the end of a line, which may have spacing and a comment before it. -/
def lineEnd? (text : Text) : Option Text :=
  let rest :=
    match skipSpacing text with
    | '#' :: comment => comment.dropWhile isVisible
    | rest => rest
  if rest.isEmpty then some [] else newline? rest

mutual

/-- The text from its first character that is no spacing, no line ending and in no comment. -/
def skipLayout : Text → Text
  | '\r' :: '\n' :: rest => skipLayout rest
  | '#' :: rest => skipComment rest
  | c :: rest => if isSpacing c || c == '\n' then skipLayout rest else c :: rest
  | [] => []

/-- The same from inside a comment, which ends with its line. -/
def skipComment : Text → Text
  | '\r' :: '\n' :: rest => skipLayout rest
  | c :: rest =>
    if c == '\n' then skipLayout rest
    else if isVisible c then skipComment rest
    else c :: rest
  | [] => []

end

/-- Reads one item at least, with a separator between neighbours. -/
def readSeparated {α : Type} (item : Reader α) (separator? : Text → Option Text) :
    Reader (List α)
  | text => do
    let (first, rest) ← item text
    match separator? rest with
    | none => return ([first], rest)
    | some next =>
      if next.length < text.length then
        let (later, rest) ← readSeparated item separator? next
        return (first :: later, rest)
      else none
  termination_by text => text.length

/-- What follows the given character and the spacing on its two sides. -/
def spaced? (mark : Char) (text : Text) : Option Text :=
  match skipSpacing text with
  | c :: rest => if c = mark then some (skipSpacing rest) else none
  | [] => none

end Haml.Toml
