import Haml.Text.Basic

/-! # Quoted strings

The string syntax that JSON and scripts share: a text between double quotes, in which quotes,
backslashes and control characters are written as escapes.
-/

namespace Haml.Text

/-- The last `width` hexadecimal digits of a number, in lower case. -/
def hex : (width : Nat) → Nat → Text
  | 0, _ => []
  | width + 1, n => hex width (n / 16) ++ [Nat.digitChar (n % 16)]

/-- The control characters that have an escape of one letter, with that letter. -/
def shortEscapes : List (Char × Char) :=
  [('\x08', 'b'), ('\x0c', 'f'), ('\n', 'n'), ('\r', 'r'), ('\t', 't')]

/-- A character as it stands inside a quoted string. -/
def escape (c : Char) : Text :=
  if c = '"' ∨ c = '\\' then ['\\', c]
  else if c.toNat < 0x20 then
    match shortEscapes.lookup c with
    | some letter => ['\\', letter]
    | none => '\\' :: 'u' :: hex 4 c.toNat
  else [c]

/-- The text as a quoted string. -/
def quoted (text : Text) : Text :=
  '"' :: text.flatMap escape ++ ['"']

/-- The given names and values as an object of strings, without spaces. -/
def object (fields : List (Text × Text)) : Text :=
  let field := fun (name, value) => quoted name ++ ':' :: quoted value
  '{' :: List.intercalate [','] (fields.map field) ++ ['}']

end Haml.Text
