import Haml.Text.Printed
import Haml.Text.Quoted

/-! # Texts in messages

Messages show a text in double quotes. Characters that do not print are shown by their code, so that
a reader can tell texts apart that look the same.
-/

namespace Haml.Text

/-- The characters that a message shows by a letter after a backslash, with that letter. -/
def letterEscapes : List (Char × Char) :=
  [('\x00', '0'), ('\t', 't'), ('\n', 'n'), ('\r', 'r'), ('"', '"'), ('\\', '\\')]

/-- A character as a message shows it. -/
def shownChar (c : Char) : Text :=
  match letterEscapes.lookup c with
  | some letter => ['\\', letter]
  | none =>
    if isPrinted c then [c]
    else '\\' :: 'u' :: '{' :: Nat.toDigits 16 c.toNat ++ ['}']

/-- A text as a message shows it. -/
def shown (text : Text) : String :=
  String.ofList ('"' :: text.flatMap shownChar ++ ['"'])

end Haml.Text
