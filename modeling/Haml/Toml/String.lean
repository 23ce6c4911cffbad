import Haml.Toml.Basic

/-! # TOML strings

Strings stand in double quotes, with escapes, or in single quotes, as they are. Three quotes on each
side hold a text of several lines, of which the first ending is dropped when nothing stands before
it.
-/

namespace Haml.Toml

/-- The letters that a backslash gives a meaning to, with that meaning. -/
def escapeLetters : List (Char × Char) :=
  [('b', '\x08'), ('t', '\t'), ('n', '\n'), ('f', '\x0c'), ('r', '\r'), ('"', '"'), ('\\', '\\')]

/-- The character with the code that the hexadecimal digits give, if there is one. -/
def codePoint? (digits : Text) : Option Char := do
  let code ← Decimal.natural? 16 digits
  if code < 0xD800 ∨ (0xDFFF < code ∧ code < 0x110000) then some (Char.ofNat code) else none

/-- Adds a character in front of a string that was read. -/
def addFront (c : Option Char) (read : Option (Text × Text)) : Option (Text × Text) := do
  let first ← c
  let (later, rest) ← read
  return (first :: later, rest)

/-- Reads a string of one line after its opening double quote. -/
def readBasic : Reader Text
  | '"' :: rest => some ([], rest)
  | '\\' :: 'u' :: a :: b :: c :: d :: rest =>
    addFront (codePoint? [a, b, c, d]) (readBasic rest)
  | '\\' :: 'U' :: a :: b :: c :: d :: e :: f :: g :: h :: rest =>
    addFront (codePoint? [a, b, c, d, e, f, g, h]) (readBasic rest)
  | '\\' :: letter :: rest => addFront (escapeLetters.lookup letter) (readBasic rest)
  | c :: rest => if isVisible c then addFront (some c) (readBasic rest) else none
  | [] => none

/-- Reads a string of one line after its opening single quote. -/
def readLiteral : Reader Text
  | '\'' :: rest => some ([], rest)
  | c :: rest => if isVisible c then addFront (some c) (readLiteral rest) else none
  | [] => none

/-- Whether only spacing stands before the next line ending. -/
def isLineRest (text : Text) : Bool :=
  (newline? (skipSpacing text)).isSome

/-- Reads a string of several lines after its three opening double quotes. A backslash at the end of
a line starts `skipping`, in which spacing and line endings do not count. -/
def readBasicLines (skipping : Bool) : Reader Text
  | '"' :: '"' :: '"' :: '"' :: '"' :: rest => some (['"', '"'], rest)
  | '"' :: '"' :: '"' :: '"' :: rest => some (['"'], rest)
  | '"' :: '"' :: '"' :: rest => some ([], rest)
  | '\\' :: 'u' :: a :: b :: c :: d :: rest =>
    addFront (codePoint? [a, b, c, d]) (readBasicLines false rest)
  | '\\' :: 'U' :: a :: b :: c :: d :: e :: f :: g :: h :: rest =>
    addFront (codePoint? [a, b, c, d, e, f, g, h]) (readBasicLines false rest)
  | '\\' :: letter :: rest =>
    if isLineRest (letter :: rest) then readBasicLines true rest
    else addFront (escapeLetters.lookup letter) (readBasicLines false rest)
  | '\r' :: '\n' :: rest =>
    if skipping then readBasicLines true rest
    else addFront (some '\n') (readBasicLines false rest)
  | c :: rest =>
    if skipping && (isSpacing c || c == '\n') then readBasicLines true rest
    else if c == '\n' || isVisible c then addFront (some c) (readBasicLines false rest)
    else none
  | [] => none

/-- Reads a string of several lines after its three opening single quotes. -/
def readLiteralLines : Reader Text
  | '\'' :: '\'' :: '\'' :: '\'' :: '\'' :: rest => some (['\'', '\''], rest)
  | '\'' :: '\'' :: '\'' :: '\'' :: rest => some (['\''], rest)
  | '\'' :: '\'' :: '\'' :: rest => some ([], rest)
  | '\r' :: '\n' :: rest => addFront (some '\n') (readLiteralLines rest)
  | c :: rest =>
    if c == '\n' || isVisible c then addFront (some c) (readLiteralLines rest) else none
  | [] => none

/-- The text without a line ending at its start. -/
def skipNewline (text : Text) : Text :=
  (newline? text).getD text

/-- Reads a string of any sort. -/
def readString : Reader Text
  | '"' :: '"' :: '"' :: rest => readBasicLines false (skipNewline rest)
  | '\'' :: '\'' :: '\'' :: rest => readLiteralLines (skipNewline rest)
  | '"' :: rest => readBasic rest
  | '\'' :: rest => readLiteral rest
  | _ => none

end Haml.Toml
