import Haml.Decimal.Binary64
import Haml.Text.Quoted

/-! # YAML scalars

A text of one line stands in YAML as it is unless it would be read as something else. Then it
stands in single quotes, and in double quotes if it holds a character that does not print. For YAML
the two line separators of Unicode end a line: a text with one of them stands in single quotes on
several lines, unless a space next to it would get lost there.
-/

namespace Haml.Scalar

/-- How a scalar is written. -/
inductive Style where
  | plain
  | single
  | double
  deriving DecidableEq, Repr

/-- Whether the character may stand in a scalar outside double quotes. -/
def isPrintable (c : Char) : Bool :=
  !(c.toNat < 0x20 || (0x7F ≤ c.toNat && c.toNat ≤ 0x9F) || c.toNat == 0xFEFF ||
    c.toNat == 0xFFFE || c.toNat == 0xFFFF)

/-- Whether the character ends a line, although it prints. -/
def isBreak (c : Char) : Bool :=
  c == '\u2028' || c == '\u2029'

/-- Whether a space stands next to a line break. -/
def spacesBreak : Text → Bool
  | first :: second :: rest =>
    (first == ' ' && isBreak second) || (isBreak first && second == ' ') ||
      spacesBreak (second :: rest)
  | _ => false

/-- The words that stand for null and for the two truth values. -/
def reservedWords : List Text :=
  ["", "~", "null", "Null", "NULL", "true", "True", "TRUE", "false", "False", "FALSE"].map
    String.toList

/-- The words for infinity, which may have a sign. -/
def infinityWords : List Text :=
  [".inf", ".Inf", ".INF"].map String.toList

/-- The words for a value that is no number, which have no sign. -/
def undefinedWords : List Text :=
  [".nan", ".NaN", ".NAN"].map String.toList

/-- The base that the letter after a leading zero stands for. -/
def base? : Char → Option Nat
  | 'x' => some 16
  | 'o' => some 8
  | 'b' => some 2
  | _ => none

/-- Whether the text is a whole number in the base that it names, within 128 bits. -/
def isBasedInteger (negative : Bool) : Text → Bool
  | '0' :: letter :: digits =>
    match (base? letter).bind fun base => Decimal.natural? base digits with
    | some value => if negative then value ≤ Nat.pow 2 127 else value < Nat.pow 2 128
    | none => false
  | _ => false

/-- Whether the text is a decimal number that is not too large for a floating-point number. -/
def isFiniteNumber (text : Text) : Bool :=
  match (Decimal.read? text).map Binary64.ofDecimal with
  | some (.finite _ _) => true
  | _ => false

/-- Whether the text is a row of digits after a zero, which some readers take for a number. -/
def isPaddedInteger : Text → Bool
  | '0' :: digits => !digits.isEmpty && digits.all Char.isDigit
  | _ => false

/-- Whether the text would be read as a number. -/
def isNumeric (text : Text) : Bool :=
  let (negative, unsigned) := Decimal.splitSign text
  isBasedInteger negative unsigned || isFiniteNumber unsigned || isPaddedInteger unsigned ||
    infinityWords.contains unsigned || undefinedWords.contains text

/-- The characters that have a meaning at the start of a scalar. -/
def indicators : Text :=
  "#,[]\x7b\x7d&*!|>'\"%@`".toList

/-- Whether nothing or a space follows. -/
def endsWord : Text → Bool
  | [] => true
  | c :: _ => c == ' '

/-- Whether the start of the text has a meaning of its own. -/
def startsSpecially (text : Text) : Bool :=
  "---".toList.isPrefixOf text || "...".toList.isPrefixOf text ||
    match text with
    | [] => false
    | c :: rest =>
      indicators.contains c || ((c == '?' || c == ':' || c == '-') && endsWord rest)

/-- Whether a later part of the text would end the scalar: a colon at the end of a word, or a
number sign after a space. -/
def endsEarly : Text → Bool
  | [] => false
  | [_] => false
  | previous :: c :: rest =>
    (c == ':' && endsWord rest) || (c == '#' && previous == ' ') || endsEarly (c :: rest)

/-- The style that a text of one line needs. -/
def style (text : Text) : Style :=
  if text.any (!isPrintable ·) || spacesBreak text then .double
  else if reservedWords.contains text || isNumeric text || text.head? == some ' ' ||
      text.getLast? == some ' ' || startsSpecially text || endsEarly text || text.any isBreak then
    .single
  else .plain

/-- The characters that have an escape of one letter in double quotes, with that letter. -/
def shortEscapes : List (Char × Char) :=
  [('\x00', '0'), ('\x07', 'a'), ('\x08', 'b'), ('\t', 't'), ('\x0b', 'v'), ('\x0c', 'f'),
    ('\r', 'r'), ('\x1b', 'e'), ('"', '"'), ('\\', '\\'), ('\x85', 'N'), ('\u2028', 'L'),
    ('\u2029', 'P')]

/-- A character as it stands in double quotes. -/
def escape (c : Char) : Text :=
  match shortEscapes.lookup c with
  | some letter => ['\\', letter]
  | none =>
    if isPrintable c then [c]
    else if c.toNat < 0x100 then '\\' :: 'x' :: (Text.hex 2 c.toNat).map Char.toUpper
    else '\\' :: 'u' :: (Text.hex 4 c.toNat).map Char.toUpper

/-- What stands between single quotes, where a break came last or not. A quote is written twice, and a
new line is indented. -/
def quotedLines (indent : Nat) (broken : Bool) : Text → Text
  | [] => List.replicate (if broken then indent else 0) ' '
  | c :: rest =>
    if isBreak c then c :: quotedLines indent true rest
    else
      List.replicate (if broken then indent else 0) ' ' ++
        ((if c = '\'' then [c, c] else [c]) ++ quotedLines indent false rest)

/-- The text in single quotes. -/
def singleQuoted (indent : Nat) (text : Text) : Text :=
  '\'' :: quotedLines indent false text ++ ['\'']

/-- The text in double quotes. -/
def doubleQuoted (text : Text) : Text :=
  '"' :: text.flatMap escape ++ ['"']

/-- The scalar that stands for a text of one line, and the indentation of its lines if a separator
makes several of it. -/
def write (indent : Nat) (text : Text) : Text :=
  match style text with
  | .plain => text
  | .single => singleQuoted indent text
  | .double => doubleQuoted text

end Haml.Scalar
