import Haml.Target.Basic
import Haml.Text.Blank
import Haml.Text.Lines
import Haml.Text.Quoted

/-! # The script dialect

The generated program is a JavaScript function body. It gathers the page in one variable, notes
the line that runs in another, and returns the page.
-/

namespace Haml.Script

/-- The names and the indentation that a generated program uses. -/
structure Options where
  /-- The variable that gathers the page. -/
  output : Text
  /-- The variable that holds the number of the line that runs. -/
  line : Text
  /-- The function that writes attributes. -/
  helper : Text
  /-- What a line inside a statement is indented with. -/
  indent : Text
  deriving DecidableEq, Repr

namespace Options

/-- The names and the indentation unless others are configured. -/
def standard : Options where
  output := "_$output".toList
  line := "_$line".toList
  helper := "attrs".toList
  indent := "  ".toList

end Options

/-- A character inside a string literal. The two line separators of Unicode end a line in a
script, so they are escaped too. -/
def escape (c : Char) : Text :=
  if c = '\u2028' then "\\u2028".toList
  else if c = '\u2029' then "\\u2029".toList
  else Text.escape c

/-- The string literal whose value is the text. -/
def literal (text : Text) : Text :=
  '"' :: text.flatMap escape ++ ['"']

/-- A piece of markup as an operand of the sum that shows it. -/
def operand : Piece → Text
  | .literal text => literal text
  | .code source => source

/-- Markup as a sum of strings. -/
def sum (markup : Markup) : Text :=
  if markup.isEmpty then literal [] else List.intercalate " + ".toList (markup.pieces.map operand)

/-- An assignment that adds to the page. -/
def append (options : Options) (value : Text) : Text :=
  options.output ++ " += ".toList ++ value ++ [';']

/-- The lines that show the value of an expression; nothing is shown for a blank one. -/
def expression (options : Options) (source : Text) : List Text :=
  let code := Text.trim (source.dropOne '=')
  if code.isEmpty then [] else [append options ('(' :: code ++ [')'])]

/-- A line inside a statement. -/
def indented (options : Options) (line : Text) : Text :=
  if line.isEmpty then [] else options.indent ++ line

/-- The lines of a statement, which braces its body where it has one. -/
def statement (options : Options) (line body : Text) : List Text :=
  let head := Text.trim (line.dropOne '-')
  if body.isEmpty then [head]
  else (head ++ [' ', '{']) :: body.lines.map (indented options) ++ [['}']]

/-- The assignment that notes a line number. -/
def lineMarker (options : Options) (number : Nat) : Text :=
  options.line ++ " = ".toList ++ Text.ofNat number ++ [';']

/-- The defaults by name, in alphabetical order. -/
def defaultFields (defaults : AttributeDefaults) : List (Text × Text) :=
  (defaults.className.map ("class".toList, ·)).toList ++ (defaults.id.map ("id".toList, ·)).toList

/-- The call that computes attributes. -/
def attributes (options : Options) (block : Text) (defaults : AttributeDefaults) : Text :=
  options.helper ++ '(' :: block ++ ", ".toList ++ Text.object (defaultFields defaults) ++ [')']

/-- The value of an inline expression; a blank one shows the empty string. -/
def evaluation (source : Text) : Text :=
  let code := Text.trim (source.dropWhile fun c => c == '!' || c == '=')
  if code.isEmpty then literal [] else '(' :: code ++ [')']

/-- The whole program: the two variables, the code of the lines that have any, the result. -/
def program (options : Options) (blocks : List Text) : Text :=
  let declaration (name value : Text) := "var ".toList ++ name ++ " = ".toList ++ value ++ [';']
  Text.joinLines <|
    [declaration options.output (literal []), declaration options.line ['0']] ++
      blocks.filter (!·.isEmpty) ++
      ["return ".toList ++ options.output ++ [';']]

/-- The script dialect with the given options. -/
def dialect (options : Options) : Dialect where
  program := program options
  content markup := [append options (sum markup)]
  expression := expression options
  statement := statement options
  lineMarker number := [lineMarker options number]
  attributes := attributes options
  evaluation := evaluation

/-- The script target, which lacks nothing. -/
def target (options : Options) : Target where
  dialect := dialect options
  missing := []

end Haml.Script
