import Haml.Toml.Moment
import Haml.Toml.Number
import Haml.Toml.String
import Haml.Toml.Table

/-! # Reading TOML

A document is a sequence of lines, each a heading or a key with its value. Arrays and inline tables
may be nested only so deep. A table that starts with one reserved key stands for the moment that it
has there.
-/

namespace Haml.Toml

/-- Whether the character may stand in a key without quotes. -/
def isBare (c : Char) : Bool :=
  c.isAlphanum || c == '_' || c == '-'

/-- Reads one part of a key. -/
def readKeyPart : Reader Text
  | '"' :: rest => readBasic rest
  | '\'' :: rest => readLiteral rest
  | text =>
    let word := text.takeWhile isBare
    if word.isEmpty then none else some (word, text.dropWhile isBare)

/-- How many parts a key, and how many levels of nesting a value may have, and one more. -/
def nestingLimit : Nat := 80

/-- Reads a key: its leading parts and its last one. -/
def readKey : Reader (List Text × Text)
  | text => do
    let (parts, rest) ← readSeparated readKeyPart (spaced? '.') text
    let last ← parts.getLast?
    if parts.length < nestingLimit then some ((parts.dropLast, last), rest) else none

/-- Whether the character may stand in a number, a truth value or a moment. -/
def isWordChar (c : Char) : Bool :=
  c.isAlphanum || c == '+' || c == '-' || c == '_' || c == '.' || c == ':'

/-- Reads a value that is one word. -/
def readWord : Reader Value
  | text =>
    let word := text.takeWhile isWordChar
    let rest := text.dropWhile isWordChar
    if word = "true".toList then some (.boolean true, rest)
    else if word = "false".toList then some (.boolean false, rest)
    else
      match integer? word, float? word with
      | some value, _ => some (.integer value, rest)
      | none, some value => some (.float value, rest)
      | none, none => (readMoment text).map fun (moment, rest) => (.moment moment, rest)

/-- What follows a comma between two items of an array. -/
def nextItem? (text : Text) : Option Text :=
  match skipLayout text with
  | ',' :: rest =>
    match skipLayout rest with
    | ']' :: _ => none
    | rest => some rest
  | _ => none

/-- What follows the end of an array that has items, after a comma or not. -/
def arrayEnd? (text : Text) : Option Text :=
  match skipLayout text with
  | ']' :: rest => some rest
  | ',' :: rest => after? ']' (skipLayout rest)
  | _ => none

/-- Reads an array after its opening bracket. -/
def readArray (item : Reader Value) : Reader Value
  | text =>
    match skipLayout text with
    | ']' :: rest => some (.array [], rest)
    | text => do
      let (items, rest) ← readSeparated item nextItem? text
      return (.array items, ← arrayEnd? rest)

/-- Reads a key and its value. -/
def readEntry (value : Reader Value) : Reader ((List Text × Text) × Value)
  | text => do
    let (key, rest) ← readKey text
    let (value, rest) ← value (← spaced? '=' rest)
    return ((key, value), rest)

/-- Reads an inline table after its opening brace. -/
def readInlineTable (value : Reader Value) : Reader Value
  | text =>
    match skipSpacing text with
    | '}' :: rest => some (.table [], rest)
    | text => do
      let (pairs, rest) ← readSeparated (readEntry value) (spaced? ',') text
      let rest ← after? '}' (skipSpacing rest)
      let entries ← pairs.foldlM (fun (entries : Entries) ((path, key), value) =>
        entries.insert key value path) []
      return (.table entries.toFields, rest)

/-- Reads a value with arrays and inline tables nested in each other to the given depth. -/
def readValue : (depth : Nat) → Reader Value
  | _, '"' :: rest => (readString ('"' :: rest)).map fun (text, rest) => (.string text, rest)
  | _, '\'' :: rest => (readString ('\'' :: rest)).map fun (text, rest) => (.string text, rest)
  | 0, '[' :: _ => none
  | 0, '{' :: _ => none
  | depth + 1, '[' :: rest => readArray (readValue depth) rest
  | depth + 1, '{' :: rest => readInlineTable (readValue depth) rest
  | _, text => readWord text

/-- A document under construction: its tables, and the path of the heading that was read last. -/
structure Document where
  entries : Entries
  heading : List Text

namespace Document

/-- Adds a value under a key, in the table of the last heading. -/
def addEntry (document : Document) (path : List Text) (key : Text) (value : Value) :
    Option Document := do
  let entries ← document.entries.within (·.insert key value path) document.heading
  return { document with entries }

/-- Adds a heading. -/
def addHeading (document : Document) (heading : Text → Entries → Option Entries)
    (path : List Text) (key : Text) : Option Document := do
  let entries ← document.entries.within (heading key) path
  return { entries, heading := path ++ [key] }

end Document

/-- Reads the key of a heading and what closes it. -/
def readHeading (close : Text) : Reader (List Text × Text)
  | text => do
    let (key, rest) ← readKey (skipSpacing text)
    let rest := skipSpacing rest
    if close.isPrefixOf rest then some (key, rest.drop close.length) else none

/-- Reads what stands on one line, if anything does. -/
def readExpression (document : Document) : Reader Document
  | '[' :: '[' :: rest => do
    let ((path, key), rest) ← readHeading [']', ']'] rest
    return (← document.addHeading Entries.openSeries path key, rest)
  | '[' :: rest => do
    let ((path, key), rest) ← readHeading [']'] rest
    return (← document.addHeading Entries.openTable path key, rest)
  | text =>
    if (lineEnd? text).isSome then some (document, text)
    else do
      let (((path, key), value), rest) ← readEntry (readValue (nestingLimit - 1)) text
      return (← document.addEntry path key value, rest)

/-- Reads the remaining lines of a document. -/
def readLines (document : Document) (text : Text) : Option Document := do
  let (document, rest) ← readExpression document (skipSpacing text)
  let next ← lineEnd? rest
  if next.isEmpty then some document
  else if next.length < text.length then readLines document next
  else none
  termination_by text.length

/-- The text without a byte order mark at its start. -/
def skipMark : Text → Text
  | '\ufeff' :: rest => rest
  | text => text

/-- The key that makes a moment of the table that starts with it. -/
def momentKey : Text :=
  "$__toml_private_datetime".toList

/-- Whether a table starts with the key that makes a moment of it. -/
def isMoment (fields : List (Text × Value)) : Bool :=
  fields.head?.any (·.1 == momentKey)

/-- The moment that the fields of a table stand for, whatever follows the first of them. -/
def momentOf? : List (Text × Value) → Option Value
  | (_, .string text) :: _ => (moment? text).map .moment
  | _ => none

mutual

/-- The value with a moment in the place of each table that stands for one. -/
def settle : Value → Option Value
  | .array items => (settleItems items).map .array
  | .table fields =>
    if isMoment fields then momentOf? fields else (settleFields fields).map .table
  | .string text => some (.string text)
  | .integer value => some (.integer value)
  | .float value => some (.float value)
  | .boolean value => some (.boolean value)
  | .moment text => some (.moment text)

/-- The same for each item of an array. -/
def settleItems : List Value → Option (List Value)
  | [] => some []
  | item :: later => do return (← settle item) :: (← settleItems later)

/-- The same for each field of a table. -/
def settleFields : List (Text × Value) → Option (List (Text × Value))
  | [] => some []
  | (key, value) :: later => do return (key, ← settle value) :: (← settleFields later)

end

/-- Reads a TOML document: the fields of its outermost table, which must not be a moment. -/
def parse? (text : Text) : Option (List (Text × Value)) := do
  let document ← readLines ⟨[], []⟩ (skipMark text)
  let fields := document.entries.toFields
  if isMoment fields then none else settleFields fields

end Haml.Toml
