import Haml.Settings.KeyPath
import Haml.Text.Shown

/-! # Setting errors

Settings are refused for a key or a file that cannot be read, for a file that is not there, for a
position that a list cannot have, and for a value that is not of the kind that its place takes.
-/

namespace Haml.Setting

/-- What a place takes. -/
inductive Kind where
  | boolean
  | text
  | list
  /-- A record of the given name. -/
  | record (name : String)
  deriving DecidableEq, Repr

/-- The kind as messages name it. -/
def Kind.message : Kind → String
  | .boolean => "a boolean"
  | .text => "a string"
  | .list => "a sequence"
  | .record name => "struct " ++ name

/-- Why settings are refused. -/
inductive Error where
  /-- The key of an override is no key path. -/
  | badKey
  /-- A file is no TOML document. -/
  | badSyntax
  /-- A file that has to be there is not. -/
  | missingFile (name : Text)
  /-- A file is not text. -/
  | notText
  /-- A key leads to a position that a list cannot have. -/
  | badPosition (fault : PositionFault)
  /-- The value at a place cannot be turned into what the place takes. -/
  | unconvertible (found : Value) (expected : Kind) (place : List Step)
  /-- A value is not of the kind that its place takes, at all. -/
  | mismatch (found : Value) (expected : Kind)
  /-- A list has too few items for a record of that many fields. -/
  | tooShort (length : Nat) (record : String) (fields : Nat)
  /-- A table lacks a field of a record. -/
  | missingField (name : Text)

/-- The origin of a value. -/
def Value.origin : Value → Option Text
  | .atom origin _ | .list origin _ | .table origin _ => origin

/-- A value as messages describe it. -/
def Value.description : Value → String
  | .atom _ .null => "unit value"
  | .atom _ (.boolean value) => s!"boolean `{value}`"
  | .atom _ (.integer value) => s!"integer `{value}`"
  | .atom _ (.float value) => "floating point `" ++ String.ofList value.pointedText ++ "`"
  | .atom _ (.text value) => "string " ++ value.shown
  | .list _ _ => "sequence"
  | .table _ _ => "map"

/-- The value that was tried for the given kind: texts are compared with the words for truth values
in lower case. -/
def Value.triedAs (expected : Kind) : Value → Value
  | .atom origin (.text value) =>
    .atom origin (.text (if expected = .boolean then value.lower else value))
  | value => value

/-- A place as messages name it. -/
def placeName (place : List Step) : String :=
  place.foldl (fun name step =>
    match step with
    | .name next => (if name.isEmpty then "" else name ++ ".") ++ String.ofList next
    | .index position => s!"{name}[{position}]") ""

namespace Error

/-- The error in words. Faults of syntax are left to the reader of the file or key. -/
def message : Error → String
  | .badKey => "invalid key"
  | .badSyntax => "invalid document"
  | .missingFile name => "configuration file \"" ++ String.ofList name ++ "\" not found"
  | .notText => "stream did not contain valid UTF-8"
  | .badPosition fault => fault.message
  | .unconvertible found expected place =>
    let source := (found.origin.map fun origin => " in " ++ String.ofList origin).getD ""
    "invalid type: " ++ (found.triedAs expected).description ++ ", expected " ++ expected.message ++
      " for key `" ++ placeName place ++ "`" ++ source
  | .mismatch found expected =>
    "invalid type: " ++ found.description ++ ", expected " ++ expected.message
  | .tooShort length record fields =>
    s!"invalid length {length}, expected struct {record} with {fields} elements"
  | .missingField name => "missing field `" ++ String.ofList name ++ "`"

end Error

end Haml.Setting
