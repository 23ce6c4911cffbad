import Haml.Render
import Haml.Settings.Error
import Haml.Target.Script

/-! # Settings of the compiler

The compiler takes six settings in two records. A record is a table with a field a name, or a list
with a field a position.
-/

namespace Haml

/-- All settings of the compiler. -/
structure Settings where
  options : Options
  script : Script.Options
  deriving DecidableEq, Repr

namespace Setting

/-- The words that stand for truth. -/
def trueWords : List Text :=
  ["1", "true", "on", "yes"].map String.toList

/-- The words that stand for falsehood. -/
def falseWords : List Text :=
  ["0", "false", "off", "no"].map String.toList

/-- A truth value: a number other than zero is true, and so are some words in any case. -/
def toBoolean (place : List Step) (value : Value) : Except Error Bool :=
  match value with
  | .atom _ (.boolean flag) => .ok flag
  | .atom _ (.integer number) => .ok (number != 0)
  | .atom _ (.float number) => .ok !number.isZero
  | .atom _ (.text word) =>
    if trueWords.contains word.lower then .ok true
    else if falseWords.contains word.lower then .ok false
    else .error (.unconvertible value .boolean place)
  | _ => .error (.unconvertible value .boolean place)

/-- A text; numbers and truth values are written out. -/
def toText (place : List Step) (value : Value) : Except Error Text :=
  match value with
  | .atom _ (.text text) => .ok text
  | .atom _ (.boolean flag) => .ok (toString flag).toList
  | .atom _ (.integer number) => .ok (toString number).toList
  | .atom _ (.float number) => .ok number.text
  | _ => .error (.unconvertible value .text place)

/-- A list of texts. -/
def toTexts (place : List Step) (value : Value) : Except Error (List Text) :=
  match value with
  | .list _ items => items.zipIdx.mapM fun (item, index) => toText (place ++ [.index index]) item
  | _ => .error (.mismatch value .list)

/-- A record as messages name it, with its fields in order. -/
structure Record where
  name : String
  fields : List Text

namespace Record

/-- The record of what the meaning of lines depends on. -/
def compiler : Record where
  name := "CompilerOptions"
  fields := ["self_closing", "doctypes"].map String.toList

/-- The record of what generated programs use. -/
def script : Record where
  name := "JavaScriptOptions"
  fields := ["output_variable", "line_variable", "attrs_helper", "indent"].map String.toList

end Record

/-- Where the value of a field is looked for, the value if it is there, and the error if not. -/
structure Slot where
  place : List Step
  value : Option Value
  absence : Error

namespace Slot

/-- The slot of a field, given by its position in the record. -/
def of (record : Record) (place : List Step) (value : Value) (index : Nat) : Except Error Slot :=
  let name := (record.fields[index]?).getD []
  match value with
  | .table _ entries =>
    .ok ⟨place ++ [.name name], Entries.get? entries name, .missingField name⟩
  | .list _ items =>
    .ok ⟨place ++ [.index index], items[index]?, .tooShort index record.name record.fields.length⟩
  | .atom _ _ => .error (.mismatch value (.record record.name))

/-- Reads the value of a slot, if it is there. -/
def read {α : Type} (slot : Slot) (decode : List Step → Value → Except Error α) :
    Except Error (Option α) :=
  slot.value.mapM (decode slot.place)

/-- What was read from a slot, which has to be there. -/
def require {α : Type} (slot : Slot) : Option α → Except Error α
  | some value => .ok value
  | none => .error slot.absence

end Slot

/-- Reads the options that the meaning of lines depends on. A value that is there is read before
one that is missing is reported. -/
def toOptions (place : List Step) (value : Value) : Except Error Options := do
  let slot := Slot.of .compiler place value
  let selfClosing ← slot 0
  let doctypes ← slot 1
  let tags ← selfClosing.read toTexts
  let flag ← doctypes.read toBoolean
  return { selfClosing := ← selfClosing.require tags, doctypes := ← doctypes.require flag }

/-- Reads the names and the indentation that generated programs use. -/
def toScriptOptions (place : List Step) (value : Value) : Except Error Script.Options := do
  let slot := Slot.of .script place value
  let output ← slot 0
  let line ← slot 1
  let helper ← slot 2
  let indent ← slot 3
  let outputText ← output.read toText
  let lineText ← line.read toText
  let helperText ← helper.read toText
  let indentText ← indent.read toText
  return {
    output := ← output.require outputText
    line := ← line.require lineText
    helper := ← helper.require helperText
    indent := ← indent.require indentText
  }

/-- Reads one of the two records of a tree of settings. -/
def readRecord {α : Type} (root : Value) (name : String)
    (decode : List Step → Value → Except Error α) : Except Error α :=
  match root.entries.get? name.toList with
  | some value => decode [.name name.toList] value
  | none => .error (.missingField name.toList)

/-- Reads all settings from a tree of settings. -/
def toSettings (root : Value) : Except Error Settings := do
  let options ← readRecord root "compiler" toOptions
  let script ← readRecord root "javascript" toScriptOptions
  return { options, script }

end Setting

end Haml
