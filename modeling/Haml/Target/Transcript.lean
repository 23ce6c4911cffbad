import Haml.Target.Basic
import Haml.Text.Blank
import Haml.Text.Quoted

/-! # The transcript dialect

A transcript shows markup as it is and every other request in brackets, so that a reader can see
what a template asks for without reading a program.
-/

namespace Haml.Transcript

/-- The defaults by name, the identity first. -/
def defaultFields (defaults : AttributeDefaults) : List (Text × Text) :=
  (defaults.id.map ("id".toList, ·)).toList ++ (defaults.className.map ("class".toList, ·)).toList

/-- A statement between its head and its end, with its body where that is not empty. -/
def statement (line body : Text) : List Text :=
  let head := "[stmt ".toList ++ line ++ [']']
  let inside := if body.isEmpty then [] else [body]
  head :: inside ++ ["[end]".toList]

/-- The transcript dialect. -/
def dialect : Dialect where
  program := Text.joinLines
  content markup := [markup.plain]
  expression source := ["[expr ".toList ++ Text.trim source ++ [']']]
  statement := statement
  lineMarker number := ["[line ".toList ++ Text.ofNat number ++ [']']]
  attributes block defaults :=
    "attrs(".toList ++ block ++ ", ".toList ++ Text.object (defaultFields defaults) ++ [')']
  evaluation source := "eval(".toList ++ source ++ [')']

/-- The target that writes transcripts and lacks nothing. -/
def target : Target where
  dialect := dialect
  missing := []

end Haml.Transcript

namespace Haml.Target

/-- The target that can write nothing. -/
def bare : Target where
  dialect := Transcript.dialect
  missing := Capability.all

/-- The target with further capabilities taken away. -/
def without (target : Target) (missing : List Capability) : Target :=
  { target with missing := target.missing ++ missing }

end Haml.Target
