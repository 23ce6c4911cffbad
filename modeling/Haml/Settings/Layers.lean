import Haml.Settings.Decode
import Haml.Toml.Parse

/-! # Layers of settings

Settings are layered over the built-in ones: files in the order in which they are given, and over
all of them the overrides, of which the last one for a key counts.
-/

namespace Haml.Setting

/-- Assigns the entries of a file. The names of its outermost table are key paths where they can
be read as such. -/
def addFile (root : Value) (entries : Entries) : Except PositionFault Value :=
  entries.foldlM (fun root (name, value) =>
    match KeyPath.parse? name with
    | some path => root.assignPath path value
    | none => .ok (root.assign name value)) root

/-- The lines of the settings file that comes with the program. -/
def shippedLines : List String := [
  "# Default configuration for hamlc.",
  "#",
  "# Embedded into the library; user files passed to the loader are layered on top.",
  "",
  "[compiler]",
  "# Tags rendered with an opening tag only.",
  "self_closing = [\"meta\", \"img\", \"link\", \"br\", \"hr\", \"input\", \"area\", \"base\"]",
  "# Treat `!!! <key>` lines as doctype shortcuts instead of expressions.",
  "doctypes = false",
  "",
  "[javascript]",
  "output_variable = \"_$output\"",
  "line_variable = \"_$line\"",
  "attrs_helper = \"attrs\"",
  "indent = \"  \""]

/-- The built-in settings. They are read from the shipped file, which has no name. -/
def builtIn : Except Error Value := do
  let text := shippedLines.flatMap fun line => line.toList ++ ['\n']
  let fields ← (Toml.parse? text).elim (.error .badSyntax) .ok
  (addFile (.table none []) (Value.ofTomlFields none fields)).mapError .badPosition

/-- A file as it was found: the name that its values are said to come from, and its text. -/
structure Document where
  origin : Text
  text : Text
  deriving DecidableEq, Repr

/-- What a file name leads to. -/
inductive Found where
  | nothing
  /-- A file that is not text. -/
  | bytes
  | document (document : Document)
  deriving DecidableEq, Repr

/-- A layer of settings. -/
inductive Layer where
  /-- What the file of the given name is, and whether it has to be there. -/
  | file (name : Text) (found : Found) (required : Bool)
  | override (key : Text) (value : Value)

/-- The entries of a file. One that does not have to be there adds nothing where it cannot be had. -/
def readFile (name : Text) (required : Bool) : Found → Except Error Entries
  | .document document =>
    match Toml.parse? document.text with
    | some fields => .ok (Value.ofTomlFields (some document.origin) fields)
    | none => .error .badSyntax
  | .nothing => if required then .error (.missingFile name) else .ok []
  | .bytes => if required then .error .notText else .ok []

/-- Adds a layer to the settings below it, if it is a file. -/
def addLayer (root : Value) : Layer → Except Error Value
  | .file name found required => do
    (addFile root (← readFile name required found)).mapError .badPosition
  | .override _ _ => .ok root

/-- The overrides among layers. Their keys have to be key paths. -/
def overrides : List Layer → Except Error (List (KeyPath × Value))
  | [] => .ok []
  | .file _ _ _ :: later => overrides later
  | .override key value :: later =>
    match KeyPath.parse? key with
    | some path => do return (path, value) :: (← overrides later)
    | none => .error .badKey

/-- The overrides that no later one of the same key follows. -/
def lastOverrides : List (KeyPath × Value) → List (KeyPath × Value)
  | [] => []
  | (path, value) :: later =>
    if later.any (·.1 == path) then lastOverrides later else (path, value) :: lastOverrides later

/-- Adds an override to the settings below it. -/
def addOverride (root : Value) : KeyPath × Value → Except Error Value
  | (path, value) => (root.assignPath path value).mapError .badPosition

/-- The tree of all layers over the built-in settings. Keys are read before any file is. -/
def merge (layers : List Layer) : Except Error Value := do
  let overrides ← overrides layers
  let root ← layers.foldlM addLayer (← builtIn)
  (lastOverrides overrides).foldlM addOverride root

/-- The settings of layers. -/
def load (layers : List Layer) : Except Error Settings := do
  toSettings (← merge layers)

end Haml.Setting
