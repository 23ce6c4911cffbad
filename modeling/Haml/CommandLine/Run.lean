import Haml.CommandLine.Arguments
import Haml.CommandLine.Files
import Haml.Compiler
import Haml.Dump.Json
import Haml.Dump.TreeView
import Haml.Dump.Yaml
import Haml.Settings.Layers
import Haml.Text.Utf8
import Haml.Warning

/-! # Running the command line

A run reads a template, compiles it or dumps its outline, and prints the result without the blank
characters at its end. Where something fails it prints nothing but the error, and settings that lead
to a position that a list cannot have end the run at once. Warnings are given in both cases, before
the error. Of arguments that cannot be read nothing is told but the code.
-/

namespace Haml.CommandLine

/-- What a run comes to. -/
structure Outcome where
  code : Nat
  output : Text
  errors : Text
  warnings : List Warning
  deriving DecidableEq, Repr

namespace Outcome

/-- A run that prints the given text. -/
def success (output : Text) : Outcome :=
  ⟨0, output, [], []⟩

/-- A run that ends in an error. -/
def failure (message : String) : Outcome :=
  ⟨1, [], message.toList ++ ['\n'], []⟩

/-- A run that ends at once. -/
def breakdown (message : String) : Outcome :=
  ⟨101, [], message.toList ++ ['\n'], []⟩

end Outcome

/-- The name of the program and its version. -/
def versionText : String :=
  "hamlc 0.1.0\n"

/-- How the program is used. -/
def helpText : String :=
  "Compile HAML-like templates to JavaScript\n\n" ++
  "Usage: hamlc [OPTIONS] [path]\n\n" ++
  "Arguments:\n" ++
  "  [path]  Template file (standard input when omitted)\n\n" ++
  "Options:\n" ++
  "  -f, --format <format>  Output: compiled JavaScript or the parsed line tree [default: js] " ++
  "[possible values: js, tree, json, yaml]\n" ++
  "  -c, --config <config>  TOML file layered over the built-in defaults\n" ++
  "      --doctypes         Expand `!!!` doctype shortcut lines\n" ++
  "  -h, --help             Print help\n" ++
  "  -V, --version          Print version\n"

/-- The template: the file of the given path, or else the standard input. -/
def readTemplate (files : Files) (input : Bytes) (path : Option Text) : Except ReadFault Text := do
  let bytes ←
    match path with
    | some path => files path
    | none => .ok input
  match Utf8.decode? bytes with
  | some text => .ok text
  | none => .error .notText

/-- The paths that a configuration file is looked for at: the given one, and the same with the
usual ending. -/
def configCandidates (path : Text) : List Text :=
  path :: (namedPath? path).toList.map (· ++ ".toml".toList)

/-- What a path that leads to a file makes of its bytes. -/
def readConfig (path : Text) (bytes : Bytes) : Setting.Found :=
  match Utf8.decode? bytes with
  | some text => .document ⟨plainPath path, text⟩
  | none => .bytes

/-- The configuration file of the given path: the first candidate that leads to a file. -/
def findConfig (files : Files) (path : Text) : Setting.Found :=
  let found := (configCandidates path).findSome? fun candidate =>
    match files candidate with
    | .ok bytes => some (readConfig candidate bytes)
    | .error _ => none
  found.getD .nothing

/-- The layers that the arguments ask for. -/
def layers (files : Files) (arguments : Arguments) : List Setting.Layer :=
  let file : List Setting.Layer :=
    match arguments.config with
    | some path => [.file path (findConfig files path) true]
    | none => []
  let doctypes : List Setting.Layer :=
    if arguments.doctypes then
      [.override "compiler.doctypes".toList (.atom none (.boolean true))]
    else []
  file ++ doctypes

/-- Why nothing comes of a template. -/
inductive Failure where
  | settings (error : Setting.Error)
  | template (error : CompileError)

/-- The run that a failure comes to. -/
def Failure.outcome : Failure → Outcome
  | .settings (.badPosition fault) => .breakdown fault.message
  | .settings error => .failure ("Error: " ++ error.message)
  | .template error => .failure ("Error: " ++ error.message)

/-- The program for a template under the settings that the arguments ask for. -/
def compileTemplate (files : Files) (arguments : Arguments) (template : Text) :
    Except Failure Text := do
  let settings ← (Setting.load (layers files arguments)).mapError .settings
  let emission := compile (Script.target settings.script) settings.options template
  emission.outcome.mapError .template

/-- The outline of a template in the given format. -/
def dumpTemplate (dump : Outline → Text) (template : Text) : Except Failure Text :=
  match Outline.parse template with
  | .ok outline => .ok (dump outline)
  | .error error => .error (.template (.indentation error))

/-- What the library makes of a template. -/
def process (files : Files) (arguments : Arguments) (template : Text) : Except Failure Text :=
  match arguments.format.getD .program with
  | .program => compileTemplate files arguments template
  | .tree => dumpTemplate Outline.treeView template
  | .json => dumpTemplate Outline.jsonDump template
  | .yaml => dumpTemplate Outline.yamlDump template

/-- The warnings about a template. Only a program is rendered, and only under valid settings. -/
def warnings (files : Files) (arguments : Arguments) (template : Text) : List Warning :=
  match arguments.format.getD .program, Setting.load (layers files arguments),
    Outline.parse template with
  | .program, .ok settings, .ok outline => outline.warnings settings.options
  | _, _, _ => []

/-- Runs the program with the given arguments. -/
def runWith (files : Files) (input : Bytes) (arguments : Arguments) : Outcome :=
  match readTemplate files input arguments.path with
  | .error fault => .failure ("Error reading template: " ++ fault.message)
  | .ok template =>
    let ended : Outcome :=
      match process files arguments template with
      | .ok text => .success (text.trimEnd ++ ['\n'])
      | .error failure => failure.outcome
    { ended with warnings := warnings files arguments template }

/-- Runs the program: reads the arguments and does what they ask for. -/
def run (files : Files) (input : Bytes) (arguments : List Text) : Outcome :=
  match Arguments.none.read arguments with
  | .ok arguments => runWith files input arguments
  | .error .help => .success helpText.toList
  | .error .version => .success versionText.toList
  | .error (.rejected _) => ⟨2, [], [], []⟩

end Haml.CommandLine
