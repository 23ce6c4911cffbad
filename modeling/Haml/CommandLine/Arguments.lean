import Haml.Text.Basic

/-! # Arguments

The command line takes one path at most, and options before and after it. Arguments are read from
left to right: the first one that asks for help or for the version, or that cannot be read, decides.
-/

namespace Haml.CommandLine

/-- What is printed. -/
inductive Format where
  | program
  | tree
  | json
  | yaml
  deriving DecidableEq, Repr

/-- The format of the given name. -/
def Format.ofName? (name : Text) : Option Format :=
  match String.ofList name with
  | "js" => some .program
  | "tree" => some .tree
  | "json" => some .json
  | "yaml" => some .yaml
  | _ => none

/-- What the arguments say so far. -/
structure Arguments where
  path : Option Text
  format : Option Format
  config : Option Text
  doctypes : Bool
  deriving DecidableEq, Repr

/-- Nothing said. -/
def Arguments.none : Arguments where
  path := .none
  format := .none
  config := .none
  doctypes := false

/-- Why arguments cannot be read. -/
inductive Rejection where
  | unknownOption (name : Text)
  | missingValue
  | unexpectedValue
  | unknownFormat (name : Text)
  | repeated
  | secondPath
  deriving DecidableEq, Repr

/-- Why reading the arguments ends early. -/
inductive Halt where
  | help
  | version
  | rejected (rejection : Rejection)
  deriving DecidableEq, Repr

/-- An option that takes a value. -/
inductive ValueOption where
  | format
  | config
  deriving DecidableEq, Repr

/-- What an argument is. -/
inductive Argument where
  /-- The mark after which every argument is a path. -/
  | separator
  | path (path : Text)
  | help
  | version
  | doctypes
  /-- An option that takes a value, with the value if it stands in the same argument. -/
  | value (option : ValueOption) (value : Option Text)
  | faulty (rejection : Rejection)
  deriving DecidableEq, Repr

/-- An option with a long name. -/
def readLong (name : Text) (value : Option Text) : Argument :=
  let flag (argument : Argument) : Argument :=
    if value.isSome then .faulty .unexpectedValue else argument
  match String.ofList name with
  | "help" => flag .help
  | "version" => flag .version
  | "doctypes" => flag .doctypes
  | "format" => .value .format value
  | "config" => .value .config value
  | _ => .faulty (.unknownOption name)

/-- An option with a short name. What follows the name is its value, after an equals sign or not;
help and version need no look at what follows. -/
def readShort (name : Char) (rest : Text) : Argument :=
  let value := if rest.isEmpty then none else some (rest.dropOne '=')
  match name with
  | 'h' => .help
  | 'V' => .version
  | 'f' => .value .format value
  | 'c' => .value .config value
  | _ => .faulty (.unknownOption [name])

/-- Reads one argument. -/
def readArgument : Text → Argument
  | ['-', '-'] => .separator
  | '-' :: '-' :: rest =>
    match rest.dropWhile (· != '=') with
    | '=' :: value => readLong (rest.takeWhile (· != '=')) (some value)
    | _ => readLong rest none
  | '-' :: name :: rest => readShort name rest
  | path => .path path

namespace Arguments

/-- Adds a path, which may be given once. -/
def addPath (arguments : Arguments) (path : Text) : Except Halt Arguments :=
  if arguments.path.isSome then .error (.rejected .secondPath)
  else .ok { arguments with path := some path }

/-- Adds the value of an option, which may be given once. -/
def addValue (arguments : Arguments) (value : Text) : ValueOption → Except Halt Arguments
  | .format =>
    match Format.ofName? value with
    | .none => .error (.rejected (.unknownFormat value))
    | some format =>
      if arguments.format.isSome then .error (.rejected .repeated)
      else .ok { arguments with format := some format }
  | .config =>
    if arguments.config.isSome then .error (.rejected .repeated)
    else .ok { arguments with config := some value }

/-- Reads the remaining arguments. The value of an option is the next argument where it does not
stand in the same one, and that argument must not be an option itself. -/
def read (arguments : Arguments) : List Text → Except Halt Arguments
  | [] => .ok arguments
  | argument :: later =>
    match readArgument argument with
    | .separator => later.foldlM addPath arguments
    | .path path => do (← arguments.addPath path).read later
    | .help => .error .help
    | .version => .error .version
    | .doctypes =>
      if arguments.doctypes then .error (.rejected .repeated)
      else read { arguments with doctypes := true } later
    | .value option (some value) => do (← arguments.addValue value option).read later
    | .value option .none =>
      match later with
      | [] => .error (.rejected .missingValue)
      | next :: later =>
        match readArgument next with
        | .path value => do (← arguments.addValue value option).read later
        | _ => .error (.rejected .missingValue)
    | .faulty rejection => .error (.rejected rejection)

end Arguments

end Haml.CommandLine
