import Haml.CommandLine.Run

/-! # The program

The outer layer: it fetches the files that the arguments name and the standard input, and prints
what the run comes to.
-/

namespace Haml.Program

open CommandLine

/-- The number of a system error. Some numbers arrive negated. -/
def errorNumber (code : UInt32) : Nat :=
  if code < 0x80000000 then code.toNat else (0 - code).toNat

/-- Why a file could not be read. -/
def faultOf : IO.Error → ReadFault
  | .noFileOrDirectory _ _ _ => .notFound
  | .inappropriateType _ code description
  | .invalidArgument _ code description
  | .permissionDenied _ code description
  | .resourceExhausted _ code description
  | .noSuchThing _ code description
  | .alreadyExists _ code description
  | .interrupted _ code description
  | .resourceBusy code description
  | .resourceVanished code description
  | .unsupportedOperation code description
  | .hardwareFault code description
  | .unsatisfiedConstraints code description
  | .illegalOperation code description
  | .protocolError code description
  | .timeExpired code description
  | .otherError code description =>
    match errorNumber code with
    | 20 => .notDirectory
    | 21 => .isDirectory
    | 36 => .nameTooLong
    | number => .other (description.capitalize ++ " (os error " ++ toString number ++ ")")
  | error => .other (toString error)

/-- Reads the file at a path. -/
def fetch (path : Text) : IO (Except ReadFault Bytes) := do
  try
    return .ok (← IO.FS.readBinFile (String.ofList path)).toList
  catch error =>
    return .error (faultOf error)

/-- The paths that a run with the given arguments may read. -/
def mentioned (arguments : Arguments) : List Text :=
  arguments.path.toList ++ arguments.config.toList.flatMap configCandidates

/-- Reads a stream to its end. -/
partial def readAll (stream : IO.FS.Stream) (read : Bytes) : IO Bytes := do
  let chunk ← stream.read 65536
  if chunk.isEmpty then return read else readAll stream (read ++ chunk.toList)

/-- Runs the program with the given arguments. -/
def start (arguments : List Text) : IO Outcome := do
  match Arguments.none.read arguments with
  | .error _ => return run (fun _ => .error .notFound) [] arguments
  | .ok parsed =>
    let fetched ← (mentioned parsed).mapM fun path => return (path, ← fetch path)
    let input ← if parsed.path.isSome then pure [] else readAll (← IO.getStdin) []
    return run (fun path => (fetched.lookup path).getD (.error .notFound)) input arguments

end Haml.Program

/-- The command line of the compiler. -/
def main (arguments : List String) : IO UInt32 := do
  let outcome ← Haml.Program.start (arguments.map String.toList)
  IO.print (String.ofList outcome.output)
  for warning in outcome.warnings do
    IO.eprintln ("WARN " ++ warning.message)
  IO.eprint (String.ofList outcome.errors)
  return outcome.code.toUInt32
