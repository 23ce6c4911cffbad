import Haml.Text.Basic

/-! # Files

The command line reads files by path. What it can find is a function from paths, so that a run
depends on nothing else; a directory gives such a function. A path leads from part to part: a file
has no parts, so that nothing, not even a slash, may follow its name.
-/

namespace Haml.CommandLine

/-- The bytes of a file. -/
abbrev Bytes := List UInt8

/-- Why a file cannot be read. -/
inductive ReadFault where
  | notFound
  | isDirectory
  | notDirectory
  | nameTooLong
  | notText
  /-- Anything else, in the words of the system. -/
  | other (message : String)
  deriving DecidableEq, Repr

/-- The fault in words. -/
def ReadFault.message : ReadFault → String
  | .notFound => "No such file or directory (os error 2)"
  | .isDirectory => "Is a directory (os error 21)"
  | .notDirectory => "Not a directory (os error 20)"
  | .nameTooLong => "File name too long (os error 36)"
  | .notText => "stream did not contain valid UTF-8"
  | .other message => message

/-- What each path leads to. -/
abbrev Files := Text → Except ReadFault Bytes

/-- Whether a part of a path stays where it is. -/
def staysPut (part : Text) : Bool :=
  part.isEmpty || part == ['.']

/-- Whether a part of a path leads to the directory above. -/
def leadsUp (part : Text) : Bool :=
  part == ['.', '.']

/-- The parts of a path, without those that stay where they are. -/
def pathParts (path : Text) : List Text :=
  (path.splitOn '/').filter (!staysPut ·)

/-- The path without the parts that stay where they are. -/
def plainPath (path : Text) : Text :=
  let root := if path.head? = some '/' then ['/'] else []
  root ++ List.intercalate ['/'] (pathParts path)

/-- The path up to the last name in it, unless it ends with the directory above one. -/
def namedPath? (path : Text) : Option Text :=
  let parts := ((path.splitOn '/').reverse.dropWhile staysPut).reverse
  match parts.getLast? with
  | none => none
  | some last => if leadsUp last then none else some (List.intercalate ['/'] parts)

/-- How many bytes a part of a path may take. -/
def longestName : Nat := 255

/-- How many bytes a path may take. -/
def longestPath : Nat := 4095

/-- A directory as the files in it, by path. -/
structure Directory where
  files : List (Text × Bytes)

/-- Where a path has led so far. -/
inductive Place where
  /-- To a directory, by the names that lead to it from the one that files are given for. -/
  | within (names : List Text)
  /-- To a directory that is not known further. -/
  | elsewhere
  | file (bytes : Bytes)
  deriving DecidableEq, Repr

namespace Directory

/-- What a name stands for in the directory that the given names lead to. -/
def enter (directory : Directory) (names : List Text) (name : Text) : Except ReadFault Place :=
  let files := directory.files.map fun (path, bytes) => (pathParts path, bytes)
  let path := names ++ [name]
  match files.lookup path with
  | some bytes => .ok (.file bytes)
  | none =>
    if files.any fun (file, _) => path.isPrefixOf file then .ok (.within path)
    else .error .notFound

/-- Where the next part of a path leads. -/
def follow (directory : Directory) (place : Place) (part : Text) : Except ReadFault Place :=
  match place with
  | .file _ => .error .notDirectory
  | .elsewhere =>
    if staysPut part || leadsUp part then .ok .elsewhere
    else if longestName < part.byteSize then .error .nameTooLong
    else .error .notFound
  | .within names =>
    if staysPut part then .ok (.within names)
    else if leadsUp part then .ok (if names.isEmpty then .elsewhere else .within names.dropLast)
    else if longestName < part.byteSize then .error .nameTooLong
    else directory.enter names part

/-- What a path leads to from within the directory. -/
def read (directory : Directory) : Files := fun path => do
  if path.isEmpty then .error .notFound
  else if longestPath < path.byteSize then .error .nameTooLong
  else
    let start : Place := if path.head? = some '/' then .elsewhere else .within []
    match ← (path.splitOn '/').foldlM directory.follow start with
    | .file bytes => .ok bytes
    | .within _ | .elsewhere => .error .isDirectory

end Directory

end Haml.CommandLine
