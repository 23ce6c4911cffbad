import Haml.Settings.Value

/-! # Key paths

A key path leads to a place in a tree of settings: a name, then further names after points and
positions in brackets. Assigning to a place creates the tables and lists on the way, and a table
that is assigned is merged into the one that is there.
-/

namespace Haml.Setting

/-- One step of a key path. -/
inductive Step where
  | name (name : Text)
  /-- A position in a list; a negative one counts from the end. -/
  | index (position : Int)
  deriving DecidableEq, Repr

/-- A name and the steps after it. -/
structure KeyPath where
  name : Text
  steps : List Step
  deriving DecidableEq, Repr

namespace KeyPath

/-- Whether the character may stand in a name. -/
def isNameChar (c : Char) : Bool :=
  c.isAlphanum || c == '_' || c == '-' || c == ' '

/-- The position that stands between brackets, with spacing around it. -/
def position? (text : Text) : Option Int := do
  let (sign, digits) :=
    match text.dropWhile Toml.isSpacing with
    | '-' :: digits => (-1, digits)
    | digits => ((1 : Int), digits)
  let number := digits.takeWhile Char.isDigit
  if (digits.dropWhile Char.isDigit).all Toml.isSpacing then
    let value := sign * (← Decimal.natural? 10 number)
    if -0x8000000000000000 ≤ value ∧ value ≤ 0x7FFFFFFFFFFFFFFF then some value else none
  else none

/-- The steps of a key path after its name. -/
def readSteps : Text → Option (List Step)
  | [] => some []
  | '.' :: rest =>
    match rest.takeWhile isNameChar with
    | [] => none
    | name => do return .name name :: (← readSteps (rest.dropWhile isNameChar))
  | '[' :: rest => do
    let position ← position? (rest.takeWhile (· != ']'))
    match rest.dropWhile (· != ']') with
    | ']' :: later =>
      if later.length ≤ rest.length then return .index position :: (← readSteps later) else none
    | _ => none
  | _ => none
  termination_by text => text.length
  decreasing_by
    all_goals simp only [List.length_cons]
    · exact Nat.lt_succ_of_le (List.dropWhile_sublist isNameChar).length_le
    · omega

/-- Reads a key path. -/
def parse? (text : Text) : Option KeyPath :=
  match text.takeWhile isNameChar with
  | [] => none
  | name => do return ⟨name, ← readSteps (text.dropWhile isNameChar)⟩

end KeyPath

namespace Value

mutual

/-- Assigns a value to a name in a table; a value that is no table becomes one. A table is merged
into what the name stands for, so that an empty one changes nothing there. -/
def assign (root : Value) (name : Text) : Value → Value
  | .table _ incoming =>
    let target := (root.entries.get? name).getD (.table none [])
    root.withEntry name (assignAll target incoming)
  | .atom origin content => root.withEntry name (.atom origin content)
  | .list origin items => root.withEntry name (.list origin items)

/-- Assigns the values of the given entries one by one. -/
def assignAll (root : Value) : Entries → Value
  | [] => root
  | (name, value) :: later => assignAll (root.assign name value) later

end

/-- Assigns a value at the end of the given steps. A name merges tables, a position replaces what
stands there. -/
def assignAt (value : Value) : (root : Value) → List Step → Except PositionFault Value
  | _, [] => .ok value
  | root, [.name name] => .ok (root.assign name value)
  | root, .name name :: later => do
    return root.withEntry name (← assignAt value ((root.entries.get? name).getD .null) later)
  | root, .index position :: later =>
    root.withItem position fun item => assignAt value item later

/-- Assigns a value to the place that a key path leads to. -/
def assignPath (root : Value) (path : KeyPath) (value : Value) : Except PositionFault Value :=
  assignAt value root (.name path.name :: path.steps)

end Value

end Haml.Setting
