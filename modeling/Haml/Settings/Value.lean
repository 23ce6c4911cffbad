import Haml.Text.Lower
import Haml.Toml.Basic

/-! # Setting values

Settings are trees of tables and lists over single values. A value remembers the file that it comes
from. Names in tables are the same when they are the same in lower case.
-/

namespace Haml.Setting

/-- A single value. -/
inductive Atom where
  | null
  | boolean (value : Bool)
  | integer (value : Int)
  | float (value : Floating)
  | text (value : Text)
  deriving DecidableEq, Repr

/-- A value with the file that it comes from, if it comes from one. -/
inductive Value where
  | atom (origin : Option Text) (content : Atom)
  | list (origin : Option Text) (items : List Value)
  | table (origin : Option Text) (entries : List (Text × Value))

/-- The entries of a table. -/
abbrev Entries := List (Text × Value)

namespace Value

/-- The value of a place that nothing was assigned to. -/
def null : Value :=
  .atom none .null

instance : Inhabited Value := ⟨null⟩

mutual

/-- Compares values as trees. -/
def decideEq : (value other : Value) → Decidable (value = other)
  | .atom origin content, .atom origin' content' =>
    decidable_of_iff (origin = origin' ∧ content = content') (by simp)
  | .list origin items, .list origin' items' =>
    match decideEqItems items items' with
    | .isTrue same => decidable_of_iff (origin = origin') (by simp [same])
    | .isFalse differ => .isFalse (by simp [differ])
  | .table origin entries, .table origin' entries' =>
    match decideEqEntries entries entries' with
    | .isTrue same => decidable_of_iff (origin = origin') (by simp [same])
    | .isFalse differ => .isFalse (by simp [differ])
  | .atom _ _, .list _ _ | .atom _ _, .table _ _ | .list _ _, .atom _ _ | .list _ _, .table _ _
  | .table _ _, .atom _ _ | .table _ _, .list _ _ => .isFalse nofun

/-- Compares the items of lists. -/
def decideEqItems : (items others : List Value) → Decidable (items = others)
  | [], [] => .isTrue rfl
  | item :: later, item' :: later' =>
    match decideEq item item', decideEqItems later later' with
    | .isTrue same, .isTrue rest => .isTrue (by rw [same, rest])
    | .isFalse differ, _ => .isFalse (by simp [differ])
    | _, .isFalse differ => .isFalse (by simp [differ])
  | [], _ :: _ | _ :: _, [] => .isFalse nofun

/-- Compares the entries of tables. -/
def decideEqEntries : (entries others : List (Text × Value)) → Decidable (entries = others)
  | [], [] => .isTrue rfl
  | (name, value) :: later, (name', value') :: later' =>
    match decideEq value value', decideEqEntries later later' with
    | .isTrue same, .isTrue rest => decidable_of_iff (name = name') (by simp [same, rest])
    | .isFalse differ, _ => .isFalse (by simp [differ])
    | _, .isFalse differ => .isFalse (by simp [differ])
  | [], _ :: _ | _ :: _, [] => .isFalse nofun

end

instance : DecidableEq Value := decideEq

/-- The entries of a table; any other value has none. -/
def entries : Value → Entries
  | .table _ entries => entries
  | _ => []

/-- The items of a list; any other value has none. -/
def items : Value → List Value
  | .list _ items => items
  | _ => []

mutual

/-- A value of a TOML document that stands in the given file. Moments are texts. -/
def ofToml (origin : Option Text) : Toml.Value → Value
  | .string text => .atom origin (.text text)
  | .integer value => .atom origin (.integer value)
  | .float value => .atom origin (.float value)
  | .boolean value => .atom origin (.boolean value)
  | .moment text => .atom origin (.text text)
  | .array items => .list origin (ofTomlItems origin items)
  | .table fields => .table origin (ofTomlFields origin fields)

/-- The values of an array. -/
def ofTomlItems (origin : Option Text) : List Toml.Value → List Value
  | [] => []
  | item :: later => ofToml origin item :: ofTomlItems origin later

/-- The entries of a table. -/
def ofTomlFields (origin : Option Text) : List (Text × Toml.Value) → Entries
  | [] => []
  | (name, value) :: later => (name, ofToml origin value) :: ofTomlFields origin later

end

end Value

namespace Entries

/-- The value under a name. -/
def get? (entries : Entries) (name : Text) : Option Value :=
  entries.lookup name.lower

/-- Gives a name a value, in the place of the one that it has, or else at the end. -/
def put (name : Text) (value : Value) : Entries → Entries
  | [] => [(name.lower, value)]
  | (key, old) :: later =>
    if key = name.lower then (key, value) :: later else (key, old) :: put name value later

end Entries

/-- Gives a name in a table a value; a value that is no table becomes one. -/
def Value.withEntry (root : Value) (name : Text) (value : Value) : Value :=
  match root with
  | .table origin entries => .table origin (Entries.put name value entries)
  | _ => .table none (Entries.put name value [])

/-- Why a list has no item at a position. -/
inductive PositionFault where
  /-- The position, counted from the end, lies before the first item. -/
  | beforeStart
  /-- The list would have to grow too long. -/
  | tooFar
  deriving DecidableEq, Repr

namespace PositionFault

/-- The fault in words. -/
def message : PositionFault → String
  | .beforeStart => "attempt to subtract with overflow"
  | .tooFar => "capacity overflow"

end PositionFault

/-- How many items a list may have. A block of memory has less than 2⁶³ bytes, and an item takes 96 of
them. -/
def longestList : Nat := 0x7FFFFFFFFFFFFFFF / 96

/-- The index that a position stands for in a list of the given length: a negative one counts from
the end. -/
def itemIndex (length : Nat) : Int → Except PositionFault Nat
  | .ofNat index => if index < longestList then .ok index else .error .tooFar
  | .negSucc before => if before < length then .ok (length - (before + 1)) else .error .beforeStart

/-- The list of a value, which a position beyond its end pads, with the value there changed. A value
that is no list becomes one. -/
def Value.withItem (root : Value) (position : Int)
    (change : Value → Except PositionFault Value) : Except PositionFault Value := do
  let items := root.items
  let index ← itemIndex items.length position
  let padded := items ++ List.replicate (index + 1 - items.length) Value.null
  let item ← change ((padded[index]?).getD .null)
  let origin :=
    match root with
    | .list origin _ => origin
    | _ => none
  return .list origin (padded.set index item)

end Haml.Setting
