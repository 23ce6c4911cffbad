import Haml.Toml.Basic

/-! # TOML tables under construction

A table may be spelled out in several places of a document, but each of its keys only once. Which
further places are allowed depends on how the table came to be.
-/

namespace Haml.Toml

/-- How a table came to be. -/
inductive Provenance where
  /-- It has a heading of its own. -/
  | headed
  /-- It is named in the heading of a table within it. -/
  | implied
  /-- It is named in a key of several parts. -/
  | dotted
  deriving DecidableEq, Repr

/-- What a key stands for while a document is read. -/
inductive Item where
  /-- A value that is complete. -/
  | value (value : Value)
  /-- A table that may grow. -/
  | table (provenance : Provenance) (entries : List (Text × Item))
  /-- Tables with one heading each, of which the last may grow. -/
  | series (earlier : List Value) (last : List (Text × Item))

/-- The entries of a table under construction. -/
abbrev Entries := List (Text × Item)

mutual

/-- The value of an item as it stands. -/
def Item.toValue : Item → Value
  | .value value => value
  | .table _ entries => .table (Entries.toFields entries)
  | .series earlier last => .array (earlier ++ [.table (Entries.toFields last)])

/-- The values of entries as they stand. -/
def Entries.toFields : Entries → List (Text × Value)
  | [] => []
  | (key, item) :: later => (key, item.toValue) :: Entries.toFields later

end

namespace Entries

/-- The entries with an item in the place of the one that has its key, or else at the end. -/
def put (key : Text) (item : Item) : Entries → Entries
  | [] => [(key, item)]
  | (name, old) :: later =>
    if name = key then (key, item) :: later else (name, old) :: put key item later

/-- The entries without the one that has the given key. -/
def erase (key : Text) (entries : Entries) : Entries :=
  entries.filter (·.1 != key)

/-- Changes the table that the path of a heading leads to. Tables on the way that are not there yet
are implied, and of a series the last table is meant. -/
def within (change : Entries → Option Entries) : (path : List Text) → Entries → Option Entries
  | [], entries => change entries
  | key :: path, entries =>
    match entries.lookup key with
    | none => do return entries.put key (.table .implied (← within change path []))
    | some (.value _) => none
    | some (.table provenance inner) => do
      return entries.put key (.table provenance (← within change path inner))
    | some (.series earlier last) => do
      return entries.put key (.series earlier (← within change path last))

/-- Gives a key the heading of a table. One that was implied before moves to the end. -/
def openTable (key : Text) (entries : Entries) : Option Entries :=
  match entries.lookup key with
  | none => some (entries.put key (.table .headed []))
  | some (.table .implied inner) => some ((entries.erase key).put key (.table .headed inner))
  | some _ => none

/-- Gives a key the heading of one more table of a series. -/
def openSeries (key : Text) (entries : Entries) : Option Entries :=
  match entries.lookup key with
  | none => some (entries.put key (.series [] []))
  | some (.series earlier last) =>
    some (entries.put key (.series (earlier ++ [.table (Entries.toFields last)]) []))
  | some _ => none

/-- Adds a value under a key of several parts, the last of which is `key`. The tables that the other
parts name must not have a heading, and the innermost must come from such keys only. -/
def insert (key : Text) (value : Value) : (path : List Text) → Entries → Option Entries
  | [], entries =>
    if (entries.lookup key).isSome then none else some (entries.put key (.value value))
  | part :: path, entries =>
    match entries.lookup part with
    | none => do return entries.put part (.table .dotted (← insert key value path []))
    | some (.value _) => none
    | some (.table provenance inner) =>
      if provenance = .headed ∨ (path = [] ∧ provenance ≠ .dotted) then none
      else do return entries.put part (.table provenance (← insert key value path inner))
    | some (.series earlier last) =>
      if path = [] then none
      else do return entries.put part (.series earlier (← insert key value path last))

end Entries

end Haml.Toml
