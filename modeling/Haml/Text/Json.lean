import Haml.Text.Quoted

/-! # JSON documents

The part of JSON that dumps are made of: natural numbers, strings, arrays and objects, whose fields
keep their order.
-/

namespace Haml

/-- A JSON document. -/
inductive Json where
  | number (value : Nat)
  | string (value : Text)
  | array (items : List Json)
  | object (fields : List (Text × Json))

namespace Json

/-- A line feed and the indentation of a line at the given level. -/
def newline (level : Nat) : Text :=
  '\n' :: List.replicate (2 * level) ' '

mutual

/-- The document in front of a text, with one item or field a line, each level indented by two
spaces. -/
def prettyAt (level : Nat) (rest : Text) : Json → Text
  | .number value => Text.ofNat value ++ rest
  | .string value => Text.quoted value ++ rest
  | .array [] => '[' :: ']' :: rest
  | .array (item :: items) =>
    let close := newline level ++ ']' :: rest
    '[' :: newline (level + 1) ++ prettyAt (level + 1) (prettyItems level close items) item
  | .object [] => '{' :: '}' :: rest
  | .object ((name, value) :: fields) =>
    let close := newline level ++ '}' :: rest
    '{' :: newline (level + 1) ++ Text.quoted name ++ ':' :: ' ' ::
      prettyAt (level + 1) (prettyFields level close fields) value

/-- The items after the first one, in front of a text. -/
def prettyItems (level : Nat) (rest : Text) : List Json → Text
  | [] => rest
  | item :: items =>
    ',' :: newline (level + 1) ++ prettyAt (level + 1) (prettyItems level rest items) item

/-- The fields after the first one, in front of a text. -/
def prettyFields (level : Nat) (rest : Text) : List (Text × Json) → Text
  | [] => rest
  | (name, value) :: fields =>
    ',' :: newline (level + 1) ++ Text.quoted name ++ ':' :: ' ' ::
      prettyAt (level + 1) (prettyFields level rest fields) value

end

/-- The document with one item or field a line. -/
def pretty (document : Json) : Text :=
  prettyAt 0 [] document

end Json

end Haml
