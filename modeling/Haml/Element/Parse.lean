import Haml.Element.Basic
import Haml.Text.Blank

/-! # Reading an element line

A line starts with its selectors, each a mark and a word. In the rest of the line every balanced
block of braces is an attribute block, the last one counting, and the first space, equals sign or
exclamation mark outside braces starts what the element holds.
-/

namespace Haml.Element

/-- Whether the character may stand in the name of a tag, an identity or a class. -/
def isWord (c : Char) : Bool :=
  c.isAlphanum || c == '_' || c == '-'

/-- What a selector names. -/
inductive Marker where
  | tag
  | className
  | id
  deriving DecidableEq, Repr

namespace Marker

/-- The marker that a character is, if it is one. -/
def ofChar? : Char → Option Marker
  | '%' => some .tag
  | '.' => some .className
  | '#' => some .id
  | _ => none

end Marker

/-- One selector of an element line. -/
structure Selector where
  marker : Marker
  name : Text
  deriving DecidableEq, Repr

/-- The selectors that a line starts with, as many as there are, and the rest of the line. -/
def readHead : Text → List Selector × Text
  | [] => ([], [])
  | mark :: rest =>
    match Marker.ofChar? mark, rest.takeWhile isWord with
    | some marker, c :: name =>
      let (later, tail) := readHead (rest.dropWhile isWord)
      (⟨marker, c :: name⟩ :: later, tail)
    | _, _ => ([], mark :: rest)
  termination_by line => line.length
  decreasing_by
    simp only [List.length_cons]
    exact Nat.lt_succ_of_le (List.dropWhile_sublist isWord).length_le

/-- The names of the selectors with the given marker, in order. -/
def names (marker : Marker) (selectors : List Selector) : List Text :=
  (selectors.filter (·.marker == marker)).map (·.name)

/-- What the text from the first content mark on says: text after a space, unless it is blank,
and an expression after any other mark. -/
def readInline : Text → Option Inline
  | [] => none
  | ' ' :: rest =>
    let shown := Text.trim (' ' :: rest)
    if shown.isEmpty then none else some (.text shown)
  | mark :: rest => some (.expression (Text.trim (mark :: rest)))

/-- Whether the character starts what an element holds when it stands outside braces. -/
def isContentMark (c : Char) : Bool :=
  c == ' ' || c == '=' || c == '!'

/-- The attribute block and the content of the rest of an element line. The rest is read from the
byte `offset` of the line on, inside `depth` braces; `block` holds, last character first, what has
been read since the outermost of them, and `found` is the last block that was closed. -/
def readTail (offset depth : Nat) (block : Text) (found : Option Text) :
    Text → Except BraceFault (Option Text × Option Inline)
  | [] => if depth = 0 then .ok (found, none) else .error (.unclosed depth)
  | c :: rest =>
    let next := offset + c.utf8Size
    if c = '{' then
      readTail next (depth + 1) (c :: block) found rest
    else if c = '}' then
      match depth with
      | 0 => .error (.unexpectedClose offset)
      | 1 => readTail next 0 [] (some (c :: block).reverse) rest
      | outer + 2 => readTail next (outer + 1) (c :: block) found rest
    else if depth = 0 then
      if isContentMark c then .ok (found, readInline (c :: rest))
      else readTail next 0 [] found rest
    else
      readTail next depth (c :: block) found rest

/-- Reads an element line. Tags of the given list close themselves. -/
def parse (selfClosing : List Text) (line : Text) : Except BraceFault Element := do
  let (selectors, tail) := readHead line
  let offset := Text.byteSize line - Text.byteSize tail
  let (attributes, inline) ← readTail offset 0 [] none tail
  let tag := (names .tag selectors).getLast?.getD "div".toList
  return {
    tag
    id := (names .id selectors).getLast?
    classes := names .className selectors
    attributes
    inline
    selfClosing := selfClosing.contains tag
  }

end Haml.Element
