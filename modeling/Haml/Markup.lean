import Haml.Text.Basic

/-! # Markup

Markup is a sequence of literal text and code whose value is inserted when the page is made.
Building it up keeps it in normal form: no literal is empty, and no two literals are neighbours.
-/

namespace Haml

/-- A part of markup. -/
inductive Piece where
  /-- Text that is shown as it is. -/
  | literal (text : Text)
  /-- Code that computes the text to be shown. -/
  | code (source : Text)
  deriving DecidableEq, Repr

namespace Piece

/-- The piece for a reader: code stands in double braces. -/
def plain : Piece → Text
  | .literal text => text
  | .code source => '{' :: '{' :: source ++ ['}', '}']

end Piece

/-- A sequence of literal text and code. -/
structure Markup where
  pieces : List Piece
  deriving DecidableEq, Repr

namespace Markup

/-- Markup without any piece. -/
def empty : Markup :=
  ⟨[]⟩

/-- Whether the markup has no piece. -/
def isEmpty (markup : Markup) : Bool :=
  markup.pieces.isEmpty

/-- Adds literal text, which joins a literal that stands last. -/
def pushLiteral (markup : Markup) (text : Text) : Markup :=
  if text.isEmpty then markup
  else
    match markup.pieces.getLast? with
    | some (.literal previous) => ⟨markup.pieces.dropLast ++ [.literal (previous ++ text)]⟩
    | _ => ⟨markup.pieces ++ [.literal text]⟩

/-- Adds code. -/
def pushCode (markup : Markup) (source : Text) : Markup :=
  ⟨markup.pieces ++ [.code source]⟩

/-- Adds a piece of either sort. -/
def push (markup : Markup) : Piece → Markup
  | .literal text => markup.pushLiteral text
  | .code source => markup.pushCode source

/-- Markup of one literal. -/
def literal (text : Text) : Markup :=
  empty.pushLiteral text

/-- Markup of one piece of code. -/
def code (source : Text) : Markup :=
  empty.pushCode source

/-- The markup that arises when the given pieces are added one by one. -/
def ofPieces (pieces : List Piece) : Markup :=
  pieces.foldl push empty

/-- The markup for a reader: the renditions of its pieces in order. -/
def plain (markup : Markup) : Text :=
  markup.pieces.flatMap Piece.plain

end Markup

end Haml
