/-! # Text

Templates, generated programs and dumps are all texts, and every rule about them is a rule about
characters, so a text is the list of its characters.
-/

namespace Haml

/-- A text is the list of its characters. -/
abbrev Text := List Char

/-- Whether the code of the character lies in one of the given ranges, which are closed. -/
def inRanges (ranges : List (Nat × Nat)) (c : Char) : Bool :=
  ranges.any fun (low, high) => low ≤ c.toNat && c.toNat ≤ high

namespace Text

/-- The number of bytes that the text takes in UTF-8. -/
def byteSize : Text → Nat
  | [] => 0
  | c :: rest => c.utf8Size + byteSize rest

/-- The given parts with one line feed between neighbours. -/
def joinLines (parts : List Text) : Text :=
  List.intercalate ['\n'] parts

/-- A natural number in decimal digits. -/
def ofNat (n : Nat) : Text :=
  Nat.toDigits 10 n

/-- What follows `c` when the text starts with it, and the whole text otherwise. -/
def dropOne (c : Char) : Text → Text
  | [] => []
  | first :: rest => if first = c then rest else first :: rest

end Text

end Haml
