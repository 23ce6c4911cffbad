import Haml.Text.Basic

/-! # Blank characters

A character is blank when Unicode gives it the property White_Space. A line of blank characters
carries nothing, and trimming removes blank characters at the ends of a text.
-/

namespace Haml

/-- The code points with the property White_Space, as closed ranges in ascending order. -/
def blankRanges : List (Nat × Nat) :=
  [(0x09, 0x0D), (0x20, 0x20), (0x85, 0x85), (0xA0, 0xA0), (0x1680, 0x1680), (0x2000, 0x200A),
    (0x2028, 0x2029), (0x202F, 0x202F), (0x205F, 0x205F), (0x3000, 0x3000)]

/-- Whether the character has the property White_Space. -/
def isBlank (c : Char) : Bool :=
  inRanges blankRanges c

namespace Text

/-- Whether every character of the text is blank. -/
def allBlank (text : Text) : Bool :=
  text.all isBlank

/-- The text from its first character that is not blank. -/
def trimStart (text : Text) : Text :=
  text.dropWhile isBlank

/-- The text up to its last character that is not blank. -/
def trimEnd (text : Text) : Text :=
  (text.reverse.dropWhile isBlank).reverse

/-- The text without the blank characters at its two ends. -/
def trim (text : Text) : Text :=
  text.trimStart.trimEnd

end Text

end Haml
