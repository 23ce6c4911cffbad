import Haml.Text.Basic

/-! # UTF-8

A character takes one to four bytes: the first says how many follow and gives the leading bits, and
each of the others gives six more. Of the sequences for a character only the shortest counts.
-/

namespace Haml.Utf8

/-- Whether a byte lies within bounds. -/
def isWithin (low high : Nat) (byte : UInt8) : Bool :=
  low ≤ byte.toNat && byte.toNat ≤ high

/-- Whether the byte goes on with a character. -/
def isContinuation (byte : UInt8) : Bool :=
  isWithin 0x80 0xBF byte

/-- The bits that a byte adds to the code of a character that it goes on with. -/
def extend (code : Nat) (byte : UInt8) : Nat :=
  code * 64 + (byte.toNat - 0x80)

/-- How many bytes follow the first one, the bits that the first one gives, and the bounds of the
second one. -/
def lead? (byte : UInt8) : Option (Nat × Nat × Nat × Nat) :=
  let b := byte.toNat
  if b < 0xC2 then none
  else if b ≤ 0xDF then some (1, b - 0xC0, 0x80, 0xBF)
  else if b ≤ 0xEF then
    some (2, b - 0xE0, if b = 0xE0 then 0xA0 else 0x80, if b = 0xED then 0x9F else 0xBF)
  else if b ≤ 0xF4 then
    some (3, b - 0xF0, if b = 0xF0 then 0x90 else 0x80, if b = 0xF4 then 0x8F else 0xBF)
  else none

/-- The character that starts with the given byte, and how many bytes after it belong to it. -/
def readOne (first : UInt8) (rest : List UInt8) : Option (Char × Nat) :=
  if first.toNat < 0x80 then some (Char.ofNat first.toNat, 0)
  else
    match lead? first, rest with
    | some (count, bits, low, high), second :: later =>
      let further := (later.take (count - 1)).takeWhile isContinuation
      if isWithin low high second && further.length == count - 1 then
        some (Char.ofNat (further.foldl extend (extend bits second)), count)
      else none
    | _, _ => none

/-- The text of bytes that are UTF-8. -/
def decode? : List UInt8 → Option Text
  | [] => some []
  | first :: rest => do
    let (c, count) ← readOne first rest
    return c :: (← decode? (rest.drop count))
  termination_by bytes => bytes.length
  decreasing_by
    simp only [List.length_cons, List.length_drop]
    omega

end Haml.Utf8
