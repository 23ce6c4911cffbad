import Haml.Text.Basic

/-! # Decimal numbers

A decimal number without a sign is a natural number times a power of ten. It is written with
digits, of which a point and an exponent may mark the weight.
-/

namespace Haml

/-- The number `coefficient * 10 ^ exponent`. -/
structure Decimal where
  coefficient : Nat
  exponent : Int
  deriving DecidableEq, Repr

namespace Decimal

/-- The value of a digit of any base up to sixteen, in either case. -/
def digit? (c : Char) : Option Nat :=
  if c.isDigit then some (c.toNat - '0'.toNat)
  else if 'a' ≤ c ∧ c ≤ 'f' then some (c.toNat - 'a'.toNat + 10)
  else if 'A' ≤ c ∧ c ≤ 'F' then some (c.toNat - 'A'.toNat + 10)
  else none

/-- The value of digits in the given base. There has to be one at least. -/
def natural? (base : Nat) (digits : Text) : Option Nat :=
  if digits.isEmpty then none
  else digits.foldlM (fun value c => (digit? c).bind fun digit =>
    if digit < base then some (value * base + digit) else none) 0

/-- A text without the sign that it may start with, and whether that sign is a minus. -/
def splitSign : Text → Bool × Text
  | '+' :: rest => (false, rest)
  | '-' :: rest => (true, rest)
  | text => (false, text)

/-- What follows the digits of a number: nothing, or an exponent. -/
def exponent? : Text → Option Int
  | [] => some 0
  | mark :: rest =>
    if mark = 'e' ∨ mark = 'E' then
      let (negative, digits) := splitSign rest
      (natural? 10 digits).map fun value => if negative then -value else value
    else none

/-- Reads a number without a sign: digits with at most one point among or beside them, then
perhaps an exponent. -/
def read? (text : Text) : Option Decimal :=
  let whole := text.takeWhile Char.isDigit
  let (fraction, rest) :=
    match text.dropWhile Char.isDigit with
    | '.' :: rest => (rest.takeWhile Char.isDigit, rest.dropWhile Char.isDigit)
    | rest => ([], rest)
  match natural? 10 (whole ++ fraction), exponent? rest with
  | some coefficient, some exponent => some ⟨coefficient, exponent - fraction.length⟩
  | _, _ => none

/-- Writes a number with a point where it is not whole, and never with an exponent. -/
def positional (number : Decimal) : Text :=
  let digits := Text.ofNat number.coefficient
  match number.exponent with
  | .ofNat zeros => digits ++ List.replicate zeros '0'
  | .negSucc places =>
    let padded := List.replicate (places + 2 - digits.length) '0' ++ digits
    let whole := padded.length - (places + 1)
    padded.take whole ++ '.' :: padded.drop whole

end Decimal

end Haml
