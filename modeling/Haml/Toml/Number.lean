import Haml.Toml.Basic

/-! # TOML numbers

Whole numbers of 64 bits in four bases, and floating-point numbers. An underscore may stand between
two digits.
-/

namespace Haml.Toml

/-- The digits of a group without the underscores between them; none where an underscore does not
stand between two digits. -/
def ungroup : Text → Option Text
  | [] => none
  | ['_'] => none
  | [c] => some [c]
  | '_' :: _ => none
  | c :: '_' :: rest => (ungroup rest).map (c :: ·)
  | c :: rest => (ungroup rest).map (c :: ·)

/-- The value of digits of the given base, which may be grouped. -/
def grouped? (base : Nat) (digits : Text) : Option Nat :=
  (ungroup digits).bind (Decimal.natural? base)

/-- Whether a whole number fits 64 bits. -/
def fits (value : Int) : Bool :=
  -0x8000000000000000 ≤ value && value ≤ 0x7FFFFFFFFFFFFFFF

/-- Digits that do not start with a zero, unless that is all. -/
def isWhole : Text → Bool
  | ['0'] => true
  | c :: _ => c.isDigit && c != '0'
  | [] => false

/-- The whole number that a word is. -/
def integer? (word : Text) : Option Int :=
  let value :=
    match word with
    | '0' :: 'x' :: digits => (grouped? 16 digits).map Int.ofNat
    | '0' :: 'o' :: digits => (grouped? 8 digits).map Int.ofNat
    | '0' :: 'b' :: digits => (grouped? 2 digits).map Int.ofNat
    | _ =>
      let (negative, digits) := Decimal.splitSign word
      if isWhole digits then
        (grouped? 10 digits).map fun value => if negative then -(value : Int) else value
      else none
  value.filter fits

/-- Splits a text after its leading digits and underscores. -/
def spanDigits (text : Text) : Text × Text :=
  (text.takeWhile fun c => c.isDigit || c == '_', text.dropWhile fun c => c.isDigit || c == '_')

/-- The exponent that follows the digits of a number, if the text is one. -/
def exponentPart? : Text → Option Text
  | mark :: rest =>
    if mark = 'e' ∨ mark = 'E' then
      let sign := rest.take (rest.length - (Decimal.splitSign rest).2.length)
      (ungroup (Decimal.splitSign rest).2).map fun digits => mark :: sign ++ digits
    else none
  | [] => none

/-- The fraction, the exponent or both that follow the whole part of a floating-point number. -/
def fractionPart? : Text → Option Text
  | '.' :: rest => do
    let (digits, rest) := spanDigits rest
    let digits ← ungroup digits
    let exponent ← if rest.isEmpty then some [] else exponentPart? rest
    return '.' :: digits ++ exponent
  | rest => exponentPart? rest

/-- The floating-point number that a word is. One that is too large is refused, unless it is
negative. -/
def float? (word : Text) : Option Floating := do
  let (negative, unsigned) := Decimal.splitSign word
  if unsigned = "inf".toList then return .number negative .infinite
  if unsigned = "nan".toList then return .undefined
  let (whole, rest) := spanDigits unsigned
  if !isWhole whole then none
  let digits ← ungroup whole
  let fraction ← fractionPart? rest
  let value := Floating.ofDecimal negative (← Decimal.read? (digits ++ fraction))
  if value = .number false .infinite then none else some value

end Haml.Toml
