import Haml.Decimal.Binary64

/-! # Floating-point values

A floating-point number with its sign, or a value that is no number.
-/

namespace Haml

/-- A floating-point value. -/
inductive Floating where
  | number (negative : Bool) (magnitude : Binary64)
  | undefined
  deriving DecidableEq, Repr

namespace Floating

/-- The value nearest to a decimal number. -/
def ofDecimal (negative : Bool) (number : Decimal) : Floating :=
  .number negative (Binary64.ofDecimal number)

/-- Whether the value is zero, of either sign. -/
def isZero : Floating → Bool
  | .number _ (.finite significand _) => significand == 0
  | _ => false

/-- The value in digits, without an exponent. -/
def text : Floating → Text
  | .number negative magnitude => (if negative then ['-'] else []) ++ magnitude.text
  | .undefined => "NaN".toList

/-- The value in digits, of which a finite one always shows a point. -/
def pointedText : Floating → Text
  | .number negative (.finite significand exponent) =>
    let digits := text (.number negative (.finite significand exponent))
    if digits.contains '.' then digits else digits ++ ".0".toList
  | value => text value

end Floating

end Haml
