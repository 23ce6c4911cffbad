import Haml.Decimal.Basic

/-! # Numbers of 53 bits

Floating-point numbers as settings and dumps know them: a whole number below `2 ^ 53` times a power
of two that is at least `2 ^ -1074`, or infinity. A decimal number is read as the nearest of them,
and one is written as the decimal number of the fewest digits that is read as it.
-/

namespace Haml

/-- A floating-point number without its sign. -/
inductive Binary64 where
  /-- The number `significand * 2 ^ exponent`. -/
  | finite (significand : Nat) (exponent : Int)
  | infinite
  deriving DecidableEq, Repr

namespace Binary64

/-- The exponent of the smallest positive number. -/
def leastExponent : Int := -1074

/-- The whole number nearest to `num / den`; of two the even one. -/
def roundEven (num den : Nat) : Nat :=
  let below := num / den
  let twice := 2 * (num % den)
  if twice < den ∨ (twice = den ∧ below % 2 = 0) then below else below + 1

/-- The pair `(num * 2 ^ -power, den)` or `(num, den * 2 ^ power)` that has whole entries. -/
def shift (num den : Nat) : Int → Nat × Nat
  | .ofNat power => (num, den * Nat.pow 2 power)
  | .negSucc power => (num * Nat.pow 2 (power + 1), den)

/-- The number of 53 bits nearest to `num / den`, which is positive. -/
def nearest (num den : Nat) : Binary64 :=
  let estimate : Int := Nat.log2 num - Nat.log2 den
  let (scaled, unit) := shift num den estimate
  let magnitude := if scaled < unit then estimate - 1 else estimate
  let exponent := max leastExponent (magnitude - 52)
  let (scaled, unit) := shift num den exponent
  let rounded := roundEven scaled unit
  let (significand, exponent) :=
    if rounded = Nat.pow 2 53 then (Nat.pow 2 52, exponent + 1) else (rounded, exponent)
  if 971 < exponent then .infinite else .finite significand exponent

/-- The number of 53 bits nearest to a decimal number. Numbers far out of range need no powers. -/
def ofDecimal (number : Decimal) : Binary64 :=
  let size : Int := (Text.ofNat number.coefficient).length + number.exponent
  if number.coefficient = 0 ∨ size < -330 then .finite 0 leastExponent
  else if 310 < size then .infinite
  else
    match number.exponent with
    | .ofNat power => nearest (number.coefficient * Nat.pow 10 power) 1
    | .negSucc power => nearest number.coefficient (Nat.pow 10 (power + 1))

/-- The decimal `d * 10 ^ power` nearest to `significand * 2 ^ exponent`, of two the greater, if it is
read as that number. It is looked for between the two midpoints to the neighbours; a midpoint itself is read
as the number whose significand is even. -/
def onGrid? (significand : Nat) (exponent power : Int) : Option Decimal :=
  -- In quarters of the last binary place, both sides scaled to whole numbers.
  let quarters (n : Nat) : Nat := n * Nat.pow 2 (exponent - 2).toNat * Nat.pow 10 (-power).toNat
  let grid (d : Nat) : Nat := d * Nat.pow 10 power.toNat * Nat.pow 2 (2 - exponent).toNat
  let isPowerOfTwo := significand = Nat.pow 2 52 ∧ leastExponent < exponent
  let low := quarters (4 * significand - if isPowerOfTwo then 1 else 2)
  let high := quarters (4 * significand + 2)
  let value := quarters (4 * significand)
  let inside (d : Nat) : Bool :=
    if significand % 2 = 0 then low ≤ grid d && grid d ≤ high else low < grid d && grid d < high
  let below := value / grid 1
  let nearer := if 2 * (value - grid below) < grid 1 then below else below + 1
  let other := if nearer = below then below + 1 else below
  if inside nearer then some ⟨nearer, power⟩
  else if inside other then some ⟨other, power⟩
  else none

/-- The decimal number of the fewest digits that is read as `significand * 2 ^ exponent`, and of
those the nearest; of two that are equally near, the greater. -/
def shortest (significand : Nat) (exponent : Int) : Decimal :=
  if significand = 0 then ⟨0, 0⟩
  else ((List.range 634).findSome? fun (i : Nat) =>
    onGrid? significand exponent (309 - (i : Int))).getD ⟨0, 0⟩

/-- The number in digits, without an exponent. -/
def text : Binary64 → Text
  | .finite significand exponent => (shortest significand exponent).positional
  | .infinite => "inf".toList

end Binary64

end Haml
