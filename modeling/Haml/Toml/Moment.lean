import Haml.Toml.Basic

/-! # TOML dates and times

A date, a time of day, or both with or without an offset. A moment is kept as text in its usual
form: `T` between date and time, `Z` for no offset, and no zeros at the end of a fraction.
-/

namespace Haml.Toml

/-- Reads a number of exactly `width` digits within the given bounds. -/
def readField (width low high : Nat) : Reader Nat
  | text => do
    let digits := text.take width
    if digits.length < width then none
    else
      let value ← if digits.all Char.isDigit then Decimal.natural? 10 digits else none
      if low ≤ value ∧ value ≤ high then some (value, text.drop width) else none

/-- What follows the given character. -/
def after? (mark : Char) : Text → Option Text
  | c :: rest => if c = mark then some rest else none
  | [] => none

/-- A number with zeros before it up to the given width. -/
def padded (width value : Nat) : Text :=
  let digits := Text.ofNat value
  List.replicate (width - digits.length) '0' ++ digits

/-- The number of days in a month. -/
def daysIn (year month : Nat) : Nat :=
  if month = 2 then
    if year % 4 = 0 ∧ (year % 100 ≠ 0 ∨ year % 400 = 0) then 29 else 28
  else if month = 4 ∨ month = 6 ∨ month = 9 ∨ month = 11 then 30
  else 31

/-- Reads a date. -/
def readDate : Reader Text
  | text => do
    let (year, rest) ← readField 4 0 9999 text
    let (month, rest) ← readField 2 1 12 (← after? '-' rest)
    let (day, rest) ← readField 2 1 (daysIn year month) (← after? '-' rest)
    return (padded 4 year ++ '-' :: padded 2 month ++ '-' :: padded 2 day, rest)

/-- A fraction of a second to nine digits, without the zeros at its end. -/
def fractionText (digits : Text) : Text :=
  let kept := ((digits.take 9).reverse.dropWhile (· == '0')).reverse
  if kept.isEmpty then [] else '.' :: kept

/-- Reads a time of day. -/
def readTime : Reader Text
  | text => do
    let (hour, rest) ← readField 2 0 23 text
    let (minute, rest) ← readField 2 0 59 (← after? ':' rest)
    let (second, rest) ← readField 2 0 60 (← after? ':' rest)
    let clock := padded 2 hour ++ ':' :: padded 2 minute ++ ':' :: padded 2 second
    match rest with
    | '.' :: rest =>
      let digits := rest.takeWhile Char.isDigit
      if digits.isEmpty then none
      else some (clock ++ fractionText digits, rest.dropWhile Char.isDigit)
    | rest => some (clock, rest)

/-- Reads an offset, which may be missing. -/
def readOffset : Reader Text
  | 'Z' :: rest | 'z' :: rest => some (['Z'], rest)
  | sign :: rest =>
    if sign = '+' ∨ sign = '-' then do
      let (hour, rest) ← readField 2 0 23 rest
      let (minute, rest) ← readField 2 0 59 (← after? ':' rest)
      let sign := if hour = 0 ∧ minute = 0 then '+' else sign
      return (sign :: padded 2 hour ++ ':' :: padded 2 minute, rest)
    else some ([], sign :: rest)
  | [] => some ([], [])

/-- Whether the text goes on with a time after a date. -/
def timeFollows : Text → Bool
  | 'T' :: _ | 't' :: _ => true
  | ' ' :: c :: _ => c.isDigit
  | _ => false

/-- Reads a date, a time of day, or both. -/
def readMoment : Reader Text
  | text =>
    match readDate text with
    | none => readTime text
    | some (date, rest) =>
      if timeFollows rest then do
        let (time, rest) ← readTime (rest.drop 1)
        let (offset, rest) ← readOffset rest
        return (date ++ 'T' :: time ++ offset, rest)
      else some (date, rest)

/-- The moment that a string is. -/
def moment? (text : Text) : Option Text :=
  match readMoment text with
  | some (moment, []) => some moment
  | _ => none

end Haml.Toml
