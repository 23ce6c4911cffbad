import Haml.Decimal.Basic

/-! # Reading numerals

A natural number is written in decimal digits. They are read back wherever no digit follows them.
-/

namespace Haml.Decimal

theorem digit?_digitChar : ∀ digit < 16, digit? (Nat.digitChar digit) = some digit := by
  decide

/-- A digit behind others counts once, and the others the base times as much. -/
theorem natural?_concat {base digit : Nat} {digits : Text} {c : Char} (nonempty : digits ≠ [])
    (read : digit? c = some digit) (small : digit < base) :
    natural? base (digits ++ [c]) = (natural? base digits).map (· * base + digit) := by
  have before : digits.isEmpty = false := by simpa using nonempty
  have behind : (digits ++ [c]).isEmpty = false := by simp
  simp only [natural?, before, behind, Bool.false_eq_true, ↓reduceIte, List.foldlM_append]
  cases digits.foldlM (fun value c => (digit? c).bind fun digit =>
    if digit < base then some (value * base + digit) else none) 0 with
  | none => rfl
  | some value => simp [read, small]

/-- A natural number is read back from its decimal digits. -/
theorem natural?_ofNat (n : Nat) : natural? 10 (Text.ofNat n) = some n := by
  induction n using Nat.strongRecOn with
  | ind n ih =>
    rw [Text.ofNat, Nat.toDigits_eq_if (by decide)]
    split
    · rename_i small
      simp [natural?, digit?_digitChar n (by omega), small]
    · rename_i large
      have digit := digit?_digitChar (n % 10) (by omega)
      rw [natural?_concat Nat.toDigits_ne_nil digit (by omega)]
      have rest := ih (n / 10) (by omega)
      rw [Text.ofNat] at rest
      rw [rest, Option.map_some]
      congr 1
      omega

end Haml.Decimal

namespace Haml.Text

/-- The number that stands in digits at the start of a text, and what follows them. -/
def readNumeral (text : Text) : Option (Nat × Text) :=
  (Decimal.natural? 10 (text.takeWhile Char.isDigit)).map (·, text.dropWhile Char.isDigit)

theorem isDigit_of_mem_ofNat {n : Nat} {c : Char} (member : c ∈ ofNat n) : c.isDigit = true :=
  Nat.isDigit_of_mem_toDigits (by decide) (by decide) member

theorem not_mem_ofNat {c : Char} (other : c.isDigit = false) (n : Nat) : c ∉ ofNat n :=
  fun member => absurd (isDigit_of_mem_ofNat member) (by simp [other])

theorem exists_cons_ofNat (n : Nat) : ∃ c rest, ofNat n = c :: rest ∧ c.isDigit = true := by
  obtain ⟨c, rest, split⟩ := List.exists_cons_of_ne_nil (Nat.toDigits_ne_nil (n := n))
  have member : c ∈ ofNat n := by
    rw [ofNat, split]
    exact List.mem_cons_self ..
  exact ⟨c, rest, split, isDigit_of_mem_ofNat member⟩

/-- Only zero is written with a zero in front. -/
theorem head?_ofNat_ne_zero {n : Nat} (positive : n ≠ 0) : (ofNat n).head? ≠ some '0' := by
  induction n using Nat.strongRecOn with
  | ind n ih =>
    rw [ofNat, Nat.toDigits_eq_if (by decide)]
    split
    · rename_i small
      have digits : ∀ digit < 10, digit ≠ 0 → Nat.digitChar digit ≠ '0' := by decide
      simpa using digits n small positive
    · rename_i large
      obtain ⟨c, later, split, _⟩ := exists_cons_ofNat (n / 10)
      have first := ih (n / 10) (by omega) (by omega)
      rw [ofNat] at split first
      rw [split] at first ⊢
      exact first

variable {rest : Text} (ends : ∀ c ∈ rest.head?, c.isDigit = false)
include ends

theorem takeWhile_ofNat (n : Nat) : (ofNat n ++ rest).takeWhile Char.isDigit = ofNat n := by
  rw [List.takeWhile_append_of_pos fun c member => isDigit_of_mem_ofNat member]
  cases rest with
  | nil => simp
  | cons c later => simp [ends c rfl]

theorem dropWhile_ofNat (n : Nat) : (ofNat n ++ rest).dropWhile Char.isDigit = rest := by
  rw [List.dropWhile_append_of_pos fun c member => isDigit_of_mem_ofNat member]
  cases rest with
  | nil => rfl
  | cons c later => simp [ends c rfl]

theorem readNumeral_ofNat (n : Nat) : readNumeral (ofNat n ++ rest) = some (n, rest) := by
  rw [readNumeral, takeWhile_ofNat ends, dropWhile_ofNat ends, Decimal.natural?_ofNat,
    Option.map_some]

end Haml.Text
