import Haml.Proofs.Text.Numeral
import Haml.Text.Quoted
import Mathlib.Algebra.Group.Nat.Defs
import Mathlib.Tactic.SplitIfs

/-! # Reading escapes

A reader for what stands behind a backslash in the string syntax that JSON and scripts share. It
knows more than is ever written: any letter escape, and characters that are written as surrogate
pairs. Every escape is written in ASCII and is read back.
-/

namespace Haml.Text

/-- A character of ASCII that is shown, or the space. -/
def IsGraphic (c : Char) : Prop :=
  0x20 ≤ c.toNat ∧ c.toNat < 0x7F

instance (c : Char) : Decidable (IsGraphic c) :=
  inferInstanceAs (Decidable (_ ∧ _))

theorem IsGraphic.ne {c d : Char} (graphic : IsGraphic c) (beyond : 0x7F ≤ d.toNat) : c ≠ d := by
  rintro rfl
  exact absurd graphic.2 (Nat.not_lt.mpr beyond)

/-- What is looked up in a table stands in it. -/
theorem mem_of_lookup {table : List (Char × Char)} {c letter : Char}
    (found : table.lookup c = some letter) : (c, letter) ∈ table := by
  obtain ⟨before, after, split, _⟩ := List.lookup_eq_some_iff.mp found
  simp [split]

theorem exists_digit_of_mem_hex {width n : Nat} {c : Char} (member : c ∈ hex width n) :
    ∃ digit < 16, c = Nat.digitChar digit := by
  induction width generalizing n with
  | zero => cases member
  | succ width ih =>
    rw [hex, List.mem_append, List.mem_singleton] at member
    rcases member with earlier | last
    · exact ih earlier
    · exact ⟨n % 16, Nat.mod_lt n (by decide), last⟩

private theorem isGraphic_of_mem_hex {width n : Nat} {c : Char} (member : c ∈ hex width n) :
    IsGraphic c := by
  have digits : ∀ digit < 16, IsGraphic (Nat.digitChar digit) := by decide
  obtain ⟨digit, small, rfl⟩ := exists_digit_of_mem_hex member
  exact digits digit small

theorem isGraphic_of_mem_numeric {n : Nat} {c : Char} (member : c ∈ '\\' :: 'u' :: hex 4 n) :
    IsGraphic c := by
  simp only [List.mem_cons] at member
  rcases member with rfl | rfl | digit
  · decide
  · decide
  · exact isGraphic_of_mem_hex digit

/-- An escape is written in ASCII, and any other character as itself, which is no control
character. -/
theorem isGraphic_or_eq_of_mem_escape {c written : Char} (member : written ∈ escape c) :
    IsGraphic written ∨ written = c ∧ 0x20 ≤ c.toNat := by
  rw [escape] at member
  split_ifs at member with marked control
  · simp only [List.mem_cons, List.not_mem_nil, or_false] at member
    rcases member with rfl | rfl
    · exact .inl (by decide)
    · rcases marked with rfl | rfl <;> exact .inl (by decide)
  · left
    cases short : shortEscapes.lookup c with
    | none =>
      rw [short] at member
      exact isGraphic_of_mem_numeric member
    | some letter =>
      have letters : ∀ pair ∈ shortEscapes, IsGraphic pair.2 := by decide
      simp only [short, List.mem_cons, List.not_mem_nil, or_false] at member
      rcases member with rfl | rfl
      · decide
      · exact letters _ (mem_of_lookup short)
  · exact .inr ⟨List.mem_singleton.mp member, Nat.le_of_not_lt control⟩

/-- No control character stands in a quoted string as it is. -/
theorem le_toNat_of_mem_escape {c written : Char} (member : written ∈ escape c) :
    0x20 ≤ written.toNat := by
  rcases isGraphic_or_eq_of_mem_escape member with graphic | ⟨rfl, shown⟩
  · exact graphic.1
  · exact shown

/-- No line feed stands between quotes if none is written for any character. -/
theorem feed_not_mem_between {write : Char → Text} (written : ∀ c, '\n' ∉ write c) (text : Text) :
    '\n' ∉ '"' :: text.flatMap write ++ ['"'] := by
  simp [List.mem_flatMap, written]

theorem feed_not_mem_quoted (text : Text) : '\n' ∉ quoted text :=
  feed_not_mem_between (fun _ member => absurd (le_toNat_of_mem_escape member) (by decide)) text

/-- The number that four hexadecimal digits stand for, and what follows them. -/
def readUnit (text : Text) : Option (Nat × Text) :=
  if text.length < 4 then none else (Decimal.natural? 16 (text.take 4)).map (·, text.drop 4)

/-- The character that a number stands for. Half of a surrogate pair stands for one only together
with the other half, which has to follow. -/
def readScalar (unit : Nat) (rest : Text) : Option (Char × Text) :=
  if unit < 0xD800 ∨ 0xE000 ≤ unit then some (Char.ofNat unit, rest)
  else if unit < 0xDC00 ∧ rest.take 2 = ['\\', 'u'] then
    (readUnit (rest.drop 2)).bind fun (low, rest) =>
      if 0xDC00 ≤ low ∧ low < 0xE000 then
        some (Char.ofNat (0x10000 + (unit - 0xD800) * 0x400 + (low - 0xDC00)), rest)
      else none
  else none

/-- The letters that stand for a character behind a backslash. -/
def escapeLetters : List (Char × Char) :=
  [('"', '"'), ('\\', '\\'), ('/', '/'), ('b', '\x08'), ('f', '\x0c'), ('n', '\n'), ('r', '\r'),
    ('t', '\t')]

/-- The character that an escape stands for, read behind its backslash. -/
def readEscape : Text → Option (Char × Text)
  | [] => none
  | letter :: rest =>
    if letter = 'u' then (readUnit rest).bind fun (unit, rest) => readScalar unit rest
    else (escapeLetters.lookup letter).map (·, rest)

theorem length_hex (width n : Nat) : (hex width n).length = width := by
  induction width generalizing n with
  | zero => rfl
  | succ width ih => rw [hex, List.length_append, ih, List.length_singleton]

/-- A number is read back from its hexadecimal digits, also if they are written in capitals. -/
theorem natural?_hex {shape : Char → Char}
    (shaped : ∀ digit < 16, Decimal.digit? (shape (Nat.digitChar digit)) = some digit)
    {width n : Nat} (small : n < 16 ^ (width + 1)) :
    Decimal.natural? 16 ((hex (width + 1) n).map shape) = some n := by
  have last := shaped (n % 16) (Nat.mod_lt n (by decide))
  induction width generalizing n with
  | zero =>
    have single : n % 16 = n := Nat.mod_eq_of_lt small
    rw [single] at last
    simp [hex, Decimal.natural?, single, last, (by simpa using small : n < 16)]
  | succ width ih =>
    have nonempty : (hex (width + 1) (n / 16)).map shape ≠ [] := by
      simp [← List.length_pos_iff, length_hex]
    have shorter : n / 16 < 16 ^ (width + 1) := by
      rw [Nat.pow_succ] at small
      omega
    rw [hex, List.map_append, List.map_singleton,
      Decimal.natural?_concat nonempty last (Nat.mod_lt n (by decide)),
      ih shorter (shaped _ (Nat.mod_lt _ (by decide))), Option.map_some]
    congr 1
    omega

/-- Four hexadecimal digits are read back. -/
theorem readUnit_hex {n : Nat} (small : n < 0x10000) (rest : Text) :
    readUnit (hex 4 n ++ rest) = some (n, rest) := by
  have natural : Decimal.natural? 16 ((hex 4 n).map id) = some n :=
    natural?_hex Decimal.digit?_digitChar small
  rw [List.map_id] at natural
  have length : (hex 4 n).length = 4 := rfl
  rw [readUnit, if_neg (by simp [length]), List.take_left' length, List.drop_left' length, natural]
  rfl

theorem readEscape_hex {n : Nat} (scalar : n < 0xD800) (rest : Text) :
    readEscape ('u' :: hex 4 n ++ rest) = some (Char.ofNat n, rest) := by
  have small : n < 0x10000 := by omega
  simp only [List.cons_append, readEscape, ↓reduceIte, readUnit_hex small, Option.bind_some,
    readScalar, scalar, true_or]

private theorem readEscape_letter {letter c : Char} (notHex : letter ≠ 'u')
    (listed : escapeLetters.lookup letter = some c) (rest : Text) :
    readEscape (letter :: rest) = some (c, rest) := by
  simp only [readEscape, ↓reduceIte, notHex, listed, Option.map_some]

private theorem lookup_letter {c letter : Char} (short : shortEscapes.lookup c = some letter) :
    letter ≠ 'u' ∧ escapeLetters.lookup letter = some c := by
  have inverse : ∀ pair ∈ shortEscapes,
      pair.2 ≠ 'u' ∧ escapeLetters.lookup pair.2 = some pair.1 := by decide
  exact inverse _ (mem_of_lookup short)

/-- A character is written as an escape that is read back, or else as itself. -/
theorem escape_cases (c : Char) :
    (∃ code, escape c = '\\' :: code ∧ ∀ rest, readEscape (code ++ rest) = some (c, rest)) ∨
      escape c = [c] ∧ c ≠ '"' ∧ c ≠ '\\' ∧ 0x20 ≤ c.toNat := by
  rw [escape]
  split_ifs with marked control
  · refine .inl ⟨[c], rfl, fun rest => ?_⟩
    rcases marked with rfl | rfl
    · exact readEscape_letter (by decide) rfl rest
    · exact readEscape_letter (by decide) rfl rest
  · left
    cases short : shortEscapes.lookup c with
    | none =>
      refine ⟨_, rfl, fun rest => ?_⟩
      rw [readEscape_hex (by omega), Char.ofNat_toNat]
    | some letter =>
      obtain ⟨notHex, listed⟩ := lookup_letter short
      exact ⟨[letter], rfl, readEscape_letter notHex listed⟩
  · rw [not_or] at marked
    exact .inr ⟨rfl, marked.1, marked.2, Nat.le_of_not_lt control⟩

end Haml.Text
