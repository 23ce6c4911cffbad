import Haml.Text.Utf8
import Mathlib.Data.List.TakeWhile
import Mathlib.Tactic.SplitIfs

/-! # Texts as bytes

The bytes of a text in UTF-8 are those of its characters, one after another. Reading takes them back:
the first byte of a character tells how many follow, and the bits of all of them make its code.
-/

namespace Haml

/-- The bytes of a text in UTF-8. -/
def Text.utf8 (text : Text) : List UInt8 :=
  text.flatMap String.utf8EncodeChar

theorem Text.length_utf8 (text : Text) : text.utf8.length = text.byteSize := by
  induction text with
  | nil => rfl
  | cons c rest ih =>
    rw [utf8, List.flatMap_cons, List.length_append, String.length_utf8EncodeChar, byteSize, ← ih]
    rfl

namespace Utf8

private theorem toNat_byte {n : Nat} (small : n < 256) : (UInt8.ofNat n).toNat = n := by
  rw [UInt8.toNat_ofNat', Nat.mod_eq_of_lt small]

private theorem isWithin_byte {low high n : Nat} (small : n < 256) (least : low ≤ n)
    (most : n ≤ high) : isWithin low high (UInt8.ofNat n) = true := by
  simp [isWithin, toNat_byte small, least, most]

private theorem isContinuation_byte (n : Nat) :
    isContinuation (UInt8.ofNat (n % 64 + 128)) = true := by
  rw [isContinuation]
  exact isWithin_byte (by omega) (by omega) (by omega)

private theorem extend_byte (code n : Nat) :
    extend code (UInt8.ofNat (n % 64 + 128)) = code * 64 + n % 64 := by
  have byte := toNat_byte (show n % 64 + 128 < 256 by omega)
  unfold extend
  generalize (UInt8.ofNat (n % 64 + 128)).toNat = value at byte
  omega

/-! ### The first byte of a character of two, three and four bytes -/

private theorem lead?_two : ∀ bits < 32, bits < 2 ∨
    lead? (UInt8.ofNat (bits + 192)) = some (1, bits, 0x80, 0xBF) := by
  decide

private theorem lead?_three : ∀ bits < 16, lead? (UInt8.ofNat (bits + 224)) =
    some (2, bits, if bits = 0 then 0xA0 else 0x80, if bits = 13 then 0x9F else 0xBF) := by
  decide

private theorem lead?_four : ∀ bits < 5, lead? (UInt8.ofNat (bits + 240)) =
    some (3, bits, if bits = 0 then 0x90 else 0x80, if bits = 4 then 0x8F else 0xBF) := by
  decide

/-- A character of several bytes is read where its second byte lies within the bounds that the first
one sets, and the others go on with it. -/
theorem readOne_of_lead? {first second : UInt8} (further : List UInt8) {bits low high : Nat}
    (lead : lead? first = some (further.length + 1, bits, low, high))
    (within : isWithin low high second = true)
    (continued : ∀ byte ∈ further, isContinuation byte = true) (rest : List UInt8) :
    readOne first (second :: (further ++ rest)) =
      some (Char.ofNat (further.foldl extend (extend bits second)), further.length + 1) := by
  have wide : ¬ first.toNat < 0x80 := by
    intro ascii
    rw [lead?, if_pos (by omega)] at lead
    cases lead
  have taken : ((further ++ rest).take further.length).takeWhile isContinuation = further := by
    rw [List.take_left, List.takeWhile_eq_self_iff]
    exact continued
  simp only [readOne, if_neg wide, lead, Nat.add_sub_cancel, taken, within, beq_self_eq_true,
    Bool.and_self, ↓reduceIte]

/-- A character is read from its bytes, whatever follows them. -/
theorem readOne_encode (c : Char) :
    ∃ first later, String.utf8EncodeChar c = first :: later ∧
      ∀ rest, readOne first (later ++ rest) = some (c, later.length) := by
  have valid : c.val.toNat < 0xD800 ∨ 0xDFFF < c.val.toNat ∧ c.val.toNat < 0x110000 := c.valid
  have code : Char.ofNat c.val.toNat = c := Char.ofNat_toNat c
  rw [String.utf8EncodeChar]
  generalize c.val.toNat = v at code valid
  split_ifs with one two three
  · refine ⟨_, [], rfl, fun rest => ?_⟩
    simp only [readOne, toNat_byte (show v < 256 by omega), if_pos (show v < 0x80 by omega), code]
    rfl
  · have lead := (lead?_two (v / 64 % 32) (by omega)).resolve_left (by omega)
    have value : v / 64 % 32 * 64 + v % 64 = v := by omega
    refine ⟨_, _, rfl, fun rest => ?_⟩
    have read := readOne_of_lead? [] lead (isContinuation_byte v) (by simp) rest
    simp only [List.foldl_nil, extend_byte, value, code] at read
    exact read
  · have lead := lead?_three (v / 4096 % 16) (by omega)
    have value : (v / 4096 % 16 * 64 + v / 64 % 64) * 64 + v % 64 = v := by omega
    have within : isWithin (if v / 4096 % 16 = 0 then 0xA0 else 0x80)
        (if v / 4096 % 16 = 13 then 0x9F else 0xBF) (UInt8.ofNat (v / 64 % 64 + 128)) = true := by
      apply isWithin_byte
      · omega
      · split_ifs <;> omega
      · split_ifs <;> omega
    refine ⟨_, _, rfl, fun rest => ?_⟩
    have read := readOne_of_lead? [_] lead within
      (List.forall_mem_singleton.mpr (isContinuation_byte v)) rest
    simp only [List.foldl_nil, List.foldl_cons, extend_byte, value, code] at read
    exact read
  · have lead := lead?_four (v / 262144 % 8) (by omega)
    have value : ((v / 262144 % 8 * 64 + v / 4096 % 64) * 64 + v / 64 % 64) * 64 + v % 64 = v := by
      omega
    have within : isWithin (if v / 262144 % 8 = 0 then 0x90 else 0x80)
        (if v / 262144 % 8 = 4 then 0x8F else 0xBF) (UInt8.ofNat (v / 4096 % 64 + 128)) =
        true := by
      apply isWithin_byte
      · omega
      · split_ifs <;> omega
      · split_ifs <;> omega
    refine ⟨_, _, rfl, fun rest => ?_⟩
    have read := readOne_of_lead? [_, _] lead within
      (List.forall_mem_cons.mpr ⟨isContinuation_byte (v / 64),
        List.forall_mem_singleton.mpr (isContinuation_byte v)⟩) rest
    simp only [List.foldl_nil, List.foldl_cons, extend_byte, value, code] at read
    exact read

/-- Every text is read back from its bytes. -/
theorem decode?_utf8 (text : Text) : decode? text.utf8 = some text := by
  induction text with
  | nil => rw [Text.utf8, List.flatMap_nil, decode?]
  | cons c rest ih =>
    obtain ⟨first, later, encoded, read⟩ := readOne_encode c
    rw [Text.utf8, List.flatMap_cons, encoded, List.cons_append, decode?, read]
    simp only [Option.bind_eq_bind, Option.bind_some, List.drop_left]
    rw [← Text.utf8, ih]
    rfl

end Utf8

end Haml
