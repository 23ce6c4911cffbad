import Haml.Proofs.Element.Fault

/-! # Guarded computations

Some operations are defined on part of their domain only: a remainder needs a divisor, an index
needs something to point at, and a text is cut by byte offsets that must stand between two
characters. A guarded computation makes a breach of each such rule visible, where a plain one has no
such operation at all. A guarded computation that equals a plain one never breaks a rule.
-/

namespace Haml

/-- A rule that is broken by an operation outside its domain. -/
inductive Breach where
  /-- A division by zero. -/
  | divisor
  /-- An index, or a range of indices, beyond what is there. -/
  | index
  /-- Byte offsets out of order, beyond the text, or inside a character. -/
  | slice
  /-- Less than zero. -/
  | subtraction
  /-- A recursion whose argument does not get smaller. -/
  | recursion
  deriving DecidableEq, Repr

/-- A computation that may end with a breach. -/
abbrev Guarded (m : Type → Type) (α : Type) : Type :=
  ExceptT Breach m α

namespace Text

/-- The first `size` bytes of a text and the rest, if no character is cut in two. -/
def splitBytes? : Nat → Text → Option (Text × Text)
  | 0, text => some ([], text)
  | _ + 1, [] => none
  | size + 1, c :: rest =>
    if c.utf8Size ≤ size + 1 then
      (splitBytes? (size + 1 - c.utf8Size) rest).map fun (front, behind) => (c :: front, behind)
    else none

/-- The bytes from `start` up to `stop` of a text, if these are a text. -/
def slice? (start stop : Nat) (text : Text) : Option Text :=
  if start ≤ stop then do
    let (_, rest) ← splitBytes? start text
    let (part, _) ← splitBytes? (stop - start) rest
    return part
  else none

theorem byteSize_eq_zero_iff (text : Text) : text.byteSize = 0 ↔ text = [] := by
  cases text with
  | nil => simp [byteSize]
  | cons c rest =>
    have positive := c.utf8Size_pos
    simp only [byteSize, List.cons_ne_nil, iff_false]
    omega

/-- A text can be split exactly between two characters. -/
theorem splitBytes?_eq_some_iff {size : Nat} {text front behind : Text} :
    splitBytes? size text = some (front, behind) ↔
      text = front ++ behind ∧ front.byteSize = size := by
  fun_induction splitBytes? size text generalizing front with
  | case1 text =>
    rw [byteSize_eq_zero_iff, Option.some.injEq, Prod.mk.injEq]
    constructor
    · rintro ⟨rfl, rfl⟩
      exact ⟨rfl, rfl⟩
    · rintro ⟨rfl, rfl⟩
      exact ⟨rfl, rfl⟩
  | case2 size =>
    refine iff_of_false (by simp) ?_
    rintro ⟨empty, sized⟩
    obtain ⟨rfl, rfl⟩ := List.append_eq_nil_iff.mp empty.symm
    simp [byteSize] at sized
  | case3 size c rest fits ih =>
    rw [Option.map_eq_some_iff]
    constructor
    · rintro ⟨⟨shorter, behind⟩, split, same⟩
      obtain ⟨rfl, rfl⟩ := Prod.mk.inj same
      obtain ⟨rfl, sized⟩ := ih.mp split
      refine ⟨rfl, ?_⟩
      rw [byteSize, sized]
      omega
    · rintro ⟨whole, sized⟩
      cases front with
      | nil => simp [byteSize] at sized
      | cons d shorter =>
        obtain ⟨rfl, rfl⟩ := List.cons.inj whole
        rw [byteSize] at sized
        exact ⟨(shorter, behind), ih.mpr ⟨rfl, by omega⟩, rfl⟩
  | case4 size c rest cut =>
    refine iff_of_false (by simp) ?_
    rintro ⟨whole, sized⟩
    cases front with
    | nil => simp [byteSize] at sized
    | cons d shorter =>
      obtain ⟨rfl, rfl⟩ := List.cons.inj whole
      rw [byteSize] at sized
      omega

/-- A slice is defined exactly if its ends are in order and stand between characters. -/
theorem slice?_eq_some_iff {start stop : Nat} {text part : Text} :
    slice? start stop text = some part ↔
      ∃ before after, text = before ++ (part ++ after) ∧ before.byteSize = start ∧
        start + part.byteSize = stop := by
  rw [slice?]
  split
  · next ordered =>
    simp only [Option.bind_eq_bind, Option.bind_eq_some_iff, Option.pure_def, Option.some.injEq,
      Prod.exists, splitBytes?_eq_some_iff]
    constructor
    · rintro ⟨before, rest, ⟨rfl, rfl⟩, part, after, ⟨rfl, sized⟩, rfl⟩
      exact ⟨before, after, rfl, rfl, by omega⟩
    · rintro ⟨before, after, rfl, rfl, rfl⟩
      exact ⟨before, part ++ after, ⟨rfl, rfl⟩, part, after, ⟨rfl, by omega⟩, rfl⟩
  · next disordered =>
    refine iff_of_false (by simp) ?_
    rintro ⟨before, after, rfl, rfl, rfl⟩
    omega

example : slice? 0 1 "é".toList = none ∧ slice? 2 3 "éa".toList = some ['a'] := by decide

end Text

namespace Guarded

variable {m : Type → Type} [Monad m] {α β : Type}

/-- Ends with a breach. -/
def broken (breach : Breach) : Guarded m α :=
  throw breach

/-- A computation that breaks no rule. -/
def unbroken (plain : m α) : Guarded m α :=
  ExceptT.lift plain

/-- Refuses the input, which breaks no rule. -/
def refused {ε : Type} (error : ε) : Guarded (Except ε) α :=
  unbroken (.error error)

/-- The remainder of a division. -/
def remainder (number divisor : Nat) : Guarded m Nat :=
  if divisor = 0 then broken .divisor else pure (number % divisor)

/-- The quotient of a division. -/
def quotient (number divisor : Nat) : Guarded m Nat :=
  if divisor = 0 then broken .divisor else pure (number / divisor)

/-- One less than a number. -/
def decrement : Nat → Guarded m Nat
  | 0 => broken .subtraction
  | number + 1 => pure number

/-- The first item of a list. -/
def first : List α → Guarded m α
  | [] => broken .index
  | item :: _ => pure item

/-- The items from `start` up to `stop`. -/
def range (start stop : Nat) (items : List α) : Guarded m (List α) :=
  if start ≤ stop ∧ stop ≤ items.length then pure ((items.take stop).drop start)
  else broken .index

/-- The bytes from `start` up to `stop`. -/
def slice (start stop : Nat) (text : Text) : Guarded m Text :=
  match text.slice? start stop with
  | some part => pure part
  | none => broken .slice

/-- The bytes from `start` on. -/
def sliceFrom (start : Nat) (text : Text) : Guarded m Text :=
  slice start text.byteSize text

theorem remainder_of_pos {divisor : Nat} (positive : 0 < divisor) (number : Nat) :
    (remainder number divisor : Guarded m Nat) = pure (number % divisor) :=
  if_neg (Nat.ne_of_gt positive)

theorem quotient_of_pos {divisor : Nat} (positive : 0 < divisor) (number : Nat) :
    (quotient number divisor : Guarded m Nat) = pure (number / divisor) :=
  if_neg (Nat.ne_of_gt positive)

/-- A range between others is there. -/
theorem range_append (before items after : List α) :
    (range before.length (before.length + items.length) (before ++ (items ++ after)) :
      Guarded m (List α)) = pure items := by
  rw [range, if_pos (by simp), ← List.append_assoc, ← List.length_append, List.take_left,
    List.drop_left]

theorem slice_append (before part after : Text) :
    (slice before.byteSize (before.byteSize + part.byteSize) (before ++ (part ++ after)) :
      Guarded m Text) = pure part := by
  rw [slice, Text.slice?_eq_some_iff.mpr ⟨before, after, rfl, rfl, rfl⟩]

theorem sliceFrom_append (before rest : Text) :
    (sliceFrom before.byteSize (before ++ rest) : Guarded m Text) = pure rest := by
  have whole := slice_append (m := m) before rest []
  rwa [List.append_nil, ← Text.byteSize_append] at whole

section Lawful

variable [LawfulMonad m]

theorem unbroken_pure (value : α) : (unbroken (pure value) : Guarded m α) = pure value := by
  apply ExceptT.ext
  rw [unbroken, ExceptT.run_lift, map_pure]
  rfl

theorem unbroken_bind (plain : m α) (next : α → m β) :
    unbroken (plain >>= next) = unbroken plain >>= fun value => unbroken (next value) := by
  apply ExceptT.ext
  simp only [unbroken, ExceptT.run_bind, ExceptT.run_lift, map_bind, bind_map_left]

theorem unbroken_map (change : α → β) (plain : m α) :
    unbroken (change <$> plain) = change <$> unbroken plain := by
  rw [map_eq_pure_bind, map_eq_pure_bind, unbroken_bind]
  simp only [unbroken_pure]

/-- Steps that break no rule make a list of steps that breaks none. -/
theorem mapM_unbroken {step : α → Guarded m β} {plain : α → m β}
    (each : ∀ item, step item = unbroken (plain item)) (items : List α) :
    items.mapM step = unbroken (items.mapM plain) := by
  induction items with
  | nil => exact (unbroken_pure []).symm
  | cons item later ih =>
    simp only [List.mapM_cons, each, ih, unbroken_bind, unbroken_pure]

end Lawful

end Guarded

end Haml
