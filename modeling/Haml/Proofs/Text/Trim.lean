import Haml.Proofs.Text.Lines
import Haml.Text.Blank
import Mathlib.Data.List.DropRight

/-! # Trimming

Trimming takes characters away at the ends only, leaves nothing exactly of a blank text, and leaves
no blank character first or last. A text with none there is left as it is.
-/

namespace Haml.Text

theorem isInfix_trim (text : Text) : text.trim <:+: text :=
  (List.rdropWhile_prefix isBlank _).isInfix.trans (List.dropWhile_suffix isBlank).isInfix

theorem mem_of_mem_trim {text : Text} {c : Char} (member : c ∈ text.trim) : c ∈ text :=
  (isInfix_trim text).subset member

theorem mem_of_mem_dropOne {mark c : Char} {text : Text} (member : c ∈ text.dropOne mark) :
    c ∈ text := by
  cases text with
  | nil => exact member
  | cons first rest =>
    rw [dropOne] at member
    split at member
    · exact List.mem_cons_of_mem _ member
    · exact member

/-- The first character that is left is not blank. -/
theorem isBlank_of_trimStart {text rest : Text} {c : Char} (left : text.trimStart = c :: rest) :
    isBlank c = false := by
  have stopped := List.head?_dropWhile_not isBlank text
  rw [← trimStart, left] at stopped
  simpa using stopped

theorem trim_eq_nil_iff (text : Text) : text.trim = [] ↔ text.allBlank = true := by
  rw [trim, trimEnd, List.reverse_eq_nil_iff, List.dropWhile_eq_nil_iff, allBlank, List.all_eq_true]
  constructor
  · intro blank
    cases rest : text.trimStart with
    | nil => exact List.dropWhile_eq_nil_iff.mp rest
    | cons first later =>
      have first := blank first (by simp [rest])
      simp [isBlank_of_trimStart rest] at first
  · intro blank c member
    exact blank c ((List.dropWhile_sublist isBlank).mem (List.mem_reverse.mp member))

theorem isBlank_getLast_trimEnd {text : Text} {c : Char} (last : text.trimEnd.getLast? = some c) :
    isBlank c = false := by
  rw [trimEnd, List.getLast?_reverse] at last
  have stopped := List.head?_dropWhile_not isBlank text.reverse
  rw [last] at stopped
  simpa using stopped

private theorem isBlank_getLast_trim {text : Text} {c : Char} (last : text.trim.getLast? = some c) :
    isBlank c = false :=
  isBlank_getLast_trimEnd last

/-- A text with no blank character at either end. -/
structure IsTrimmed (text : Text) : Prop where
  first : ∀ c ∈ text.head?, isBlank c = false
  last : ∀ c ∈ text.getLast?, isBlank c = false

instance (text : Text) : Decidable (IsTrimmed text) :=
  decidable_of_iff (text.head?.all (!isBlank ·) = true ∧ text.getLast?.all (!isBlank ·) = true) <| by
    simp only [Option.all_eq_true, Bool.not_eq_true']
    exact ⟨fun ⟨first, last⟩ => ⟨first, last⟩, fun trimmed => ⟨trimmed.first, trimmed.last⟩⟩

theorem trimEnd_eq_self {text : Text} (last : ∀ c ∈ text.getLast?, isBlank c = false) :
    text.trimEnd = text := by
  refine List.rdropWhile_eq_self_iff.mpr fun nonempty blank => ?_
  have shown := last _ (List.getLast?_eq_some_getLast nonempty)
  simp [shown] at blank

theorem rdropWhile_append_of_pos {α : Type} {drops : α → Bool} {ending : List α}
    (dropped : ∀ element ∈ ending, drops element = true) (list : List α) :
    (list ++ ending).rdropWhile drops = list.rdropWhile drops := by
  rw [List.rdropWhile, List.reverse_append,
    List.dropWhile_append_of_pos fun element member => dropped element (List.mem_reverse.mp member),
    List.rdropWhile]

/-- A character that is not blank stays in front of what is left of the text behind it. -/
theorem trimEnd_cons_of_shown {c : Char} (shown : isBlank c = false) (rest : Text) :
    trimEnd (c :: rest) = c :: trimEnd rest := by
  rw [trimEnd, trimEnd, List.reverse_cons, List.dropWhile_append]
  split
  · next empty => simp [List.isEmpty_iff.mp empty, shown]
  · simp

theorem trim_cons_of_shown {c : Char} (shown : isBlank c = false) (rest : Text) :
    trim (c :: rest) = c :: trimEnd rest := by
  rw [trim, trimStart, List.dropWhile_cons_of_neg (by simp [shown]), trimEnd_cons_of_shown shown]

theorem trim_cons_of_blank {c : Char} (blank : isBlank c = true) (rest : Text) :
    trim (c :: rest) = trim rest := by
  rw [trim, trimStart, List.dropWhile_cons_of_pos blank]
  rfl

/-- Less of a text at its front leaves no more of it. -/
theorem length_trimEnd_le_of_suffix {first second : Text} (suffix : first <:+ second) :
    first.trimEnd.length ≤ second.trimEnd.length := by
  obtain ⟨front, rfl⟩ := suffix
  rw [trimEnd, trimEnd, List.reverse_append, List.dropWhile_append]
  split
  · next empty => simp [List.isEmpty_iff.mp empty]
  · simp

theorem IsTrimmed.trim_eq {text : Text} (trimmed : IsTrimmed text) : text.trim = text := by
  cases text with
  | nil => rfl
  | cons c rest =>
    have shown := trimmed.first c rfl
    rw [trim_cons_of_shown shown, ← trimEnd_cons_of_shown shown, trimEnd_eq_self trimmed.last]

theorem isTrimmed_trim (text : Text) : IsTrimmed text.trim where
  first c first := by
    rw [trim] at first
    cases left : text.trimStart with
    | nil => simp [left, trimEnd] at first
    | cons d rest =>
      have shown := isBlank_of_trimStart left
      rw [left, trimEnd_cons_of_shown shown] at first
      exact Option.some.inj first ▸ shown
  last c last := isBlank_getLast_trim last

/-- What is left of a line that is not blank is a line. -/
theorem isLine_trim {text : Text} (unbroken : '\n' ∉ text) (shown : text.allBlank = false) :
    IsLine text.trim where
  nonempty empty := by simp [(trim_eq_nil_iff text).mp empty] at shown
  unbroken feed := unbroken (mem_of_mem_trim feed)
  ending last := absurd (isBlank_getLast_trim last) (by decide)

end Haml.Text
