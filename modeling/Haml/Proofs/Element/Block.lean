import Haml.Element.Parse
import Mathlib.Data.List.Induction

/-! # Attribute blocks

The braces of a block match at its end and not before. A block can be read from its start: after
every character it is known how many braces are open, and it ends when the last of them is closed.
-/

namespace Haml.Element

/-- A block of attributes: its braces match, and not before its end. -/
structure IsBlock (block : Text) : Prop where
  opens : block.head? = some '{'
  closes : block.getLast? = some '}'
  inside : ∀ n < block.length, 0 < n → (block.take n).count '}' < (block.take n).count '{'
  balanced : block.count '{' = block.count '}'

/-- The start of a block, inside `depth` braces. -/
inductive Opened : Nat → Text → Prop where
  | first : Opened 1 ['{']
  | deeper {depth : Nat} {start : Text} : Opened depth start → Opened (depth + 1) (start ++ ['{'])
  | outer {depth : Nat} {start : Text} :
      Opened (depth + 2) start → Opened (depth + 1) (start ++ ['}'])
  | other {depth : Nat} {start : Text} {c : Char} :
      Opened depth start → c ≠ '{' → c ≠ '}' → Opened depth (start ++ [c])

theorem Opened.nonempty {depth : Nat} {start : Text} (opened : Opened depth start) :
    start ≠ [] := by
  cases opened <;> simp

/-- However short the text is cut, more braces open than close in it. -/
def StaysOpen (text : Text) : Prop :=
  ∀ n ≤ text.length, 0 < n → (text.take n).count '}' < (text.take n).count '{'

theorem staysOpen_concat {start : Text} {c : Char} :
    StaysOpen (start ++ [c]) ↔
      StaysOpen start ∧ (start ++ [c]).count '}' < (start ++ [c]).count '{' := by
  constructor
  · intro stays
    refine ⟨fun n bound positive => ?_, ?_⟩
    · have cut := stays n (by simp; omega) positive
      rwa [List.take_append_of_le_length bound] at cut
    · have whole := stays (start ++ [c]).length (Nat.le_refl _) (by simp)
      rwa [List.take_length] at whole
  · rintro ⟨shorter, whole⟩ n bound positive
    rcases Nat.lt_or_ge start.length n with longer | within
    · rwa [List.take_of_length_le (by simp; omega)]
    · rw [List.take_append_of_le_length within]
      exact shorter n within positive

theorem StaysOpen.count_lt {text : Text} (stays : StaysOpen text) (nonempty : text ≠ []) :
    text.count '}' < text.count '{' := by
  have whole := stays text.length (Nat.le_refl _) (List.length_pos_iff.mpr nonempty)
  rwa [List.take_length] at whole

theorem Opened.counts {depth : Nat} {start : Text} (opened : Opened depth start) :
    start.head? = some '{' ∧ StaysOpen start ∧ start.count '{' = start.count '}' + depth := by
  induction opened with
  | first =>
    refine ⟨rfl, fun n bound positive => ?_, rfl⟩
    obtain rfl : n = 1 := Nat.le_antisymm bound positive
    decide
  | deeper opened ih =>
    obtain ⟨opens, stays, counted⟩ := ih
    refine ⟨by simp [opens], staysOpen_concat.mpr ⟨stays, ?_⟩, ?_⟩ <;> simp <;> omega
  | outer opened ih =>
    obtain ⟨opens, stays, counted⟩ := ih
    refine ⟨by simp [opens], staysOpen_concat.mpr ⟨stays, ?_⟩, ?_⟩ <;> simp <;> omega
  | other opened notOpen notClose ih =>
    obtain ⟨opens, stays, counted⟩ := ih
    have leads := stays.count_lt opened.nonempty
    refine ⟨by simp [opens], staysOpen_concat.mpr ⟨stays, ?_⟩, ?_⟩ <;>
      simp [notOpen, notClose] <;> omega

/-- Every text that starts with a brace and stays open is the start of a block. -/
theorem opened_of_counts {depth : Nat} {start : Text} (opens : start.head? = some '{')
    (stays : StaysOpen start) (counted : start.count '{' = start.count '}' + depth) :
    Opened depth start := by
  induction start using List.reverseRecOn generalizing depth with
  | nil => cases opens
  | append_singleton start c ih =>
    obtain ⟨shorter, leads⟩ := staysOpen_concat.mp stays
    rw [List.count_append, List.count_append] at counted leads
    cases start with
    | nil =>
      obtain rfl : c = '{' := by simpa using opens
      obtain rfl : depth = 1 := by simpa using counted.symm
      exact .first
    | cons first rest =>
      -- The shorter start is open too, and its depth tells the depth behind `c`.
      obtain ⟨inner, same⟩ := Nat.exists_eq_add_of_lt (shorter.count_lt (List.cons_ne_nil _ _))
      have opened : Opened (inner + 1) (first :: rest) := ih opens shorter same
      by_cases brace : c = '{'
      · subst brace
        obtain rfl : depth = inner + 2 := by simp at counted; omega
        exact .deeper opened
      by_cases close : c = '}'
      · subst close
        obtain rfl : inner = depth := by simp at counted; omega
        obtain ⟨outer, rfl⟩ := Nat.exists_eq_succ_of_ne_zero (by simp at leads; omega : inner ≠ 0)
        exact .outer opened
      · obtain rfl : depth = inner + 1 := by simp [brace, close] at counted; omega
        exact .other opened brace close

/-- A block is the start of one inside a single brace, and the brace that closes it. -/
theorem isBlock_iff {block : Text} :
    IsBlock block ↔ ∃ start, Opened 1 start ∧ block = start ++ ['}'] := by
  constructor
  · rintro ⟨opens, closes, inside, balanced⟩
    obtain ⟨start, rfl⟩ := List.getLast?_eq_some_iff.mp closes
    refine ⟨start, opened_of_counts ?_ (fun n bound positive => ?_) ?_, rfl⟩
    · cases start with
      | nil => simp at opens
      | cons c rest => exact opens
    · have cut := inside n (by simp; omega) positive
      rwa [List.take_append_of_le_length bound] at cut
    · simpa using balanced
  · rintro ⟨start, opened, rfl⟩
    obtain ⟨opens, stays, counted⟩ := opened.counts
    refine ⟨by simp [opens], by simp, fun n bound positive => ?_, by simp [counted]⟩
    have within : n ≤ start.length := by simp at bound; omega
    rw [List.take_append_of_le_length within]
    exact stays n within positive

/-- No block is a proper start of another. -/
theorem IsBlock.eq_of_prefix {first second : Text} (block : IsBlock first) (other : IsBlock second)
    (start : first <+: second) : first = second := by
  refine start.eq_of_length_le (Nat.le_of_not_lt fun shorter => ?_)
  have nonempty : 0 < first.length := by
    cases first with
    | nil => cases block.opens
    | cons c rest => simp
  have leads := other.inside first.length shorter nonempty
  rw [← List.prefix_iff_eq_take.mp start, block.balanced] at leads
  exact Nat.lt_irrefl _ leads

end Haml.Element
