import Haml.Proofs.Render.Outcome
import Haml.Proofs.Text.Trim
import Haml.Target.Script

/-! # Expressions inside an element line

An expression stands on a line of its own or at the end of an element line, behind its mark. A line
drops its first character and an equals sign behind it, while an element line drops every equals
sign and exclamation mark in front. The two give the same code exactly where nothing but the mark
is dropped; otherwise the element line loses operators of the expression, a negation among them.
-/

namespace Haml.Script

/-- Whether the mark of an expression may hold the character. -/
def isMark (c : Char) : Bool :=
  c == '!' || c == '='

private theorem isMark_iff {c : Char} : isMark c = true ↔ c ∈ ['=', '!'] := by
  simp [isMark, or_comm]

/-- The marks of expressions. -/
def marks : List Text :=
  ["=", "!", "==", "!="].map String.toList

/-- The value of an expression inside an element line and the lines of code for an expression line
show the same: both nothing, or both the same code. -/
def ShowSame (script : Options) (value : Text) (lines : List Text) : Prop :=
  value = literal [] ∧ lines = [] ∨
    ∃ code, value = '(' :: code ++ [')'] ∧ lines = [append script ('(' :: code ++ [')'])]

theorem append_injective (script : Options) : Function.Injective (append script) := by
  intro first second same
  exact List.append_cancel_left (List.append_cancel_right same)

/-- What an element line and an expression line show is told by the code that is left of each. -/
theorem showSame_iff (script : Options) (inline line : Text) :
    ShowSame script (evaluation inline) (expression script line) ↔
      Text.trim (inline.dropWhile isMark) = Text.trim (line.dropOne '=') := by
  have bracketed (code : Text) : '(' :: code ++ [')'] ≠ literal [] :=
    fun same => absurd (List.cons.inj same).1 (by decide)
  have value : evaluation inline = if (Text.trim (inline.dropWhile isMark)).isEmpty then literal []
      else '(' :: Text.trim (inline.dropWhile isMark) ++ [')'] := rfl
  rw [value, expression]
  generalize Text.trim (inline.dropWhile isMark) = first
  generalize Text.trim (line.dropOne '=') = second
  constructor
  · rintro (⟨nothing, none⟩ | ⟨code, shown, lines⟩)
    · split_ifs at nothing none with empty silent
      · rw [List.isEmpty_iff.mp empty, List.isEmpty_iff.mp silent]
      · exact absurd nothing (bracketed first)
    · split_ifs at shown lines with empty silent
      · exact absurd shown.symm (bracketed code)
      · have inner := append_injective script (List.singleton_inj.mp lines)
        rw [List.append_cancel_right (List.cons.inj shown).2,
          List.append_cancel_right (List.cons.inj inner).2]
  · rintro rfl
    by_cases empty : first = []
    · left
      simp [empty]
    · right
      exact ⟨first, by simp [empty], by simp [empty]⟩

/-- Dropping marks changes what is left of a text exactly if it starts with one. -/
theorem trim_dropWhile_isMark_iff (text : Text) :
    Text.trim (text.dropWhile isMark) = Text.trim text ↔ text.takeWhile isMark = [] := by
  constructor
  · intro same
    cases text with
    | nil => rfl
    | cons c rest =>
      by_contra marked
      have mark : isMark c = true := by
        by_contra other
        simp [other] at marked
      have shown : isBlank c = false := by
        have blank : ∀ mark ∈ ['=', '!'], isBlank mark = false :=
          List.forall_mem_cons.mpr ⟨by decide, List.forall_mem_singleton.mpr (by decide)⟩
        exact blank c (isMark_iff.mp mark)
      -- What is left behind the mark ends the rest, so the mark is missing in it.
      have shorter : (Text.trim (rest.dropWhile isMark)).length ≤ (Text.trimEnd rest).length :=
        Text.length_trimEnd_le_of_suffix
          ((List.dropWhile_suffix isBlank).trans (List.dropWhile_suffix isMark))
      rw [List.dropWhile_cons_of_pos mark, Text.trim_cons_of_shown shown] at same
      rw [same, List.length_cons] at shorter
      omega
  · intro unmarked
    have whole := List.takeWhile_append_dropWhile (p := isMark) (l := text)
    rw [unmarked, List.nil_append] at whole
    rw [whole]

/-- The leading characters are a mark exactly if an expression line keeps none of them. -/
theorem takeWhile_mem_marks_iff {first : Char} (start : first ∈ ['=', '!']) (rest : Text) :
    (first :: rest).takeWhile isMark ∈ marks ↔ (rest.dropOne '=').takeWhile isMark = [] := by
  have mark : first = '=' ∨ first = '!' := by simpa using start
  have single : [first] ∈ marks := by rcases mark with rfl | rfl <;> decide
  rw [List.takeWhile_cons_of_pos (isMark_iff.mpr start)]
  cases rest with
  | nil => simpa [Text.dropOne] using single
  | cons second rest =>
    rw [Text.dropOne]
    by_cases equals : second = '='
    · subst equals
      have double : first :: '=' :: rest.takeWhile isMark ∈ marks ↔ rest.takeWhile isMark = [] := by
        generalize rest.takeWhile isMark = more
        rcases mark with rfl | rfl <;> simp [marks]
      simpa [isMark] using double
    · rw [if_neg equals]
      by_cases bang : second = '!'
      · subst bang
        have other : first :: '!' :: rest.takeWhile isMark ∉ marks := by
          simp [marks]
        simpa [isMark] using other
      · have unmarked : isMark second = false := by simp [isMark, equals, bang]
        simpa [unmarked] using single

/-- An element line drops all marks that are left on an expression line. -/
theorem dropWhile_isMark {first : Char} (start : first ∈ ['=', '!']) (rest : Text) :
    (first :: rest).dropWhile isMark = (rest.dropOne '=').dropWhile isMark := by
  rw [List.dropWhile_cons_of_pos (isMark_iff.mpr start)]
  cases rest with
  | nil => rfl
  | cons second rest =>
    rw [Text.dropOne]
    split_ifs with equals
    · rw [List.dropWhile_cons_of_pos (isMark_iff.mpr (by simp [equals]))]
    · rfl

/-- Without document types, a line that starts with a mark is an expression. -/
theorem kind_of_mark {first : Char} (start : first ∈ ['=', '!']) (rest : Text) :
    LineKind.of false (first :: rest) = .expression := by
  simp only [List.mem_cons, List.not_mem_nil, or_false] at start
  rw [LineKind.of.eq_def]
  rcases start with rfl | rfl <;> split <;> simp_all

/-- An expression shows the same inside an element line and on a line of its own exactly if its
leading equals signs and exclamation marks are one of the marks. -/
theorem inline_shows_same_iff {line : Text} (marked : ∃ mark ∈ ['=', '!'], line.head? = some mark)
    (script : Options) (selfClosing : List Text) (sourceLine : Nat) (inside : List Text) :
    ∃ value lines, ((target script).evaluation line).outcome = .ok value ∧
      (Render.body (target script) ⟨selfClosing, false⟩ line sourceLine inside).outcome =
        .ok lines ∧
      (ShowSame script value lines ↔ line.takeWhile isMark ∈ marks) := by
  obtain ⟨first, start, head⟩ := marked
  obtain ⟨rest, rfl⟩ := List.head?_eq_some_iff.mp head
  have kind := kind_of_mark start rest
  have lines : (target script).dialect.bodyLines ⟨selfClosing, false⟩ (first :: rest) sourceLine
      inside = .ok (expression script rest) := by
    rw [Dialect.bodyLines, kind]
    rfl
  refine ⟨evaluation (first :: rest), expression script rest, rfl, ?_, ?_⟩
  · exact (Render.outcome_body rfl _ _ _ _).trans lines
  · rw [showSame_iff, dropWhile_isMark start, trim_dropWhile_isMark_iff,
      takeWhile_mem_marks_iff start]

/-- The two characters of an unescaped expression are a mark. -/
theorem inline_shows_same_of_unescaped :
    ∃ value lines, ((target .standard).evaluation "!= raw".toList).outcome = .ok value ∧
      (Render.body (target .standard) ⟨[], false⟩ "!= raw".toList 1 []).outcome = .ok lines ∧
      ShowSame .standard value lines := by
  have marked : ∃ mark ∈ ['=', '!'], "!= raw".toList.head? = some mark := ⟨'!', by decide, rfl⟩
  obtain ⟨value, lines, inline, line, same⟩ := inline_shows_same_iff marked .standard [] 1 []
  exact ⟨value, lines, inline, line, same.mpr (by decide)⟩

/-- A negation behind the mark is lost inside an element line, so the two show different values. -/
theorem inline_drops_negation :
    Text.trimEnd "=!flag".toList = "=!flag".toList ∧
      ((target .standard).evaluation "=!flag".toList).outcome = .ok "(flag)".toList ∧
      (Render.body (target .standard) ⟨[], false⟩ "=!flag".toList 1 []).outcome =
        .ok ["_$output += (!flag);".toList] ∧
      ¬ ShowSame .standard "(flag)".toList ["_$output += (!flag);".toList] := by
  refine ⟨by decide, by rfl, by rfl, ?_⟩
  have inline : evaluation "=!flag".toList = "(flag)".toList := by decide
  have line : expression .standard "!flag".toList = ["_$output += (!flag);".toList] := by decide
  rw [← inline, ← line, showSame_iff]
  decide

end Haml.Script
