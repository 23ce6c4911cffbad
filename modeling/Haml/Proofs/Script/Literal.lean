import Haml.Proofs.Text.Escape
import Haml.Proofs.Text.Quoted
import Haml.Target.Script

/-! # Reading string literals

A reader for the string literals of scripts. It refuses what JSON or scripts refuse: control
characters, and the line separators of Unicode, which end a line in older script engines.
`readLiteral_literal` says that it reads back every literal of a generated program, and stops where
that literal ends. A literal is written in one pass; `separatorsReplaced_quoted` says that it is the
same as a quoted string in which the line separators are replaced afterwards.
-/

namespace Haml.Script

/-- Whether the character may stand in a literal as it is. -/
def isPlain (c : Char) : Bool :=
  0x20 ≤ c.toNat && !(['"', '\\', '\u2028', '\u2029'].contains c)

/-- The first character of what a literal holds. -/
def readChar : Text → Option (Char × Text)
  | [] => none
  | c :: rest =>
    if c = '\\' then Text.readEscape rest else if isPlain c then some (c, rest) else none

/-- The text that a literal stands for, and what follows the literal. -/
def readLiteral : Text → Option (Text × Text)
  | '"' :: rest => Text.readQuoted readChar rest
  | _ => none

/-- A character is read back however it is written. -/
theorem readChar_escape (c : Char) (rest : Text) :
    readChar (escape c ++ rest) = some (c, rest) := by
  rw [escape]
  split_ifs with line paragraph
  · subst line
    exact Text.readEscape_hex (n := 0x2028) (by decide) rest
  · subst paragraph
    exact Text.readEscape_hex (n := 0x2029) (by decide) rest
  obtain ⟨code, written, read⟩ | ⟨written, notQuote, notBackslash, shown⟩ := Text.escape_cases c
  · rw [written, List.cons_append, readChar, if_pos rfl, read]
  · have plain : isPlain c = true := by
      simp [isPlain, notQuote, notBackslash, line, paragraph, shown]
    rw [written, List.singleton_append, readChar, if_neg notBackslash, if_pos plain]

/-- Reading a literal gives back the text, and ends where the literal ends. -/
theorem readLiteral_literal (text rest : Text) :
    readLiteral (literal text ++ rest) = some (text, rest) := by
  simp only [literal, List.cons_append, List.append_assoc, readLiteral]
  exact Text.readQuoted_flatMap (fun _ => rfl) readChar_escape text rest

/-- The characters that may not stand in a literal as they are. -/
def IsForbidden (c : Char) : Prop :=
  c.toNat < 0x20 ∨ c = '\u2028' ∨ c = '\u2029'

private theorem not_isForbidden_of_isGraphic {c : Char} (graphic : Text.IsGraphic c) :
    ¬ IsForbidden c := by
  rintro (control | line | paragraph)
  · exact absurd control (Nat.not_lt.mpr graphic.1)
  · exact graphic.ne (by decide) line
  · exact graphic.ne (by decide) paragraph

private theorem not_isForbidden_of_mem_escape {c written : Char} (member : written ∈ escape c) :
    ¬ IsForbidden written := by
  rw [escape] at member
  split_ifs at member with line paragraph
  · exact not_isForbidden_of_isGraphic (Text.isGraphic_of_mem_numeric (n := 0x2028) member)
  · exact not_isForbidden_of_isGraphic (Text.isGraphic_of_mem_numeric (n := 0x2029) member)
  · rcases Text.isGraphic_or_eq_of_mem_escape member with graphic | ⟨rfl, shown⟩
    · exact not_isForbidden_of_isGraphic graphic
    · rintro (control | forbidden | forbidden)
      · exact absurd control (Nat.not_lt.mpr shown)
      · exact line forbidden
      · exact paragraph forbidden

private theorem not_isForbidden_of_mem_literal {text : Text} {c : Char}
    (member : c ∈ literal text) : ¬ IsForbidden c := by
  simp only [literal, List.cons_append, List.mem_cons, List.mem_append, List.mem_flatMap,
    List.not_mem_nil, or_false] at member
  have quote : Text.IsGraphic '"' := by decide
  rcases member with rfl | ⟨source, _, inside⟩ | rfl
  · exact not_isForbidden_of_isGraphic quote
  · exact not_isForbidden_of_mem_escape inside
  · exact not_isForbidden_of_isGraphic quote

theorem feed_not_mem_literal (text : Text) : '\n' ∉ literal text :=
  fun feed => not_isForbidden_of_mem_literal feed (.inl (by decide))

section Replacing

/-- The text with another text in every place of a character. -/
def replaced (c : Char) (other text : Text) : Text :=
  text.flatMap fun d => if d = c then other else [d]

private theorem replaced_of_not_mem {c : Char} {text : Text} (absent : c ∉ text) (other : Text) :
    replaced c other text = text := by
  induction text with
  | nil => rfl
  | cons d rest ih =>
    rw [List.mem_cons, not_or] at absent
    rw [replaced, List.flatMap_cons, if_neg (Ne.symm absent.1), ← replaced, ih absent.2]
    rfl

/-- The text with both line separators replaced, the line separator first. -/
def separatorsReplaced (text : Text) : Text :=
  replaced '\u2029' "\\u2029".toList (replaced '\u2028' "\\u2028".toList text)

private theorem separatorsReplaced_flatMap (write : Char → Text) (text : Text) :
    separatorsReplaced (text.flatMap write) =
      text.flatMap fun c => separatorsReplaced (write c) := by
  simp only [separatorsReplaced, replaced, List.flatMap_assoc]

/-- Replacing changes nothing in an escape, and makes the one of a separator. -/
theorem separatorsReplaced_escape (c : Char) : separatorsReplaced (Text.escape c) = escape c := by
  rw [escape]
  split_ifs with line paragraph
  · subst line
    decide
  · subst paragraph
    decide
  have absent {separator : Char} (beyond : 0x7F ≤ separator.toNat) (other : c ≠ separator) :
      separator ∉ Text.escape c := by
    intro member
    rcases Text.isGraphic_or_eq_of_mem_escape member with graphic | ⟨same, _⟩
    · exact graphic.ne beyond rfl
    · exact other same.symm
  rw [separatorsReplaced, replaced_of_not_mem (absent (by decide) line),
    replaced_of_not_mem (absent (by decide) paragraph)]

/-- A literal is a quoted string in which the separators are replaced afterwards. -/
theorem separatorsReplaced_quoted (text : Text) :
    separatorsReplaced (Text.quoted text) = literal text := by
  have apart (first second : Text) : separatorsReplaced (first ++ second) =
      separatorsReplaced first ++ separatorsReplaced second := by
    simp only [separatorsReplaced, replaced, List.flatMap_append]
  have quote : separatorsReplaced ['"'] = ['"'] := by decide
  have between := separatorsReplaced_flatMap Text.escape text
  simp only [separatorsReplaced_escape] at between
  rw [Text.quoted, ← List.singleton_append, apart, apart, quote, between]
  rfl

end Replacing

/-- Literals are faithful and cannot be broken out of. Whatever follows a literal, reading takes
exactly the literal and gives back its text, and no control character and no line separator stands
in it. All this holds of quoted strings in which the separators are replaced afterwards: the
replacement makes escapes of separators, and neither touches nor makes any other. -/
theorem literal_unbreakable (text rest : Text) :
    readLiteral (literal text ++ rest) = some (text, rest) ∧
      (∀ c ∈ literal text, 0x20 ≤ c.toNat ∧ c ≠ '\u2028' ∧ c ≠ '\u2029') ∧
      literal text = replaced '\u2029' "\\u2029".toList
        (replaced '\u2028' "\\u2028".toList (Text.quoted text)) := by
  refine ⟨readLiteral_literal text rest, fun c member => ?_, (separatorsReplaced_quoted text).symm⟩
  have allowed := not_isForbidden_of_mem_literal member
  simp only [IsForbidden, not_or, Nat.not_lt] at allowed
  exact allowed

end Haml.Script
