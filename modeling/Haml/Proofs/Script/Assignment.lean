import Haml.Proofs.Script.Literal

/-! # Running assignments

A program without code of its own is a row of assignments, each on one line: it notes the number
of a template line, or adds the value of a string literal to the page. The lines are read from the
program text, so running them shows what a script engine makes of that text.
-/

namespace Haml.Script

/-- An assignment of a program. -/
inductive Assignment where
  /-- Notes the number of a line. -/
  | note (number : Nat)
  /-- Adds text to the page. -/
  | add (text : Text)
  deriving DecidableEq, Repr

/-- The variables of a running program. -/
structure Variables where
  output : Text
  line : Nat
  deriving DecidableEq, Repr

/-- The variables after an assignment. -/
def Variables.assign (state : Variables) : Assignment → Variables
  | .note number => { state with line := number }
  | .add text => { state with output := state.output ++ text }

/-- What follows the given start of a text. -/
def after? (start text : Text) : Option Text :=
  if start.isPrefixOf text then some (text.drop start.length) else none

/-- The value of a numeral, if nothing but a semicolon follows it. -/
def readNumber (text : Text) : Option Nat :=
  if text.dropWhile Char.isDigit = [';'] then Decimal.natural? 10 (text.takeWhile Char.isDigit)
  else none

/-- The value of a string literal, if nothing but a semicolon follows it. -/
def readText (text : Text) : Option Text :=
  (readLiteral text).bind fun (value, rest) => if rest = [';'] then some value else none

/-- The assignment that stands on a line, if it is one of the two sorts. -/
def Assignment.read? (script : Options) (line : Text) : Option Assignment :=
  match after? (script.line ++ " = ".toList) line, after? (script.output ++ " += ".toList) line with
  | some value, _ => (readNumber value).map .note
  | none, some value => (readText value).map .add
  | none, none => none

/-- The variables after all of the given lines, if each of them is an assignment. -/
def runLines (script : Options) (state : Variables) (lines : List Text) : Option Variables :=
  lines.foldlM (fun state line => (Assignment.read? script line).map state.assign) state

theorem after?_append (start rest : Text) : after? start (start ++ rest) = some rest := by
  simp [after?]

private theorem readNumber_ofNat (n : Nat) : readNumber (Text.ofNat n ++ [';']) = some n := by
  have digits : ∀ c ∈ Text.ofNat n, c.isDigit = true :=
    fun c member => Text.isDigit_of_mem_ofNat member
  rw [readNumber, List.dropWhile_append_of_pos digits, List.takeWhile_append_of_pos digits]
  simpa using Decimal.natural?_ofNat n

private theorem readText_literal (text : Text) : readText (literal text ++ [';']) = some text := by
  simp [readText, readLiteral_literal]

theorem read?_lineMarker (script : Options) (number : Nat) :
    Assignment.read? script (lineMarker script number) = some (.note number) := by
  rw [Assignment.read?, lineMarker, List.append_assoc, after?_append]
  simp only [readNumber_ofNat, Option.map_some]

theorem read?_append (text : Text) :
    Assignment.read? .standard (append .standard (literal text)) = some (.add text) := by
  have other : after? (Options.standard.line ++ " = ".toList)
      (append .standard (literal text)) = none := rfl
  rw [Assignment.read?, other, append, List.append_assoc, after?_append]
  simp only [readText_literal, Option.map_some]

/-- The two shapes that a line of a program without code of its own may have. -/
inductive IsAssignment (script : Options) : Text → Prop where
  | note (number : Nat) :
    IsAssignment script (script.line ++ " = ".toList ++ Text.ofNat number ++ [';'])
  | add {written text : Text} (read : readLiteral written = some (text, [])) :
    IsAssignment script (script.output ++ " += ".toList ++ written ++ [';'])

/-- The lines are assignments that together add exactly the text to the page. -/
structure Writes (lines : List Text) (text : Text) : Prop where
  shaped : ∀ line ∈ lines, IsAssignment .standard line
  runs : ∀ state, ∃ last,
    runLines .standard state lines = some ⟨state.output ++ text, last⟩

namespace Writes

theorem nil : Writes [] [] where
  shaped line member := by cases member
  runs state := ⟨state.line, by simp [runLines]⟩

/-- Lines that follow others add their text behind that of the others. -/
theorem append {first second : List Text} {before behind : Text} (start : Writes first before)
    (rest : Writes second behind) : Writes (first ++ second) (before ++ behind) where
  shaped := List.forall_mem_append.mpr ⟨start.shaped, rest.shaped⟩
  runs state := by
    obtain ⟨reached, started⟩ := start.runs state
    obtain ⟨last, ended⟩ := rest.runs ⟨state.output ++ before, reached⟩
    refine ⟨last, ?_⟩
    rw [runLines] at started ended ⊢
    rw [List.foldlM_append, started, ← List.append_assoc]
    exact ended

theorem lineMarker (number : Nat) : Writes [Script.lineMarker .standard number] [] where
  shaped := List.forall_mem_singleton.mpr (.note number)
  runs state := ⟨number, by simp [runLines, read?_lineMarker, Variables.assign]⟩

theorem literal (text : Text) : Writes [Script.append .standard (Script.literal text)] text where
  shaped := by
    have read : readLiteral (Script.literal text) = some (text, []) := by
      simpa using readLiteral_literal text []
    exact List.forall_mem_singleton.mpr (.add read)
  runs state := ⟨state.line, by simp [runLines, read?_append, Variables.assign]⟩

end Writes

end Haml.Script
