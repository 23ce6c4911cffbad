import Haml.Proofs.Element.Selectors
import Haml.Proofs.Text.Trim

/-! # What an element line gives to the program

The attribute block and the expression of an element line go into the program as they are. They are
made of characters of the line only.
-/

namespace Haml.Element

/-- The rest behind the selectors ends the line. -/
theorem readHead_suffix (line : Text) : (readHead line).2 <:+ line :=
  ⟨_, written_readHead line⟩

private theorem mem_of_readInline {text source : Text}
    (read : readInline text = some (.expression source)) {c : Char} (member : c ∈ source) :
    c ∈ text := by
  rcases text with _ | ⟨mark, rest⟩
  · cases read
  by_cases space : mark = ' '
  · subst space
    simp only [readInline] at read
    split at read <;> cases read
  · rw [readInline] at read
    · obtain rfl := Inline.expression.inj (Option.some.inj read)
      exact Text.mem_of_mem_trim member
    · exact space

/-- What holds of all characters that are read holds of those of the block and the expression. -/
theorem readTail_forall {P : Char → Prop} {offset depth : Nat} {block rest : Text}
    {found attributes : Option Text} {inline : Option Inline}
    (inBlock : ∀ c ∈ block, P c) (inFound : ∀ text ∈ found, ∀ c ∈ text, P c)
    (inRest : ∀ c ∈ rest, P c)
    (success : readTail offset depth block found rest = .ok (attributes, inline)) :
    (∀ text ∈ attributes, ∀ c ∈ text, P c) ∧
      ∀ source, inline = some (.expression source) → ∀ c ∈ source, P c := by
  fun_induction readTail offset depth block found rest with
  | case1 offset block found =>
    obtain ⟨rfl, rfl⟩ := Prod.mk.inj (Except.ok.inj success)
    exact ⟨inFound, fun source same => by cases same⟩
  | case2 => cases success
  | case3 offset depth block found rest next ih =>
    obtain ⟨brace, later⟩ := List.forall_mem_cons.mp inRest
    exact ih (List.forall_mem_cons.mpr ⟨brace, inBlock⟩) inFound later success
  | case4 => cases success
  | case5 offset block found rest next _ ih =>
    obtain ⟨brace, later⟩ := List.forall_mem_cons.mp inRest
    refine ih (by simp) ?_ later success
    intro text same
    obtain rfl := Option.some.inj same
    simpa only [List.mem_reverse] using List.forall_mem_cons.mpr ⟨brace, inBlock⟩
  | case6 offset block found rest outer next _ ih =>
    obtain ⟨brace, later⟩ := List.forall_mem_cons.mp inRest
    exact ih (List.forall_mem_cons.mpr ⟨brace, inBlock⟩) inFound later success
  | case7 offset block found mark rest _ _ _ =>
    obtain ⟨rfl, rfl⟩ := Prod.mk.inj (Except.ok.inj success)
    exact ⟨inFound, fun source same c member => inRest c (mem_of_readInline same member)⟩
  | case8 offset block found mark rest next _ _ _ ih =>
    exact ih (by simp) inFound (List.forall_mem_cons.mp inRest).2 success
  | case9 offset depth block found mark rest next _ _ _ ih =>
    obtain ⟨first, later⟩ := List.forall_mem_cons.mp inRest
    exact ih (List.forall_mem_cons.mpr ⟨first, inBlock⟩) inFound later success

/-- What holds of all characters of a line holds of those of its block and its expression. -/
theorem parse_forall {P : Char → Prop} {selfClosing : List Text} {line : Text} {element : Element}
    (all : ∀ c ∈ line, P c) (success : parse selfClosing line = .ok element) :
    (∀ block ∈ element.attributes, ∀ c ∈ block, P c) ∧
      ∀ source, element.inline = some (.expression source) → ∀ c ∈ source, P c := by
  have inTail : ∀ c ∈ (readHead line).2, P c :=
    fun c member => all c ((readHead_suffix line).sublist.mem member)
  cases read : readTail (Text.byteSize line - Text.byteSize (readHead line).2) 0 [] none
      (readHead line).2 with
  | error fault => simp [parse, read, bind, Except.bind] at success
  | ok parts =>
    simp only [parse, read, bind, Except.bind, pure, Except.pure, Except.ok.injEq] at success
    obtain rfl := success
    exact readTail_forall (by simp) (by simp) inTail read

end Haml.Element
