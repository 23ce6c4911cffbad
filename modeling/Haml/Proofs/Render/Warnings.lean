import Haml.Proofs.Render.Refusal
import Haml.Warning

/-! # Where warnings come from

Whether a line can be rendered is known from the line alone, and rendering takes the lines up to the
first one that cannot. So the warnings are those of the lines that are rendered in fact.
-/

namespace Haml

namespace Render

theorem accepts_eq (options : Options) (line : Node) :
    accepts options line = (refusal? options line).isNone := by
  rw [accepts, refusal?]
  cases LineKind.of options.doctypes line.text with
  | element => cases Element.parse options.selfClosing line.text <;> rfl
  | doctype => cases Doctype.declaration? line.text <;> rfl
  | expression => rfl
  | statement => rfl
  | text => rfl

variable {target : Target} (full : target.missing = []) (options : Options)

include full

/-- Where everything under a line is accepted, the line decides. -/
theorem isOk_node_of_accepted (line : Node)
    (accepted : ∀ other ∈ Outline.postorder line.children, accepts options other = true) :
    (node target options line).outcome.isOk = accepts options line := by
  have sound : (Outline.postorder line.children).findSome? (refusal? options) = none := by
    rw [List.findSome?_eq_none_iff]
    intro other member
    rw [← Option.isNone_iff_eq_none, ← accepts_eq]
    exact accepted other member
  have ended := errorOf?_node full options line
  rw [errorOf?_forest full, sound, Option.none_or] at ended
  rw [accepts_eq, ← ended]
  cases (node target options line).outcome <;> rfl

/-- The lines up to the first one that is refused are those that are rendered. -/
theorem takeWhile_accepts (outline : Outline) :
    outline.postorder.takeWhile (accepts options) =
      outline.postorder.takeWhile fun line => (node target options line).outcome.isOk := by
  induction outline using Outline.induction with
  | nil => rw [Outline.postorder_nil, List.takeWhile_nil, List.takeWhile_nil]
  | cons text number sourceLine children later nested beside =>
    rw [Outline.postorder_cons, List.takeWhile_append, List.takeWhile_append, nested]
    split
    · next whole =>
      have accepted : ∀ other ∈ Outline.postorder children, accepts options other = true := by
        rw [← nested] at whole
        have kept := (List.takeWhile_prefix (accepts options)).eq_of_length whole
        intro other member
        rw [← kept] at member
        exact List.mem_takeWhile_imp member
      rw [List.takeWhile_cons, List.takeWhile_cons, beside,
        isOk_node_of_accepted full options ⟨text, number, sourceLine, children⟩ accepted]
    · rfl

end Render

end Haml
