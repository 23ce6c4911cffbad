import Haml.Proofs.Render.Calls
import Haml.Proofs.Render.Refusal

/-! # What a refused template asks for

A template that is refused has asked for something by then. Its lines make their requests one after
another, nested lines first, up to the first line that is refused. This line is known to be faulty
only after its marker has been asked for. So what is asked for depends on the outline and the
options, and on nothing that the target answers.
-/

namespace Haml

namespace Emission

variable {α β : Type}

/-- After a part that fails nothing is asked for. -/
theorem calls_bind_of_error {first : Emission α} {error : CompileError}
    (failed : first.outcome = .error error) (next : α → Emission β) :
    (first >>= next).calls = first.calls := by
  rcases first with ⟨calls, outcome⟩
  subst failed
  rfl

theorem calls_bind_pure (first : Emission α) (change : α → β) :
    (do return change (← first) : Emission β).calls = first.calls := by
  rcases first with ⟨calls, error | value⟩
  · rfl
  · exact List.append_nil calls

end Emission

namespace Render

/-- What lines ask for one after another, up to the first one that is refused, which asks for its
marker only. -/
def asked (options : Options) : List Node → List Capability
  | [] => []
  | line :: later =>
    if (refusal? options line).isSome then [.lineMarker]
    else line.requests options ++ asked options later

/-- Lines after a refused line ask for nothing. -/
theorem asked_append (options : Options) (first second : List Node) :
    asked options (first ++ second) =
      asked options first ++
        if (first.findSome? (refusal? options)).isSome then [] else asked options second := by
  induction first with
  | nil => rfl
  | cons line later ih =>
    rw [List.cons_append, asked, asked, List.findSome?_cons]
    cases refusal? options line with
    | some error => simp
    | none => simp [ih]

theorem node_eq (target : Target) (options : Options) (line : Node) :
    node target options line = do
      let inside ← forest target options line.children
      let marker ← marker target options line.text line.number
      let body ← body target options line.text line.sourceLine inside
      return Text.joinLines (marker ++ body) := by
  rcases line with ⟨text, number, sourceLine, children⟩
  rw [node]

section Full

variable {target : Target} (full : target.missing = [])
include full

/-- A refused line has asked for its marker, and for nothing else. -/
theorem calls_refused {options : Options} {line : Node} {error : CompileError}
    (refused : Refused options line error) (inside : List Text) :
    (marker target options line.text line.number).calls ++
      (body target options line.text line.sourceLine inside).calls = [.lineMarker] := by
  cases refused with
  | braces kind unbalanced =>
    simp [marker, body, kind, LineKind.isMarked, Target.lineMarker, Target.answer_eq full, element,
      unbalanced, Except.mapError, Emission.ofExcept]
  | doctype _ kind unknown =>
    have undeclared := (declaration?_eq_none_iff line.text).mpr unknown
    rw [Option.isSome_eq_false_iff, Option.isNone_iff_eq_none] at undeclared
    simp [marker, body, kind, LineKind.isMarked, Target.lineMarker, Target.answer_eq full, doctype,
      undeclared, Emission.fail]

/-- What the own line of a node asks for. -/
theorem calls_own {options : Options} {line : Node} {inside : List Text}
    (rendered : (forest target options line.children).outcome = .ok inside) :
    (marker target options line.text line.number).calls ++
      (body target options line.text line.sourceLine inside).calls = asked options [line] := by
  have outcome := errorOf?_bodyLines target.dialect options line inside
  rw [asked]
  cases refused : refusal? options line with
  | some error =>
    rw [calls_refused full ((refusal?_eq_some_iff options line error).mp refused)]
    rfl
  | none =>
    rw [refused] at outcome
    cases written : target.dialect.bodyLines options line.text line.sourceLine inside with
    | error error =>
      rw [written] at outcome
      cases outcome
    | ok lines =>
      rw [calls_line full line (isEmpty_of_forest rendered) written]
      exact (List.append_nil _).symm

/-- A node asks for what the lines under it ask for, and then for what its own line does. -/
theorem calls_node_eq {options : Options} {line : Node}
    (nested : (forest target options line.children).calls =
      asked options (Outline.postorder line.children)) :
    (node target options line).calls = asked options line.postorder := by
  rw [Node.postorder_eq, asked_append, ← nested, ← errorOf?_forest full]
  cases rendered : (forest target options line.children).outcome with
  | error error =>
    rw [node_eq, Emission.calls_bind_of_error rendered]
    exact (List.append_nil _).symm
  | ok inside =>
    rw [node_eq, Emission.calls_bind rendered, Emission.calls_bind (outcome_marker full ..),
      Emission.calls_bind_pure, calls_own full rendered]
    rfl

private theorem errorOf?_node_eq (options : Options) (line : Node) :
    errorOf? (node target options line).outcome = line.postorder.findSome? (refusal? options) := by
  rw [errorOf?_node full, errorOf?_forest full, Node.postorder_eq, List.findSome?_append,
    List.findSome?_singleton]

/-- Rendering asks for what the lines ask for, each after the lines nested under it. -/
theorem calls_forest_eq (options : Options) (outline : Outline) :
    (forest target options outline).calls = asked options outline.postorder := by
  induction outline using Outline.induction with
  | nil =>
    rw [forest]
    rfl
  | cons text number sourceLine children later nested beside =>
    generalize same : (⟨text, number, sourceLine, children⟩ : Node) = line
    have first : (node target options line).calls = asked options line.postorder :=
      calls_node_eq full (same ▸ nested)
    rw [Outline.postorder, asked_append, ← first, ← errorOf?_node_eq full, forest]
    cases rendered : (node target options line).outcome with
    | error error =>
      rw [Emission.calls_bind_of_error rendered]
      exact (List.append_nil _).symm
    | ok code =>
      rw [Emission.calls_bind rendered, Emission.calls_map, beside]
      rfl

end Full

end Render

/-- What an outline asks for: what its lines ask for and, unless one of them is refused, the
finished program. -/
def Outline.requests (options : Options) (outline : Outline) : List Capability :=
  Render.asked options outline.postorder ++
    if (outline.postorder.findSome? (Render.refusal? options)).isSome then [] else [.program]

/-- What rendering asks for depends on the outline and the options only, also where it fails. -/
theorem Outline.calls_render_eq {target : Target} (full : target.missing = []) (options : Options)
    (outline : Outline) : (outline.render target options).calls = outline.requests options := by
  rw [render, requests, ← Render.calls_forest_eq full, ← Render.errorOf?_forest full]
  cases rendered : (Render.forest target options outline).outcome with
  | error error =>
    rw [Emission.calls_bind_of_error rendered]
    exact (List.append_nil _).symm
  | ok blocks =>
    rw [Emission.calls_bind rendered, Target.program, Target.answer_eq full]
    rfl

end Haml
