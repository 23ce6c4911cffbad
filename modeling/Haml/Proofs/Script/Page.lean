import Haml.Proofs.Element.Tags
import Haml.Proofs.Render.Refusal
import Haml.Proofs.Script.Assignment
import Haml.Proofs.Script.Layout

/-! # The page of a template without code

A template whose lines are text, document types and elements without code stands for a page, which
is written down here by recursion on the outline. Its program is a row of assignments, and running
them leaves exactly this page.
-/

namespace Haml

namespace Element

/-- The text that an element holds on its own line, as it is written in a page. -/
def inlineText (element : Element) : Text :=
  match element.inline with
  | some (.text text) => text.withEntities
  | _ => []

/-- An element in a page around what is nested under it. -/
def page (element : Element) (childless : Bool) (inside : Text) : Text :=
  element.openingTag ++
    if element.selfClosing then []
    else (if childless then element.inlineText else inside) ++ element.closingTag

/-- Whether the element line has neither an attribute block nor an expression. -/
def isStatic (element : Element) : Bool :=
  element.attributes.isNone &&
    match element.inline with
    | some (.expression _) => false
    | _ => true

end Element

namespace Outline

/-- Whether a line needs no code: text, a known document type, or an element without code. -/
def isStaticLine (options : Options) (text : Text) : Bool :=
  match LineKind.of options.doctypes text with
  | .text => true
  | .doctype => (Doctype.declaration? text).isSome
  | .element =>
    match Element.parse options.selfClosing text with
    | .ok element => element.isStatic
    | .error _ => false
  | .expression | .statement => false

mutual

/-- What a node adds to the page. -/
def nodePage (options : Options) : Node → Text
  | ⟨text, _, _, children⟩ =>
    match LineKind.of options.doctypes text with
    | .text => text
    | .doctype => (Doctype.declaration? text).getD []
    | .element =>
      match Element.parse options.selfClosing text with
      | .ok element => element.page children.isEmpty (page options children)
      | .error _ => []
    | .expression | .statement => []

/-- The page that an outline without code stands for. -/
def page (options : Options) : List Node → Text
  | [] => []
  | node :: later => nodePage options node ++ page options later

end

end Outline

/-- A line without code is never refused. -/
theorem Render.refusal?_of_isStaticLine {options : Options} {node : Node}
    (static : Outline.isStaticLine options node.text = true) : refusal? options node = none := by
  rw [Outline.isStaticLine] at static
  rw [refusal?]
  cases kind : LineKind.of options.doctypes node.text with
  | text => rfl
  | expression => rfl
  | statement => rfl
  | doctype =>
    simp only [kind] at static
    exact if_pos static
  | element =>
    simp only [kind] at static
    cases read : Element.parse options.selfClosing node.text with
    | error fault => simp [read] at static
    | ok element => rfl

/-- An outline without code is rendered by every target that lacks nothing. -/
theorem Outline.exists_render {target : Target} (full : target.missing = []) {options : Options}
    {outline : Outline}
    (static : ∀ node ∈ outline.descendants, isStaticLine options node.text = true) :
    ∃ program, (outline.render target options).outcome = .ok program := by
  cases result : (outline.render target options).outcome with
  | ok program => exact ⟨program, rfl⟩
  | error error =>
    have first := outline.errorOf?_render full options
    rw [result] at first
    obtain ⟨node, member, refused⟩ := List.exists_of_findSome?_eq_some first.symm
    have line := static node (outline.postorder_perm.mem_iff.mp member)
    rw [Render.refusal?_of_isStaticLine line] at refused
    cases refused

namespace Script

private theorem sum_literal (text : Text) : sum (.literal text) = literal text := by
  by_cases empty : text = []
  · rw [empty]
    rfl
  · rw [Markup.literal_of_ne_nil empty]
    simp [sum, Markup.isEmpty, operand]

/-- Without code, all markup of an element is one literal each. -/
theorem tags_of_isStatic (script : Options) {element : Element} (static : element.isStatic = true) :
    (dialect script).tags element =
      { opening := .literal element.openingTag
        body := element.inline.map fun _ => .literal element.inlineText
        closing := if element.selfClosing then none else some (.literal element.closingTag) } := by
  simp only [Element.isStatic, Bool.and_eq_true, Option.isNone_iff_eq_none] at static
  obtain ⟨noBlock, noCode⟩ := static
  have body : (dialect script).inlineBody element =
      element.inline.map fun _ => .literal element.inlineText := by
    rw [Dialect.inlineBody]
    rcases held : element.inline with _ | text | source
    · rfl
    · simp [Element.inlineText, held]
    · simp [held] at noCode
  simp only [Dialect.tags, body, Dialect.openingStart, noBlock, Markup.literal_pushLiteral,
    Element.openingTag, Element.startText, Element.tagEnd, Element.closingTag]

/-- The lines of an element without code write it around what the lines inside write. -/
theorem writes_element {element : Element} (static : element.isStatic = true) {childless : Bool}
    {inside : List (Nat × Text)} {text : Text}
    (within : Writes (inside.map (printed .standard)) text) :
    Writes ((elementListing .standard 0 element childless inside).map (printed .standard))
      (element.page childless text) := by
  simp only [elementListing, tags_of_isStatic .standard static, sum_literal, List.map_cons,
    printed_zero, Element.page]
  cases element.selfClosing with
  | true => exact (Writes.literal _).append .nil
  | false =>
    have opening := Writes.literal element.openingTag
    have closing := Writes.literal element.closingTag
    cases childless with
    | false => simpa [sum_literal] using opening.append (within.append closing)
    | true =>
      cases inline : element.inline with
      | none => simpa [sum_literal, Element.inlineText, inline] using opening.append closing
      | some inline =>
        have shown := Writes.literal element.inlineText
        simpa [sum_literal] using opening.append (shown.append closing)

/-- Running the listing of an outline without code writes its page. -/
theorem writes_listing {options : Haml.Options} {outline : Outline}
    (static : ∀ node ∈ outline.descendants, Outline.isStaticLine options node.text = true) :
    Writes ((listing .standard options 0 outline).map (printed .standard))
      (Outline.page options outline) := by
  induction outline using Outline.induction with
  | nil => simpa [Outline.page] using Writes.nil
  | cons text number sourceLine children later nested beside =>
    simp only [Outline.descendants_cons, List.forall_mem_cons, List.forall_mem_append] at static
    obtain ⟨line, below, after⟩ := static
    rw [listing_cons, List.map_append, Outline.page]
    refine Writes.append ?_ (beside after)
    have marked {lines : List Text} {page : Text} (writes : Writes lines page) :
        Writes (lineMarker .standard number :: lines) page :=
      (Writes.lineMarker number).append writes
    rw [Outline.isStaticLine] at line
    cases kind : LineKind.of options.doctypes text with
    | text =>
      simp only [nodeListing, Outline.nodePage, kind, sum_literal, List.map_cons, printed_zero,
        List.map_nil]
      exact marked (.literal text)
    | doctype =>
      simp only [nodeListing, Outline.nodePage, kind, sum_literal, List.map_cons, printed_zero,
        List.map_nil]
      exact marked (.literal _)
    | expression => simp [kind] at line
    | statement => simp [kind] at line
    | element =>
      cases read : Element.parse options.selfClosing text with
      | error fault => simp [kind, read] at line
      | ok element =>
        simp only [kind, read] at line
        simp only [nodeListing, Outline.nodePage, kind, read, List.map_cons, printed_zero]
        exact marked (writes_element line (nested below))

/-- Text that is shown cannot break a line, so a line without code never does. -/
theorem keepsLines_of_isStaticLine {options : Haml.Options} {text : Text}
    (static : Outline.isStaticLine options text = true) : KeepsLines options text := by
  rw [Outline.isStaticLine] at static
  rw [KeepsLines]
  cases kind : LineKind.of options.doctypes text with
  | text => trivial
  | doctype => trivial
  | expression => simp [kind] at static
  | statement => simp [kind] at static
  | element =>
    intro element read
    simp only [kind, read, Element.isStatic, Bool.and_eq_true, Option.isNone_iff_eq_none] at static
    refine ⟨fun block found => ?_, fun source held => ?_⟩
    · simp [static.1] at found
    · simp [held] at static

/-- The program of an outline without code computes its page. Rendering succeeds. The program is the
two declarations, assignments of the two shapes and the result, one a line. Running the assignments
from the declared values leaves the page in the output variable. -/
theorem render_computes_page {options : Haml.Options} {outline : Outline}
    (static : ∀ node ∈ outline.descendants, Outline.isStaticLine options node.text = true) :
    ∃ program body last,
      (outline.render (target .standard) options).outcome = .ok program ∧
      program.splitOn '\n' = "var _$output = \"\";".toList :: "var _$line = 0;".toList ::
        (body ++ ["return _$output;".toList]) ∧
      (∀ line ∈ body, IsAssignment .standard line) ∧
      runLines .standard ⟨[], 0⟩ body = some ⟨Outline.page options outline, last⟩ := by
  have rendered : ∃ program, (outline.render (target .standard) options).outcome = .ok program :=
    Outline.exists_render rfl static
  obtain ⟨program, success⟩ := rendered
  have keeps : ∀ node ∈ outline.descendants, KeepsLines options node.text :=
    fun node member => keepsLines_of_isStaticLine (static node member)
  have lines := (render_layout Options.standard_unbroken keeps success).2
  have writes := writes_listing static
  obtain ⟨last, ran⟩ := writes.runs ⟨[], 0⟩
  exact ⟨program, _, last, success, lines, writes.shaped, ran⟩

theorem render_computes_page_of_special_characters :
    ∃ program body last,
      (Outline.render (target .standard) ⟨Element.selfClosingTags, true⟩
        [⟨"!!! 5".toList, 1, 1, []⟩,
          ⟨"#a.b.c".toList, 2, 2, [⟨"%p 1 < \"2\"".toList, 3, 3, []⟩,
            ⟨"%br".toList, 4, 4, [⟨"lost".toList, 5, 5, []⟩]⟩,
            ⟨"\\\n\u2028\"".toList, 6, 6, []⟩]⟩]).outcome = .ok program ∧
      program.splitOn '\n' = "var _$output = \"\";".toList :: "var _$line = 0;".toList ::
        (body ++ ["return _$output;".toList]) ∧
      runLines .standard ⟨[], 0⟩ body = some
        ⟨("<!DOCTYPE html><div id=\"a\" class=\"b c\" >" ++ "<p >1 &lt; &quot;2&quot;</p>" ++
          "<br />" ++ "\\\n\u2028\"" ++ "</div>").toList, last⟩ := by
  have static : ∀ node ∈ Outline.descendants [⟨"!!! 5".toList, 1, 1, []⟩,
      ⟨"#a.b.c".toList, 2, 2, [⟨"%p 1 < \"2\"".toList, 3, 3, []⟩,
        ⟨"%br".toList, 4, 4, [⟨"lost".toList, 5, 5, []⟩]⟩,
        ⟨"\\\n\u2028\"".toList, 6, 6, []⟩]⟩],
      Outline.isStaticLine ⟨Element.selfClosingTags, true⟩ node.text = true := by decide +kernel
  obtain ⟨program, body, last, success, lines, _, ran⟩ := render_computes_page static
  exact ⟨program, body, last, success, lines,
    ran.trans (congrArg (fun page => some (Variables.mk page last)) (by decide +kernel))⟩

end Script

end Haml
