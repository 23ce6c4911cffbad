import Haml.Proofs.Element.Division
import Haml.Proofs.Render.Calls
import Haml.Target.Script

/-! # Options that a template does not use

An option matters only where a line makes use of it. The list of self-closing tags is looked up for
the tag of an element line and for nothing else, and whether document types are enabled is seen in
lines of exclamation marks only. Options that give the same answers there are one and the same to
the template: all requests, all errors and all code, also what is dropped, are the same.
-/

namespace Haml

/-- Only a line of three exclamation marks may be another kind of line. -/
theorem LineKind.of_eq_of {first second : Bool} {text : Text}
    (same : first = second ∨ ¬ "!!!".toList <+: text) :
    LineKind.of first text = LineKind.of second text := by
  rcases same with rfl | other
  · rfl
  · unfold LineKind.of
    split
    case h_4 rest => exact absurd (List.prefix_append ['!', '!', '!'] rest) other
    all_goals simp_all

namespace Element

/-- Two lists of self-closing tags that agree on the tag of a line give the same element. -/
theorem parse_eq_of_tag {first second : List Text} {line : Text}
    (same : ∀ element, parse first line = .ok element →
      (element.tag ∈ first ↔ element.tag ∈ second)) :
    parse first line = parse second line := by
  rw [parse_eq] at same
  rw [parse_eq, parse_eq]
  cases tail : readTail (Text.byteSize line - Text.byteSize (readHead line).2) 0 [] none
      (readHead line).2 with
  | error fault => rfl
  | ok parts =>
    rw [tail] at same
    have closes : first.contains ((names .tag (readHead line).1).getLast?.getD "div".toList) =
        second.contains ((names .tag (readHead line).1).getLast?.getD "div".toList) := by
      rw [Bool.eq_iff_iff, List.contains_iff_mem, List.contains_iff_mem]
      exact same _ rfl
    dsimp only [Except.map]
    rw [closes]

end Element

namespace Options

/-- What a line makes use of is the same in both options. -/
structure AgreeOn (first second : Options) (line : Node) : Prop where
  tag : ∀ element, line.element? first = some element →
    (element.tag ∈ first.selfClosing ↔ element.tag ∈ second.selfClosing)
  doctypes : first.doctypes = second.doctypes ∨ ¬ "!!!".toList <+: line.text

namespace AgreeOn

variable {first second : Options} {line : Node} (agree : AgreeOn first second line)
include agree

theorem kind_eq : LineKind.of first.doctypes line.text = LineKind.of second.doctypes line.text :=
  LineKind.of_eq_of agree.doctypes

theorem parse_eq (kind : LineKind.of first.doctypes line.text = .element) :
    Element.parse first.selfClosing line.text = Element.parse second.selfClosing line.text := by
  refine Element.parse_eq_of_tag fun element read => agree.tag element ?_
  simp [Node.element?, Node.kind, kind, read, Except.toOption]

private theorem marker_eq (target : Target) (number : Nat) :
    Render.marker target first line.text number = Render.marker target second line.text number := by
  rw [Render.marker, Render.marker, agree.kind_eq]

private theorem body_eq (target : Target) (sourceLine : Nat) (inside : List Text) :
    Render.body target first line.text sourceLine inside =
      Render.body target second line.text sourceLine inside := by
  rw [Render.body, Render.body, ← agree.kind_eq]
  cases kind : LineKind.of first.doctypes line.text with
  | element =>
    dsimp only
    rw [Render.element, Render.element, agree.parse_eq kind]
  | expression => rfl
  | statement => rfl
  | doctype => rfl
  | text => rfl

end AgreeOn

end Options

/-- Options that agree on every line of an outline render it alike. -/
theorem Render.forest_eq_of_agree {first second : Options} {outline : Outline} (target : Target)
    (agree : ∀ line ∈ outline.descendants, first.AgreeOn second line) :
    forest target first outline = forest target second outline := by
  induction outline using Outline.induction with
  | nil => rw [forest, forest]
  | cons text number sourceLine children later nested beside =>
    simp only [Outline.descendants_cons, List.forall_mem_cons, List.forall_mem_append] at agree
    obtain ⟨line, below, after⟩ := agree
    have own : node target first ⟨text, number, sourceLine, children⟩ =
        node target second ⟨text, number, sourceLine, children⟩ := by
      have marker := line.marker_eq target number
      have body := line.body_eq target sourceLine
      dsimp only at marker body
      simp only [node, nested below, marker, body]
    rw [forest, forest, own, beside after]

theorem Outline.render_eq_of_agree {first second : Options} {outline : Outline} (target : Target)
    (agree : ∀ line ∈ outline.descendants, first.AgreeOn second line) :
    outline.render target first = outline.render target second := by
  rw [render, render, Render.forest_eq_of_agree target agree]

/-- Options matter only through what the template makes use of. For every target, with whatever it
lacks, an outline is rendered alike under two options, to the same program or the same error and
with the same requests, if every element line whose braces match has its tag in both lists of
self-closing tags or in neither, and document types are enabled in both or in neither, unless no
line starts with three exclamation marks. So neither the order nor the repetition of self-closing
tags makes a difference, nor do further ones that no element line has. -/
theorem Outline.render_by_used_options (target : Target) (outline : Outline) :
    (∀ first second : Options,
      (∀ line ∈ outline.descendants, ∀ element, line.element? first = some element →
        (element.tag ∈ first.selfClosing ↔ element.tag ∈ second.selfClosing)) →
      (first.doctypes = second.doctypes ∨
        ∀ line ∈ outline.descendants, ¬ "!!!".toList <+: line.text) →
      outline.render target first = outline.render target second) ∧
    ∀ (options : Options) (others unused : List Text),
      (∀ tag, tag ∈ others ↔ tag ∈ options.selfClosing ∨ tag ∈ unused) →
      (∀ line ∈ outline.descendants, ∀ element, line.element? options = some element →
        element.tag ∉ unused) →
      outline.render target { options with selfClosing := others } =
        outline.render target options := by
  refine ⟨fun first second tags doctypes => ?_, fun options others unused members absent => ?_⟩
  · apply render_eq_of_agree
    intro line member
    exact ⟨tags line member, doctypes.imp_right fun absent => absent line member⟩
  · symm
    apply render_eq_of_agree
    intro line member
    refine ⟨fun element read => ?_, .inl rfl⟩
    have unread := absent line member element read
    rw [members]
    exact ⟨.inl, fun listed => listed.resolve_right unread⟩

/-- Tags in another order, repeated, missing and added, and document types enabled in vain. -/
theorem Outline.render_by_used_options_of_list :
    let outline : Outline :=
      [⟨"%ul".toList, 1, 1, [⟨"%br".toList, 2, 2, [⟨"= lost".toList, 3, 3, []⟩]⟩,
        ⟨"!! x".toList, 4, 4, []⟩]⟩]
    let tags (names : List String) := names.map String.toList
    outline.render (Transcript.target.without [.expression]) ⟨tags ["br", "hr"], true⟩ =
        outline.render (Transcript.target.without [.expression]) ⟨tags ["p", "br"], false⟩ ∧
      outline.render (Script.target .standard) ⟨tags ["wbr", "hr", "br", "hr"], false⟩ =
        outline.render (Script.target .standard) ⟨tags ["br", "hr"], false⟩ := by
  intro outline tags
  have same : ∀ line ∈ outline.descendants, (line.element? ⟨tags ["br", "hr"], true⟩).all
      (fun element => decide (element.tag ∈ tags ["br", "hr"] ↔ element.tag ∈ tags ["p", "br"])) =
        true := by decide +kernel
  have plain : ∀ line ∈ outline.descendants, ¬ "!!!".toList <+: line.text := by decide +kernel
  have unused : ∀ line ∈ outline.descendants, (line.element? ⟨tags ["br", "hr"], false⟩).all
      (fun element => decide (element.tag ∉ tags ["wbr"])) = true := by decide +kernel
  obtain ⟨agree, _⟩ := render_by_used_options (Transcript.target.without [.expression]) outline
  obtain ⟨_, further⟩ := render_by_used_options (Script.target .standard) outline
  refine ⟨agree _ _ (fun line member element read => ?_) (.inr plain),
    further ⟨tags ["br", "hr"], false⟩ _ (tags ["wbr"]) (fun tag => ?_)
      fun line member element read => ?_⟩
  · exact of_decide_eq_true ((Option.all_eq_true _ _).mp (same line member) element read)
  · simp only [tags, List.map_cons, List.map_nil, List.mem_cons, List.not_mem_nil, or_false]
    tauto
  · exact of_decide_eq_true ((Option.all_eq_true _ _).mp (unused line member) element read)

end Haml
