import Haml.Proofs.Element.Fault
import Haml.Proofs.Outline.Rows
import Haml.Proofs.Render.Outcome
import Haml.Target.Script

/-! # Why a template is refused

A line is refused for its own sake, whatever is nested under it: for the braces of an element, or
for a document type without a declaration. Lines are rendered after those nested under them, also
where the code of these is dropped, so the error of a template is that of the first refused line in
this order, not in that of the template.
-/

namespace Haml

section Errors

variable {ε α β : Type}

/-- The error that a computation ends with. -/
def errorOf? : Except ε α → Option ε
  | .ok _ => none
  | .error error => some error

theorem errorOf?_eq_some_iff {result : Except ε α} {error : ε} :
    errorOf? result = some error ↔ result = .error error := by
  cases result <;> simp [errorOf?]

/-- Where the error of the second part does not depend on the value of the first, it is what is left
to fail if the first part succeeds. -/
theorem errorOf?_bind {first : Except ε α} {next : α → Except ε β} {error : Option ε}
    (always : ∀ value, errorOf? (next value) = error) :
    errorOf? (first >>= next) = (errorOf? first).or error := by
  cases first with
  | error failure => rfl
  | ok value => exact always value

end Errors

namespace Render

/-- Why a line is refused. -/
inductive Refused (options : Options) (line : Node) : CompileError → Prop
  | braces {fault : Element.BraceFault} : LineKind.of options.doctypes line.text = .element →
      Element.parse options.selfClosing line.text = .error fault →
      Refused options line (.braces line.sourceLine line.text fault)
  | doctype : options.doctypes = true → LineKind.of options.doctypes line.text = .doctype →
      (∀ known ∈ Doctype.declarations, known.1 ≠ Doctype.key line.text) →
      Refused options line (.unsupported (.doctype (Doctype.key line.text)))

/-- The error of a line that is refused. -/
def refusal? (options : Options) (line : Node) : Option CompileError :=
  match LineKind.of options.doctypes line.text with
  | .element =>
    (errorOf? (Element.parse options.selfClosing line.text)).map (.braces line.sourceLine line.text)
  | .doctype =>
    if (Doctype.declaration? line.text).isSome then none
    else some (.unsupported (.doctype (Doctype.key line.text)))
  | .expression | .statement | .text => none

private theorem doctypes_of_kind {doctypes : Bool} {text : Text}
    (kind : LineKind.of doctypes text = .doctype) : doctypes = true := by
  cases doctypes with
  | true => rfl
  | false => fun_cases LineKind.of false text <;> simp_all [LineKind.of]

theorem declaration?_eq_none_iff (text : Text) :
    (Doctype.declaration? text).isSome = false ↔
      ∀ known ∈ Doctype.declarations, known.1 ≠ Doctype.key text := by
  rw [Option.isSome_eq_false_iff, Option.isNone_iff_eq_none, Doctype.declaration?,
    List.lookup_eq_none_iff]
  refine forall₂_congr fun known _ => ?_
  rw [bne_iff_ne, ne_comm]

theorem refusal?_eq_some_iff (options : Options) (line : Node) (error : CompileError) :
    refusal? options line = some error ↔ Refused options line error := by
  constructor
  · intro refused
    rw [refusal?] at refused
    cases kind : LineKind.of options.doctypes line.text with
    | element =>
      simp only [kind] at refused
      obtain ⟨fault, failed, rfl⟩ := Option.map_eq_some_iff.mp refused
      exact .braces kind (errorOf?_eq_some_iff.mp failed)
    | doctype =>
      simp only [kind] at refused
      split at refused
      · cases refused
      · next unknown =>
        cases refused
        exact .doctype (doctypes_of_kind kind) kind
          ((declaration?_eq_none_iff _).mp (by simpa using unknown))
    | expression => simp [kind] at refused
    | statement => simp [kind] at refused
    | text => simp [kind] at refused
  · intro refused
    cases refused with
    | braces kind failed => simp [refusal?, kind, failed, errorOf?]
    | doctype _ kind unknown =>
      simp [refusal?, kind, (declaration?_eq_none_iff line.text).mpr unknown]

theorem refusal?_eq_none_iff (options : Options) (line : Node) :
    refusal? options line = none ↔ ∀ error, ¬ Refused options line error := by
  simp only [Option.eq_none_iff_forall_ne_some, ne_eq, refusal?_eq_some_iff]

/-- The first refusal among lines is that of a line that comes after lines which are not refused. -/
theorem findSome?_refusal?_eq_some_iff (options : Options) (lines : List Node)
    (error : CompileError) :
    lines.findSome? (refusal? options) = some error ↔
      ∃ before line after, lines = before ++ line :: after ∧
        (∀ other ∈ before, ∀ fault, ¬ Refused options other fault) ∧
        Refused options line error := by
  rw [List.findSome?_eq_some_iff]
  simp only [refusal?_eq_some_iff, refusal?_eq_none_iff]
  constructor
  · rintro ⟨before, line, after, split, refused, sound⟩
    exact ⟨before, line, after, split, sound, refused⟩
  · rintro ⟨before, line, after, split, sound, refused⟩
    exact ⟨before, line, after, split, refused, sound⟩

/-- Some line is the first one that is refused exactly if some line is refused at all. -/
theorem exists_refusal_iff (options : Options) (outline : Outline) :
    (∃ error, outline.postorder.findSome? (refusal? options) = some error) ↔
      ∃ line ∈ outline.descendants, ∃ error, Refused options line error := by
  rw [← Option.isSome_iff_exists, List.findSome?_isSome_iff]
  simp only [Option.isSome_iff_exists, refusal?_eq_some_iff, outline.postorder_perm.mem_iff]

section Full

variable {target : Target} (full : target.missing = [])

theorem errorOf?_bodyLines (dialect : Dialect) (options : Options) (line : Node)
    (inside : List Text) :
    errorOf? (dialect.bodyLines options line.text line.sourceLine inside) =
      refusal? options line := by
  rw [Dialect.bodyLines, refusal?]
  cases LineKind.of options.doctypes line.text with
  | element => cases Element.parse options.selfClosing line.text <;> rfl
  | doctype => cases Doctype.declaration? line.text <;> rfl
  | expression => rfl
  | statement => rfl
  | text => rfl

include full

/-- A node fails for a line nested under it, or else for its own. -/
theorem errorOf?_node (options : Options) (line : Node) :
    errorOf? (node target options line).outcome =
      (errorOf? (forest target options line.children).outcome).or (refusal? options line) := by
  rcases line with ⟨text, number, sourceLine, children⟩
  rw [outcome_node full]
  apply errorOf?_bind
  intro inside
  rw [← errorOf?_bodyLines target.dialect options ⟨text, number, sourceLine, children⟩ inside]
  cases target.dialect.bodyLines options text sourceLine inside <;> rfl

/-- A forest fails for the first refused line, nested lines coming before those that they are nested
under. -/
theorem errorOf?_forest (options : Options) (outline : Outline) :
    errorOf? (forest target options outline).outcome =
      outline.postorder.findSome? (refusal? options) := by
  induction outline using Outline.induction with
  | nil =>
    rw [forest]
    rfl
  | cons text number sourceLine children later nested beside =>
    have rest (code : Text) : errorOf? (do
        let codes ← (forest target options later).outcome
        return code :: codes) = (Outline.postorder later).findSome? (refusal? options) := by
      rw [← beside]
      cases (forest target options later).outcome <;> rfl
    rw [outcome_forest_cons, errorOf?_bind rest, errorOf?_node full, nested,
      Outline.postorder_cons, List.findSome?_append, List.findSome?_cons, Option.or_assoc]
    cases refusal? options ⟨text, number, sourceLine, children⟩ <;> rfl

end Full

end Render

theorem Outline.errorOf?_render {target : Target} (full : target.missing = []) (options : Options)
    (outline : Outline) :
    errorOf? (outline.render target options).outcome =
      outline.postorder.findSome? (Render.refusal? options) := by
  rw [outcome_render full, ← Render.errorOf?_forest full]
  cases (Render.forest target options outline).outcome <;> rfl

/-- A template is refused for its indentation, or else for the first refused line of its outline. -/
theorem errorOf?_compile {target : Target} (full : target.missing = []) (options : Options)
    (source : Text) :
    errorOf? (compile target options source).outcome =
      match Outline.parse source with
      | .error error => some (.indentation error)
      | .ok outline => outline.postorder.findSome? (Render.refusal? options) := by
  rw [compile, Emission.outcome_bind, Emission.outcome_ofExcept]
  cases Outline.parse source with
  | error error => rfl
  | ok outline =>
    rw [except_mapError_ok, except_ok_bind]
    exact outline.errorOf?_render full options

namespace Script

/-- Compiling for the script target fails exactly on faulty templates and reports the right fault.
The indentation comes first. Where it is sound, the template is refused exactly if some line of its
outline is, however deep and under whatever line, and the error is that of the first refused line in
the order in which nested lines come first. An error about braces names the physical line that holds
the text, and a brace that closes nothing stands at the byte that is named. -/
theorem compile_refusal (script : Options) (options : Haml.Options) (source : Text) :
    (∀ error, (compile (target script) options source).outcome = .error (.indentation error) ↔
      Outline.parse source = .error error) ∧
    (∀ outline, Outline.parse source = .ok outline →
      ((∃ error, (compile (target script) options source).outcome = .error error) ↔
        ∃ node ∈ outline.descendants, ∃ error, Render.Refused options node error) ∧
      ∀ error, (compile (target script) options source).outcome = .error error ↔
        ∃ before node after, outline.postorder = before ++ node :: after ∧
          (∀ other ∈ before, ∀ fault, ¬ Render.Refused options other fault) ∧
          Render.Refused options node error) ∧
    ∀ line text fault,
      (compile (target script) options source).outcome = .error (.braces line text fault) →
        0 < line ∧ (∃ physical, source.lines[line - 1]? = some physical ∧
          Indentation.content physical = text) ∧
        ∀ offset, fault = .unexpectedClose offset → text.utf8[offset]? = some '}'.toUInt8 := by
  have outcome (error : CompileError) :
      (compile (target script) options source).outcome = .error error ↔
        (match Outline.parse source with
          | .error error => some (.indentation error)
          | .ok outline => outline.postorder.findSome? (Render.refusal? options)) = some error := by
    rw [← errorOf?_eq_some_iff, errorOf?_compile rfl]
  simp only [outcome]
  cases parsed : Outline.parse source with
  | error failure => simp
  | ok outline =>
    simp only [Render.findSome?_refusal?_eq_some_iff, reduceCtorEq, iff_false, Except.ok.injEq]
    refine ⟨?_, ?_, ?_⟩
    · rintro error ⟨before, node, after, _, _, refused⟩
      cases refused
    · rintro _ rfl
      refine ⟨?_, fun error => Iff.rfl⟩
      simp only [← Render.findSome?_refusal?_eq_some_iff]
      exact Render.exists_refusal_iff options outline
    · rintro line text fault ⟨before, node, after, split, _, refused⟩
      cases refused with
      | braces kind unbalanced =>
        have member : node ∈ outline.descendants :=
          outline.postorder_perm.mem_iff.mp (by simp [split])
        obtain ⟨positive, physical⟩ := Outline.exists_physical_line parsed member
        refine ⟨positive, physical, ?_⟩
        rintro offset rfl
        exact Element.utf8_of_unexpectedClose unbalanced

/-- The brace is reported although its line is nested under text, and before the braces of the line
that encloses both, which is the first line of the template. -/
theorem compile_refusal_of_dropped_line :
    (compile (target .standard) ⟨[], true⟩
        "%p\x7b\n\n  text\n    .é%x\x7d\n  !!! html6\n".toList).outcome =
      .error (.braces 4 ".é%x\x7d".toList (.unexpectedClose 5)) ∧
    (∃ physical,
      (Text.lines "%p\x7b\n\n  text\n    .é%x\x7d\n  !!! html6\n".toList)[3]? = some physical ∧
        Indentation.content physical = ".é%x\x7d".toList) ∧
    (Text.utf8 ".é%x\x7d".toList)[5]? = some '}'.toUInt8 := by
  have parsed : Outline.parse "%p\x7b\n\n  text\n    .é%x\x7d\n  !!! html6\n".toList =
      .ok [⟨"%p\x7b".toList, 1, 1, [⟨"text".toList, 2, 3, [⟨".é%x\x7d".toList, 3, 4, []⟩]⟩,
        ⟨"!!! html6".toList, 4, 5, []⟩]⟩] := by cbv
  have refused : Render.Refused ⟨[], true⟩ ⟨".é%x\x7d".toList, 3, 4, []⟩
      (.braces 4 ".é%x\x7d".toList (.unexpectedClose 5)) :=
    .braces (by decide) (by decide +kernel)
  obtain ⟨_, first, located⟩ := compile_refusal .standard ⟨[], true⟩
    "%p\x7b\n\n  text\n    .é%x\x7d\n  !!! html6\n".toList
  have failed := ((first _ parsed).2 _).mpr ⟨[], _, _, rfl, by simp, refused⟩
  obtain ⟨_, physical, brace⟩ := located _ _ _ failed
  exact ⟨failed, physical, brace 5 rfl⟩

end Script

end Haml
