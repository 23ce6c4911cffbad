import Haml.Compiler
import Haml.Proofs.Outline.Forest
import Haml.Proofs.Target.Appending

/-! # Rendering in place

A compiler can also work on state. It holds on to one target, whose counts live on from line to line
and from template to template, and every line is written into a fragment of its own, which is given
up where the line fails. Nothing that was counted before a failure is taken back. This module gives
the compiler in this form; whatever the counts are when it starts, its work comes to what the
emissions of the compiler say.
-/

namespace Haml

/-- Work of a compiler on the counts of its target. -/
abbrev Session := EStateM CompileError (Capability → Nat)

/-- Works on a new fragment, which is given up afterwards. -/
def Session.drafting {α : Type} (depth : Nat) (writing : Writing α) : Session α := fun counts =>
  match writing ⟨.empty depth, counts⟩ with
  | .ok value draft => .ok value draft.counts
  | .error error draft => .error error draft.counts

/-- The code of the fragment. -/
def Writing.finish : Writing Text := do
  return (← get).fragment.text

namespace Writer

open Writing

variable (writer : Writer) (options : Options)

/-- The opening tag up to its end. -/
def openingStart (element : Element) : Writing Markup := do
  let start := Markup.literal ('<' :: element.tag ++ [' '])
  match element.attributes with
  | some block =>
    let code ← writer.attributes block element.defaults
    return start.pushCode code
  | none =>
    let identity := (element.id.map (Element.writtenAttribute "id")).getD []
    let classes := (element.classAttribute.map (Element.writtenAttribute "class")).getD []
    return (start.pushLiteral identity).pushLiteral classes

/-- What the element holds on its own line. -/
def body (element : Element) : Writing (Option Markup) :=
  match element.inline with
  | some (.text text) => return some (.literal text.withEntities)
  | some (.expression source) => do
    let code ← writer.evaluation source
    return some (.code code)
  | none => return none

/-- The markup of an element. -/
def tags (element : Element) : Writing Element.Tags := do
  let start ← writer.openingStart element
  let opening := start.pushLiteral (if element.selfClosing then "/>".toList else ['>'])
  let body ← writer.body element
  let closing :=
    if element.selfClosing then none
    else some (.literal ("</".toList ++ element.tag ++ ['>']))
  return { opening, body, closing }

/-- Writes an element line around the code of its children. -/
def element (text : Text) (sourceLine : Nat) (inside : List Text) : Writing Unit := do
  match Element.parse options.selfClosing text with
  | .error fault => throw (.braces sourceLine text fault)
  | .ok element =>
    let tags ← writer.tags element
    writer.content tags.opening
    match tags.closing with
    | none => return
    | some closing =>
      if !inside.isEmpty then
        push (Text.joinLines inside)
      else
        if let some body := tags.body then
          writer.content body
      writer.content closing

/-- Writes a document type line. -/
def doctype (text : Text) : Writing Unit :=
  match Doctype.declaration? text with
  | some declaration => writer.content (.literal declaration)
  | none => throw (.unsupported (.doctype (Doctype.key text)))

/-- Writes the marker of a line, where its kind has one. -/
def marker (text : Text) (number : Nat) : Writing Unit :=
  if (LineKind.of options.doctypes text).isMarked then writer.lineMarker number else return

/-- Writes a line around the code of its children. -/
def line (text : Text) (number sourceLine : Nat) (inside : List Text) : Writing Unit := do
  writer.marker options text number
  match LineKind.of options.doctypes text with
  | .element => writer.element options text sourceLine inside
  | .expression => writer.expression (text.drop 1)
  | .statement => writer.statement text (Text.joinLines inside)
  | .doctype => writer.doctype text
  | .text => writer.content (.literal text)

mutual

/-- Renders a node after the nodes under it, each in a fragment of its own. -/
def node (depth : Nat) : Node → Session Text
  | ⟨text, number, sourceLine, children⟩ => do
    let inside ← forest (depth + 1) children
    Session.drafting depth do
      writer.line options text number sourceLine inside
      finish

/-- Renders the nodes of a forest in order. -/
def forest (depth : Nat) : List Node → Session (List Text)
  | [] => return []
  | first :: later => do
    let code ← node depth first
    let rest ← forest depth later
    return code :: rest

end

/-- Renders an outline. -/
def render (outline : Outline) : Session Text := do
  let blocks ← writer.forest options 0 outline
  Session.drafting 0 (writer.program blocks)

/-- Converts a template. -/
def convert (source : Text) : Session Text := do
  match Outline.parse source with
  | .error error => throw (.indentation error)
  | .ok outline => writer.render options outline

end Writer

/-! ## Work in place beside emissions -/

theorem Target.Kind.counted_nil (kind : Kind) : kind.counted [] = [] := by
  cases kind <;> rfl

namespace Writing

/-- On every draft the work fails with the given error, after the given calls. The lines that it has
added by then do not matter. -/
def Fails {α : Type} (writing : Writing α) (calls : List Capability) (error : CompileError) : Prop :=
  ∀ draft, ∃ lines, writing draft = .error error (draft.add calls lines)

/-- The work does what the emission says: it comes to the same end, counts the calls, and on success
adds lines and returns a value that are known from the result. -/
structure Follows {α β : Type} (kind : Target.Kind) (writing : Writing α) (emission : Emission β)
    (lines : β → List Text) (value : β → α) : Prop where
  success : ∀ result, emission.outcome = .ok result →
    Adds writing (kind.counted emission.calls) (lines result) (value result)
  failure : ∀ error, emission.outcome = .error error →
    Fails writing (kind.counted emission.calls) error

/-- The work returns the result of the emission and adds no line. -/
abbrev Gives {α : Type} (kind : Target.Kind) (writing : Writing α) (emission : Emission α) : Prop :=
  Follows kind writing emission (fun _ => []) id

/-- The work adds the lines of the emission. -/
abbrev Writes (kind : Target.Kind) (writing : Writing Unit) (emission : Emission (List Text)) :
    Prop :=
  Follows kind writing emission id (fun _ => ())

section Fails

variable {α β : Type} {first : Writing α} {next : α → Writing β} {calls more : List Capability}
  {error : CompileError}

theorem fails_throw (error : CompileError) : Fails (throw error : Writing α) [] error := by
  intro draft
  refine ⟨[], ?_⟩
  rw [Draft.add_nil]
  rfl

theorem Fails.bind (failed : Fails first calls error) : Fails (first >>= next) calls error := by
  intro draft
  obtain ⟨lines, ended⟩ := failed draft
  refine ⟨lines, ?_⟩
  change EStateM.bind first next draft = _
  rw [EStateM.bind, ended]

theorem Adds.bind_fails {lines : List Text} {value : α} (done : Adds first calls lines value)
    (failed : Fails (next value) more error) : Fails (first >>= next) (calls ++ more) error := by
  intro draft
  obtain ⟨later, ended⟩ := failed (draft.add calls lines)
  refine ⟨lines ++ later, ?_⟩
  change EStateM.bind first next draft = _
  rw [EStateM.bind, done, ← Draft.add_add]
  exact ended

end Fails

section Rules

variable {α β γ : Type} {kind : Target.Kind}

theorem Adds.follows {writing : Writing α} {calls : List Capability} {result : β}
    {lines : β → List Text} {value : β → α}
    (done : Adds writing (kind.counted calls) (lines result) (value result)) :
    Follows kind writing ⟨calls, .ok result⟩ lines value where
  success other same := by
    cases same
    exact done
  failure error failed := by cases failed

theorem Fails.follows {writing : Writing α} {calls : List Capability} {error : CompileError}
    {lines : β → List Text} {value : β → α} (failed : Fails writing (kind.counted calls) error) :
    Follows kind writing ⟨calls, .error error⟩ lines value where
  success result done := by cases done
  failure reason same := by
    cases same
    exact failed

theorem Adds.follows_pure {writing : Writing α} {result : β} {lines : β → List Text} {value : β → α}
    (done : Adds writing [] (lines result) (value result)) :
    Follows kind writing (pure result) lines value := by
  rw [← kind.counted_nil] at done
  exact done.follows

theorem Fails.follows_fail {writing : Writing α} {error : CompileError} {lines : β → List Text}
    {value : β → α} (failed : Fails writing [] error) :
    Follows kind writing (.fail error) lines value := by
  rw [← kind.counted_nil] at failed
  exact failed.follows

theorem gives_pure (result : α) : Gives kind (pure result) (pure result) :=
  (adds_pure result).follows_pure

theorem writes_nothing : Writes kind (pure ()) (pure []) :=
  (adds_pure ()).follows_pure

theorem writes_push (line : Text) : Writes kind (push line) (pure [line]) :=
  (adds_push line).follows_pure

theorem writes_throw (error : CompileError) : Writes kind (throw error) (.fail error) :=
  (fails_throw error).follows_fail

/-- What comes after a value adds all the lines. -/
theorem Gives.bind {first : Writing α} {next : α → Writing γ} {emission : Emission α}
    {rest : α → Emission β} {lines : β → List Text} {value : β → γ}
    (gives : Gives kind first emission)
    (follows : ∀ given, Follows kind (next given) (rest given) lines value) :
    Follows kind (first >>= next) (emission >>= rest) lines value := by
  rcases emission with ⟨calls, error | given⟩
  · exact (gives.failure error rfl).bind.follows
  · have done := gives.success given rfl
    rw [Emission.ok_bind]
    refine ⟨fun result ended => ?_, fun error failed => ?_⟩
    · rw [kind.counted_append]
      exact done.bind ((follows given).success result ended)
    · rw [kind.counted_append]
      exact done.bind_fails ((follows given).failure error failed)

/-- Lines that are added later come behind those that are there. -/
theorem Writes.andThen {first second : Writing Unit} {emission rest : Emission (List Text)}
    (writes : Writes kind first emission) (follows : Writes kind second rest) :
    Writes kind (do first; second)
      (do let lines ← emission; let later ← rest; return lines ++ later) := by
  rcases emission with ⟨calls, error | lines⟩
  · exact (writes.failure error rfl).bind.follows
  · have done := writes.success lines rfl
    rcases rest with ⟨more, error | later⟩
    · refine Fails.follows ?_
      rw [kind.counted_append]
      exact done.bind_fails (follows.failure error rfl)
    · refine Adds.follows ?_
      simp only [Emission.ok_bind, Emission.pure_def, List.append_nil, kind.counted_append]
      exact done.bind (follows.success later rfl)

end Rules

section Returning

variable {α β : Type} {writing : Writing α} {change : α → β} {calls : List Capability}

/-- What was done before a value is changed can be told from the changed value. -/
theorem Adds.of_returning (injective : Function.Injective change) {lines : List Text} {value : α}
    (done : Adds (do return change (← writing)) calls lines (change value)) :
    Adds writing calls lines value := by
  intro draft
  have ended : EStateM.bind writing (fun given => pure (change given)) draft = _ := done draft
  rw [EStateM.bind] at ended
  split at ended
  · next given after work =>
    obtain ⟨same, left⟩ := EStateM.Result.ok.inj ended
    rw [work, injective same, left]
  · cases ended

theorem Fails.of_returning {error : CompileError}
    (failed : Fails (do return change (← writing)) calls error) : Fails writing calls error := by
  intro draft
  obtain ⟨lines, ended⟩ := failed draft
  refine ⟨lines, ?_⟩
  change EStateM.bind writing (fun given => pure (change given)) draft = _ at ended
  rw [EStateM.bind] at ended
  split at ended
  · cases ended
  · next work =>
    obtain ⟨rfl, rfl⟩ := EStateM.Result.error.inj ended
    exact work

end Returning

end Writing

namespace Target.Kind

open Writing

variable (kind : Kind) (missing : List Capability)

section Requests

/-- A request in place comes to the answer of the target. -/
theorem follows_answer (request : Request) :
    Follows kind ((kind.writer.without missing).answer request)
      (request.answer (kind.target.without missing)) Answer.added Answer.code? := by
  obtain ⟨capability, lacks, answer⟩ | ⟨granted, answer⟩ :=
    request.answer_cases (kind.target.without missing)
  · rw [answer, kind.answer_of_lacks missing lacks]
    exact (fails_throw _).follows_fail
  · rw [answer]
    exact (kind.adds_of_granted missing granted).follows

private theorem writes_of_answer (request : Request) {work : Writing Unit}
    {emission : Emission (List Text)}
    (worked : (kind.writer.without missing).answer request = do work; return none)
    (emitted : request.answer (kind.target.without missing) = .lines <$> emission) :
    Writes kind work emission := by
  have follows := kind.follows_answer missing request
  rw [worked, emitted] at follows
  rcases emission with ⟨calls, error | lines⟩
  · exact (follows.failure error rfl).of_returning.follows
  · have done : Adds work (kind.counted calls) lines () :=
      (follows.success (.lines lines) rfl).of_returning fun _ _ _ => rfl
    exact done.follows

private theorem gives_of_answer (request : Request) {work : Writing Text} {emission : Emission Text}
    (worked : (kind.writer.without missing).answer request = do return some (← work))
    (emitted : request.answer (kind.target.without missing) = .code <$> emission) :
    Gives kind work emission := by
  have follows := kind.follows_answer missing request
  rw [worked, emitted] at follows
  rcases emission with ⟨calls, error | code⟩
  · exact (follows.failure error rfl).of_returning.follows
  · have done : Adds work (kind.counted calls) [] code :=
      (follows.success (.code code) rfl).of_returning fun _ _ => Option.some.inj
    exact done.follows

theorem writes_content (markup : Markup) :
    Writes kind ((kind.writer.without missing).content markup)
      ((kind.target.without missing).content markup) :=
  kind.writes_of_answer missing (.content markup) rfl rfl

end Requests

/-! ## Rendering in place beside rendering -/

section Element

variable (element : Element)

theorem gives_openingStart :
    Gives kind ((kind.writer.without missing).openingStart element)
      (element.openingStart (kind.target.without missing)) := by
  rw [Writer.openingStart, Element.openingStart]
  cases element.attributes with
  | none => exact gives_pure _
  | some block =>
    exact (kind.gives_of_answer missing (.attributes block element.defaults) rfl rfl).bind
      fun code => gives_pure _

theorem gives_body :
    Gives kind ((kind.writer.without missing).body element)
      (element.body (kind.target.without missing)) := by
  rw [Writer.body, Element.body]
  cases element.inline with
  | none => exact gives_pure _
  | some inline =>
    cases inline with
    | text text => exact gives_pure _
    | expression source =>
      exact (kind.gives_of_answer missing (.evaluation source) rfl rfl).bind
        fun code => gives_pure _

theorem gives_tags :
    Gives kind ((kind.writer.without missing).tags element)
      (element.tags (kind.target.without missing)) := by
  rw [Writer.tags, Element.tags]
  refine (kind.gives_openingStart missing element).bind fun start =>
    (kind.gives_body missing element).bind fun body => ?_
  cases element.selfClosing with
  | false => exact gives_pure _
  | true => exact gives_pure _

end Element

variable (options : Options)

theorem writes_element (text : Text) (sourceLine : Nat) (inside : List Text) :
    Writes kind ((kind.writer.without missing).element options text sourceLine inside)
      (Render.element (kind.target.without missing) options text sourceLine inside) := by
  rw [Writer.element, Render.element]
  cases Element.parse options.selfClosing text with
  | error fault => exact writes_throw _
  | ok element =>
    refine (kind.gives_tags missing element).bind fun tags => ?_
    cases tags.closing with
    | none =>
      have whole := (kind.writes_content missing tags.opening).andThen writes_nothing
      simpa using whole
    | some closing =>
      have opened := kind.writes_content missing tags.opening
      have closed := kind.writes_content missing closing
      cases inside with
      | cons first later =>
        have whole := opened.andThen ((writes_push (Text.joinLines (first :: later))).andThen closed)
        simpa [bind_assoc] using whole
      | nil =>
        cases tags.body with
        | some body =>
          have whole := opened.andThen ((kind.writes_content missing body).andThen closed)
          simpa [bind_assoc] using whole
        | none =>
          have whole := opened.andThen (writes_nothing.andThen closed)
          simpa [bind_assoc] using whole

theorem writes_doctype (text : Text) :
    Writes kind ((kind.writer.without missing).doctype text)
      (Render.doctype (kind.target.without missing) text) := by
  rw [Writer.doctype, Render.doctype]
  cases Doctype.declaration? text with
  | none => exact writes_throw _
  | some declaration => exact kind.writes_content missing _

theorem writes_marker (text : Text) (number : Nat) :
    Writes kind ((kind.writer.without missing).marker options text number)
      (Render.marker (kind.target.without missing) options text number) := by
  rw [Writer.marker, Render.marker]
  split_ifs
  · exact kind.writes_of_answer missing (.lineMarker number) rfl rfl
  · exact writes_nothing

/-- A line comes to its marker and its body. -/
theorem writes_line (text : Text) (number sourceLine : Nat) (inside : List Text) :
    Writes kind ((kind.writer.without missing).line options text number sourceLine inside)
      (do
        let marker ← Render.marker (kind.target.without missing) options text number
        let body ← Render.body (kind.target.without missing) options text sourceLine inside
        return marker ++ body) := by
  refine (kind.writes_marker missing options text number).andThen ?_
  rw [Render.body]
  cases LineKind.of options.doctypes text with
  | element => exact kind.writes_element missing options text sourceLine inside
  | expression => exact kind.writes_of_answer missing (.expression _) rfl rfl
  | statement => exact kind.writes_of_answer missing (.statement _ _) rfl rfl
  | doctype => exact kind.writes_doctype missing text
  | text => exact kind.writes_content missing _

end Target.Kind

namespace Session

/-- The counts after more calls. -/
def countsAfter (counts : Capability → Nat) (calls : List Capability) : Capability → Nat :=
  fun capability => counts capability + calls.count capability

/-- The end of an emission, with its calls counted. -/
def ended {α : Type} (kind : Target.Kind) (emission : Emission α) (counts : Capability → Nat) :
    EStateM.Result CompileError (Capability → Nat) α :=
  match emission.outcome with
  | .ok value => .ok value (countsAfter counts (kind.counted emission.calls))
  | .error error => .error error (countsAfter counts (kind.counted emission.calls))

/-- Whatever the counts are, the work comes to the end of the emission. -/
def Gives {α : Type} (kind : Target.Kind) (session : Session α) (emission : Emission α) : Prop :=
  ∀ counts, session counts = ended kind emission counts

section Rules

variable {α β : Type} {kind : Target.Kind}

theorem countsAfter_append (counts : Capability → Nat) (calls more : List Capability) :
    countsAfter counts (calls ++ more) = countsAfter (countsAfter counts calls) more := by
  funext capability
  simp [countsAfter, Nat.add_assoc]

theorem gives_pure (value : α) : Gives kind (pure value) (pure value) := by
  intro counts
  rw [Emission.pure_def, ended, kind.counted_nil]
  rfl

theorem gives_throw (error : CompileError) :
    Gives kind (throw error : Session α) (.fail error) := by
  intro counts
  rw [Emission.fail, ended, kind.counted_nil]
  rfl

theorem Gives.bind {first : Session α} {next : α → Session β} {emission : Emission α}
    {rest : α → Emission β} (gives : Gives kind first emission)
    (follows : ∀ value, Gives kind (next value) (rest value)) :
    Gives kind (first >>= next) (emission >>= rest) := by
  intro counts
  change EStateM.bind first next counts = _
  rw [EStateM.bind, gives]
  rcases emission with ⟨calls, error | value⟩
  · rfl
  · have later := follows value (countsAfter counts (kind.counted calls))
    rw [ended, ← countsAfter_append, ← kind.counted_append] at later
    exact later

theorem drafting_gives (depth : Nat) {writing : Writing α} {emission : Emission α}
    (gives : Writing.Gives kind writing emission) :
    Gives kind (drafting depth writing) emission := by
  intro counts
  rcases emission with ⟨calls, error | value⟩
  · obtain ⟨lines, failed⟩ := gives.failure error rfl ⟨.empty depth, counts⟩
    rw [drafting, failed]
    rfl
  · rw [drafting, gives.success value rfl]
    rfl

/-- A finished fragment holds the lines that were added to it. -/
theorem drafting_writes (depth : Nat) {writing : Writing Unit} {emission : Emission (List Text)}
    (writes : Writing.Writes kind writing emission) :
    Gives kind (drafting depth do writing; Writing.finish) (Text.joinLines <$> emission) := by
  intro counts
  have step : (do writing; Writing.finish : Writing Text) ⟨.empty depth, counts⟩ =
      EStateM.bind writing (fun _ => Writing.finish) ⟨.empty depth, counts⟩ := rfl
  rcases emission with ⟨calls, error | lines⟩
  · obtain ⟨lines, failed⟩ := writes.failure error rfl ⟨.empty depth, counts⟩
    rw [drafting, step, EStateM.bind, failed]
    rfl
  · rw [drafting, step, EStateM.bind, writes.success lines rfl]
    rfl

end Rules

end Session

namespace Target.Kind

open Session

variable (kind : Kind) (missing : List Capability) (options : Options)

/-- The nodes of a forest come to their code, at any depth. -/
theorem gives_forest (outline : Outline) (depth : Nat) :
    Gives kind ((kind.writer.without missing).forest options depth outline)
      (Render.forest (kind.target.without missing) options outline) := by
  -- A node is rendered at the depth it has, so the depth is general for the nodes under it.
  induction outline using Outline.induction generalizing depth with
  | nil =>
    rw [Writer.forest, Render.forest]
    exact gives_pure []
  | cons text number sourceLine children later nested beside =>
    have code (inside : List Text) := drafting_writes depth
      (kind.writes_line missing options text number sourceLine inside)
    have first := (nested (depth + 1)).bind code
    have whole := first.bind fun code => (beside depth).bind fun rest => gives_pure (code :: rest)
    rw [Writer.forest, Writer.node, Render.forest, Render.node]
    simpa using whole

theorem gives_render (outline : Outline) :
    Gives kind ((kind.writer.without missing).render options outline)
      (outline.render (kind.target.without missing) options) :=
  (kind.gives_forest missing options outline 0).bind fun blocks =>
    drafting_gives 0 (kind.gives_of_answer missing (.program blocks) rfl rfl)

/-- Converting in place comes to what compiling says. -/
theorem gives_convert (source : Text) :
    Gives kind ((kind.writer.without missing).convert options source)
      (compile (kind.target.without missing) options source) := by
  rw [Writer.convert, compile]
  cases Outline.parse source with
  | error error => exact gives_throw _
  | ok outline => exact kind.gives_render missing options outline

end Target.Kind

end Haml
