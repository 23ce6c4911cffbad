import Haml.Target.Fragment
import Haml.Target.Script
import Haml.Target.Transcript
import Mathlib.Logic.Function.Basic
import Mathlib.Tactic.SplitIfs

/-! # Writing in place

A target can also meet a request on the spot: it adds line after line to the fragment, in loops and
behind conditions, counts what it is asked for, and may fail at any point. A failure undoes nothing.
Each target is given here in this form. Its work on a request comes to the lines, the calls and the
code that its dialect names, whatever the draft holds, or else it fails before the draft is touched.
-/

namespace Haml

/-- What a target works on: a fragment, and how often each capability was asked for. -/
structure Draft where
  fragment : Fragment
  counts : Capability → Nat

/-- Work on a draft. What is done before a failure stays done. -/
abbrev Writing := EStateM CompileError Draft

namespace Writing

/-- Adds one line. -/
def push (line : Text) : Writing Unit :=
  modify fun draft =>
    { draft with fragment := { draft.fragment with lines := draft.fragment.lines ++ [line] } }

/-- Counts a request. -/
def record (capability : Capability) : Writing Unit :=
  modify fun draft =>
    { draft with counts := Function.update draft.counts capability (draft.counts capability + 1) }

/-- Fails for want of a capability. -/
def refuse {α : Type} (capability : Capability) : Writing α :=
  throw (.unsupported (.capability capability))

@[simp]
theorem map_refuse {α β : Type} (change : α → β) (capability : Capability) :
    change <$> (refuse capability : Writing α) = refuse capability :=
  rfl

/-- Does the work, unless the capability is missing. -/
def unlessMissing {α : Type} (missing : List Capability) (capability : Capability)
    (writing : Writing α) : Writing α :=
  if missing.contains capability then refuse capability else writing

end Writing

/-- A target that works on a draft in place. -/
structure Writer where
  program : List Text → Writing Text
  content : Markup → Writing Unit
  expression : Text → Writing Unit
  statement : Text → Text → Writing Unit
  lineMarker : Nat → Writing Unit
  attributes : Text → AttributeDefaults → Writing Text
  evaluation : Text → Writing Text

namespace Writer

open Writing

/-- The writer that can write nothing. -/
def bare : Writer where
  program _ := refuse .program
  content _ := refuse .content
  expression _ := refuse .expression
  statement _ _ := refuse .statement
  lineMarker _ := refuse .lineMarker
  attributes _ _ := refuse .attributes
  evaluation _ := refuse .evaluation

/-- The writer with capabilities taken away. -/
def without (writer : Writer) (missing : List Capability) : Writer where
  program blocks := unlessMissing missing .program (writer.program blocks)
  content markup := unlessMissing missing .content (writer.content markup)
  expression source := unlessMissing missing .expression (writer.expression source)
  statement line body := unlessMissing missing .statement (writer.statement line body)
  lineMarker number := unlessMissing missing .lineMarker (writer.lineMarker number)
  attributes block defaults := unlessMissing missing .attributes (writer.attributes block defaults)
  evaluation source := unlessMissing missing .evaluation (writer.evaluation source)

/-- Meets a request, and returns the code that the fragment does not take in. -/
def answer (writer : Writer) : Request → Writing (Option Text)
  | .push line => do push line; return none
  | .content markup => do writer.content markup; return none
  | .expression source => do writer.expression source; return none
  | .statement line body => do writer.statement line body; return none
  | .lineMarker number => do writer.lineMarker number; return none
  | .attributes block defaults => do return some (← writer.attributes block defaults)
  | .evaluation source => do return some (← writer.evaluation source)
  | .program blocks => do return some (← writer.program blocks)

/-- What came of a request, and the draft after it. -/
structure Step where
  outcome : Except CompileError (Option Text)
  draft : Draft

/-- Meets one request. -/
def step (writer : Writer) (draft : Draft) (request : Request) : Step :=
  match writer.answer request draft with
  | .ok code next => ⟨.ok code, next⟩
  | .error error next => ⟨.error error, next⟩

/-- Meets requests in order; one that fails does not keep the writer from the next. -/
def run (writer : Writer) (draft : Draft) : List Request → List Step
  | [] => []
  | request :: later =>
    let first := writer.step draft request
    first :: run writer first.draft later

end Writer

namespace Script

open Writing

/-- Shows an expression; for a blank one nothing is written. -/
def writeExpression (options : Options) (source : Text) : Writing Unit := do
  let code := Text.trim (source.dropOne '=')
  if code.isEmpty then
    return
  push (append options ('(' :: code ++ [')']))

/-- Writes a statement on its own, or its head, the lines of its body and a closing brace. -/
def writeStatement (options : Options) (line body : Text) : Writing Unit := do
  let head := Text.trim (line.dropOne '-')
  if body.isEmpty then
    push head
    return
  push (head ++ [' ', '{'])
  for inner in body.lines do
    if inner.isEmpty then
      push []
    else
      push (options.indent ++ inner)
  push ['}']

/-- The script target in place. It counts nothing. -/
def writer (options : Options) : Writer where
  program blocks := return program options blocks
  content markup := push (append options (sum markup))
  expression := writeExpression options
  statement := writeStatement options
  lineMarker number := push (lineMarker options number)
  attributes block defaults := return attributes options block defaults
  evaluation source := return evaluation source

end Script

namespace Transcript

open Writing

/-- Writes the head of a statement, its body where that is not empty, and its end. -/
def writeStatement (line body : Text) : Writing Unit := do
  record .statement
  push ("[stmt ".toList ++ line ++ [']'])
  if !body.isEmpty then
    push body
  push "[end]".toList

/-- The transcript target in place. It counts every request before it meets it. -/
def writer : Writer where
  program blocks := do
    record .program
    return Text.joinLines blocks
  content markup := do
    record .content
    push markup.plain
  expression source := do
    record .expression
    push ("[expr ".toList ++ Text.trim source ++ [']'])
  statement := writeStatement
  lineMarker number := do
    record .lineMarker
    push ("[line ".toList ++ Text.ofNat number ++ [']'])
  attributes block defaults := do
    record .attributes
    return "attrs(".toList ++ block ++ ", ".toList ++ Text.object (defaultFields defaults) ++ [')']
  evaluation source := do
    record .evaluation
    return "eval(".toList ++ source ++ [')']

end Transcript

/-! ## What one request comes to -/

/-- The lines that the fragment takes in. -/
def Answer.added : Answer → List Text
  | .lines new => new
  | .code _ => []

/-- The code that it does not take in. -/
def Answer.code? : Answer → Option Text
  | .lines _ => none
  | .code source => some source

namespace Request

/-- The capability that a request needs; a given line needs none. -/
def capability? : Request → Option Capability
  | .push _ => none
  | .content _ => some .content
  | .expression _ => some .expression
  | .statement _ _ => some .statement
  | .lineMarker _ => some .lineMarker
  | .attributes _ _ => some .attributes
  | .evaluation _ => some .evaluation
  | .program _ => some .program

/-- The answer where nothing is missing. -/
def reply (dialect : Dialect) : Request → Answer
  | .push line => .lines [line]
  | .content markup => .lines (dialect.content markup)
  | .expression source => .lines (dialect.expression source)
  | .statement line body => .lines (dialect.statement line body)
  | .lineMarker number => .lines (dialect.lineMarker number)
  | .attributes block defaults => .code (dialect.attributes block defaults)
  | .evaluation source => .code (dialect.evaluation source)
  | .program blocks => .code (dialect.program blocks)

/-- The request needs a capability that is missing. -/
def Lacks (missing : List Capability) (request : Request) (capability : Capability) : Prop :=
  request.capability? = some capability ∧ capability ∈ missing

/-- The request needs nothing that is missing. -/
def Granted (missing : List Capability) (request : Request) : Prop :=
  ∀ capability, request.capability? = some capability → capability ∉ missing

theorem lacks_or_granted (missing : List Capability) (request : Request) :
    (∃ capability, request.Lacks missing capability) ∨ request.Granted missing := by
  by_cases lacks : ∃ capability, request.Lacks missing capability
  · exact .inl lacks
  · exact .inr fun capability needs absent => lacks ⟨capability, needs, absent⟩

section Answer

variable {target : Target} {request : Request}

theorem answer_of_lacks {capability : Capability}
    (lacks : request.Lacks target.missing capability) :
    request.answer target = .fail (.unsupported (.capability capability)) := by
  obtain ⟨needs, missing⟩ := lacks
  cases request <;> cases needs <;>
    simp [answer, Target.content, Target.expression, Target.statement, Target.lineMarker,
      Target.attributes, Target.evaluation, Target.program, Target.answer, missing, Emission.fail]

theorem answer_of_granted (granted : request.Granted target.missing) :
    request.answer target =
      ⟨request.capability?.toList, .ok (request.reply target.dialect)⟩ := by
  cases request <;>
    simp_all [Granted, capability?, answer, reply, Target.content, Target.expression,
      Target.statement, Target.lineMarker, Target.attributes, Target.evaluation, Target.program,
      Target.answer, Emission.pure_def]

/-- A request is met in full, or else it fails and nothing is asked for. -/
theorem answer_cases (target : Target) (request : Request) :
    (∃ capability, request.Lacks target.missing capability ∧
      request.answer target = ⟨[], .error (.unsupported (.capability capability))⟩) ∨
    request.Granted target.missing ∧
      request.answer target =
        ⟨request.capability?.toList, .ok (request.reply target.dialect)⟩ := by
  obtain ⟨capability, lacks⟩ | granted := lacks_or_granted target.missing request
  · exact .inl ⟨capability, lacks, answer_of_lacks lacks⟩
  · exact .inr ⟨granted, answer_of_granted granted⟩

end Answer

end Request

/-- The draft with calls counted and lines added. -/
def Draft.add (draft : Draft) (calls : List Capability) (lines : List Text) : Draft where
  fragment := { draft.fragment with lines := draft.fragment.lines ++ lines }
  counts capability := draft.counts capability + calls.count capability

@[simp]
theorem Draft.add_nil (draft : Draft) : draft.add [] [] = draft := by
  simp [add]

theorem Draft.add_add (draft : Draft) (calls more : List Capability) (lines later : List Text) :
    (draft.add calls lines).add more later = draft.add (calls ++ more) (lines ++ later) := by
  simp [add, Nat.add_assoc]

namespace Writing

/-- On every draft the work makes the given calls, adds the given lines and returns the given
value. -/
def Adds {α : Type} (writing : Writing α) (calls : List Capability) (lines : List Text)
    (value : α) : Prop :=
  ∀ draft, writing draft = .ok value (draft.add calls lines)

theorem adds_pure {α : Type} (value : α) : Adds (pure value) [] [] value := by
  intro draft
  rw [Draft.add_nil]
  rfl

theorem adds_push (line : Text) : Adds (push line) [] [line] () := by
  intro draft
  rfl

theorem adds_record (capability : Capability) : Adds (record capability) [capability] [] () := by
  intro draft
  have counts : Function.update draft.counts capability (draft.counts capability + 1) =
      fun other => draft.counts other + [capability].count other := by
    funext other
    by_cases same : other = capability
    · subst same
      simp
    · simp [same, Ne.symm same]
  rw [Draft.add, ← counts, List.append_nil]
  rfl

theorem Adds.bind {α β : Type} {first : Writing α} {next : α → Writing β}
    {calls more : List Capability} {lines later : List Text} {value : α} {result : β}
    (done : Adds first calls lines value) (rest : Adds (next value) more later result) :
    Adds (first >>= next) (calls ++ more) (lines ++ later) result := by
  intro draft
  have step : (first >>= next) draft = next value (draft.add calls lines) := by
    change EStateM.bind first next draft = _
    rw [EStateM.bind, done]
  rw [step, rest, Draft.add_add]

theorem Adds.returning {α β : Type} {writing : Writing α} {calls : List Capability}
    {lines : List Text} {value : α} (done : Adds writing calls lines value) (change : α → β) :
    Adds (do return change (← writing)) calls lines (change value) := by
  have whole : Adds (do return change (← writing)) (calls ++ []) (lines ++ []) (change value) :=
    done.bind (adds_pure (change value))
  rwa [List.append_nil, List.append_nil] at whole

/-- A loop whose rounds add one line each adds these lines in order. -/
theorem adds_forIn {α : Type} {line : α → Text}
    {round : α → PUnit → Writing (ForInStep PUnit)}
    (each : ∀ item, Adds (round item ⟨⟩) [] [line item] (.yield ⟨⟩)) (items : List α) :
    Adds (forIn items PUnit.unit round) [] (items.map line) ⟨⟩ := by
  induction items with
  | nil => exact adds_pure _
  | cons item later ih =>
    rw [List.forIn_cons]
    exact (each item).bind ih

end Writing

/-! ## The targets in place -/

open Writing

namespace Script

theorem adds_writeExpression (options : Options) (source : Text) :
    Adds (writeExpression options source) [] (expression options source) () := by
  rw [writeExpression, expression]
  split_ifs
  · exact adds_pure ()
  · exact adds_push _

theorem adds_writeStatement (options : Options) (line body : Text) :
    Adds (writeStatement options line body) [] (statement options line body) () := by
  rw [writeStatement, statement]
  split_ifs
  · exact (adds_push _).bind (adds_pure ())
  · refine (adds_push _).bind ((adds_forIn ?_ body.lines).bind (adds_push _))
    intro inner
    rw [indented]
    split_ifs
    · exact (adds_push _).bind (adds_pure _)
    · exact (adds_push _).bind (adds_pure _)

/-- The script target writes what its dialect names, and counts nothing. -/
theorem adds_answer (options : Options) (request : Request) :
    Adds ((writer options).answer request) [] (request.reply (dialect options)).added
      (request.reply (dialect options)).code? := by
  cases request with
  | push line => exact (adds_push line).returning _
  | content markup => exact (adds_push _).returning _
  | expression source => exact (adds_writeExpression options source).returning _
  | statement line body => exact (adds_writeStatement options line body).returning _
  | lineMarker number => exact (adds_push _).returning _
  | attributes block defaults => exact adds_pure _
  | evaluation source => exact adds_pure _
  | program blocks => exact adds_pure _

end Script

namespace Transcript

private theorem adds_record_push (capability : Capability) (line : Text) :
    Adds (do record capability; push line) [capability] [line] () :=
  (adds_record capability).bind (adds_push line)

private theorem adds_record_return (capability : Capability) (code : Text) :
    Adds (do record capability; return code) [capability] [] code :=
  (adds_record capability).bind (adds_pure code)

theorem adds_writeStatement (line body : Text) :
    Adds (writeStatement line body) [.statement] (statement line body) () := by
  rw [writeStatement, statement]
  refine (adds_record _).bind ((adds_push _).bind ?_)
  cases body with
  | nil => exact adds_push _
  | cons => exact (adds_push _).bind (adds_push _)

/-- The transcript target writes what its dialect names, and counts the capability that it was asked
for. -/
theorem adds_answer (request : Request) :
    Adds (writer.answer request) request.capability?.toList (request.reply dialect).added
      (request.reply dialect).code? := by
  cases request with
  | push line => exact (adds_push line).returning _
  | content markup => exact (adds_record_push .content _).returning _
  | expression source => exact (adds_record_push .expression _).returning _
  | statement line body => exact (adds_writeStatement line body).returning _
  | lineMarker number => exact (adds_record_push .lineMarker _).returning _
  | attributes block defaults => exact (adds_record_return .attributes _).returning _
  | evaluation source => exact (adds_record_return .evaluation _).returning _
  | program blocks => exact (adds_record_return .program _).returning _

end Transcript

namespace Writer

variable {request : Request} {capability : Capability}

private theorem answer_bare (needs : request.capability? = some capability) :
    bare.answer request = refuse capability := by
  cases request <;> cases needs <;> rfl

private theorem answer_without_of_lacks (writer : Writer) {missing : List Capability}
    (lacks : request.Lacks missing capability) :
    (writer.without missing).answer request = refuse capability := by
  obtain ⟨needs, lacked⟩ := lacks
  cases request <;> cases needs <;> simp [answer, without, unlessMissing, lacked]

private theorem answer_without_of_granted (writer : Writer) {missing : List Capability}
    (granted : request.Granted missing) :
    (writer.without missing).answer request = writer.answer request := by
  cases request <;> simp_all [Request.Granted, Request.capability?, answer, without, unlessMissing]

end Writer

namespace Target

/-- The targets that there are. -/
inductive Kind where
  | script (options : Script.Options)
  | transcript
  | bare

namespace Kind

/-- The target of a kind. -/
def target : Kind → Target
  | .script options => Script.target options
  | .transcript => Transcript.target
  | .bare => Target.bare

/-- The target of a kind in place. -/
def writer : Kind → Writer
  | .script options => Script.writer options
  | .transcript => Transcript.writer
  | .bare => Writer.bare

/-- Whether a target of this kind counts its calls. -/
def isCounting : Kind → Bool
  | .transcript => true
  | .script _ => false
  | .bare => false

/-- Those of the calls that a target of this kind counts. -/
def counted (kind : Kind) (calls : List Capability) : List Capability :=
  if kind.isCounting then calls else []

variable (kind : Kind) (missing : List Capability) {request : Request}

theorem answer_of_lacks {capability : Capability}
    (lacks : request.Lacks (kind.target.without missing).missing capability) :
    (kind.writer.without missing).answer request = refuse capability := by
  obtain ⟨needs, lacked⟩ := lacks
  obtain ⟨other, taken⟩ | granted := request.lacks_or_granted missing
  · cases needs.symm.trans taken.1
    exact kind.writer.answer_without_of_lacks taken
  · rw [kind.writer.answer_without_of_granted granted]
    -- Scripts and transcripts lack only what is taken away from them.
    cases kind with
    | script options => exact absurd lacked (granted capability needs)
    | transcript => exact absurd lacked (granted capability needs)
    | bare => exact Writer.answer_bare needs

theorem adds_of_granted (granted : request.Granted (kind.target.without missing).missing) :
    Adds ((kind.writer.without missing).answer request) (kind.counted request.capability?.toList)
      (request.reply kind.target.dialect).added (request.reply kind.target.dialect).code? := by
  have kept : request.Granted missing :=
    fun capability needs taken => granted capability needs (List.mem_append_right _ taken)
  rw [kind.writer.answer_without_of_granted kept]
  cases kind with
  | script options => exact Script.adds_answer options request
  | transcript => exact Transcript.adds_answer request
  | bare =>
    -- The bare target lacks every capability, and only a given line needs none.
    cases needs : request.capability? with
    | some capability =>
      have every : capability ∈ Capability.all := by cases capability <;> decide
      exact absurd (List.mem_append_left _ every) (granted capability needs)
    | none =>
      cases request with
      | push line => exact (adds_push line).returning _
      | _ => cases needs

end Kind

end Target

end Haml
