import Haml.Proofs.Outline.Rows
import Haml.Proofs.Render.InPlace
import Haml.Proofs.Render.Restriction
import Mathlib.Algebra.GroupWithZero.Nat

/-! # One compiler for many templates

A compiler that works in place keeps nothing of a template but the counts of its target. What comes
of a template is what would come of it alone, with lines that are numbered from 1 again, however the
templates before it ended. The counts add up: a template that is not even read adds nothing, and one
that is refused adds the calls that were made by then.
-/

namespace Haml

/-- What came of a template, and the counts after it. -/
structure Session.Conversion where
  outcome : Except CompileError Text
  counts : Capability → Nat

/-- Does the work and goes on after a failure, with the counts that it left. -/
def Session.attempt {α : Type} (session : Session α) : Session (Except CompileError α) :=
  tryCatch (.ok <$> session) fun error => pure (.error error)

namespace Writer

variable (writer : Writer) (options : Options)

/-- Converts templates in order. -/
def convertAll : List Text → Session (List Session.Conversion)
  | [] => return []
  | source :: later => do
    let outcome ← Session.attempt (writer.convert options source)
    let counts ← get
    let rest ← convertAll later
    return ⟨outcome, counts⟩ :: rest

/-- A template converted by a compiler that has converted nothing before. -/
def alone (source : Text) : Session.Conversion :=
  match writer.convert options source (fun _ => 0) with
  | .ok program counts => ⟨.ok program, counts⟩
  | .error error counts => ⟨.error error, counts⟩

/-- The counts after the given templates, if each one adds what it adds alone. -/
def total (counts : Capability → Nat) (sources : List Text) (capability : Capability) : Nat :=
  counts capability + (sources.map fun source => (writer.alone options source).counts capability).sum

end Writer

namespace Outline

private theorem map_number_numbered (count : Nat) (entries : List Entry) :
    (numbered count entries).map Row.number = List.range' (count + 1) entries.length := by
  induction entries generalizing count with
  | nil => rfl
  | cons entry later ih => rw [numbered, List.map_cons, ih, List.length_cons, List.range'_succ]

/-- The lines of every template are numbered from 1. -/
theorem numbers_of_parse {source : Text} {outline : Outline} (success : parse source = .ok outline) :
    outline.descendants.map Node.number = List.range' 1 outline.size := by
  have size : outline.rows.length = outline.size := length_rowsAt 0 outline
  have sameNumbers : outline.descendants.map Node.number = outline.rows.map Row.number := by
    have carried := congrArg (List.map Prod.fst) (map_descendants 0 outline)
    rwa [List.map_map, List.map_map] at carried
  rw [sameNumbers, ← size, rows_of_parse success, map_number_numbered, length_numbered]

end Outline

section Step

variable (target : Target) (options : Options) {source : Text}

/-- A template that is not read makes no calls. -/
theorem compile_of_unread {error : Indentation.Error} (failed : Outline.parse source = .error error) :
    compile target options source = ⟨[], .error (.indentation error)⟩ := by
  rw [compile, failed]
  rfl

theorem compile_of_read {outline : Outline} (success : Outline.parse source = .ok outline) :
    compile target options source = outline.render target options := by
  rw [compile, success]
  rfl

end Step

theorem Writer.total_cons (writer : Writer) (options : Options) (counts : Capability → Nat)
    (source : Text) (later : List Text) :
    writer.total options counts (source :: later) =
      writer.total options (writer.total options counts [source]) later := by
  funext capability
  simp [total, Nat.add_assoc]

theorem Session.countsAfter_zero (calls : List Capability) :
    countsAfter (fun _ => 0) calls = fun capability => calls.count capability := by
  funext capability
  rw [countsAfter, Nat.zero_add]

private theorem Session.attempt_of_gives {α : Type} {kind : Target.Kind} {session : Session α}
    {emission : Emission α} (gives : Gives kind session emission) (counts : Capability → Nat) :
    attempt session counts =
      .ok emission.outcome (countsAfter counts (kind.counted emission.calls)) := by
  change EStateM.tryCatch (EStateM.map Except.ok session)
    (fun error => pure (Except.error error)) counts = _
  rw [EStateM.tryCatch, EStateM.map, gives]
  rcases emission with ⟨calls, error | value⟩
  · rfl
  · rfl

namespace Target.Kind

variable (kind : Kind) (missing : List Capability) (options : Options)

private theorem alone_writer (source : Text) :
    (kind.writer.without missing).alone options source =
      ⟨(compile (kind.target.without missing) options source).outcome,
        Session.countsAfter (fun _ => 0)
          (kind.counted (compile (kind.target.without missing) options source).calls)⟩ := by
  have converted := kind.gives_convert missing options source fun _ => 0
  rw [Writer.alone, converted, Session.ended]
  cases (compile (kind.target.without missing) options source).outcome with
  | error error => rfl
  | ok program => rfl

private theorem total_singleton (counts : Capability → Nat) (source : Text) :
    (kind.writer.without missing).total options counts [source] =
      Session.countsAfter counts
        (kind.counted (compile (kind.target.without missing) options source).calls) := by
  funext capability
  simp [Writer.total, alone_writer, Session.countsAfter]

/-- What comes of a template does not depend on the counts, and they grow by what it adds alone. -/
theorem attempt_convert (counts : Capability → Nat) (source : Text) :
    Session.attempt ((kind.writer.without missing).convert options source) counts =
      .ok ((kind.writer.without missing).alone options source).outcome
        ((kind.writer.without missing).total options counts [source]) := by
  rw [Session.attempt_of_gives (kind.gives_convert missing options source), total_singleton,
    alone_writer]

/-- A session does not fail, and after each template it has come to what the templates so far come to
alone. -/
theorem convertAll_writer (counts : Capability → Nat) (sources : List Text) :
    ∃ conversions,
      (kind.writer.without missing).convertAll options sources counts =
        .ok conversions ((kind.writer.without missing).total options counts sources) ∧
      ∀ index : Nat, conversions[index]? = sources[index]?.map fun source =>
        ⟨((kind.writer.without missing).alone options source).outcome,
          (kind.writer.without missing).total options counts (sources.take (index + 1))⟩ := by
  -- The later templates start from the counts that the first one leaves, so they are general here.
  induction sources generalizing counts with
  | nil => exact ⟨[], rfl, fun index => rfl⟩
  | cons source later ih =>
    let writer := kind.writer.without missing
    let next := writer.total options counts [source]
    obtain ⟨rest, ran, each⟩ := ih next
    refine ⟨⟨(writer.alone options source).outcome, next⟩ :: rest, ?_, fun index => ?_⟩
    · rw [Writer.total_cons, Writer.convertAll]
      change EStateM.bind (Session.attempt (writer.convert options source)) _ counts = _
      rw [EStateM.bind, kind.attempt_convert missing options counts source]
      change EStateM.bind (writer.convertAll options later) _ next = _
      rw [EStateM.bind, ran]
      rfl
    · cases index with
      | zero => simp [writer, next]
      | succ index =>
        rw [List.getElem?_cons_succ, List.getElem?_cons_succ, each, List.take_succ_cons,
          Writer.total_cons]

/-- The conversions of a session are those that the compiler lists. -/
theorem map_compileAll (calls : List Capability) (sources : List Text) (index : Nat) :
    ((compileAll (kind.target.without missing) options calls sources).map fun conversion =>
        (⟨conversion.outcome, Session.countsAfter (fun _ => 0) (kind.counted conversion.calls)⟩ :
          Session.Conversion))[index]? =
      sources[index]?.map fun source =>
        ⟨((kind.writer.without missing).alone options source).outcome,
          (kind.writer.without missing).total options
            (Session.countsAfter (fun _ => 0) (kind.counted calls)) (sources.take (index + 1))⟩ := by
  induction sources generalizing calls index with
  | nil => rfl
  | cons source later ih =>
    have step : (kind.writer.without missing).total options
        (Session.countsAfter (fun _ => 0) (kind.counted calls)) [source] =
          Session.countsAfter (fun _ => 0) (kind.counted
            (calls ++ (compile (kind.target.without missing) options source).calls)) := by
      rw [kind.counted_append, Session.countsAfter_append]
      exact kind.total_singleton missing options _ source
    rw [compileAll, List.map_cons]
    cases index with
    | zero => simp [step, alone_writer]
    | succ index =>
      rw [List.getElem?_cons_succ, List.getElem?_cons_succ, ih, List.take_succ_cons,
        Writer.total_cons, step]

end Target.Kind

/-- Conversions by one compiler do not influence each other, although the target that it holds on to
counts on through all of them, also through those that fail. A session as a whole never fails. Each
conversion comes to what it would come to on a new compiler, with lines numbered from 1, and the
counts after it are those before the session plus the counts that the templates so far make alone. A
template that is not read adds nothing. One that is read adds, if the target counts, what its outline
asks for, up to the first line that is refused and to the first capability that is missing. -/
theorem Writer.convertAll_independent (kind : Target.Kind) (missing : List Capability)
    (options : Options) (counts : Capability → Nat) (sources : List Text) :
    let writer := kind.writer.without missing
    let target := kind.target.without missing
    let after (made : List Text) : Capability → Nat := fun capability =>
      counts capability + (made.map fun source => (writer.alone options source).counts capability).sum
    (∃ conversions, writer.convertAll options sources counts = .ok conversions (after sources) ∧
      (∀ index : Nat, conversions[index]? = sources[index]?.map fun source =>
        ⟨(writer.alone options source).outcome, after (sources.take (index + 1))⟩) ∧
      ∀ calls, (∀ capability, counts capability = (kind.counted calls).count capability) →
        conversions = (compileAll target options calls sources).map fun conversion =>
          ⟨conversion.outcome, fun capability => (kind.counted conversion.calls).count capability⟩) ∧
    ∀ source,
      writer.convertAll options [source] (fun _ => 0) =
        .ok [writer.alone options source] (writer.alone options source).counts ∧
      (∀ error, Outline.parse source = .error error →
        writer.alone options source = ⟨.error (.indentation error), fun _ => 0⟩) ∧
      ∀ outline, Outline.parse source = .ok outline →
        outline.descendants.map Node.number = List.range' 1 outline.size ∧
        writer.alone options source = ⟨(outline.render target options).outcome, fun capability =>
          if kind.isCounting then
            ((outline.requests options).takeWhile (!target.missing.contains ·)).count capability
          else 0⟩ := by
  intro writer target after
  obtain ⟨conversions, ran, each⟩ := kind.convertAll_writer missing options counts sources
  refine ⟨⟨conversions, ran, each, ?_⟩, fun source => ⟨?_, ?_, ?_⟩⟩
  · intro calls counted
    have start : counts = Session.countsAfter (fun _ => 0) (kind.counted calls) := by
      rw [Session.countsAfter_zero]
      exact funext counted
    refine List.ext_getElem? fun index => ?_
    rw [each, start, ← kind.map_compileAll missing options calls sources index]
    simp only [Session.countsAfter_zero]
    rfl
  · obtain ⟨single, ran, each⟩ := kind.convertAll_writer missing options (fun _ => 0) [source]
    have own : writer.total options (fun _ => 0) [source] = (writer.alone options source).counts := by
      funext capability
      simp [Writer.total]
    have only : single = [writer.alone options source] := by
      refine List.ext_getElem? fun index => ?_
      rw [each]
      cases index with
      | zero => exact congrArg (fun counts => some (Session.Conversion.mk _ counts)) own
      | succ index => rfl
    rw [ran, only, own]
  · intro error unread
    rw [kind.alone_writer, compile_of_unread target options unread, kind.counted_nil]
    rfl
  · intro outline read
    refine ⟨Outline.numbers_of_parse read, ?_⟩
    rw [kind.alone_writer, compile_of_read target options read, Session.countsAfter_zero,
      outline.calls_render_takeWhile]
    simp only [kind.count_counted]

/-- The first template is not read, the second one lacks a statement behind an expression, and the
third one is refused for its brace. -/
theorem Writer.convertAll_independent_of_failing_templates :
    ∃ conversions counts conversion,
      (Target.Kind.transcript.writer.without [.statement]).convertAll .standard
        ["%a\n   %b\n  %c\n".toList, "= x\n- y\n%p\n".toList, "%p z\n%q\x7d\n".toList]
        (fun _ => 0) = .ok conversions counts ∧
      conversions[2]? = some conversion ∧
      conversion.outcome = .error (.braces 2 "%q\x7d".toList (.unexpectedClose 2)) ∧
      conversion.counts .lineMarker = 3 ∧ conversion.counts .content = 3 ∧
      conversion.counts .expression = 1 ∧ conversion.counts .statement = 0 := by
  have unread : Outline.parse "%a\n   %b\n  %c\n".toList = .error ⟨3, .uneven 2 3⟩ := by cbv
  have lacking : Outline.parse "= x\n- y\n%p\n".toList =
      .ok [⟨"= x".toList, 1, 1, []⟩, ⟨"- y".toList, 2, 2, []⟩, ⟨"%p".toList, 3, 3, []⟩] := by cbv
  have faulty : Outline.parse "%p z\n%q\x7d\n".toList =
      .ok [⟨"%p z".toList, 1, 1, []⟩, ⟨"%q\x7d".toList, 2, 2, []⟩] := by cbv
  obtain ⟨⟨conversions, ran, each, _⟩, alone⟩ :=
    Writer.convertAll_independent .transcript [.statement] .standard (fun _ => 0)
      ["%a\n   %b\n  %c\n".toList, "= x\n- y\n%p\n".toList, "%p z\n%q\x7d\n".toList]
  obtain ⟨_, first, _⟩ := alone "%a\n   %b\n  %c\n".toList
  obtain ⟨_, _, second⟩ := alone "= x\n- y\n%p\n".toList
  obtain ⟨_, _, third⟩ := alone "%p z\n%q\x7d\n".toList
  have unreadAlone := first _ unread
  have lackingAlone := (second _ lacking).2
  have faultyAlone := (third _ faulty).2
  refine ⟨conversions, _, _, ran, each 2, ?_⟩
  simp only [List.take, List.map_cons, List.map_nil, unreadAlone, lackingAlone, faultyAlone]
  decide +kernel

end Haml
