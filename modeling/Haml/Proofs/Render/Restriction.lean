import Haml.Proofs.Render.Requests
import Haml.Target.Script

/-! # Targets that lack something

A capability that is missing shows exactly where it is asked for, and nowhere else. Taking
capabilities away from a target cuts the run of a template short at its first request for one of
them: all requests before it are made as before, and nothing after it. So the run on the richer
target tells all about the run on the poorer one.
-/

namespace Haml

namespace Emission

variable {α β : Type}

/-- The emission up to its first request for a capability that is missing. -/
def cut (missing : List Capability) (emission : Emission α) : Emission α :=
  match emission.calls.find? missing.contains with
  | none => emission
  | some first =>
    ⟨emission.calls.takeWhile (!missing.contains ·), .error (.unsupported (.capability first))⟩

variable {missing : List Capability}

theorem cut_of_absent {emission : Emission α}
    (absent : ∀ capability ∈ emission.calls, capability ∉ missing) :
    emission.cut missing = emission := by
  have nowhere : emission.calls.find? missing.contains = none := by
    simpa [List.find?_eq_none] using absent
  rw [cut, nowhere]

/-- The first request for a missing capability ends the emission. -/
theorem cut_of_present {emission : Emission α} {before after : List Capability}
    {first : Capability} (split : emission.calls = before ++ first :: after)
    (lacks : first ∈ missing) (absent : ∀ other ∈ before, other ∉ missing) :
    emission.cut missing = ⟨before, .error (.unsupported (.capability first))⟩ := by
  have passed : ∀ other ∈ before, (!missing.contains other) = true := by simpa using absent
  have earlier : before.find? missing.contains = none := by
    simpa [List.find?_eq_none] using absent
  have found : emission.calls.find? missing.contains = some first := by
    rw [split, List.find?_append, earlier, Option.none_or, List.find?_cons_of_pos (by simpa)]
  have kept : emission.calls.takeWhile (!missing.contains ·) = before := by
    rw [split, List.takeWhile_append_of_pos passed, List.takeWhile_cons_of_neg (by simpa),
      List.append_nil]
  rw [cut, found, kept]

/-- Either nothing that is missing is asked for, or there is a first such request. -/
theorem absent_or_first (missing calls : List Capability) :
    (∀ capability ∈ calls, capability ∉ missing) ∨
      ∃ before first after, calls = before ++ first :: after ∧ first ∈ missing ∧
        ∀ other ∈ before, other ∉ missing := by
  cases found : calls.find? missing.contains with
  | none =>
    left
    simpa [List.find?_eq_none] using found
  | some first =>
    right
    obtain ⟨lacks, before, after, split, absent⟩ := List.find?_eq_some_iff_append.mp found
    exact ⟨before, first, after, split, by simpa using lacks, by simpa using absent⟩

@[simp]
theorem cut_pure (value : α) : cut missing (Pure.pure value) = Pure.pure value :=
  rfl

@[simp]
theorem cut_ofExcept (result : Except CompileError α) :
    cut missing (ofExcept result) = ofExcept result :=
  rfl

@[simp]
theorem cut_fail (error : CompileError) : cut missing (fail error : Emission α) = fail error :=
  rfl

/-- An emission in two parts is cut in the first part, or else in the second. -/
@[simp]
theorem cut_bind (first : Emission α) (next : α → Emission β) :
    (first >>= next).cut missing = first.cut missing >>= fun value => (next value).cut missing := by
  rcases first with ⟨calls, outcome⟩
  rcases absent_or_first missing calls with absent | ⟨before, lacking, after, rfl, lacks, absent⟩
  · have kept : cut missing ⟨calls, outcome⟩ = ⟨calls, outcome⟩ := cut_of_absent absent
    rw [kept]
    cases outcome with
    | error error =>
      rw [error_bind, error_bind]
      exact cut_of_absent absent
    | ok value =>
      rw [ok_bind, ok_bind]
      rcases absent_or_first missing (next value).calls with
        later | ⟨before, lacking, after, split, lacks, earlier⟩
      · rw [cut_of_absent later]
        apply cut_of_absent
        exact List.forall_mem_append.mpr ⟨absent, later⟩
      · rw [cut_of_present split lacks earlier]
        have whole : calls ++ (next value).calls = (calls ++ before) ++ lacking :: after := by
          rw [split, List.append_assoc]
        exact cut_of_present whole lacks (List.forall_mem_append.mpr ⟨absent, earlier⟩)
  · have ended : cut missing ⟨before ++ lacking :: after, outcome⟩ =
        ⟨before, .error (.unsupported (.capability lacking))⟩ := cut_of_present rfl lacks absent
    rw [ended, error_bind]
    cases outcome with
    | error error =>
      rw [error_bind]
      exact cut_of_present rfl lacks absent
    | ok value => exact cut_of_present (List.append_assoc ..) lacks absent

@[simp]
theorem cut_map (change : α → β) (emission : Emission α) :
    (change <$> emission).cut missing = change <$> emission.cut missing := by
  rw [map_eq_pure_bind, map_eq_pure_bind, cut_bind]
  rfl

/-- Exactly the requests before the first one for a missing capability are made. -/
theorem calls_cut (emission : Emission α) :
    (emission.cut missing).calls = emission.calls.takeWhile (!missing.contains ·) := by
  rw [cut]
  cases found : emission.calls.find? missing.contains with
  | some first => rfl
  | none =>
    refine (List.takeWhile_eq_self_iff.mpr ?_).symm
    simpa [List.find?_eq_none] using found

/-- What still succeeds has not been cut. -/
theorem cut_eq_self_of_ok {emission : Emission α} {value : α}
    (success : (emission.cut missing).outcome = .ok value) : emission.cut missing = emission := by
  rw [cut] at success ⊢
  cases found : emission.calls.find? missing.contains with
  | none => rfl
  | some first =>
    rw [found] at success
    cases success

/-- A failure stays the same, or becomes that of a missing capability. -/
theorem outcome_cut_of_error {emission : Emission α} {error : CompileError}
    (failed : emission.outcome = .error error) :
    (emission.cut missing).outcome = .error error ∨
      ∃ capability ∈ missing,
        (emission.cut missing).outcome = .error (.unsupported (.capability capability)) := by
  rcases absent_or_first missing emission.calls with
    absent | ⟨before, first, after, split, lacks, absent⟩
  · left
    rw [cut_of_absent absent, failed]
  · right
    exact ⟨first, lacks, by rw [cut_of_present split lacks absent]⟩

end Emission

section Without

variable (target : Target) (missing : List Capability)

/-- A request is the only place where a missing capability is seen. -/
@[simp]
theorem Target.answer_without {α : Type} (capability : Capability) (code : α) :
    (target.without missing).answer capability code =
      (target.answer capability code).cut missing := by
  rw [Target.answer, Target.answer]
  by_cases lacked : capability ∈ target.missing
  · simp [Target.without, lacked]
  · by_cases lacks : capability ∈ missing
    · simp [Target.without, lacked, lacks, Emission.cut, Emission.fail]
    · simp [Target.without, lacked, lacks, Emission.cut]

@[simp]
theorem Target.dialect_without : (target.without missing).dialect = target.dialect :=
  rfl

theorem Element.openingStart_without (element : Element) :
    element.openingStart (target.without missing) = (element.openingStart target).cut missing := by
  rw [Element.openingStart, Element.openingStart]
  cases element.attributes with
  | none => rfl
  | some block => simp [Target.attributes]

theorem Element.body_without (element : Element) :
    element.body (target.without missing) = (element.body target).cut missing := by
  rw [Element.body, Element.body]
  rcases element.inline with _ | text | source
  · rfl
  · rfl
  · simp [Target.evaluation]

theorem Element.tags_without (element : Element) :
    element.tags (target.without missing) = (element.tags target).cut missing := by
  rw [Element.tags, Element.tags, Element.openingStart_without, Element.body_without]
  cases element.selfClosing <;> simp

namespace Render

variable (options : Options)

theorem element_without (text : Text) (sourceLine : Nat) (inside : List Text) :
    element (target.without missing) options text sourceLine inside =
      (element target options text sourceLine inside).cut missing := by
  rw [element, element]
  simp only [Emission.cut_bind, Emission.cut_ofExcept, Element.tags_without, Target.content,
    Target.answer_without, Target.dialect_without]
  congr 1
  funext element
  congr 1
  funext tags
  congr 1
  funext opening
  cases tags.closing with
  | none => rfl
  | some closing =>
    rcases inside with _ | ⟨first, later⟩
    · cases tags.body <;> simp
    · simp

theorem doctype_without (text : Text) :
    doctype (target.without missing) text = (doctype target text).cut missing := by
  rw [doctype, doctype]
  cases Doctype.declaration? text with
  | none => rfl
  | some declaration => simp [Target.content]

theorem body_without (text : Text) (sourceLine : Nat) (inside : List Text) :
    body (target.without missing) options text sourceLine inside =
      (body target options text sourceLine inside).cut missing := by
  rw [body, body]
  cases LineKind.of options.doctypes text with
  | element => exact element_without target missing options text sourceLine inside
  | expression => simp [Target.expression]
  | statement => simp [Target.statement]
  | doctype => exact doctype_without target missing text
  | text => simp [Target.content]

theorem marker_without (text : Text) (number : Nat) :
    marker (target.without missing) options text number =
      (marker target options text number).cut missing := by
  rw [marker, marker]
  cases (LineKind.of options.doctypes text).isMarked <;> simp [Target.lineMarker]

/-- Rendering depends on the target only through its answers. -/
theorem forest_without (outline : Outline) :
    forest (target.without missing) options outline =
      (forest target options outline).cut missing := by
  induction outline using Outline.induction with
  | nil =>
    rw [forest, forest]
    rfl
  | cons text number sourceLine children later nested beside =>
    rw [forest, forest, node, node, nested, beside]
    simp only [Emission.cut_bind, Emission.cut_map, Emission.cut_pure, marker_without, body_without]

end Render

/-- Taking capabilities away cuts the run at its first request for one of them. -/
theorem Outline.render_without (options : Options) (outline : Outline) :
    outline.render (target.without missing) options =
      (outline.render target options).cut missing := by
  rw [Outline.render, Outline.render, Render.forest_without]
  simp [Target.program]

end Without

namespace Outline

variable {target : Target} {options : Options} {outline : Outline}

/-- Every target is one that lacks nothing, with capabilities taken away. -/
theorem render_eq_cut (target : Target) (options : Options) (outline : Outline) :
    outline.render target options =
      (outline.render ⟨target.dialect, []⟩ options).cut target.missing :=
  outline.render_without ⟨target.dialect, []⟩ target.missing options

/-- What rendering asks any target for: what the outline asks for, up to the first capability that
is missing. -/
theorem calls_render_takeWhile (target : Target) (options : Options) (outline : Outline) :
    (outline.render target options).calls =
      (outline.requests options).takeWhile (!target.missing.contains ·) := by
  rw [render_eq_cut, Emission.calls_cut, calls_render_eq rfl]

/-- A run that succeeds has made all requests of the outline. -/
theorem calls_render_of_ok {program : Text}
    (success : (outline.render target options).outcome = .ok program) :
    (outline.render target options).calls = outline.requests options := by
  rw [render_eq_cut] at success ⊢
  rw [Emission.cut_eq_self_of_ok success, calls_render_eq rfl]

/-- What a target lacks is reported exactly where it is used, and never changes what is written.
Let capabilities be taken away from a target on which the template can be rendered. It still can be
exactly if none of them was ever asked for, and the program is then the same. Otherwise the error
names the one that was asked for first. Where the template cannot be rendered, it still cannot, for
the same reason or for want of one of them. -/
theorem outcome_render_without (target : Target) (missing : List Capability) (options : Options)
    (outline : Outline) :
    (∀ program, (outline.render target options).outcome = .ok program →
      ((∃ text, (outline.render (target.without missing) options).outcome = .ok text) ↔
        ∀ capability ∈ missing, (outline.render Transcript.target options).count capability = 0) ∧
      ((∀ capability ∈ missing, (outline.render Transcript.target options).count capability = 0) →
        (outline.render (target.without missing) options).outcome = .ok program) ∧
      ((∃ capability ∈ missing, (outline.render Transcript.target options).count capability ≠ 0) →
        ∃ before first after,
          (outline.render Transcript.target options).calls = before ++ first :: after ∧
          first ∈ missing ∧ (∀ other ∈ before, other ∉ missing) ∧
          (outline.render (target.without missing) options).outcome =
            .error (.unsupported (.capability first)))) ∧
    ∀ error, (outline.render target options).outcome = .error error →
      (outline.render (target.without missing) options).outcome = .error error ∨
        ∃ capability ∈ missing, (outline.render (target.without missing) options).outcome =
          .error (.unsupported (.capability capability)) := by
  simp only [render_without]
  constructor
  · intro program success
    have recorded : (outline.render Transcript.target options).calls =
        (outline.render target options).calls := by
      rw [calls_render_of_ok success, calls_render_eq rfl]
    simp only [Emission.count, recorded, List.count_eq_zero, ne_eq, not_not]
    rcases Emission.absent_or_first missing (outline.render target options).calls with
      absent | ⟨before, first, after, split, lacks, absent⟩
    · have unused : ∀ capability ∈ missing,
          capability ∉ (outline.render target options).calls :=
        fun capability lacks called => absent capability called lacks
      rw [Emission.cut_of_absent absent]
      refine ⟨iff_of_true ⟨program, success⟩ unused, fun _ => success, ?_⟩
      rintro ⟨capability, lacks, called⟩
      exact absurd called (unused capability lacks)
    · have used : first ∈ (outline.render target options).calls := by simp [split]
      rw [Emission.cut_of_present split lacks absent]
      refine ⟨iff_of_false (by simp) (fun unused => unused first lacks used), ?_, ?_⟩
      · intro unused
        exact absurd used (unused first lacks)
      · intro _
        exact ⟨before, first, after, split, lacks, absent, rfl⟩
  · intro error failed
    exact Emission.outcome_cut_of_error failed

/-- The expression of the nested line is asked for before any content, and attributes never. -/
theorem outcome_render_without_of_nested_expression :
    (render ((Script.target .standard).without [.content, .evaluation]) .standard
        [⟨"%ul".toList, 1, 1, [⟨"%li= x".toList, 2, 2, []⟩]⟩]).outcome =
      .error (.unsupported (.capability .evaluation)) ∧
    (render ((Script.target .standard).without [.attributes]) .standard
        [⟨"%ul".toList, 1, 1, [⟨"%li= x".toList, 2, 2, []⟩]⟩]).outcome =
      (render (Script.target .standard) .standard
        [⟨"%ul".toList, 1, 1, [⟨"%li= x".toList, 2, 2, []⟩]⟩]).outcome := by
  have calls : (render Transcript.target .standard
      [⟨"%ul".toList, 1, 1, [⟨"%li= x".toList, 2, 2, []⟩]⟩]).calls =
        [.lineMarker, .evaluation, .content, .content, .content, .lineMarker, .content, .content,
          .program] := by decide +kernel
  have rendered : (render (Script.target .standard) .standard
      [⟨"%ul".toList, 1, 1, [⟨"%li= x".toList, 2, 2, []⟩]⟩]).outcome.isOk = true := by
    decide +kernel
  obtain ⟨program, success⟩ := exists_of_isOk rendered
  constructor
  · obtain ⟨before, first, after, split, lacks, absent, failed⟩ :=
      ((outcome_render_without _ [.content, .evaluation] _ _).1 program success).2.2
        ⟨.evaluation, by decide, by rw [Emission.count, calls]; decide⟩
    rw [failed]
    rw [calls] at split
    rcases before with _ | ⟨marker, _ | ⟨second, others⟩⟩
    · cases (List.cons.inj split).1
      exact absurd lacks (by decide)
    · obtain rfl := (List.cons.inj (List.cons.inj split).2).1
      rfl
    · obtain rfl := (List.cons.inj (List.cons.inj split).2).1
      exact absurd (absent .evaluation (by simp)) (by decide)
  · rw [success]
    apply ((outcome_render_without _ [.attributes] _ _).1 program success).2.1
    intro capability lacks
    obtain rfl := List.mem_singleton.mp lacks
    rw [Emission.count, calls]
    rfl

end Outline

end Haml
