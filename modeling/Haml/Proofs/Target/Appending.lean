import Haml.Proofs.Target.Writing

/-! # Fragments only grow

Each request adds lines of its own to a fragment, at its end, and these do not depend on what the
fragment holds, on its depth or on the requests before. A request that fails adds none, and the other
requests go on as if it had not been made. This holds of every target, whether its answers are taken
in as a whole or written in place, line by line.
-/

namespace Haml

namespace Request

/-- The lines that a request adds, to whatever fragment it is put. -/
def contribution (target : Target) (request : Request) : List Text :=
  match (request.answer target).outcome with
  | .ok answer => answer.added
  | .error _ => []

/-- Whether the target meets the request. -/
def isMet (target : Target) (request : Request) : Bool :=
  (request.answer target).outcome.isOk

/-- Whether the target meets the request, and by the given capability. -/
def isMetBy (target : Target) (capability : Capability) (request : Request) : Bool :=
  request.capability? = some capability && request.isMet target

variable (target : Target) (request : Request)

/-- A request fails exactly where it lacks a capability, and the error names this capability. -/
theorem outcome_eq_error_iff (error : CompileError) :
    (request.answer target).outcome = .error error ↔
      ∃ capability, request.Lacks target.missing capability ∧
        error = .unsupported (.capability capability) := by
  constructor
  · intro failed
    obtain ⟨capability, lacks, answer⟩ | ⟨_, answer⟩ := answer_cases target request
    · rw [answer] at failed
      exact ⟨capability, lacks, (Except.error.inj failed).symm⟩
    · rw [answer] at failed
      cases failed
  · rintro ⟨capability, lacks, rfl⟩
    rw [answer_of_lacks lacks]
    rfl

variable {target request} in
private theorem contribution_of_error {error : CompileError}
    (failed : (request.answer target).outcome = .error error) :
    request.contribution target = [] := by
  rw [contribution, failed]

variable {request} in
/-- Code that is given back adds no line. -/
theorem contribution_of_code {source : Text} (code : request.reply target.dialect = .code source) :
    request.contribution target = [] := by
  rw [contribution]
  obtain ⟨_, _, answer⟩ | ⟨_, answer⟩ := answer_cases target request
  · rw [answer]
  · rw [answer, code]
    rfl

private theorem count_calls_answer (capability : Capability) :
    (request.answer target).calls.count capability =
      if request.isMetBy target capability then 1 else 0 := by
  rw [isMetBy, isMet]
  obtain ⟨_, _, answer⟩ | ⟨_, answer⟩ := answer_cases target request
  · simp [answer, Except.isOk, Except.toBool]
  · rw [answer]
    cases request.capability? with
    | none => simp
    | some own => simp [Except.isOk, Except.toBool, List.count_singleton]

/-- The calls of a capability are the requests that are met by it. -/
theorem count_calls (requests : List Request) (capability : Capability) :
    (requests.flatMap fun request => (request.answer target).calls).count capability =
      requests.countP (·.isMetBy target capability) := by
  induction requests with
  | nil => rfl
  | cons request later ih =>
    rw [List.flatMap_cons, List.count_append, ih, count_calls_answer, List.countP_cons, Nat.add_comm]

end Request

namespace Fragment

variable (target : Target)

private theorem absorb_answer (fragment : Fragment) (request : Request) :
    fragment.absorb (request.answer target).outcome =
      { fragment with lines := fragment.lines ++ request.contribution target } := by
  rw [Request.contribution]
  cases (request.answer target).outcome with
  | error error => simp [absorb]
  | ok answer => cases answer <;> simp [absorb, take, Answer.added]

/-- After each request the fragment has grown by the contributions so far, and by nothing else. -/
theorem getElem?_run (fragment : Fragment) (requests : List Request) (index : Nat) :
    (run target fragment requests)[index]? =
      requests[index]?.map fun request =>
        ⟨request.answer target,
          { fragment with
            lines := fragment.lines ++
              (requests.take (index + 1)).flatMap (·.contribution target) }⟩ := by
  -- The later requests meet the fragment that the first one leaves, so it is general here.
  induction requests generalizing fragment index with
  | nil => rfl
  | cons request later ih =>
    rw [run, absorb_answer]
    cases index with
    | zero => simp
    | succ index =>
      rw [List.getElem?_cons_succ, List.getElem?_cons_succ, ih]
      simp only [List.take_succ_cons, List.flatMap_cons, List.append_assoc]

/-- The steps that succeed are those of a run without the requests that fail. -/
theorem filter_run (fragment : Fragment) (requests : List Request) :
    (run target fragment requests).filter (·.emission.outcome.isOk) =
      run target fragment (requests.filter (·.isMet target)) := by
  induction requests generalizing fragment with
  | nil => rfl
  | cons request later ih =>
    rw [run]
    cases outcome : (request.answer target).outcome with
    | error error =>
      -- The fragment is as before, so the rest of the run is that of the shorter list.
      have unmet : request.isMet target = false := by rw [Request.isMet, outcome]; rfl
      rw [List.filter_cons_of_neg (by simp [outcome, Except.isOk, Except.toBool]),
        List.filter_cons_of_neg (by simp [unmet])]
      exact ih fragment
    | ok answer =>
      have met : request.isMet target = true := by rw [Request.isMet, outcome]; rfl
      rw [List.filter_cons_of_pos (by simp [outcome, Except.isOk, Except.toBool]),
        List.filter_cons_of_pos met, run, outcome, ih]

private theorem flatMap_calls_run (fragment : Fragment) (requests : List Request) :
    (run target fragment requests).flatMap (·.emission.calls) =
      requests.flatMap fun request => (request.answer target).calls := by
  induction requests generalizing fragment with
  | nil => rfl
  | cons request later ih => rw [run, List.flatMap_cons, List.flatMap_cons, ih]

end Fragment

namespace Target.Kind

variable (kind : Kind) (missing : List Capability)

theorem counted_append (calls more : List Capability) :
    kind.counted (calls ++ more) = kind.counted calls ++ kind.counted more := by
  cases kind <;> rfl

theorem count_counted (calls : List Capability) (capability : Capability) :
    (kind.counted calls).count capability =
      if kind.isCounting then calls.count capability else 0 := by
  cases kind <;> rfl

/-- A request that is met in place adds its contribution, and one that fails leaves the draft as it
was. -/
theorem step_writer (draft : Draft) (request : Request) :
    (kind.writer.without missing).step draft request =
      ⟨(request.answer (kind.target.without missing)).outcome.map Answer.code?,
        draft.add (kind.counted (request.answer (kind.target.without missing)).calls)
          (request.contribution (kind.target.without missing))⟩ := by
  rw [Writer.step, Request.contribution]
  obtain ⟨capability, lacks, answer⟩ | ⟨granted, answer⟩ :=
    request.answer_cases (kind.target.without missing)
  · have unchanged : draft.add (kind.counted []) [] = draft := by
      cases kind <;> exact draft.add_nil
    rw [answer, unchanged, kind.answer_of_lacks missing lacks]
    rfl
  · rw [answer, kind.adds_of_granted missing granted draft]
    rfl

/-- The draft grows as the fragment does, and the calls are counted one by one. -/
theorem getElem?_run_writer (draft : Draft) (requests : List Request) (index : Nat) :
    ((kind.writer.without missing).run draft requests)[index]? =
      requests[index]?.map fun request =>
        ⟨(request.answer (kind.target.without missing)).outcome.map Answer.code?,
          draft.add
            (kind.counted <| (requests.take (index + 1)).flatMap
              fun made => (made.answer (kind.target.without missing)).calls)
            ((requests.take (index + 1)).flatMap
              (·.contribution (kind.target.without missing)))⟩ := by
  induction requests generalizing draft index with
  | nil => rfl
  | cons request later ih =>
    rw [Writer.run, step_writer]
    cases index with
    | zero => simp
    | succ index =>
      rw [List.getElem?_cons_succ, List.getElem?_cons_succ, ih]
      simp only [List.take_succ_cons, List.flatMap_cons, counted_append, Draft.add_add]

end Target.Kind

/-- A fragment only grows, and a request that fails does nothing. After each request it has its old
depth and, behind its old lines, the contributions of the requests so far in order, each of which is
known from the target and the request alone. A target that writes line by line, with nothing undone
after a failure, leaves the same fragment behind and gives back the same code; if it counts, it has
counted for each capability the requests so far that were met by it. The steps that succeed are those
of a run in which the failing requests are not made. A request fails only for want of its capability,
and contributes nothing then. Requests for attributes, for a value or for the program never
contribute. -/
theorem Fragment.run_grows_by_contributions (kind : Target.Kind) (missing : List Capability)
    (draft : Draft) (requests : List Request) :
    let target := kind.target.without missing
    let steps := run target draft.fragment requests
    let after (made : List Request) : Fragment :=
      ⟨draft.fragment.depth, draft.fragment.lines ++ made.flatMap (·.contribution target)⟩
    (∀ index : Nat, steps[index]? =
      requests[index]?.map fun request =>
        ⟨request.answer target, after (requests.take (index + 1))⟩) ∧
    (∀ index : Nat, ((kind.writer.without missing).run draft requests)[index]? =
      requests[index]?.map fun request =>
        ⟨(request.answer target).outcome.map Answer.code?, after (requests.take (index + 1)),
          fun capability => draft.counts capability +
            if kind.isCounting then
              (requests.take (index + 1)).countP (·.isMetBy target capability)
            else 0⟩) ∧
    (∀ capability, (steps.flatMap (·.emission.calls)).count capability =
      requests.countP (·.isMetBy target capability)) ∧
    steps.filter (·.emission.outcome.isOk) =
      run target draft.fragment (requests.filter (·.isMet target)) ∧
    (∀ (request : Request) error, (request.answer target).outcome = .error error →
      request.contribution target = [] ∧
      ∃ capability, request.Lacks target.missing capability ∧
        error = .unsupported (.capability capability)) ∧
    (∀ (request : Request) capability, request.Lacks target.missing capability →
      (request.answer target).outcome = .error (.unsupported (.capability capability))) ∧
    (∀ block defaults, (Request.attributes block defaults).contribution target = []) ∧
    (∀ source, (Request.evaluation source).contribution target = []) ∧
    ∀ blocks, (Request.program blocks).contribution target = [] := by
  intro target steps after
  refine ⟨getElem?_run target draft.fragment requests, ?_, ?_,
    filter_run target draft.fragment requests, ?_, ?_, ?_, ?_, ?_⟩
  · intro index
    rw [kind.getElem?_run_writer missing draft requests index]
    simp only [Draft.add, Target.Kind.count_counted, Request.count_calls]
    rfl
  · intro capability
    rw [flatMap_calls_run, Request.count_calls]
  · intro request error failed
    exact ⟨Request.contribution_of_error failed,
      (Request.outcome_eq_error_iff target request error).mp failed⟩
  · intro request capability lacks
    exact (Request.outcome_eq_error_iff target request _).mpr ⟨capability, lacks, rfl⟩
  · exact fun block defaults => Request.contribution_of_code target rfl
  · exact fun source => Request.contribution_of_code target rfl
  · exact fun blocks => Request.contribution_of_code target rfl

/-- Content is refused between two statements; the second one follows the body of the first. -/
theorem Fragment.run_grows_by_contributions_of_refused_content :
    (∃ step, ((Target.Kind.transcript.writer.without [.content]).run
        ⟨⟨3, ["a".toList]⟩, fun _ => 0⟩
        [.statement "- b".toList "c".toList, .content (.literal "d".toList),
          .evaluation "= e".toList, .statement "- f".toList []])[3]? = some step ∧
      step.outcome = .ok none ∧
      step.draft.fragment =
        ⟨3, ["a".toList, "[stmt - b]".toList, "c".toList, "[end]".toList, "[stmt - f]".toList,
          "[end]".toList]⟩ ∧
      step.draft.counts .statement = 2 ∧ step.draft.counts .evaluation = 1 ∧
      step.draft.counts .content = 0) ∧
    (Request.content (.literal "d".toList)).Lacks (Transcript.target.without [.content]).missing
      .content ∧
    (Request.content (.literal "d".toList)).contribution (Transcript.target.without [.content]) =
      [] := by
  obtain ⟨_, written, _, _, failing, lacking, _⟩ :=
    Fragment.run_grows_by_contributions .transcript [.content] ⟨⟨3, ["a".toList]⟩, fun _ => 0⟩
      [.statement "- b".toList "c".toList, .content (.literal "d".toList),
        .evaluation "= e".toList, .statement "- f".toList []]
  have lacks : (Request.content (.literal "d".toList)).Lacks
      (Transcript.target.without [.content]).missing .content := ⟨rfl, by decide⟩
  refine ⟨⟨_, written 3, ?_, ?_, ?_, ?_, ?_⟩, lacks, (failing _ _ (lacking _ _ lacks)).1⟩
  all_goals rfl

end Haml
