import Haml.Outline.Parse
import Haml.Proofs.Outline.Forest
import Mathlib.Tactic.SplitIfs

/-! # Grouping entries level by level

Grouping holds back whole runs of deeper entries and numbers them only when they are attached. The
local rule that results, that an entry is at most one level deeper than the entry before it, stands
nowhere in it. `group_settles` says that grouping follows the rule all the same: it fails exactly on
the first entry that breaks the rule, and otherwise lists every entry once, in order, at its depth.
-/

namespace Haml.Outline

/-- The rows of entries that are numbered on from `count`. -/
def numbered (count : Nat) : List Entry → List Row
  | [] => []
  | entry :: later =>
    ⟨entry.depth, count + 1, entry.sourceLine, entry.text⟩ :: numbered (count + 1) later

theorem numbered_append (count : Nat) (first second : List Entry) :
    numbered count (first ++ second) =
      numbered count first ++ numbered (count + first.length) second := by
  induction first generalizing count with
  | nil => rfl
  | cons entry rest ih =>
    have shift : count + 1 + rest.length = count + (rest.length + 1) := by omega
    simp only [List.cons_append, numbered, ih, List.length_cons, shift]

theorem length_numbered (count : Nat) (entries : List Entry) :
    (numbered count entries).length = entries.length := by
  induction entries generalizing count with
  | nil => rfl
  | cons entry later ih => rw [numbered, List.length_cons, ih, List.length_cons]

/-- The error of the first entry that is deeper than `allowed`, which is one level under the entry
before it. -/
def orphan? (allowed : Nat) : List Entry → Option Indentation.Error
  | [] => none
  | entry :: later =>
    if entry.depth ≤ allowed then orphan? (entry.depth + 1) later
    else some ⟨entry.sourceLine, .orphan entry.depth allowed⟩

theorem orphan?_append_of_some {allowed : Nat} {run : List Entry} {error : Indentation.Error}
    (found : orphan? allowed run = some error) (later : List Entry) :
    orphan? allowed (run ++ later) = some error := by
  induction run generalizing allowed with
  | nil => cases found
  | cons entry rest ih =>
    simp only [List.cons_append, orphan?] at found ⊢
    split_ifs at found ⊢ with fits
    · exact ih found
    · exact found

/-- An entry that is no deeper than a whole run before it may follow that run. -/
theorem orphan?_append_cons {allowed : Nat} {run : List Entry} {entry : Entry}
    (fine : orphan? allowed run = none) (fits : entry.depth ≤ allowed)
    (deeper : ∀ other ∈ run, entry.depth < other.depth) (later : List Entry) :
    orphan? allowed (run ++ entry :: later) = orphan? (entry.depth + 1) later := by
  induction run generalizing allowed with
  | nil => simp only [List.nil_append, orphan?, fits, ↓reduceIte]
  | cons other rest ih =>
    simp only [List.cons_append, orphan?] at fine ⊢
    split_ifs at fine ⊢ with allows
    have below := deeper other (List.mem_cons_self ..)
    exact ih fine (by omega) (fun next member => deeper next (List.mem_cons_of_mem _ member))

/-- How deep an entry may be that follows the given nodes at once. -/
def deepest (depth : Nat) : List Node → Nat
  | [] => depth
  | _ :: _ => depth + 1

/-- What grouping entries comes to: after the rows `before`, the outline lists all the entries,
numbered on from `count`; or the first entry that is too deep is refused. -/
def Settles (depth allowed count : Nat) (before : List Row) (entries : List Entry) :
    Except Indentation.Error (List Node × Nat) → Prop
  | .ok (nodes, total) =>
    orphan? allowed entries = none ∧ rowsAt depth nodes = before ++ numbered count entries ∧
      total = count + entries.length
  | .error error => orphan? allowed entries = some error

/-- What holds after a run and the entry that ends it holds of the run, the entry and the rest. -/
theorem Settles.of_later {depth allowed count : Nat} {before : List Row} {run later : List Entry}
    {entry : Entry} {result : Except Indentation.Error (List Node × Nat)}
    (fine : orphan? allowed run = none) (level : entry.depth = depth) (fits : depth ≤ allowed)
    (deeper : ∀ other ∈ run, depth < other.depth)
    (settled : Settles depth (depth + 1) (count + run.length + 1)
      (before ++ numbered count run ++
        [⟨depth, count + run.length + 1, entry.sourceLine, entry.text⟩]) later result) :
    Settles depth allowed count before (run ++ entry :: later) result := by
  subst level
  have follows := orphan?_append_cons fine fits deeper later
  cases result with
  | error error => exact follows.trans settled
  | ok grouped =>
    obtain ⟨settledFine, rows, total⟩ := settled
    refine ⟨follows.trans settledFine, ?_, ?_⟩
    · rw [rows, numbered_append]
      simp only [numbered, List.append_assoc, List.cons_append, List.nil_append]
    · rw [total, List.length_append, List.length_cons]
      omega

/-- The nodes in document order, where the result has them last first. -/
def inOrder (result : List Node × Nat) : List Node × Nat :=
  (result.1.reverse, result.2)

/-- Grouping the entries after `nodes` and a run that is held back settles that run and the rest.
The last node has no children until its run is attached. -/
def GroupSettles (depth count : Nat) (nodes : List Node) (run later : List Entry) : Prop :=
  (∀ entry ∈ run, depth < entry.depth) → (∀ entry ∈ later, depth ≤ entry.depth) →
    (∀ node ∈ nodes.head?, node.children = []) →
    Settles depth (deepest depth nodes) count (rowsAt depth nodes.reverse) (run.reverse ++ later)
      (group depth count nodes run later)

/-- Attaching a run to the last of `nodes` settles the run. -/
def AttachSettles (depth count : Nat) (nodes : List Node) (run : List Entry) : Prop :=
  (∀ entry ∈ run, depth < entry.depth) → (∀ node ∈ nodes.head?, node.children = []) →
    Settles depth (deepest depth nodes) count (rowsAt depth nodes.reverse) run
      ((attach depth count nodes run).map inOrder)

/-- At the end of a level the run that is held back is attached. -/
theorem GroupSettles.of_end (depth count : Nat) (nodes : List Node) (run : List Entry)
    (attached : AttachSettles depth count nodes run.reverse) :
    GroupSettles depth count nodes run [] := by
  intro deeper _ childless
  have settled := attached (by simpa using deeper) childless
  rw [group, List.append_nil]
  cases result : attach depth count nodes run.reverse <;> rw [result] at settled <;> exact settled

/-- A deeper entry joins the run. -/
theorem GroupSettles.of_held (depth count : Nat) (nodes : List Node) (run : List Entry)
    (entry : Entry) (later : List Entry) (below : depth < entry.depth)
    (grouped : GroupSettles depth count nodes (entry :: run) later) :
    GroupSettles depth count nodes run (entry :: later) := by
  intro deeper level childless
  rw [group, if_pos below]
  have settled := grouped
    (List.forall_mem_cons.mpr ⟨below, deeper⟩) (List.forall_mem_cons.mp level).2 childless
  simpa only [List.reverse_cons, List.append_assoc, List.cons_append, List.nil_append] using settled

/-- An entry of the level ends the run and becomes a node. -/
theorem GroupSettles.of_placed (depth count : Nat) (nodes : List Node) (run : List Entry)
    (entry : Entry) (later : List Entry) (notBelow : ¬ depth < entry.depth)
    (attached : AttachSettles depth count nodes run.reverse)
    (grouped : ∀ (nodes : List Node) (count : Nat), GroupSettles depth (count + 1)
      (⟨entry.text, count + 1, entry.sourceLine, []⟩ :: nodes) [] later) :
    GroupSettles depth count nodes run (entry :: later) := by
  intro deeper level childless
  have atDepth : entry.depth = depth :=
    Nat.le_antisymm (Nat.le_of_not_lt notBelow) (List.forall_mem_cons.mp level).1
  have deeperInOrder : ∀ other ∈ run.reverse, depth < other.depth := by simpa using deeper
  have settled := attached deeperInOrder childless
  rw [group, if_neg notBelow]
  cases result : attach depth count nodes run.reverse with
  | error error =>
    rw [result] at settled
    exact orphan?_append_of_some settled _
  | ok reached =>
    obtain ⟨parents, total⟩ := reached
    rw [result] at settled
    obtain ⟨fine, rows, rfl⟩ := settled
    have fits : depth ≤ deepest depth nodes := by cases nodes <;> simp [deepest]
    refine Settles.of_later fine atDepth fits deeperInOrder ?_
    have rest := grouped parents (count + run.reverse.length) (by simp)
      (List.forall_mem_cons.mp level).2 (by simp)
    rw [rowsAt_reverse_cons, rows, rowsAt_nil] at rest
    exact rest

theorem AttachSettles.of_nil (depth count : Nat) (nodes : List Node) :
    AttachSettles depth count nodes [] := by
  intro _ _
  rw [attach]
  exact ⟨rfl, by simp [numbered], rfl⟩

/-- Without a node before it, the first entry of a run is too deep. -/
theorem AttachSettles.of_orphan (depth count : Nat) (first : Entry) (rest : List Entry) :
    AttachSettles depth count [] (first :: rest) := by
  intro deeper _
  rw [attach]
  have below := deeper first (List.mem_cons_self ..)
  exact if_neg (by simpa only [deepest] using Nat.not_le_of_lt below)

/-- The rows of a run, grouped one level deeper, stand right after the row of their parent. -/
theorem AttachSettles.of_parent (depth count : Nat) (parent : Node) (earlier : List Node)
    (first : Entry) (rest : List Entry)
    (grouped : GroupSettles (depth + 1) count [] [] (first :: rest)) :
    AttachSettles depth count (parent :: earlier) (first :: rest) := by
  intro deeper childless
  have settled := grouped (by simp) (fun entry member => deeper entry member) (by simp)
  rw [attach]
  cases result : group (depth + 1) count [] [] (first :: rest) with
  | error error =>
    rw [result] at settled
    exact settled
  | ok reached =>
    rw [result] at settled
    obtain ⟨fine, rows, total⟩ := settled
    refine ⟨fine, ?_, total⟩
    have noChildren : parent.children = [] := childless parent rfl
    rw [rowsAt_reverse_cons, rowsAt_reverse_cons, noChildren, rows]
    simp

/-- Both invariants hold at every depth, by induction on the calls of grouping. -/
theorem group_attach_settles :
    (∀ (depth count : Nat) (nodes : List Node) (run later : List Entry),
      GroupSettles depth count nodes run later) ∧
    (∀ (depth count : Nat) (nodes : List Node) (run : List Entry),
      AttachSettles depth count nodes run) :=
  group.mutual_induct GroupSettles AttachSettles GroupSettles.of_end GroupSettles.of_held
    GroupSettles.of_placed AttachSettles.of_nil AttachSettles.of_orphan AttachSettles.of_parent

/-- Grouping a level from its start fails on the first entry that is too deep for the entry before
it, and otherwise lists all entries in order, at their depths. -/
theorem group_settles (depth count : Nat) (entries : List Entry)
    (level : ∀ entry ∈ entries, depth ≤ entry.depth) :
    Settles depth depth count [] entries (group depth count [] [] entries) := by
  simpa [deepest] using group_attach_settles.1 depth count [] [] entries (by simp) level (by simp)

end Haml.Outline
