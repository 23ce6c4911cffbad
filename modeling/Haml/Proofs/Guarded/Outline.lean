import Haml.Proofs.Guarded.Basic
import Haml.Proofs.Outline.Nesting

/-! # Reading an outline without a breach

Here a line is measured in bytes and cut behind its indentation, and a run of deeper lines is held
back by the index of its first line, to be taken out of the level as a range of indices. The unit
is never zero, the indentation ends between two characters, and a run that is held back is a range
of the level that is neither empty nor the whole level, once it has a node before it. So no rule is
broken, and the outline is the one that reading gives.
-/

namespace Haml

namespace Guarded

open Outline Indentation

/-- Whether the byte is a space or a tab. -/
def isIndentByte (byte : UInt8) : Bool :=
  byte == ' '.toUInt8 || byte == '\t'.toUInt8

/-- The number of bytes that a line starts with and that are spaces or tabs. -/
def byteWidth (line : Text) : Nat :=
  (line.utf8.takeWhile isIndentByte).length

/-- The width in bytes of the first indented line, and one where no line is indented. -/
def unit (source : Text) : Nat :=
  let widths := (source.lines.filter fun line => !line.allBlank).map byteWidth
  (widths.find? (0 < ·)).getD 1

/-- The entry of a line that stands at the given physical position. -/
def scanLine (unit : Nat) : Text × Nat → Guarded (Except Indentation.Error) Entry
  | (line, sourceLine) => do
    let width := byteWidth line
    if (← remainder width unit) = 0 then
      let depth ← quotient width unit
      let text ← sliceFrom width line
      return ⟨depth, sourceLine, text⟩
    else
      refused ⟨sourceLine, .uneven width unit⟩

mutual

/-- The nodes at the given depth of a level, `lines`, of which those from `index` on are to come.
The deeper lines from `pending` on are held back. -/
def group (depth : Nat) (lines : List Entry) (index count : Nat) (nodes : List Node)
    (pending : Option Nat) : List Entry → Guarded (Except Indentation.Error) (List Node × Nat)
  | [] => do
    let (nodes, count) ← attach depth lines lines.length count nodes pending
    return (nodes.reverse, count)
  | entry :: later =>
    if depth < entry.depth then
      group depth lines (index + 1) count nodes (pending.or (some index)) later
    else do
      let (nodes, count) ← attach depth lines index count nodes pending
      group depth lines (index + 1) (count + 1)
        (⟨entry.text, count + 1, entry.sourceLine, []⟩ :: nodes) none later
  termination_by later => (lines.length, later.length + 1)

/-- Groups the lines of a level from `pending` up to `stop`, if any are held back, under the last
of the nodes so far. -/
def attach (depth : Nat) (lines : List Entry) (stop count : Nat) (nodes : List Node) :
    Option Nat → Guarded (Except Indentation.Error) (List Node × Nat)
  | none => pure (nodes, count)
  | some start => do
    let block ← range start stop lines
    match nodes with
    | [] =>
      let entry ← first block
      refused ⟨entry.sourceLine, .orphan entry.depth depth⟩
    | parent :: earlier =>
      if _shorter : block.length < lines.length then
        let (children, count) ← group (depth + 1) block 0 count [] none block
        return ({ parent with children } :: earlier, count)
      else
        broken .recursion
  termination_by (lines.length, 0)

end

/-- Reads the outline of a template. -/
def readOutline (source : Text) : Guarded (Except Indentation.Error) Outline := do
  let entries ← (visibleLines source).mapM (scanLine (unit source))
  let (outline, _) ← group 0 entries 0 0 [] none entries
  return outline

/-! ### Bytes of an indentation -/

private theorem isIndentByte_iff (byte : UInt8) :
    isIndentByte byte = true ↔ byte.toNat = 32 ∨ byte.toNat = 9 := by
  rw [isIndentByte, Bool.or_eq_true, beq_iff_eq, beq_iff_eq, ← UInt8.toNat_inj, ← UInt8.toNat_inj]
  rfl

private theorem isIndent_iff (c : Char) : isIndent c = true ↔ c.toNat = 32 ∨ c.toNat = 9 := by
  rw [isIndent, Bool.or_eq_true, beq_iff_eq, beq_iff_eq, ← Char.toNat_inj, ← Char.toNat_inj]
  rfl

/-- A character beyond ASCII starts with a byte beyond ASCII. -/
theorem exists_lead_of_wide {c : Char} (wide : 127 < c.toNat) :
    ∃ lead later, String.utf8EncodeChar c = lead :: later ∧ 127 < lead.toNat := by
  have notAscii : ¬ c.val.toNat ≤ 127 := by
    change ¬ c.toNat ≤ 127
    omega
  rw [String.utf8EncodeChar, if_neg notAscii]
  split_ifs
  all_goals
    refine ⟨_, _, rfl, ?_⟩
    rw [UInt8.toNat_ofNat']
    omega

/-- No byte at the start of another character is taken for a space or a tab. -/
theorem exists_lead_of_visible {c : Char} (visible : isIndent c = false) :
    ∃ lead later, String.utf8EncodeChar c = lead :: later ∧ isIndentByte lead = false := by
  rw [← Bool.not_eq_true, isIndent_iff] at visible
  simp only [← Bool.not_eq_true, isIndentByte_iff]
  rcases Nat.lt_or_ge 127 c.toNat with wide | ascii
  · obtain ⟨lead, later, encoded, beyond⟩ := exists_lead_of_wide wide
    exact ⟨lead, later, encoded, by omega⟩
  · refine ⟨_, [], if_pos ascii, ?_⟩
    change ¬ ((UInt8.ofNat c.toNat).toNat = 32 ∨ (UInt8.ofNat c.toNat).toNat = 9)
    rw [UInt8.toNat_ofNat']
    omega

/-- A space or a tab is one byte, which is taken for one. -/
theorem encoded_of_isIndent {c : Char} (indent : isIndent c = true) :
    String.utf8EncodeChar c = [c.toUInt8] ∧ isIndentByte c.toUInt8 = true ∧ c.utf8Size = 1 := by
  simp only [isIndent, Bool.or_eq_true, beq_iff_eq] at indent
  rcases indent with rfl | rfl <;> decide

/-- The bytes that indent a line are as many as the characters that do. -/
theorem byteWidth_eq (line : Text) : byteWidth line = width line := by
  induction line with
  | nil => rfl
  | cons c rest ih =>
    rw [byteWidth, width] at *
    cases indent : isIndent c with
    | true =>
      obtain ⟨encoded, taken, _⟩ := encoded_of_isIndent indent
      rw [Text.utf8, List.flatMap_cons, encoded, List.singleton_append,
        List.takeWhile_cons_of_pos taken, List.takeWhile_cons_of_pos indent, List.length_cons,
        List.length_cons, ← ih]
      rfl
    | false =>
      obtain ⟨lead, later, encoded, visible⟩ := exists_lead_of_visible indent
      rw [Text.utf8, List.flatMap_cons, encoded, List.cons_append,
        List.takeWhile_cons_of_neg (by simp [visible]),
        List.takeWhile_cons_of_neg (by simp [indent])]
      rfl

/-- An indentation is as many bytes as characters. -/
theorem byteSize_indentation (line : Text) :
    Text.byteSize (line.takeWhile isIndent) = width line := by
  rw [width]
  induction line with
  | nil => rfl
  | cons c rest ih =>
    cases indent : isIndent c with
    | true =>
      obtain ⟨_, _, single⟩ := encoded_of_isIndent indent
      rw [List.takeWhile_cons_of_pos indent, Text.byteSize, List.length_cons, single, ih,
        Nat.add_comm]
    | false =>
      rw [List.takeWhile_cons_of_neg (by simp [indent])]
      rfl

theorem unit_eq (source : Text) : unit source = Indentation.unit source := by
  rw [unit, funext byteWidth_eq, Indentation.unit]

/-- A line is cut behind its indentation, between two characters. -/
theorem sliceFrom_width {m : Type → Type} [Monad m] (line : Text) :
    (sliceFrom (width line) line : Guarded m Text) = pure (content line) := by
  have cut := sliceFrom_append (m := m) (line.takeWhile isIndent) (line.dropWhile isIndent)
  rwa [List.takeWhile_append_dropWhile, byteSize_indentation] at cut

theorem scanLine_eq {unit : Nat} (positive : 0 < unit) (line : Text × Nat) :
    scanLine unit line = unbroken (Outline.scanLine unit line) := by
  obtain ⟨line, sourceLine⟩ := line
  have nonzero : unit ≠ 0 := Nat.ne_of_gt positive
  simp only [scanLine, byteWidth_eq, remainder_of_pos positive, quotient_of_pos positive,
    sliceFrom_width, pure_bind, Outline.scanLine, Indentation.depth, if_neg nonzero]
  split
  · exact (unbroken_pure _).symm
  · rfl

/-! ### Ranges of a level -/

/-- The index at which a run starts that stands behind the given lines, where there is a run. -/
def held (before run : List Entry) : Option Nat :=
  if run.isEmpty then none else some before.length

theorem held_cons (before : List Entry) (entry : Entry) (run : List Entry) :
    (held before run).or (some (before.length + run.length)) = held before (entry :: run) := by
  cases run <;> rfl

private theorem held_reverse (before run : List Entry) :
    held before run.reverse = held before run := by
  rw [held, List.isEmpty_reverse, held]

/-- A level is grouped without a breach from the place on that `nodes` and `run` have brought it
to. The lines before the run are not none once there is a node. -/
def GroupUnbroken (depth count : Nat) (nodes : List Node) (run later : List Entry) : Prop :=
  ∀ before : List Entry, (nodes ≠ [] → before ≠ []) →
    group depth (before ++ (run.reverse ++ later)) (before.length + run.length) count nodes
      (held before run) later = unbroken (Outline.group depth count nodes run later)

/-- A run is attached without a breach, wherever in its level it stands. -/
def AttachUnbroken (depth count : Nat) (nodes : List Node) (run : List Entry) : Prop :=
  ∀ before after : List Entry, (nodes ≠ [] → before ≠ []) →
    attach depth (before ++ (run ++ after)) (before.length + run.length) count nodes
      (held before run) = unbroken (Outline.attach depth count nodes run)

theorem GroupUnbroken.of_end (depth count : Nat) (nodes : List Node) (run : List Entry)
    (attached : AttachUnbroken depth count nodes run.reverse) :
    GroupUnbroken depth count nodes run [] := by
  intro before led
  have whole : (before ++ (run.reverse ++ [])).length = before.length + run.reverse.length := by
    simp
  rw [group, Outline.group, unbroken_bind, whole, ← held_reverse, attached before [] led]
  simp only [unbroken_pure]

theorem GroupUnbroken.of_held (depth count : Nat) (nodes : List Node) (run : List Entry)
    (entry : Entry) (later : List Entry) (below : depth < entry.depth)
    (grouped : GroupUnbroken depth count nodes (entry :: run) later) :
    GroupUnbroken depth count nodes run (entry :: later) := by
  intro before led
  have step := grouped before led
  rw [List.reverse_cons, List.append_assoc, List.singleton_append, List.length_cons,
    ← Nat.add_assoc] at step
  rw [group, if_pos below, Outline.group, if_pos below, held_cons, step]

theorem GroupUnbroken.of_placed (depth count : Nat) (nodes : List Node) (run : List Entry)
    (entry : Entry) (later : List Entry) (notBelow : ¬ depth < entry.depth)
    (attached : AttachUnbroken depth count nodes run.reverse)
    (grouped : ∀ (nodes : List Node) (count : Nat), GroupUnbroken depth (count + 1)
      (⟨entry.text, count + 1, entry.sourceLine, []⟩ :: nodes) [] later) :
    GroupUnbroken depth count nodes run (entry :: later) := by
  intro before led
  have block := attached before (entry :: later) led
  rw [List.length_reverse, held_reverse] at block
  rw [group, if_neg notBelow, Outline.group, if_neg notBelow, unbroken_bind, block]
  congr 1
  funext reached
  obtain ⟨nodes, count⟩ := reached
  -- The entry is now one of the lines before the next run, so these are not none.
  have step := grouped nodes count (before ++ (run.reverse ++ [entry])) (by simp)
  simpa [held, Nat.add_assoc] using step

theorem AttachUnbroken.of_nil (depth count : Nat) (nodes : List Node) :
    AttachUnbroken depth count nodes [] := by
  intro before after _
  rw [held, List.isEmpty_nil, if_pos rfl, attach, Outline.attach]
  exact (unbroken_pure _).symm

/-- A run without a node before it has a first line, which is refused. -/
theorem AttachUnbroken.of_orphan (depth count : Nat) (first : Entry) (rest : List Entry) :
    AttachUnbroken depth count [] (first :: rest) := by
  intro before after _
  rw [held, if_neg (by simp), attach, range_append, pure_bind, Outline.attach]
  rfl

/-- A run under a node is shorter than the level, since the line of the node is not in it. -/
theorem AttachUnbroken.of_parent (depth count : Nat) (parent : Node) (earlier : List Node)
    (first : Entry) (rest : List Entry)
    (grouped : GroupUnbroken (depth + 1) count [] [] (first :: rest)) :
    AttachUnbroken depth count (parent :: earlier) (first :: rest) := by
  intro before after led
  have shorter : (first :: rest).length < (before ++ ((first :: rest) ++ after)).length := by
    have nonempty := List.length_pos_iff.mpr (led (by simp))
    simp only [List.length_append]
    omega
  have inner := grouped [] (by simp)
  rw [held, if_neg (by simp), attach, range_append, pure_bind, Outline.attach, unbroken_bind]
  dsimp only
  rw [dif_pos shorter]
  simp only [unbroken_pure]
  exact congrArg (· >>= _) inner

/-- Grouping breaks no rule, by induction on its calls. -/
theorem group_attach_unbroken :
    (∀ (depth count : Nat) (nodes : List Node) (run later : List Entry),
      GroupUnbroken depth count nodes run later) ∧
    (∀ (depth count : Nat) (nodes : List Node) (run : List Entry),
      AttachUnbroken depth count nodes run) :=
  Outline.group.mutual_induct GroupUnbroken AttachUnbroken GroupUnbroken.of_end
    GroupUnbroken.of_held GroupUnbroken.of_placed AttachUnbroken.of_nil AttachUnbroken.of_orphan
    AttachUnbroken.of_parent

theorem group_eq (depth count : Nat) (entries : List Entry) :
    group depth entries 0 count [] none entries =
      unbroken (Outline.group depth count [] [] entries) :=
  group_attach_unbroken.1 depth count [] [] entries [] (by simp)

/-- Every template is read without a breach. -/
theorem readOutline_eq (source : Text) : readOutline source = unbroken (Outline.parse source) := by
  rw [readOutline, unit_eq, mapM_unbroken (scanLine_eq (unit_pos source))]
  simp only [group_eq, Outline.parse, scan, unbroken_bind, unbroken_pure]

/-- No template has a unit of no width to be refused for. -/
theorem parse_ne_zeroUnit (source : Text) (line : Nat) :
    Outline.parse source ≠ .error ⟨line, .zeroUnit⟩ := by
  intro failed
  rcases even_or_first_uneven (Indentation.unit source) (visibleLines source) with
    even | ⟨before, first, after, split, even, uneven⟩
  · have outcome := parse_of_even even
    rw [failed] at outcome
    obtain ⟨_, _, _, _, _, _, _, orphan⟩ := (orphan?_eq_some_iff ..).mp outcome
    cases orphan
  · cases failed.symm.trans (parse_of_uneven split even uneven)

end Guarded

end Haml
