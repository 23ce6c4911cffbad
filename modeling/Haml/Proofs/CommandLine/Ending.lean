import Haml.Dump.Json
import Haml.Proofs.Dump.TreeView
import Haml.Proofs.Dump.Yaml
import Haml.Proofs.Outline.Rows
import Haml.Proofs.Script.Listing
import Haml.Proofs.Text.Trim

/-! # The ends of outputs

What is trimmed off an output depends on how it can end. A program ends with a semicolon, a JSON
dump with a brace and a YAML dump with a bracket in front of a line feed, whatever the template is,
so that nothing but line feeds is trimmed off them. A tree view ends with what it shows of the last
text of the outline. Where this is all of the text, the blank characters at its end are trimmed off
as well.
-/

namespace Haml

namespace Text

/-- The text with one line feed in place of those at its end. -/
def endedOnce (text : Text) : Text :=
  text.rdropWhile (· == '\n') ++ ['\n']

/-- The blank characters at the end of the text. -/
def blankEnd (text : Text) : Text :=
  text.rtakeWhile isBlank

/-- Only line feeds follow the last character of the text that is not blank, and there is one. -/
def IsClosed (text : Text) : Prop :=
  ∃ front last feeds, isBlank last = false ∧ text = front ++ last :: List.replicate feeds '\n'

private theorem trimEnd_append_blankEnd (text : Text) : text.trimEnd ++ text.blankEnd = text :=
  List.rdropWhile_append_rtakeWhile

private theorem isBlank_of_mem_blankEnd {text : Text} {c : Char} (member : c ∈ text.blankEnd) :
    isBlank c = true :=
  List.mem_rtakeWhile_imp member

private theorem mem_of_mem_blankEnd {text : Text} {c : Char} (member : c ∈ text.blankEnd) :
    c ∈ text :=
  (List.rtakeWhile_suffix isBlank text).mem member

theorem trimEnd_ne_nil {text : Text} (visible : text.allBlank = false) : text.trimEnd ≠ [] := by
  intro empty
  have blank : text.allBlank = true := List.all_eq_true.mpr (List.rdropWhile_eq_nil_iff.mp empty)
  rw [visible] at blank
  cases blank

/-- Trimming takes the blank characters at the end of a text and the line feeds behind them. -/
theorem endedOnce_append_feed {shown blanks : Text}
    (last : ∀ c ∈ shown.getLast?, isBlank c = false) (blank : ∀ c ∈ blanks, isBlank c = true)
    (unbroken : '\n' ∉ blanks) (feeds : Nat) :
    let text := shown ++ blanks ++ List.replicate feeds '\n'
    text.trimEnd = shown ∧ text.endedOnce = shown ++ blanks ++ ['\n'] := by
  constructor
  · have ending : ∀ c ∈ blanks ++ List.replicate feeds '\n', isBlank c = true := by
      intro c member
      rcases List.mem_append.mp member with inside | feed
      · exact blank c inside
      · rw [List.eq_of_mem_replicate feed]
        decide
    rw [List.append_assoc]
    exact (rdropWhile_append_of_pos ending shown).trans (trimEnd_eq_self last)
  · have kept : (shown ++ blanks).rdropWhile (· == '\n') = shown ++ blanks := by
      refine List.rdropWhile_eq_self_iff.mpr fun nonempty feed => ?_
      have ends := List.getLast?_eq_some_getLast nonempty
      rw [beq_iff_eq.mp feed, List.getLast?_append, Option.or_eq_some_iff] at ends
      rcases ends with inside | ⟨_, inside⟩
      · exact unbroken (List.mem_of_getLast? inside)
      · exact absurd (last _ inside) (by decide)
    rw [endedOnce, rdropWhile_append_of_pos (by simp), kept]

namespace IsClosed

theorem singleton {c : Char} (shown : isBlank c = false) : IsClosed [c] :=
  ⟨[], c, 0, shown, rfl⟩

theorem append_left {text : Text} (closed : text.IsClosed) (front : Text) :
    IsClosed (front ++ text) := by
  obtain ⟨before, last, feeds, shown, rfl⟩ := closed
  exact ⟨front ++ before, last, feeds, shown, (List.append_assoc ..).symm⟩

theorem of_suffix {text whole : Text} (closed : text.IsClosed) (suffix : text <:+ whole) :
    whole.IsClosed := by
  obtain ⟨front, rfl⟩ := suffix
  exact closed.append_left front

theorem append_feed {text : Text} (closed : text.IsClosed) : IsClosed (text ++ ['\n']) := by
  obtain ⟨front, last, feeds, shown, rfl⟩ := closed
  refine ⟨front, last, feeds + 1, shown, ?_⟩
  rw [List.append_assoc, List.cons_append, List.replicate_succ']

theorem endedOnce_eq {text : Text} (closed : text.IsClosed) :
    text.endedOnce = text.trimEnd ++ ['\n'] := by
  obtain ⟨front, last, feeds, shown, rfl⟩ := closed
  have whole : front ++ last :: List.replicate feeds '\n' =
      front ++ [last] ++ [] ++ List.replicate feeds '\n' := by simp
  have ends : ∀ c ∈ (front ++ [last]).getLast?, isBlank c = false := by simp [shown]
  obtain ⟨trimmed, ended⟩ := endedOnce_append_feed ends (by simp) List.not_mem_nil feeds
  rw [whole, trimmed, ended, List.append_nil]

end IsClosed

end Text

open Text

/-- A program ends with the line that gives its result. -/
theorem Script.isClosed_of_compile {script : Options} {options : Haml.Options}
    {template program : Text}
    (success : (compile (Script.target script) options template).outcome = .ok program) :
    program.IsClosed := by
  obtain ⟨outline, _, rendered⟩ := exists_outline_of_compile success
  rw [Outline.outcome_render rfl] at rendered
  obtain ⟨blocks, _, written⟩ := exists_of_bind_eq_ok rendered
  obtain rfl := Except.ok.inj written
  have closed : IsClosed ('\n' :: Script.result script) :=
    (IsClosed.singleton (by decide)).append_left ('\n' :: ("return ".toList ++ script.output))
  have lines : (target script).dialect.program blocks = _ := program_eq script blocks
  rw [lines, ← List.append_assoc, joinLines_append (by simp [declarations]) (by simp),
    joinLines_singleton]
  exact closed.append_left _

namespace Json

private theorem suffix_field (front rest : Text) : rest <:+ front ++ ':' :: ' ' :: rest :=
  ⟨front ++ [':', ' '], by rw [List.append_assoc, List.cons_append, List.singleton_append]⟩

mutual

/-- A document is written in front of a text. -/
theorem suffix_prettyAt (level : Nat) (rest : Text) : (document : Json) →
    rest <:+ prettyAt level rest document
  | .number _ => List.suffix_append _ _
  | .string _ => List.suffix_append _ _
  | .array [] => List.suffix_append ['[', ']'] rest
  | .array (item :: items) => by
    have close : rest <:+ newline level ++ ']' :: rest :=
      (List.suffix_cons ']' rest).trans (List.suffix_append _ _)
    rw [prettyAt]
    exact ((close.trans (suffix_prettyItems level _ items)).trans (suffix_prettyAt _ _ item)).trans
      (List.suffix_append _ _)
  | .object [] => List.suffix_append ['{', '}'] rest
  | .object ((name, value) :: fields) => by
    have close : rest <:+ newline level ++ '}' :: rest :=
      (List.suffix_cons '}' rest).trans (List.suffix_append _ _)
    rw [prettyAt]
    exact ((close.trans (suffix_prettyFields level _ fields)).trans
      (suffix_prettyAt _ _ value)).trans (suffix_field _ _)

theorem suffix_prettyItems (level : Nat) (rest : Text) : (items : List Json) →
    rest <:+ prettyItems level rest items
  | [] => List.suffix_rfl
  | item :: items => by
    rw [prettyItems]
    exact ((suffix_prettyItems level rest items).trans (suffix_prettyAt _ _ item)).trans
      (List.suffix_append _ _)

theorem suffix_prettyFields (level : Nat) (rest : Text) : (fields : List (Text × Json)) →
    rest <:+ prettyFields level rest fields
  | [] => List.suffix_rfl
  | (name, value) :: fields => by
    rw [prettyFields]
    exact ((suffix_prettyFields level rest fields).trans (suffix_prettyAt _ _ value)).trans
      (suffix_field _ _)

end

end Json

/-- A JSON dump ends with the brace that closes its root. -/
theorem Outline.isClosed_jsonDump (outline : Outline) : outline.jsonDump.IsClosed := by
  have brace : IsClosed (Json.newline 0 ++ ['}']) := (IsClosed.singleton (by decide)).append_left _
  have fields := brace.of_suffix (Json.suffix_prettyFields 0 _ [("line_number".toList, .number 0),
    ("children".toList, .array outline.toJson)])
  have object := fields.of_suffix (Json.suffix_prettyAt 1 _ (.string []))
  rw [jsonDump, Node.root, Node.toJson, Json.pretty, Json.prettyAt]
  exact object.of_suffix (Json.suffix_field _ _)

namespace Yaml

/-- The last of the lines is that of a node without children. -/
def EndsChildless (lines : List Text) : Prop :=
  ∃ earlier before, lines = earlier ++ [before ++ "children: []".toList]

theorem EndsChildless.append_left {lines : List Text} (ends : EndsChildless lines)
    (front : List Text) : EndsChildless (front ++ lines) := by
  obtain ⟨earlier, before, rfl⟩ := ends
  exact ⟨front ++ earlier, before, (List.append_assoc ..).symm⟩

theorem endsChildless_block (depth : Nat) (text : Text) (number sourceLine : Nat) :
    EndsChildless (block depth ⟨text, number, sourceLine, []⟩) :=
  ⟨[_, _], margin depth, rfl⟩

end Yaml

open Yaml in
/-- The last line of a forest is that of its last node in document order, which has no children. -/
theorem Outline.endsChildless_yamlLines {outline : Outline} (nonempty : outline ≠ [])
    (depth : Nat) : EndsChildless (outline.yamlLines depth) := by
  induction outline using Outline.induction generalizing depth with
  | nil => exact absurd rfl nonempty
  | cons text number sourceLine children later nested beside =>
    rw [yamlLines_cons]
    -- The last node is among the later ones, or else below this one, or else this one.
    cases later with
    | cons next others =>
      exact ((beside (List.cons_ne_nil _ _) depth).append_left _).append_left _
    | nil =>
      rw [yamlLines, List.append_nil]
      cases children with
      | nil => simpa [yamlLines] using endsChildless_block depth text number sourceLine
      | cons child others => exact (nested (List.cons_ne_nil _ _) (depth + 1)).append_left _

/-- A YAML dump ends with the empty list of children of its last node. -/
theorem Outline.isClosed_yamlDump (outline : Outline) : outline.yamlDump.IsClosed := by
  have ends : Yaml.EndsChildless ((Node.root outline).yamlLines 0) := by
    rw [Node.yamlLines_eq]
    cases outline with
    | nil => simpa [Node.root, yamlLines] using Yaml.endsChildless_block 0 [] 0 0
    | cons first later => exact (endsChildless_yamlLines (List.cons_ne_nil _ _) 1).append_left _
  obtain ⟨earlier, before, lines⟩ := ends
  have bracket : IsClosed (before ++ "children: []".toList) :=
    ((IsClosed.singleton (by decide)).append_left "children: [".toList).append_left before
  rw [yamlDump, lines, List.flatMap_append, List.flatMap_singleton]
  exact bracket.append_feed.append_left _

namespace TreeView

/-- What of the text of the last line of a view is not printed: the blank characters at its end,
unless the view cuts the text. -/
def hiddenEnd (text : Text) : Text :=
  if text.length ≤ 40 then text.blankEnd else []

/-- A view ends with a line feed behind what it shows of its last text. -/
theorem endedOnce_shownLine {row : Row} (visible : row.text.allBlank = false)
    (unbroken : '\n' ∉ row.text) (earlier : Text) :
    let view := earlier ++ line row
    view.endedOnce = view.trimEnd ++ hiddenEnd row.text ++ ['\n'] := by
  intro view
  obtain ⟨before, shows⟩ : ∃ before, shownLine row = before ++ row.text.glimpse :=
    ⟨List.replicate (2 * row.depth) ' ' ++ icon (LineKind.of false row.text) :: ' ' ::
      padLeft 3 (ofNat row.number) ++ [' '], by simp [shownLine]⟩
  have whole : view = earlier ++ before ++ row.text.glimpse ++ ['\n'] := by
    simp only [view, line_eq, shows, List.append_assoc]
  -- A text that is cut ends with dots, which are not blank whatever the text is.
  by_cases short : row.text.length ≤ 40
  · have last : ∀ c ∈ (earlier ++ before ++ row.text.trimEnd).getLast?, isBlank c = false := by
      intro c last
      rw [List.getLast?_append_of_ne_nil _ (trimEnd_ne_nil visible)] at last
      exact isBlank_getLast_trimEnd last
    have flat : '\n' ∉ row.text.blankEnd := fun feed => unbroken (mem_of_mem_blankEnd feed)
    obtain ⟨trimmed, ended⟩ :=
      endedOnce_append_feed last (fun _ => isBlank_of_mem_blankEnd) flat 1
    have parts : view = earlier ++ before ++ row.text.trimEnd ++ row.text.blankEnd ++
        List.replicate 1 '\n' := by
      rw [whole, Text.glimpse, if_pos short, List.append_assoc _ row.text.trimEnd,
        trimEnd_append_blankEnd]
      rfl
    rw [parts, trimmed, ended, hiddenEnd, if_pos short]
  · have closed : view.IsClosed := by
      rw [whole, Text.glimpse, if_neg short]
      have dots : IsClosed ['.', '.', '.'] :=
        (IsClosed.singleton (by decide)).append_left ['.', '.']
      exact ((dots.append_left _).append_left _).append_feed
    rw [closed.endedOnce_eq, hiddenEnd, if_neg short, List.append_nil]

end TreeView

/-- What of a template a tree view shows but a run does not print. -/
def Outline.hiddenEnd (template : Text) : Text :=
  match (visibleLines template).getLast? with
  | none => []
  | some (line, _) => TreeView.hiddenEnd (Indentation.content line)

/-- Besides line feeds, trimming takes from a tree view the blank characters at the end of the last
line of the template that is not blank, where the view shows all of that line. -/
theorem Outline.endedOnce_treeView {template : Text} {outline : Outline}
    (parsed : Outline.parse template = .ok outline) :
    outline.treeView.endedOnce = outline.treeView.trimEnd ++ hiddenEnd template ++ ['\n'] := by
  have rows := (rows_of_parse parsed).trans (numbered_map_entry _ 0 _)
  rcases List.eq_nil_or_concat (visibleLines template) with
    none | ⟨earlier, ⟨line, position⟩, lines⟩
  · rw [none] at rows
    rw [hiddenEnd, none, treeView, rows]
    rfl
  · rw [List.concat_eq_append] at lines
    have member : (line, position) ∈ visibleLines template := by simp [lines]
    obtain ⟨visible, unbroken⟩ := mem_visibleLines member
    rw [lines, List.zipIdx_append, List.map_append, List.zipIdx_singleton,
      List.map_singleton] at rows
    rw [hiddenEnd, lines, List.getLast?_concat, treeView, rows, List.flatMap_append,
      List.flatMap_singleton]
    exact TreeView.endedOnce_shownLine (Indentation.allBlank_content visible)
      (fun feed => unbroken ((List.dropWhile_sublist _).mem feed)) _

end Haml
