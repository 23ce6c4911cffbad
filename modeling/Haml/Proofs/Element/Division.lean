import Haml.Proofs.Element.Selectors
import Haml.Proofs.Element.Tail

/-! # The grammar of element lines

A line is divided into its longest head of selectors and a tail of blocks, gaps and content. There
is at most one such division, lines are accepted exactly if they have one, and it tells what the
element is.
-/

namespace Haml.Element

/-- An element line divided behind its longest head of selectors. -/
@[ext]
structure Head (line : Text) where
  selectors : List Selector
  tail : Text
  named : ∀ selector ∈ selectors, IsName selector.name
  /-- No longer start of the line is a row of selectors. -/
  longest : ∀ others : List Selector, (∀ selector ∈ others, IsName selector.name) →
    written others <+: line → (written others).length ≤ (written selectors).length
  whole : written selectors ++ tail = line

namespace Head

variable {line : Text}

/-- The head that is read is the longest one. -/
theorem readHead_eq (head : Head line) : readHead line = (head.selectors, head.tail) := by
  have start : written (readHead line).1 <+: line := ⟨_, written_readHead line⟩
  have further : written head.selectors <+: written (readHead line).1 := by
    have read := written_prefix_readHead head.named head.tail
    rwa [head.whole] at read
  have same : written head.selectors = written (readHead line).1 :=
    further.eq_of_length_le (head.longest _ (fun _ => isName_of_mem_readHead) start)
  have selectors : head.selectors = (readHead line).1 :=
    eq_of_written_eq head.named (fun _ => isName_of_mem_readHead) same
  have tail : written head.selectors ++ head.tail =
      written head.selectors ++ (readHead line).2 := by
    rw [head.whole, same, written_readHead]
  rw [selectors, List.append_cancel_left tail]

theorem unique (first second : Head line) : first = second := by
  obtain ⟨selectors, tail⟩ := Prod.mk.inj (first.readHead_eq.symm.trans second.readHead_eq)
  exact Head.ext selectors tail

/-- Every line has a longest head, which is the one that is read. -/
def ofLine (line : Text) : Head line where
  selectors := (readHead line).1
  tail := (readHead line).2
  named _ := isName_of_mem_readHead
  longest := by
    rintro others named ⟨rest, rfl⟩
    exact (written_prefix_readHead named rest).length_le
  whole := written_readHead line

end Head

/-- The parts that an element line consists of. -/
@[ext]
structure Division (line : Text) where
  head : Head line
  tail : Tail
  whole : tail.text = head.tail

namespace Division

variable {line : Text}

/-- The element that a line stands for. -/
def element (division : Division line) (selfClosing : List Text) : Element :=
  let tag := (names .tag division.head.selectors).getLast?.getD "div".toList
  { tag
    id := (names .id division.head.selectors).getLast?
    classes := names .className division.head.selectors
    attributes := division.tail.attributes
    inline := division.tail.inline
    selfClosing := selfClosing.contains tag }

theorem text_suffix (division : Division line) : division.tail.text <:+ line :=
  ⟨_, division.whole ▸ division.head.whole⟩

theorem unique (first second : Division line) : first = second := by
  have heads := first.head.unique second.head
  have tails : first.tail.text = second.tail.text := by
    rw [first.whole, second.whole, heads]
  exact Division.ext heads (Tail.text_injective tails)

end Division

/-- A line is read through its head and its tail. -/
theorem parse_eq (selfClosing : List Text) (line : Text) :
    parse selfClosing line =
      (readTail (Text.byteSize line - Text.byteSize (readHead line).2) 0 [] none
        (readHead line).2).map fun (attributes, inline) =>
          let tag := (names .tag (readHead line).1).getLast?.getD "div".toList
          { tag
            id := (names .id (readHead line).1).getLast?
            classes := names .className (readHead line).1
            attributes
            inline
            selfClosing := selfClosing.contains tag } := by
  rw [parse]
  rcases readHead line with ⟨selectors, tail⟩
  dsimp only
  cases readTail (Text.byteSize line - Text.byteSize tail) 0 [] none tail <;> rfl

/-- A line with a division is accepted. -/
theorem Division.parse_eq_ok {line : Text} (division : Division line) (selfClosing : List Text) :
    parse selfClosing line = .ok (division.element selfClosing) := by
  rw [parse_eq, division.head.readHead_eq, ← division.whole, readTail_text, Option.or_none]
  rfl

/-- A line that is accepted has a division. -/
theorem exists_division_of_parse {selfClosing : List Text} {line : Text} {element : Element}
    (success : parse selfClosing line = .ok element) :
    ∃ division : Division line, division.element selfClosing = element := by
  have divided : Nonempty (Division line) := by
    rw [parse_eq] at success
    cases read : readTail (Text.byteSize line - Text.byteSize (readHead line).2) 0 [] none
        (readHead line).2 with
    | error fault =>
      rw [read] at success
      cases success
    | ok parts =>
      obtain ⟨tail, text, _⟩ := exists_tail_of_readTail (.inl ⟨rfl, rfl⟩) read
      exact ⟨Head.ofLine line, tail, text⟩
  obtain ⟨division⟩ := divided
  exact ⟨division, Except.ok.inj ((division.parse_eq_ok selfClosing).symm.trans success)⟩

/-- Element lines are exactly the lines with a division, which is unique and determines the
element. -/
theorem parse_accepts_grammar (selfClosing : List Text) (line : Text) :
    Subsingleton (Division line) ∧
      ∀ element, parse selfClosing line = .ok element ↔
        ∃ division : Division line, division.element selfClosing = element := by
  refine ⟨⟨Division.unique⟩, fun element => ⟨exists_division_of_parse, ?_⟩⟩
  rintro ⟨division, rfl⟩
  exact division.parse_eq_ok selfClosing

end Haml.Element
