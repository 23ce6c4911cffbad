import Haml.Element.Parse
import Mathlib.Data.List.TakeWhile

/-! # The selectors of an element line

Selectors that are written one after another can be read back, since no marker may stand in a name.
The head of a line is the longest start of it that is such a row of selectors.
-/

namespace Haml.Element

/-- A name is a word of at least one character. -/
structure IsName (name : Text) : Prop where
  nonempty : name ≠ []
  words : ∀ c ∈ name, isWord c = true

instance (name : Text) : Decidable (IsName name) :=
  decidable_of_iff (name ≠ [] ∧ name.all isWord = true)
    ⟨fun ⟨nonempty, words⟩ => ⟨nonempty, List.all_eq_true.mp words⟩,
      fun isName => ⟨isName.nonempty, List.all_eq_true.mpr isName.words⟩⟩

namespace Marker

/-- The character that stands for a marker. -/
def char : Marker → Char
  | .tag => '%'
  | .className => '.'
  | .id => '#'

@[simp]
theorem ofChar?_char (marker : Marker) : ofChar? marker.char = some marker := by
  cases marker <;> rfl

theorem eq_char_of_ofChar? {c : Char} {marker : Marker} (found : ofChar? c = some marker) :
    c = marker.char := by
  unfold ofChar? at found
  split at found <;> cases found <;> rfl

private theorem isWord_char (marker : Marker) : isWord marker.char = false := by
  cases marker <;> decide

end Marker

/-- A selector as it stands in a line. -/
def Selector.written (selector : Selector) : Text :=
  selector.marker.char :: selector.name

/-- Selectors as they stand in a line, one after another. -/
def written (selectors : List Selector) : Text :=
  selectors.flatMap Selector.written

@[simp]
theorem written_nil : written [] = [] :=
  rfl

theorem written_cons (selector : Selector) (later : List Selector) :
    written (selector :: later) = selector.marker.char :: (selector.name ++ written later) := by
  simp [written, Selector.written]

/-- No row of selectors starts with a character of a name. -/
theorem isWord_head_written (selector : Selector) (later : List Selector) (rest : Text) :
    ∀ c ∈ (written (selector :: later) ++ rest).head?, isWord c = false := by
  intro c first
  rw [written_cons, List.cons_append, List.head?_cons] at first
  exact Option.some.inj first ▸ selector.marker.isWord_char

theorem written_cons_append (selector : Selector) (later : List Selector) (rest : Text) :
    written (selector :: later) ++ rest = selector.written ++ (written later ++ rest) := by
  simp [written]

/-- The word that a name starts is the name, if what follows does not go on with it. -/
theorem IsName.takeWhile_append {name rest : Text} (named : IsName name)
    (ends : ∀ c ∈ rest.head?, isWord c = false) : (name ++ rest).takeWhile isWord = name := by
  rw [List.takeWhile_append_of_pos named.words]
  cases rest with
  | nil => exact List.append_nil name
  | cons d later => simp [ends d rfl]

theorem IsName.dropWhile_append {name rest : Text} (named : IsName name)
    (ends : ∀ c ∈ rest.head?, isWord c = false) : (name ++ rest).dropWhile isWord = rest := by
  rw [List.dropWhile_append_of_pos named.words]
  cases rest with
  | nil => rfl
  | cons d later => simp [ends d rfl]

/-- Reading a selector stops where its name does. -/
theorem readHead_written_append {selector : Selector} (named : IsName selector.name) {rest : Text}
    (ends : ∀ c ∈ rest.head?, isWord c = false) :
    readHead (selector.written ++ rest) = (selector :: (readHead rest).1, (readHead rest).2) := by
  obtain ⟨marker, name⟩ := selector
  have word := named.takeWhile_append ends
  have behind := named.dropWhile_append ends
  obtain ⟨c, more, rfl⟩ := List.exists_cons_of_ne_nil named.nonempty
  rw [Selector.written, List.cons_append, readHead, Marker.ofChar?_char, word, behind]

/-- A row of selectors is read back if what follows starts neither a selector nor more of a name. -/
theorem readHead_written {selectors : List Selector} (named : ∀ s ∈ selectors, IsName s.name)
    {tail : Text} (ends : ∀ c ∈ tail.head?, isWord c = false ∧ Marker.ofChar? c = none) :
    readHead (written selectors ++ tail) = (selectors, tail) := by
  induction selectors with
  | nil =>
    cases tail with
    | nil => rw [written_nil, List.nil_append, readHead]
    | cons c rest =>
      rw [written_nil, List.nil_append, readHead]
      simp [(ends c rfl).2]
  | cons selector later ih =>
    obtain ⟨name, names⟩ := List.forall_mem_cons.mp named
    have word : ∀ c ∈ (written later ++ tail).head?, isWord c = false := by
      cases later with
      | nil => exact fun c first => (ends c first).1
      | cons next others => exact isWord_head_written next others tail
    rw [written_cons_append, readHead_written_append name word, ih names]

/-- Different rows of selectors are written differently. -/
theorem eq_of_written_eq {first second : List Selector} (named : ∀ s ∈ first, IsName s.name)
    (others : ∀ s ∈ second, IsName s.name) (same : written first = written second) :
    first = second := by
  have readFirst : readHead (written first ++ []) = (first, []) := readHead_written named (by simp)
  have readSecond : readHead (written second ++ []) = (second, []) :=
    readHead_written others (by simp)
  rw [same, readSecond] at readFirst
  exact (congrArg Prod.fst readFirst).symm

/-- Reading the head of a line divides the line. -/
theorem written_readHead (line : Text) : written (readHead line).1 ++ (readHead line).2 = line := by
  fun_induction readHead line with
  | case1 => rfl
  | case2 mark rest marker c name word found later tail read ih =>
    rw [read] at ih
    rw [written_cons, Marker.eq_char_of_ofChar? found, ← word, List.cons_append, List.append_assoc,
      ih, List.takeWhile_append_dropWhile]
  | case3 => rfl

theorem isName_of_mem_readHead {line : Text} {selector : Selector}
    (member : selector ∈ (readHead line).1) : IsName selector.name := by
  fun_induction readHead line with
  | case1 => cases member
  | case2 mark rest marker c name word _ later tail read ih =>
    rw [read] at ih
    rcases List.mem_cons.mp member with rfl | member
    · refine ⟨List.cons_ne_nil _ _, fun d inside => ?_⟩
      rw [← word] at inside
      exact List.mem_takeWhile_imp inside
    · exact ih member
  | case3 => cases member

/-- Every row of selectors that a line starts with is a start of the row that is read. -/
theorem written_prefix_readHead {others : List Selector} (named : ∀ s ∈ others, IsName s.name)
    (rest : Text) : written others <+: written (readHead (written others ++ rest)).1 := by
  induction others with
  | nil => exact List.nil_prefix
  | cons selector more ih =>
    obtain ⟨name, names⟩ := List.forall_mem_cons.mp named
    cases more with
    | nil =>
      -- The last name goes on as far as there are characters of a name.
      have longer : IsName (selector.name ++ rest.takeWhile isWord) := by
        refine ⟨by simp [name.nonempty], fun c member => ?_⟩
        rcases List.mem_append.mp member with inside | behind
        · exact name.words c inside
        · exact List.mem_takeWhile_imp behind
      have ends : ∀ c ∈ (rest.dropWhile isWord).head?, isWord c = false := by
        intro c first
        have stopped := List.head?_dropWhile_not isWord rest
        rw [Option.mem_def.mp first] at stopped
        simpa using stopped
      have whole : written [selector] ++ rest =
          Selector.written ⟨selector.marker, selector.name ++ rest.takeWhile isWord⟩ ++
            rest.dropWhile isWord := by
        simp [written, Selector.written]
      rw [whole, readHead_written_append longer ends, written_cons, written_cons, written_nil,
        List.append_nil, List.append_assoc]
      exact List.cons_prefix_cons.mpr ⟨rfl, List.prefix_append _ _⟩
    | cons next later =>
      rw [written_cons_append, readHead_written_append name (isWord_head_written next later rest),
        written_cons, written_cons selector]
      exact List.cons_prefix_cons.mpr ⟨rfl, (List.prefix_append_right_inj _).mpr (ih names)⟩

end Haml.Element
