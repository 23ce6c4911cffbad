import Haml.Proofs.Element.Division

/-! # The canonical form of an element line

Every element that a line can stand for has a canonical line: the tag, the classes and the identity
in this order, then the block and the content. Reading the canonical line gives the element back.
-/

namespace Haml

namespace Inline

/-- What may be held: trimmed text, or an expression with its mark. -/
def WellFormed : Inline → Prop
  | .text shown => shown ≠ [] ∧ Text.IsTrimmed shown
  | .expression source =>
    (∃ mark ∈ ['=', '!'], source.head? = some mark) ∧ ∀ c ∈ source.getLast?, isBlank c = false

/-- What is held, as it stands at the end of a line. -/
def written : Inline → Text
  | .text shown => ' ' :: shown
  | .expression source => source

private theorem shown_mark : ∀ mark ∈ ['=', '!'], isBlank mark = false ∧ mark ≠ ' ' :=
  List.forall_mem_cons.mpr ⟨by decide, List.forall_mem_singleton.mpr (by decide)⟩

namespace WellFormed

variable {inline : Inline} (wellFormed : inline.WellFormed)
include wellFormed

theorem isContent : Element.IsContent inline.written := by
  intro c first
  cases inline with
  | text shown =>
    obtain rfl := Option.some.inj first
    decide
  | expression source =>
    obtain ⟨mark, isMark, start⟩ := wellFormed.1
    obtain rfl := Option.some.inj (start.symm.trans first)
    exact List.mem_cons_of_mem _ isMark

/-- What is held is read back from the end of a line. -/
theorem heldIn_written : Element.heldIn inline.written = some inline := by
  cases inline with
  | text shown =>
    obtain ⟨nonempty, trimmed⟩ := wellFormed
    have trim : Text.trim (' ' :: shown) = shown := by
      rw [Text.trim_cons_of_blank (by decide), trimmed.trim_eq]
    have visible : Text.allBlank (' ' :: shown) = false := by
      rw [← Bool.not_eq_true, ← Text.trim_eq_nil_iff, trim]
      exact nonempty
    simp [Element.heldIn, written, visible, trim]
  | expression source =>
    obtain ⟨⟨mark, isMark, start⟩, last⟩ := wellFormed
    obtain ⟨rest, rfl⟩ := List.head?_eq_some_iff.mp start
    obtain ⟨shown, other⟩ := shown_mark mark isMark
    have trimmed : Text.IsTrimmed (mark :: rest) := by
      refine ⟨?_, last⟩
      rintro c ⟨⟩
      exact shown
    have visible : Text.allBlank (mark :: rest) = false := by simp [Text.allBlank, shown]
    simp [Element.heldIn, written, visible, trimmed.trim_eq, other]

end WellFormed

end Inline

namespace Element

/-- What the parts of an element that is read from a line may be. -/
structure WellFormed (selfClosing : List Text) (element : Element) : Prop where
  tag : IsName element.tag
  id : ∀ name ∈ element.id, IsName name
  classes : ∀ name ∈ element.classes, IsName name
  attributes : ∀ block ∈ element.attributes, IsBlock block
  inline : ∀ inline ∈ element.inline, inline.WellFormed
  selfClosing : element.selfClosing = selfClosing.contains element.tag

/-- The canonical line of an element. -/
def print (element : Element) : Text :=
  '%' :: element.tag ++ element.classes.flatMap ('.' :: ·) ++
    (element.id.map ('#' :: ·)).getD [] ++ element.attributes.getD [] ++
    (element.inline.map Inline.written).getD []

section Printing

/-- The selectors of the canonical line. -/
def canonicalSelectors (element : Element) : List Selector :=
  ⟨.tag, element.tag⟩ :: (element.classes.map (Selector.mk .className) ++
    (element.id.map (Selector.mk .id)).toList)

theorem print_eq (element : Element) :
    element.print = written element.canonicalSelectors ++
      (element.attributes.getD [] ++ (element.inline.map Inline.written).getD []) := by
  have classes : written (element.classes.map (Selector.mk .className)) =
      element.classes.flatMap ('.' :: ·) := by
    rw [written, List.flatMap_map]
    rfl
  have identity : written (element.id.map (Selector.mk .id)).toList =
      (element.id.map ('#' :: ·)).getD [] := by
    cases element.id <;> simp [written, Selector.written, Marker.char]
  have names : written element.canonicalSelectors = '%' :: element.tag ++
      element.classes.flatMap ('.' :: ·) ++ (element.id.map ('#' :: ·)).getD [] := by
    rw [← classes, ← identity, canonicalSelectors, written_cons, written, List.flatMap_append]
    simp [written, Marker.char]
  rw [print, names, List.append_assoc]

private theorem names_canonicalSelectors (element : Element) :
    names .tag element.canonicalSelectors = [element.tag] ∧
      names .className element.canonicalSelectors = element.classes ∧
      names .id element.canonicalSelectors = element.id.toList := by
  rcases element with ⟨tag, _ | id, classes, _, _, _⟩ <;>
    simp [names, canonicalSelectors, Function.comp_def, List.filter_map]

variable {selfClosing : List Text} {element : Element}
  (wellFormed : element.WellFormed selfClosing)
include wellFormed

namespace WellFormed

theorem named : ∀ selector ∈ element.canonicalSelectors, IsName selector.name := by
  intro selector member
  simp only [canonicalSelectors, List.mem_cons, List.mem_append, List.mem_map, Option.mem_toList,
    Option.map_eq_some_iff] at member
  rcases member with rfl | ⟨name, present, rfl⟩ | ⟨name, present, rfl⟩
  · exact wellFormed.tag
  · exact wellFormed.classes name present
  · exact wellFormed.id name present

theorem isContent : IsContent ((element.inline.map Inline.written).getD []) := by
  cases inline : element.inline with
  | none => simp [IsContent]
  | some held => exact (wellFormed.inline held inline).isContent

/-- What stands behind the canonical selectors is a tail. -/
theorem exists_tail : ∃ tail : Tail,
    tail.text = element.attributes.getD [] ++ (element.inline.map Inline.written).getD [] ∧
      tail.attributes = element.attributes ∧ tail.inline = element.inline := by
  have held : heldIn ((element.inline.map Inline.written).getD []) = element.inline := by
    cases inline : element.inline with
    | none => rfl
    | some held => exact (wellFormed.inline held inline).heldIn_written
  let last : Tail := ⟨[], [], _, by simp [IsGap], wellFormed.isContent⟩
  cases attributes : element.attributes with
  | none => exact ⟨last, rfl, rfl, held⟩
  | some block =>
    obtain ⟨tail, text, found, same⟩ := last.exists_append (wellFormed.attributes block attributes)
    exact ⟨tail, text, found, same.trans held⟩

/-- The canonical selectors end where a character of the tail means something. -/
theorem ends : ∀ c ∈
    (element.attributes.getD [] ++ (element.inline.map Inline.written).getD []).head?,
    isWord c = false ∧ Marker.ofChar? c = none := by
  have others : ∀ c ∈ ['{', '}', ' ', '=', '!'], isWord c = false ∧ Marker.ofChar? c = none := by
    simp only [List.forall_mem_cons]
    exact ⟨by decide, by decide, by decide, by decide, by decide, by simp⟩
  intro c first
  refine others c ?_
  cases attributes : element.attributes with
  | none => exact wellFormed.isContent.ends c (by simpa [attributes] using first)
  | some block =>
    exact (wellFormed.attributes block attributes).ends _ c (by simpa [attributes] using first)

end WellFormed

/-- The canonical line is read back. -/
theorem parse_print : parse selfClosing element.print = .ok element := by
  obtain ⟨tail, text, attributes, inline⟩ := wellFormed.exists_tail
  obtain ⟨tag, classes, id⟩ := names_canonicalSelectors element
  have identity : element.id.toList.getLast? = element.id := by cases element.id <;> rfl
  rw [parse_eq, print_eq, readHead_written wellFormed.named wellFormed.ends, ← text, readTail_text,
    attributes, inline, tag, classes, id, identity, Option.or_none]
  refine congrArg Except.ok ?_
  simp only [List.getLast?_singleton, Option.getD_some, ← wellFormed.selfClosing]

end Printing

private theorem isName_of_mem_names {selectors : List Selector}
    (named : ∀ selector ∈ selectors, IsName selector.name) {marker : Marker} {name : Text}
    (member : name ∈ names marker selectors) : IsName name := by
  obtain ⟨selector, present, rfl⟩ := List.mem_map.mp member
  exact named selector (List.mem_filter.mp present).1

private theorem wellFormed_heldIn {content : Text} (isContent : IsContent content) :
    ∀ inline ∈ heldIn content, inline.WellFormed := by
  intro inline held
  rw [heldIn] at held
  split_ifs at held with blank space
  · cases held
  · obtain rfl := Option.some.inj held
    exact ⟨fun empty => blank ((Text.trim_eq_nil_iff _).mp empty), Text.isTrimmed_trim _⟩
  · obtain rfl := Option.some.inj held
    refine ⟨?_, (Text.isTrimmed_trim _).last⟩
    cases content with
    | nil => exact absurd rfl blank
    | cons mark rest =>
      have isMark : mark ∈ ['=', '!'] := by
        rcases List.mem_cons.mp (isContent mark rfl) with rfl | isMark
        · exact absurd rfl space
        · exact isMark
      refine ⟨mark, isMark, ?_⟩
      rw [Text.trim_cons_of_shown (Inline.shown_mark mark isMark).1, List.head?_cons]

/-- What a line stands for is well formed. -/
theorem Division.wellFormed {line : Text} (division : Division line) (selfClosing : List Text) :
    (division.element selfClosing).WellFormed selfClosing where
  tag := by
    dsimp only [element]
    cases last : (names .tag division.head.selectors).getLast? with
    | none => exact (by decide : IsName "div".toList)
    | some name => exact isName_of_mem_names division.head.named (List.mem_of_getLast? last)
  id _ last := isName_of_mem_names division.head.named (List.mem_of_getLast? last)
  classes _ member := isName_of_mem_names division.head.named member
  attributes block last := by
    obtain ⟨passage, _, rfl⟩ := List.mem_map.mp (List.mem_of_getLast? last)
    exact passage.isBlock
  inline := wellFormed_heldIn division.tail.isContent
  selfClosing := rfl

/-- Reading inverts the canonical form. A well-formed element is read back from its canonical line.
Whatever a line stands for is well formed, so its canonical line stands for the same. -/
theorem canonical_line_inverts (selfClosing : List Text) (element : Element) :
    (element.WellFormed selfClosing → parse selfClosing element.print = .ok element) ∧
      ∀ line, parse selfClosing line = .ok element →
        element.WellFormed selfClosing ∧
          parse selfClosing element.print = parse selfClosing line := by
  refine ⟨parse_print, fun line success => ?_⟩
  obtain ⟨division, rfl⟩ := exists_division_of_parse success
  have wellFormed := division.wellFormed selfClosing
  exact ⟨wellFormed, (parse_print wellFormed).trans success.symm⟩

theorem canonical_line_inverts_of_nested_braces :
    ∃ element : Element, element.WellFormed selfClosingTags ∧
      element.print = "%a.nav.top#home\x7bdata: \x7bid: 1\x7d\x7d Use \x7bit\x7d = !".toList ∧
      parse selfClosingTags element.print = .ok element ∧
      parse selfClosingTags
        "#x.nav#home%a.top\x7bold\x7d?\x7bdata: \x7bid: 1\x7d\x7d  Use \x7bit\x7d = ! ".toList =
        parse selfClosingTags element.print := by
  let element : Element :=
    { tag := "a".toList
      id := some "home".toList
      classes := ["nav".toList, "top".toList]
      attributes := some "\x7bdata: \x7bid: 1\x7d\x7d".toList
      inline := some (.text "Use \x7bit\x7d = !".toList)
      selfClosing := false }
  have wellFormed : element.WellFormed selfClosingTags := by
    refine ⟨by decide, ?_, ?_, ?_, ?_, by decide⟩
    · rintro name ⟨⟩
      decide
    · exact List.forall_mem_cons.mpr ⟨by decide, List.forall_mem_singleton.mpr (by decide)⟩
    · rintro block ⟨⟩
      exact ⟨by decide, by decide, by decide, by decide⟩
    · rintro inline ⟨⟩
      exact ⟨by decide, by decide⟩
  have read : parse selfClosingTags
      "#x.nav#home%a.top\x7bold\x7d?\x7bdata: \x7bid: 1\x7d\x7d  Use \x7bit\x7d = ! ".toList =
      .ok element := by decide +kernel
  obtain ⟨inverts, same⟩ := canonical_line_inverts selfClosingTags element
  exact ⟨element, wellFormed, by decide, inverts wellFormed, (same _ read).2.symm⟩

end Element

end Haml
