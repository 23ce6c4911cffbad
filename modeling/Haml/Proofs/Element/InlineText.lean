import Haml.Proofs.Element.Fault
import Haml.Proofs.Element.Tags
import Haml.Proofs.Text.Entity

/-! # The text of an element line

The text that an element shows is the line from its first space outside braces on, trimmed. It is
written with entities, so nothing in it can be taken for markup, and reading the entities gives the
text back.
-/

namespace Haml.Element

/-- The places of the spaces of a text that stand outside braces. -/
def spacesOutside (text : Text) : Set Nat :=
  {place | balance (text.take place) = 0 ∧ text[place]? = some ' '}

/-- Selectors are made of markers and of characters of names. -/
theorem isWord_or_isSome_of_mem_written {selectors : List Selector}
    (named : ∀ selector ∈ selectors, IsName selector.name) {c : Char}
    (member : c ∈ written selectors) : isWord c = true ∨ (Marker.ofChar? c).isSome = true := by
  obtain ⟨selector, present, member⟩ := List.mem_flatMap.mp member
  rcases List.mem_cons.mp member with rfl | inName
  · right
    rw [Marker.ofChar?_char]
    rfl
  · exact .inl ((named selector present).words c inName)

private theorem not_mem_written {selectors : List Selector}
    (named : ∀ selector ∈ selectors, IsName selector.name) {c : Char}
    (other : isWord c = false ∧ Marker.ofChar? c = none) : c ∉ written selectors := by
  intro member
  have selects := isWord_or_isSome_of_mem_written named member
  simp [other] at selects

private theorem balance_written {selectors : List Selector}
    (named : ∀ selector ∈ selectors, IsName selector.name) : balance (written selectors) = 0 := by
  rw [balance, List.count_eq_zero.mpr (not_mem_written named (by decide)),
    List.count_eq_zero.mpr (not_mem_written named (by decide))]
  rfl

private theorem eq_trim_of_readInline {rest shown : Text}
    (read : readInline (' ' :: rest) = some (.text shown)) : shown = Text.trim (' ' :: rest) := by
  rw [readInline] at read
  split at read
  · cases read
  · exact (Inline.text.inj (Option.some.inj read)).symm

/-- Text starts at the first character that decides, which is a space. -/
theorem exists_space_of_readTail {offset : Nat} {tail shown : Text} {attributes : Option Text}
    (read : readTail offset 0 [] none tail = .ok (attributes, some (.text shown))) :
    ∃ place, FirstDecides tail place ∧ tail[place]? = some ' ' ∧
      shown = Text.trim (tail.drop place) := by
  by_cases decided : ∃ place, Decides tail place
  · obtain ⟨place, first⟩ : ∃ place, FirstDecides tail place := by
      classical exact ⟨_, Nat.isLeast_find decided⟩
    obtain ⟨_, c, member, present⟩ := first.1
    obtain ⟨held, kept, passed⟩ := readTail_of_firstDecides first present offset
    have rest : tail.drop place = c :: tail.drop (place + 1) := by
      obtain ⟨bound, same⟩ := List.getElem?_eq_some_iff.mp present
      rw [← same, List.getElem_cons_drop]
    rw [passed] at read
    simp only [decisive, List.mem_cons, List.not_mem_nil, or_false] at member
    rcases member with rfl | rfl | rfl | rfl
    · refine ⟨place, first, present, ?_⟩
      rw [rest]
      exact eq_trim_of_readInline (Prod.mk.inj (Except.ok.inj read)).2
    · cases (Prod.mk.inj (Except.ok.inj read)).2
    · cases (Prod.mk.inj (Except.ok.inj read)).2
    · cases read
  · obtain ⟨depth, kept, _, passed⟩ := readTail_of_undecided (not_exists.mp decided) offset
    rw [passed] at read
    split at read <;> cases read

/-- Selectors hold no braces, so a space of the tail stands outside braces exactly if it does so in
the whole line. -/
theorem add_mem_spacesOutside_iff {selectors : List Selector}
    (named : ∀ selector ∈ selectors, IsName selector.name) (tail : Text) (place : Nat) :
    (written selectors).length + place ∈ spacesOutside (written selectors ++ tail) ↔
      place ∈ spacesOutside tail := by
  have level : balance ((written selectors ++ tail).take ((written selectors).length + place)) =
      balance (tail.take place) := by
    rw [List.take_length_add_append, balance_append, balance_written named, Int.zero_add]
  have character : (written selectors ++ tail)[(written selectors).length + place]? =
      tail[place]? := by
    rw [List.getElem?_append_right (Nat.le_add_right ..), Nat.add_sub_cancel_left]
  rw [spacesOutside, Set.mem_ofPred_eq, level, character]
  rfl

/-- Selectors hold no spaces either, so the first space of the tail that stands outside braces is
the first one of the line. -/
theorem isLeast_spacesOutside {selectors : List Selector}
    (named : ∀ selector ∈ selectors, IsName selector.name) {tail : Text} {place : Nat}
    (first : FirstDecides tail place) (space : tail[place]? = some ' ') :
    IsLeast (spacesOutside (written selectors ++ tail)) ((written selectors).length + place) := by
  refine ⟨(add_mem_spacesOutside_iff named tail place).mpr ⟨first.1.1, space⟩, ?_⟩
  intro other outside
  rcases Nat.lt_or_ge other (written selectors).length with before | behind
  · have inSelectors := outside.2
    rw [List.getElem?_append_left before] at inSelectors
    exact absurd (List.mem_of_getElem? inSelectors) (not_mem_written named (by decide))
  · obtain ⟨later, rfl⟩ := Nat.exists_eq_add_of_le behind
    obtain ⟨level, isSpace⟩ := (add_mem_spacesOutside_iff named tail later).mp outside
    have decides : Decides tail later := ⟨level, ' ', by decide, isSpace⟩
    exact Nat.add_le_add_left (first.2 decides) _

/-- The text of an element is the line from its first space outside braces on, trimmed. -/
theorem exists_isLeast_of_text {selfClosing : List Text} {line shown : Text} {element : Element}
    (read : parse selfClosing line = .ok element) (holds : element.inline = some (.text shown)) :
    ∃ place, IsLeast (spacesOutside line) place ∧ shown = Text.trim (line.drop place) := by
  let head := Head.ofLine line
  rw [head.parse_eq] at read
  cases tail : readTail (Text.utf8 (written head.selectors)).length 0 [] none head.tail with
  | error fault =>
    rw [tail] at read
    cases read
  | ok parts =>
    obtain ⟨attributes, inline⟩ := parts
    rw [tail] at read
    obtain rfl := Except.ok.inj read
    obtain rfl : inline = some (.text shown) := holds
    obtain ⟨place, first, space, same⟩ := exists_space_of_readTail tail
    have least := isLeast_spacesOutside head.named first space
    have rest : (written head.selectors ++ head.tail).drop
        ((written head.selectors).length + place) = head.tail.drop place :=
      List.drop_length_add_append ..
    rw [head.whole] at least rest
    exact ⟨_, least, by rw [rest, same]⟩

/-- The text of an element is escaped completely and can be read back. It is the line from its first
space outside braces on, trimmed. Every target that writes the markup of the element shows it as one
literal, which is not empty and holds neither angle brackets nor quotes. Each ampersand of the
literal starts one of the five entities, and reading these from left to right gives the text
back. -/
theorem inlineText_escaped {selfClosing : List Text} {line shown : Text} {element : Element}
    {target : Target} {tags : Tags} (read : parse selfClosing line = .ok element)
    (holds : element.inline = some (.text shown))
    (written : (element.tags target).outcome = .ok tags) :
    (∃ place, IsLeast (spacesOutside line) place ∧ shown = Text.trim (line.drop place)) ∧
      ∃ escaped, tags.body = some ⟨[.literal escaped]⟩ ∧ escaped ≠ [] ∧
        (∀ c ∈ ['<', '>', '"', '\''], c ∉ escaped) ∧
        (∀ before after, escaped = before ++ '&' :: after →
          ∃ reference ∈ Text.references, reference.1 <+: '&' :: after) ∧
        Text.decoded escaped = shown := by
  have visible : shown ≠ [] := ((wellFormed_of_parse read).inline _ holds).1
  have nonempty := Text.withEntities_ne_nil visible
  refine ⟨exists_isLeast_of_text read holds, shown.withEntities, ?_, nonempty, ?_,
    fun _ _ => Text.exists_reference_of_ampersand, Text.decoded_withEntities shown⟩
  · rw [eq_tags_of_ok written, Dialect.tags, Dialect.inlineBody, holds,
      ← Markup.literal_of_ne_nil nonempty]
    rfl
  · intro c member
    have special : c ∈ Text.significant := List.mem_cons_of_mem _ member
    refine Text.not_mem_withEntities special ?_ shown
    rintro rfl
    exact absurd member (by decide)

/-- A text that holds braces and what looks like an entity, behind a block that holds a space. -/
theorem inlineText_escaped_of_entity :
    let line := "%p\x7ba: 1\x7d <b> &lt; \x7b'\x7d ".toList
    let shown := "<b> &lt; \x7b'\x7d".toList
    let element : Element :=
      ⟨"p".toList, none, [], some "\x7ba: 1\x7d".toList, some (.text shown), false⟩
    parse selfClosingTags line = .ok element ∧
      (∃ place, IsLeast (spacesOutside line) place ∧ shown = Text.trim (line.drop place)) ∧
      (Transcript.dialect.tags element).body =
        some ⟨[.literal "&lt;b&gt; &amp;lt; \x7b&#x27;\x7d".toList]⟩ ∧
      Text.decoded "&lt;b&gt; &amp;lt; \x7b&#x27;\x7d".toList = shown := by
  intro line shown element
  have read : parse selfClosingTags line = .ok element := by decide +kernel
  have body : (Transcript.dialect.tags element).body =
      some ⟨[.literal "&lt;b&gt; &amp;lt; \x7b&#x27;\x7d".toList]⟩ := by decide +kernel
  have written : (element.tags Transcript.target).outcome = .ok (Transcript.dialect.tags element) :=
    outcome_tags rfl element
  obtain ⟨start, escaped, same, _, _, _, decoded⟩ := inlineText_escaped read rfl written
  obtain rfl : "&lt;b&gt; &amp;lt; \x7b&#x27;\x7d".toList = escaped := by
    simpa using body.symm.trans same
  exact ⟨read, start, body, decoded⟩

end Haml.Element
