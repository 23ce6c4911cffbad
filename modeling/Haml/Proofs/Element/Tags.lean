import Haml.Proofs.Element.Canonical
import Haml.Proofs.Markup
import Haml.Proofs.Render.Restriction
import Mathlib.Computability.Language

/-! # The shape of tags

Attribute values are written into a tag as they are. They cannot break it, since they are names or
rows of names: so an opening tag without an attribute block is a word of a small regular language.
The target is asked for the code of the block and for that of the expression and for nothing else,
and where a line has neither of them every target gives the same markup.
-/

namespace Haml

namespace Element

open Computability

section Grammar

/-- The words that name tags, identities and classes. -/
def nameWords : Language Char :=
  {name | IsName name}

/-- A part that may be left out. -/
def optional (language : Language Char) : Language Char :=
  1 + language

/-- An attribute and the space behind it. -/
def attributeOf (name : String) (values : Language Char) : Language Char :=
  {name.toList ++ "=\"".toList} * values * {"\" ".toList}

/-- Opening tags with the given name: an identity, classes and the slash may follow it. -/
def openingTags (tag : Text) : Language Char :=
  {'<' :: tag ++ [' ']} * optional (attributeOf "id" nameWords) *
    optional (attributeOf "class" (nameWords * ({[' ']} * nameWords)∗)) * optional {['/']} * {['>']}

private theorem mem_singleton_language (text : Text) : text ∈ ({text} : Language Char) :=
  Set.mem_singleton text

private theorem nil_mem_optional (language : Language Char) : [] ∈ optional language :=
  Or.inl rfl

private theorem mem_optional {language : Language Char} {text : Text} (member : text ∈ language) :
    text ∈ optional language :=
  Or.inr member

/-- A written attribute is a word of its language. -/
theorem writtenAttribute_mem {values : Language Char} (name : String) {value : Text}
    (member : value ∈ values) : writtenAttribute name value ∈ attributeOf name values :=
  Language.append_mem_mul (Language.append_mem_mul (mem_singleton_language _) member)
    (mem_singleton_language _)

private theorem getD_writtenAttribute_mem {values : Language Char} (name : String)
    {value : Option Text} (member : ∀ text ∈ value, text ∈ values) :
    (value.map (writtenAttribute name)).getD [] ∈ optional (attributeOf name values) := by
  cases value with
  | none => exact nil_mem_optional _
  | some text => exact mem_optional (writtenAttribute_mem name (member text rfl))

theorem intercalate_cons (separator first : Text) (later : List Text) :
    List.intercalate separator (first :: later) = first ++ later.flatMap (separator ++ ·) := by
  induction later generalizing first with
  | nil => simp
  | cons next rest ih => simp_all

/-- The value of the class attribute is a row of names. -/
theorem classAttribute_mem {element : Element} (named : ∀ name ∈ element.classes, IsName name) :
    ∀ text ∈ element.classAttribute, text ∈ nameWords * ({[' ']} * nameWords)∗ := by
  intro text value
  cases classes : element.classes with
  | nil => simp [classAttribute, classes] at value
  | cons first later =>
    rw [classes, List.forall_mem_cons] at named
    obtain rfl : List.intercalate [' '] (first :: later) = text := by
      simpa [classAttribute, classes] using value
    rw [intercalate_cons]
    refine Language.append_mem_mul named.1 (Language.mem_kstar.mpr ⟨later.map ([' '] ++ ·), ?_, ?_⟩)
    · rw [List.flatMap_def]
    · intro part member
      obtain ⟨name, isClass, rfl⟩ := List.mem_map.mp member
      exact Language.append_mem_mul (mem_singleton_language _) (named.2 name isClass)

end Grammar

section Reading

variable {selfClosing : List Text} {line : Text} {element : Element}

theorem wellFormed_of_parse (read : parse selfClosing line = .ok element) :
    element.WellFormed selfClosing := by
  obtain ⟨division, rfl⟩ := exists_division_of_parse read
  exact division.wellFormed selfClosing

/-- A block stands in the line as it is. -/
theorem isInfix_attributes (read : parse selfClosing line = .ok element) {block : Text}
    (has : element.attributes = some block) : block <:+: line := by
  obtain ⟨division, rfl⟩ := exists_division_of_parse read
  obtain ⟨passage, member, rfl⟩ := List.mem_map.mp (List.mem_of_getLast? has)
  have inPassage : passage.block <:+: passage.text := (List.suffix_append ..).isInfix
  have inTail : passage.text <:+: division.tail.text :=
    (List.infix_of_mem_flatten (List.mem_map_of_mem member)).trans (List.prefix_append ..).isInfix
  exact inPassage.trans (inTail.trans division.text_suffix.isInfix)

/-- An expression stands in the line as it is. -/
theorem isInfix_expression (read : parse selfClosing line = .ok element) {source : Text}
    (holds : element.inline = some (.expression source)) : source <:+: line := by
  obtain ⟨division, rfl⟩ := exists_division_of_parse read
  have inContent : source <:+: division.tail.content := by
    have held : heldIn division.tail.content = some (.expression source) := holds
    rw [heldIn] at held
    split_ifs at held with blank space
    · cases held
    · obtain rfl := Inline.expression.inj (Option.some.inj held)
      exact Text.isInfix_trim _
  have inTail : division.tail.content <:+ division.tail.text :=
    (List.suffix_append ..).trans (List.suffix_append ..)
  exact inContent.trans (inTail.trans division.text_suffix).isInfix

end Reading

section Shape

/-- The opening tag of an element without an attribute block, up to its end. -/
def startText (element : Element) : Text :=
  '<' :: element.tag ++ [' '] ++ (element.id.map (writtenAttribute "id")).getD [] ++
    (element.classAttribute.map (writtenAttribute "class")).getD []

/-- The end of an opening tag. -/
def tagEnd (element : Element) : Text :=
  if element.selfClosing then "/>".toList else ['>']

/-- The opening tag of an element without an attribute block. -/
def openingTag (element : Element) : Text :=
  element.startText ++ element.tagEnd

/-- The closing tag of an element. -/
def closingTag (element : Element) : Text :=
  "</".toList ++ element.tag ++ ['>']

variable {element : Element}

theorem opening_of_none (dialect : Dialect) (none : element.attributes = none) :
    (dialect.tags element).opening = ⟨[.literal element.openingTag]⟩ := by
  have start : dialect.openingStart element = .literal element.startText := by
    rw [Dialect.openingStart, none]
    dsimp only
    rw [Markup.literal_pushLiteral, Markup.literal_pushLiteral, startText]
  rw [Dialect.tags, start, Markup.literal_pushLiteral,
    Markup.literal_of_ne_nil (by simp [startText]), openingTag, tagEnd]

theorem opening_of_block (dialect : Dialect) {block : Text}
    (has : element.attributes = some block) :
    (dialect.tags element).opening =
      ⟨[.literal ('<' :: element.tag ++ [' ']), .code (dialect.attributes block element.defaults),
        .literal element.tagEnd]⟩ := by
  have start : dialect.openingStart element = ⟨[.literal ('<' :: element.tag ++ [' ']),
      .code (dialect.attributes block element.defaults)]⟩ := by
    rw [Dialect.openingStart, has]
    dsimp only
    rw [Markup.literal_of_ne_nil (by simp), Markup.pushCode, List.singleton_append]
  rw [Dialect.tags, start, tagEnd]
  cases element.selfClosing <;> rfl

private theorem getLast?_writtenAttribute (name : String) (value : Text) :
    (writtenAttribute name value).getLast? = some ' ' := by
  rw [writtenAttribute, List.getLast?_append]
  rfl

/-- A space stands before the end of an opening tag. -/
theorem getLast?_startText (element : Element) : element.startText.getLast? = some ' ' := by
  rw [startText, List.getLast?_append, List.getLast?_append, List.getLast?_concat]
  cases element.id <;> cases element.classAttribute <;> simp [getLast?_writtenAttribute]

/-- A slash before the last character of an opening tag belongs to its end. -/
theorem suffix_tagEnd_iff {start : Text} (blank : ∀ c ∈ start.getLast?, c = ' ')
    (element : Element) :
    "/>".toList <:+ start ++ element.tagEnd ↔ element.selfClosing = true := by
  rw [tagEnd]
  cases element.selfClosing with
  | true => exact iff_of_true (List.suffix_append ..) rfl
  | false =>
    refine iff_of_false ?_ Bool.false_ne_true
    rintro ⟨earlier, same⟩
    have cancelled : (earlier ++ ['/']) ++ ['>'] = start ++ ['>'] := by
      rw [List.append_assoc]
      exact same
    obtain rfl := List.append_cancel_right cancelled
    exact absurd (blank '/' (by simp)) (by decide)

/-- An opening tag ends in a literal, with a slash if the element closes itself. -/
theorem exists_getLast?_opening (dialect : Dialect) (element : Element) :
    ∃ last, (dialect.tags element).opening.pieces.getLast? = some (.literal last) ∧
      ("/>".toList <:+ last ↔ element.selfClosing = true) := by
  cases has : element.attributes with
  | none =>
    rw [opening_of_none dialect has, openingTag]
    refine ⟨_, rfl, suffix_tagEnd_iff ?_ element⟩
    rw [getLast?_startText]
    rintro c ⟨⟩
    rfl
  | some block =>
    have only : "/>".toList <:+ [] ++ element.tagEnd ↔ element.selfClosing = true :=
      suffix_tagEnd_iff (by simp) element
    rw [opening_of_block dialect has]
    exact ⟨_, rfl, only⟩

theorem closing_eq_none_iff (dialect : Dialect) (element : Element) :
    (dialect.tags element).closing = none ↔ element.selfClosing = true := by
  rw [Dialect.tags]
  cases element.selfClosing <;> simp

private theorem closing_of_some (dialect : Dialect) {closing : Markup}
    (has : (dialect.tags element).closing = some closing) :
    closing = ⟨[.literal element.closingTag]⟩ := by
  rw [Dialect.tags] at has
  cases closes : element.selfClosing with
  | true => simp [closes] at has
  | false =>
    obtain rfl : .literal element.closingTag = closing := by
      simpa [closes, closingTag] using has
    exact Markup.literal_of_ne_nil (by simp [closingTag])

/-- Names cannot break an opening tag. -/
theorem openingTag_mem {selfClosing : List Text} (wellFormed : element.WellFormed selfClosing) :
    element.openingTag ∈ openingTags element.tag := by
  have identity := getD_writtenAttribute_mem "id" wellFormed.id
  have classes := getD_writtenAttribute_mem "class" (classAttribute_mem wellFormed.classes)
  have start : element.startText ∈ {'<' :: element.tag ++ [' ']} *
      optional (attributeOf "id" nameWords) *
      optional (attributeOf "class" (nameWords * ({[' ']} * nameWords)∗)) :=
    Language.append_mem_mul (Language.append_mem_mul (mem_singleton_language _) identity) classes
  rw [openingTag, tagEnd]
  cases element.selfClosing with
  | true =>
    have slash : ['/'] ∈ optional {['/']} := mem_optional (mem_singleton_language _)
    have whole := Language.append_mem_mul (Language.append_mem_mul start slash)
      (mem_singleton_language ['>'])
    rwa [List.append_assoc] at whole
  | false =>
    have whole := Language.append_mem_mul (Language.append_mem_mul start (nil_mem_optional {['/']}))
      (mem_singleton_language ['>'])
    rwa [List.append_nil] at whole

end Shape

section Requests

variable {element : Element} {target : Target}

/-- What a target answers to the two requests is all that the markup takes from it. -/
theorem tags_congr {other : Target}
    (attributes : ∀ block, element.attributes = some block →
      other.attributes block element.defaults = target.attributes block element.defaults)
    (evaluation : ∀ source, element.inline = some (.expression source) →
      other.evaluation source = target.evaluation source) :
    element.tags other = element.tags target := by
  have start : element.openingStart other = element.openingStart target := by
    rw [openingStart, openingStart]
    cases has : element.attributes with
    | none => rfl
    | some block =>
      dsimp only
      rw [attributes block has]
  have body : element.body other = element.body target := by
    rw [Element.body, Element.body]
    rcases holds : element.inline with _ | text | source
    · rfl
    · rfl
    · dsimp only
      rw [evaluation source holds]
  rw [tags, tags, start, body]

/-- A target is one that lacks nothing without what it lacks. -/
theorem tags_eq_cut (element : Element) (target : Target) :
    element.tags target = (element.tags { target with missing := [] }).cut target.missing :=
  element.tags_without { target with missing := [] } target.missing

/-- What has been asked for is not missing. -/
theorem answer_of_mem_calls (element : Element) {capability : Capability}
    (asked : capability ∈ (element.tags target).calls) {α : Type} (code : α) :
    target.answer capability code = ⟨[capability], .ok code⟩ := by
  rw [tags_eq_cut, Emission.calls_cut] at asked
  have present := List.mem_takeWhile_imp asked
  rw [Target.answer, if_neg (by simpa using present)]

variable {tags : Tags} (written : (element.tags target).outcome = .ok tags)
include written

/-- Where markup is written, nothing is missing that it asks for. -/
theorem tags_eq_of_ok : element.tags target = element.tags { target with missing := [] } := by
  rw [tags_eq_cut] at written ⊢
  exact Emission.cut_eq_self_of_ok written

theorem eq_tags_of_ok : tags = target.dialect.tags element := by
  rw [tags_eq_of_ok written, outcome_tags rfl] at written
  exact (Except.ok.inj written).symm

/-- Each of the two requests is made once, where there is something to ask for. -/
theorem calls_of_ok : (element.tags target).calls =
    (if element.attributes.isSome then [.attributes] else []) ++
      if element.hasExpression then [.evaluation] else [] := by
  rw [tags_eq_of_ok written, calls_tags rfl]

private theorem attributes_of_ok {block : Text} (has : element.attributes = some block) :
    target.attributes block element.defaults =
      ⟨[.attributes], .ok (target.dialect.attributes block element.defaults)⟩ := by
  refine answer_of_mem_calls element ?_ _
  simp [calls_of_ok written, has]

private theorem evaluation_of_ok {source : Text}
    (holds : element.inline = some (.expression source)) :
    target.evaluation source = ⟨[.evaluation], .ok (target.dialect.evaluation source)⟩ := by
  refine answer_of_mem_calls element ?_ _
  simp [calls_of_ok written, hasExpression, holds]

end Requests

/-- What may be said of the tags of an element that was read from a line. -/
structure Tags.Fit (selfClosing : List Text) (line : Text) (element : Element) (target : Target)
    (tags : Tags) : Prop where
  name : IsName element.tag
  /-- Without an attribute block the opening tag is one literal, a word of the grammar. -/
  literal : element.attributes = none →
    tags.opening = ⟨[.literal element.openingTag]⟩ ∧ element.openingTag ∈ openingTags element.tag
  /-- With a block, a part of the line in braces, it is the code of that between two literals. -/
  block : ∀ block, element.attributes = some block → IsBlock block ∧ block <:+: line ∧
    ∃ code, target.attributes block ⟨element.id, element.classAttribute⟩ =
        ⟨[.attributes], .ok code⟩ ∧
      tags.opening = ⟨[.literal ('<' :: element.tag ++ [' ']), .code code,
        .literal (if element.tag ∈ selfClosing then "/>".toList else ['>'])]⟩
  /-- In either case it ends with a slash exactly if the tag closes itself. -/
  ending : ∃ last, tags.opening.pieces.getLast? = some (.literal last) ∧
    ("/>".toList <:+ last ↔ element.tag ∈ selfClosing)
  unclosed : tags.closing = none ↔ element.tag ∈ selfClosing
  /-- The closing tag has the name of the opening one. -/
  closing : ∀ closing, tags.closing = some closing →
    closing = ⟨[.literal ("</".toList ++ element.tag ++ ['>'])]⟩

/-- What an element that was read from a line takes from the target. -/
structure Tags.Asked (line : Text) (element : Element) (target : Target) (tags : Tags) : Prop where
  /-- The code of the expression, which is a part of the line, is all that the element holds. -/
  expression : ∀ source, element.inline = some (.expression source) → source <:+: line ∧
    ∃ code, target.evaluation source = ⟨[.evaluation], .ok code⟩ ∧ tags.body = some ⟨[.code code]⟩
  /-- The block and the expression are asked for once, where the line has them. -/
  calls : (element.tags target).calls =
    (if element.attributes.isSome then [.attributes] else []) ++
      if element.hasExpression then [.evaluation] else []
  /-- A target with the same answers to these requests writes the same. -/
  others : ∀ other : Target,
    (∀ block, element.attributes = some block →
      other.attributes block ⟨element.id, element.classAttribute⟩ =
        target.attributes block ⟨element.id, element.classAttribute⟩) →
    (∀ source, element.inline = some (.expression source) →
      other.evaluation source = target.evaluation source) →
    element.tags other = element.tags target
  /-- Without a block and an expression, every target writes the same. -/
  static : element.attributes = none → element.hasExpression = false →
    ∀ other : Target, element.tags other = ⟨[], .ok tags⟩

section Written

variable {selfClosing : List Text} {line : Text} {element : Element} {target : Target} {tags : Tags}
  (read : parse selfClosing line = .ok element)
  (written : (element.tags target).outcome = .ok tags)
include read written

private theorem fit_of_ok : tags.Fit selfClosing line element target := by
  have wellFormed := wellFormed_of_parse read
  have closes : element.selfClosing = true ↔ element.tag ∈ selfClosing := by
    rw [wellFormed.selfClosing, List.contains_iff_mem]
  have tagEnd : element.tagEnd = if element.tag ∈ selfClosing then "/>".toList else ['>'] := by
    simp only [Element.tagEnd, closes]
  obtain rfl := eq_tags_of_ok written
  refine ⟨wellFormed.tag, fun none => ?_, fun block has => ?_, ?_, ?_,
    fun closing => closing_of_some target.dialect⟩
  · exact ⟨opening_of_none target.dialect none, openingTag_mem wellFormed⟩
  · rw [opening_of_block target.dialect has, tagEnd]
    exact ⟨wellFormed.attributes block has, isInfix_attributes read has, _,
      attributes_of_ok written has, rfl⟩
  · rw [← closes]
    exact exists_getLast?_opening target.dialect element
  · rw [← closes]
    exact closing_eq_none_iff target.dialect element

private theorem asked_of_ok : tags.Asked line element target := by
  refine ⟨fun source holds => ?_, calls_of_ok written, fun other => tags_congr, ?_⟩
  · refine ⟨isInfix_expression read holds, _, evaluation_of_ok written holds, ?_⟩
    rw [eq_tags_of_ok written, Dialect.tags, Dialect.inlineBody, holds]
    rfl
  · intro none plain other
    have same : element.tags other = element.tags target := by
      refine tags_congr (fun block has => ?_) fun source holds => ?_
      · simp [none] at has
      · simp [hasExpression, holds] at plain
    have calls : (element.tags target).calls = [] := by
      simp [calls_of_ok written, none, plain]
    rw [same]
    exact Emission.ext calls written

end Written

/-- Tags are well formed and fit each other, and nothing of the target shows in them but the code of
the block and of the expression. -/
theorem tags_fit {selfClosing : List Text} {line : Text} {element : Element} {target : Target}
    {tags : Tags} (read : parse selfClosing line = .ok element)
    (written : (element.tags target).outcome = .ok tags) :
    tags.Fit selfClosing line element target ∧ tags.Asked line element target :=
  ⟨fit_of_ok read written, asked_of_ok read written⟩

theorem tags_fit_of_block_and_expression :
    let line := "#x.nav#home%a.top\x7bhref: url\x7d= label ".toList
    let element : Element :=
      ⟨"a".toList, some "home".toList, ["nav".toList, "top".toList],
        some "\x7bhref: url\x7d".toList, some (.expression "= label".toList), false⟩
    let tags : Tags :=
      ⟨⟨[.literal "<a ".toList,
          .code "attrs(\x7bhref: url\x7d, \x7b\"class\":\"nav top\",\"id\":\"home\"\x7d)".toList,
          .literal ">".toList]⟩,
        some ⟨[.code "(label)".toList]⟩, some ⟨[.literal "</a>".toList]⟩⟩
    parse selfClosingTags line = .ok element ∧
      (element.tags (Script.target .standard)).outcome = .ok tags ∧
      tags.Fit selfClosingTags line element (Script.target .standard) ∧
      tags.Asked line element (Script.target .standard) := by
  intro line element tags
  have read : parse selfClosingTags line = .ok element := by decide +kernel
  have written : (element.tags (Script.target .standard)).outcome = .ok tags := by
    rw [outcome_tags rfl]
    decide +kernel
  exact ⟨read, written, tags_fit read written⟩

end Element

end Haml
