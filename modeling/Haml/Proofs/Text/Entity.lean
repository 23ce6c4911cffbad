import Haml.Text.Entity

/-! # Reading character entities

A reader that goes through a text from left to right and puts back the characters that entities
stand for. It reads back every text that is written with entities, also one that looked as if it
held some already. What is written holds none of the characters that mean something in a page, but
for the ampersands that entities start with.
-/

namespace Haml.Text

/-- Entities and the characters that they stand for. -/
def references : List (Text × Char) :=
  [("&amp;", '&'), ("&lt;", '<'), ("&gt;", '>'), ("&quot;", '"'), ("&#x27;", '\'')].map
    fun (entity, c) => (entity.toList, c)

/-- The characters that are never shown as they are. -/
def significant : List Char :=
  ['&', '<', '>', '"', '\'']

/-- The character that the entity at the start of a text stands for, and what follows the entity. -/
def readEntity (text : Text) : Option (Char × Text) :=
  (references.find? (·.1.isPrefixOf text)).map fun (entity, c) => (c, text.drop entity.length)

/-- An entity starts with an ampersand, and nothing after it means anything. -/
theorem reference_shape {entity : Text} {c : Char} (listed : (entity, c) ∈ references) :
    ∃ rest, entity = '&' :: rest ∧ ∀ d ∈ rest, d ∉ significant := by
  have shapes : ∀ reference ∈ references, reference.1.head? = some '&' ∧
      reference.1.tail.all (!significant.contains ·) = true := by decide
  obtain ⟨start, plain⟩ := shapes _ listed
  obtain ⟨rest, rfl⟩ := List.head?_eq_some_iff.mp start
  exact ⟨rest, rfl, by simpa using plain⟩

private theorem readEntity_length {text rest : Text} {c : Char}
    (read : readEntity text = some (c, rest)) : rest.length < text.length := by
  obtain ⟨⟨entity, shown⟩, found, same⟩ := Option.map_eq_some_iff.mp read
  obtain ⟨_, rfl⟩ := Prod.mk.inj same
  have start := List.find?_some found
  have shorter := (List.isPrefixOf_iff_prefix.mp start).length_le
  obtain ⟨more, rfl, _⟩ := reference_shape (List.mem_of_find?_eq_some found)
  simp only [List.length_cons, List.length_drop] at shorter ⊢
  omega

/-- The text in which characters stand for the entities, read from left to right. -/
def decoded : Text → Text
  | [] => []
  | c :: rest =>
    match _read : readEntity (c :: rest) with
    | some (shown, after) => shown :: decoded after
    | none => c :: decoded rest
  termination_by text => text.length
  decreasing_by
    · exact readEntity_length _read
    · exact Nat.lt_succ_self _

/-- A character is written as the entity that stands for it, or as itself if it means nothing. -/
theorem entity_cases (c : Char) :
    (entity c, c) ∈ references ∨ entity c = [c] ∧ c ∉ significant := by
  by_cases special : c ∈ significant
  · left
    simp only [significant, List.mem_cons, List.not_mem_nil, or_false] at special
    rcases special with rfl | rfl | rfl | rfl | rfl <;> decide
  · right
    refine ⟨?_, special⟩
    have absent : entities.lookup c = none := by
      refine List.lookup_eq_none_iff.mpr fun (other, written) listed => ?_
      have known : ∀ pair ∈ entities, pair.1 ∈ significant := by decide
      have differs : c ≠ other := by
        rintro rfl
        exact special (known _ listed)
      simpa using differs
    rw [entity, absent]
    rfl

/-- No entity is the start of another, so each is read as what it stands for. -/
theorem readEntity_of_reference {entity : Text} {c : Char} (listed : (entity, c) ∈ references)
    (rest : Text) : readEntity (entity ++ rest) = some (c, rest) := by
  have each : ∀ reference ∈ references, ∀ rest,
      readEntity (reference.1 ++ rest) = some (reference.2, rest) := by
    simp only [references, List.map_cons, List.map_nil, List.forall_mem_cons]
    exact ⟨fun _ => rfl, fun _ => rfl, fun _ => rfl, fun _ => rfl, fun _ => rfl, by simp⟩
  exact each _ listed rest

/-- No entity starts where no ampersand stands. -/
theorem readEntity_of_ne {c : Char} (other : c ≠ '&') (rest : Text) :
    readEntity (c :: rest) = none := by
  have nowhere : references.find? (·.1.isPrefixOf (c :: rest)) = none := by
    refine List.find?_eq_none.mpr fun (entity, shown) listed => ?_
    obtain ⟨more, rfl, _⟩ := reference_shape listed
    simp [other.symm]
  rw [readEntity, nowhere]
  rfl

theorem decoded_of_readEntity {text rest : Text} {c : Char}
    (read : readEntity text = some (c, rest)) : decoded text = c :: decoded rest := by
  cases text with
  | nil => cases read
  | cons first later =>
    rw [decoded]
    split
    · next found =>
      obtain ⟨rfl, rfl⟩ := Prod.mk.inj (Option.some.inj (found.symm.trans read))
      rfl
    · next absent => cases absent.symm.trans read

theorem decoded_of_ne {c : Char} (other : c ≠ '&') (rest : Text) :
    decoded (c :: rest) = c :: decoded rest := by
  rw [decoded]
  split
  · next found => cases found.symm.trans (readEntity_of_ne other rest)
  · rfl

/-- A character is read back however it is written. -/
theorem decoded_entity_append (c : Char) (rest : Text) :
    decoded (entity c ++ rest) = c :: decoded rest := by
  rcases entity_cases c with listed | ⟨same, plain⟩
  · exact decoded_of_readEntity (readEntity_of_reference listed rest)
  · have other : c ≠ '&' := by
      rintro rfl
      exact plain (List.mem_cons_self ..)
    rw [same, List.singleton_append, decoded_of_ne other]

theorem decoded_withEntities (text : Text) : decoded text.withEntities = text := by
  induction text with
  | nil => rw [withEntities, List.flatMap_nil, decoded]
  | cons c rest ih =>
    rw [withEntities, List.flatMap_cons, decoded_entity_append]
    exact congrArg (c :: ·) ih

/-- Of the characters that mean something, only the ampersand is written. -/
theorem eq_ampersand_of_mem_entity {c d : Char} (member : d ∈ entity c)
    (special : d ∈ significant) : d = '&' := by
  rcases entity_cases c with listed | ⟨same, plain⟩
  · obtain ⟨more, shape, plain⟩ := reference_shape listed
    rw [shape] at member
    rcases List.mem_cons.mp member with rfl | behind
    · rfl
    · exact absurd special (plain d behind)
  · rw [same, List.mem_singleton] at member
    exact absurd (member ▸ special) plain

theorem not_mem_withEntities {d : Char} (special : d ∈ significant) (other : d ≠ '&')
    (text : Text) : d ∉ text.withEntities := by
  intro member
  obtain ⟨c, _, written⟩ := List.mem_flatMap.mp member
  exact other (eq_ampersand_of_mem_entity written special)

/-- An ampersand within the writing of a character is the first of its entity. -/
theorem entity_of_ampersand {c : Char} {before after : Text}
    (split : entity c = before ++ '&' :: after) :
    before = [] ∧ ∃ reference ∈ references, entity c = reference.1 := by
  rcases entity_cases c with listed | ⟨same, plain⟩
  · obtain ⟨more, shape, plain⟩ := reference_shape listed
    refine ⟨?_, _, listed, rfl⟩
    cases before with
    | nil => rfl
    | cons first earlier =>
      obtain ⟨_, rest⟩ := List.cons.inj (shape.symm.trans split)
      exact absurd (by decide) (plain '&' (by simp [rest]))
  · have member : '&' ∈ [c] := by rw [← same, split]; simp
    exact absurd (List.mem_singleton.mp member ▸ by decide) plain

/-- Every ampersand that is written starts an entity. -/
theorem exists_reference_of_ampersand {text before after : Text}
    (split : text.withEntities = before ++ '&' :: after) :
    ∃ reference ∈ references, reference.1 <+: '&' :: after := by
  induction text generalizing before with
  | nil => simp [withEntities] at split
  | cons c rest ih =>
    rw [withEntities, List.flatMap_cons] at split
    rcases List.append_eq_append_iff.mp split with ⟨earlier, _, later⟩ | ⟨behind, inside, later⟩
    · exact ih later
    · cases behind with
      | nil =>
        have whole : withEntities rest = [] ++ '&' :: after := later.symm
        exact ih whole
      | cons first more =>
        obtain ⟨rfl, rfl⟩ := List.cons.inj later
        obtain ⟨rfl, reference, listed, same⟩ := entity_of_ampersand inside
        refine ⟨reference, listed, ?_⟩
        rw [← same, inside]
        exact List.prefix_append ..

theorem withEntities_ne_nil {text : Text} (shown : text ≠ []) : text.withEntities ≠ [] := by
  intro empty
  have read := decoded_withEntities text
  rw [empty, decoded] at read
  exact shown read.symm

end Haml.Text
