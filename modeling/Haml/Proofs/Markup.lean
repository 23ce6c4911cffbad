import Haml.Markup
import Mathlib.Data.List.Chain

/-! # The normal form of markup

Markup is built by adding one piece after another. What is added can be seen as a row of units, the
characters of literals and the sources of codes. Adding keeps the row and the normal form, and there
is only one normal form for a row. So whatever is added in whatever portions, the markup is what
remains of the additions when neighbouring literals are joined and empty ones are left out.
-/

namespace Haml

namespace Piece

def isCode : Piece → Bool
  | .literal _ => false
  | .code _ => true

/-- The text that a piece shows as it is. -/
def literalText : Piece → Text
  | .literal text => text
  | .code _ => []

/-- The source of a code. -/
def source? : Piece → Option Text
  | .literal _ => none
  | .code source => some source

/-- The characters of a literal, or one code. -/
def units : Piece → List (Char ⊕ Text)
  | .literal text => text.map .inl
  | .code source => [.inr source]

end Piece

namespace Markup

/-- No literal is empty, and of two neighbours one is code. -/
structure IsNormal (pieces : List Piece) : Prop where
  nonempty : .literal [] ∉ pieces
  apart : pieces.IsChain fun first second => first.isCode = true ∨ second.isCode = true

/-- The codes among the pieces, in order. -/
def codes (pieces : List Piece) : List Text :=
  pieces.filterMap Piece.source?

/-- The literal text before, between and after the codes. -/
def runs (pieces : List Piece) : List Text :=
  (pieces.splitOnP Piece.isCode).map fun literals => literals.flatMap Piece.literalText

/-- The pieces with neighbouring literals joined. -/
def merged : List Piece → List Piece
  | [] => []
  | .code source :: later => .code source :: merged later
  | .literal text :: later =>
    match merged later with
    | .literal next :: rest => .literal (text ++ next) :: rest
    | rest => .literal text :: rest

/-- The pieces without empty literals, with neighbouring literals joined. -/
def condensed (pieces : List Piece) : List Piece :=
  merged (pieces.filter (· ≠ .literal []))

/-- The ways to begin markup. -/
inductive Beginning where
  | empty
  | literal (text : Text)
  | code (source : Text)

namespace Beginning

def markup : Beginning → Markup
  | .empty => .empty
  | .literal text => .literal text
  | .code source => .code source

/-- What has been added by then. -/
def added : Beginning → List Piece
  | .empty => []
  | .literal text => [.literal text]
  | .code source => [.code source]

end Beginning

/-- The markup after further additions. -/
def built (beginning : Beginning) (additions : List Piece) : Markup :=
  additions.foldl push beginning.markup

section Literals

theorem literal_of_ne_nil {text : Text} (nonempty : text ≠ []) :
    literal text = ⟨[.literal text]⟩ := by
  simp [literal, pushLiteral, nonempty, empty]

/-- Literal text that follows a literal makes one literal of both. -/
theorem literal_pushLiteral (first second : Text) :
    (literal first).pushLiteral second = literal (first ++ second) := by
  by_cases empty : second = []
  · simp [empty, pushLiteral]
  by_cases start : first = []
  · simp [start, literal, pushLiteral, Markup.empty]
  rw [literal_of_ne_nil start, literal_of_ne_nil (by simp [start])]
  simp [pushLiteral, empty]

end Literals

section Units

/-- The row of units that pieces stand for. -/
def units (pieces : List Piece) : List (Char ⊕ Text) :=
  pieces.flatMap Piece.units

theorem units_append (first second : List Piece) :
    units (first ++ second) = units first ++ units second :=
  List.flatMap_append

theorem units_concat (pieces : List Piece) (piece : Piece) :
    units (pieces ++ [piece]) = units pieces ++ piece.units := by
  rw [units_append]
  simp [units]

theorem units_cons (piece : Piece) (later : List Piece) :
    units (piece :: later) = piece.units ++ units later :=
  rfl

theorem units_filter (pieces : List Piece) :
    units (pieces.filter (· ≠ .literal [])) = units pieces := by
  induction pieces with
  | nil => rfl
  | cons piece later ih =>
    by_cases empty : piece = .literal []
    · rw [List.filter_cons_of_neg (by simpa using empty), ih, empty]
      rfl
    · rw [List.filter_cons_of_pos (by simpa using empty), units_cons, units_cons, ih]

theorem units_merged (pieces : List Piece) : units (merged pieces) = units pieces := by
  fun_induction merged pieces with
  | case1 => rfl
  | case2 source later ih => rw [units_cons, units_cons, ih]
  | case3 text later next rest joined ih =>
    rw [joined, units_cons] at ih
    simp [units_cons, Piece.units, ← ih]
  | case4 text later _ ih => rw [units_cons, units_cons, ih]

theorem codes_eq (pieces : List Piece) : codes pieces = (units pieces).filterMap Sum.getRight? := by
  induction pieces with
  | nil => rfl
  | cons piece later ih =>
    rw [units_cons, List.filterMap_append, ← ih]
    cases piece with
    | literal text =>
      have none : (Piece.literal text).units.filterMap Sum.getRight? = [] := by simp [Piece.units]
      rw [none, List.nil_append]
      exact List.filterMap_cons_none rfl
    | code source => rfl

theorem runs_literal_cons (text : Text) (later : List Piece) :
    runs (.literal text :: later) = (runs later).modifyHead (text ++ ·) := by
  obtain ⟨first, others, split⟩ :=
    List.exists_cons_of_ne_nil (List.splitOnP_ne_nil Piece.isCode later)
  simp [runs, List.splitOnP_cons_eq_if_modifyHead, Piece.isCode, split, Piece.literalText]

theorem runs_code_cons (source : Text) (later : List Piece) :
    runs (.code source :: later) = [] :: runs later := by
  simp [runs, List.splitOnP_cons_eq_if_modifyHead, Piece.isCode]

/-- The characters of a row of units before, between and after the codes. -/
def unitRuns : List (Char ⊕ Text) → List Text
  | [] => [[]]
  | .inl c :: later => (unitRuns later).modifyHead (c :: ·)
  | .inr _ :: later => [] :: unitRuns later

theorem unitRuns_append (text : Text) (later : List (Char ⊕ Text)) :
    unitRuns (text.map .inl ++ later) = (unitRuns later).modifyHead (text ++ ·) := by
  induction text with
  | nil =>
    rw [List.map_nil, List.nil_append]
    cases unitRuns later <;> rfl
  | cons c rest ih =>
    rw [List.map_cons, List.cons_append, unitRuns, ih, List.modifyHead_modifyHead]
    rfl

theorem runs_eq (pieces : List Piece) : runs pieces = unitRuns (units pieces) := by
  induction pieces with
  | nil => rfl
  | cons piece later ih =>
    cases piece with
    | literal text => rw [runs_literal_cons, ih, units_cons, Piece.units, unitRuns_append]
    | code source =>
      rw [runs_code_cons, ih, units_cons, Piece.units, List.singleton_append, unitRuns]

private theorem flatMap_plain (pieces : List Piece) :
    pieces.flatMap Piece.plain =
      (units pieces).flatMap (Sum.elim ([·]) fun source => (Piece.code source).plain) := by
  rw [units, List.flatMap_assoc]
  congr 1
  funext piece
  cases piece with
  | literal text => simp [Piece.units, Piece.plain, List.flatMap_map]
  | code source => simp [Piece.units]

theorem units_eq_nil_iff (pieces : List Piece) :
    units pieces = [] ↔ ∀ piece ∈ pieces, piece = .literal [] := by
  rw [units, List.flatMap_eq_nil_iff]
  refine forall₂_congr fun piece _ => ?_
  cases piece <;> simp [Piece.units]

end Units

section Uniqueness

/-- A literal in normal form is followed by nothing or by code. -/
theorem IsNormal.isCode_head {text : Text} {later : List Piece}
    (normal : IsNormal (.literal text :: later)) : ∀ piece ∈ later.head?, piece.isCode = true := by
  intro piece first
  obtain ⟨apart, _⟩ := List.isChain_cons.mp normal.apart
  exact (apart piece first).resolve_left Bool.false_ne_true

theorem IsNormal.tail {piece : Piece} {later : List Piece} (normal : IsNormal (piece :: later)) :
    IsNormal later where
  nonempty member := normal.nonempty (List.mem_cons_of_mem _ member)
  apart := normal.apart.tail

theorem IsNormal.text_ne_nil {text : Text} {later : List Piece}
    (normal : IsNormal (.literal text :: later)) : text ≠ [] := by
  rintro rfl
  exact normal.nonempty (List.mem_cons_self ..)

private theorem IsNormal.cons_code {later : List Piece} (normal : IsNormal later) (source : Text) :
    IsNormal (.code source :: later) where
  nonempty := by simp [normal.nonempty]
  apart := List.isChain_cons.mpr ⟨fun _ _ => .inl rfl, normal.apart⟩

private theorem IsNormal.cons_literal {later : List Piece} (normal : IsNormal later) {text : Text}
    (shown : text ≠ []) (ends : ∀ piece ∈ later.head?, piece.isCode = true) :
    IsNormal (.literal text :: later) where
  nonempty := by simp [normal.nonempty, shown.symm]
  apart := List.isChain_cons.mpr ⟨fun piece first => .inr (ends piece first), normal.apart⟩

/-- Where code or nothing follows, a literal can be told from the row of units. -/
theorem takeWhile_units {later : List Piece} (ends : ∀ piece ∈ later.head?, piece.isCode = true)
    (text : Text) :
    (text.map Sum.inl ++ units later).takeWhile Sum.isLeft = text.map Sum.inl := by
  rw [List.takeWhile_append_of_pos (by simp)]
  rcases later with _ | ⟨_ | source, rest⟩
  · simp [units]
  · exact absurd (ends _ rfl) Bool.false_ne_true
  · simp [units_cons, Piece.units]

/-- A row of units has one normal form only. -/
theorem IsNormal.eq_of_units_eq {first second : List Piece} (normal : IsNormal first)
    (other : IsNormal second) (same : units first = units second) : first = second := by
  induction first generalizing second with
  | nil =>
    have empty := (units_eq_nil_iff second).mp same.symm
    cases second with
    | nil => rfl
    | cons piece later =>
      exact absurd (empty piece (List.mem_cons_self ..) ▸ List.mem_cons_self ..) other.nonempty
  | cons piece later ih =>
    rcases second with _ | ⟨piece', rest⟩
    · have empty := (units_eq_nil_iff _).mp same piece (List.mem_cons_self ..)
      exact absurd (empty ▸ List.mem_cons_self ..) normal.nonempty
    cases piece with
    | code source =>
      cases piece' with
      | code source' =>
        obtain ⟨head, tail⟩ := List.cons.inj same
        rw [Sum.inr.inj head, ih normal.tail other.tail tail]
      | literal text' =>
        obtain ⟨c, more, rfl⟩ := List.exists_cons_of_ne_nil other.text_ne_nil
        cases (List.cons.inj same).1
    | literal text =>
      cases piece' with
      | code source' =>
        obtain ⟨c, more, rfl⟩ := List.exists_cons_of_ne_nil normal.text_ne_nil
        cases (List.cons.inj same).1
      | literal text' =>
        rw [units_cons, units_cons, Piece.units, Piece.units] at same
        have start := congrArg (List.takeWhile Sum.isLeft) same
        rw [takeWhile_units normal.isCode_head, takeWhile_units other.isCode_head] at start
        obtain rfl := List.map_injective_iff.mpr (fun _ _ => Sum.inl.inj) start
        rw [ih normal.tail other.tail (List.append_cancel_left same)]

/-- Joining neighbours leaves none that could be joined, and makes no literal empty. -/
theorem isNormal_merged {pieces : List Piece} (nonempty : .literal [] ∉ pieces) :
    IsNormal (merged pieces) := by
  fun_induction merged pieces with
  | case1 => exact ⟨by simp, .nil⟩
  | case2 source later ih => exact (ih (List.not_mem_of_not_mem_cons nonempty)).cons_code source
  | case3 text later next rest joined ih =>
    have normal := ih (List.not_mem_of_not_mem_cons nonempty)
    rw [joined] at normal
    refine normal.tail.cons_literal ?_ normal.isCode_head
    simp [normal.text_ne_nil]
  | case4 text later ends ih =>
    refine (ih (List.not_mem_of_not_mem_cons nonempty)).cons_literal ?_ ?_
    · rintro rfl
      exact nonempty (List.mem_cons_self ..)
    · rintro (next | source) first
      · obtain ⟨rest, joined⟩ := List.head?_eq_some_iff.mp first
        exact absurd joined (ends next rest)
      · rfl

theorem isNormal_condensed (pieces : List Piece) : IsNormal (condensed pieces) :=
  isNormal_merged (by simp)

theorem units_condensed (pieces : List Piece) : units (condensed pieces) = units pieces := by
  rw [condensed, units_merged, units_filter]

end Uniqueness

section Additions

/-- Literal text is nothing, joins a literal, or follows code. -/
theorem pushLiteral_cases (markup : Markup) (text : Text) :
    text = [] ∧ markup.pushLiteral text = markup ∨
      (∃ earlier previous, text ≠ [] ∧ markup.pieces = earlier ++ [.literal previous] ∧
        markup.pushLiteral text = ⟨earlier ++ [.literal (previous ++ text)]⟩) ∨
      text ≠ [] ∧ (∀ piece ∈ markup.pieces.getLast?, piece.isCode = true) ∧
        markup.pushLiteral text = ⟨markup.pieces ++ [.literal text]⟩ := by
  by_cases empty : text = []
  · exact .inl ⟨empty, by rw [empty]; rfl⟩
  rw [pushLiteral, if_neg (by simpa using empty)]
  split
  · next previous last =>
    obtain ⟨earlier, split⟩ := List.getLast?_eq_some_iff.mp last
    exact .inr (.inl ⟨earlier, previous, empty, split, by simp [split]⟩)
  · next others =>
    refine .inr (.inr ⟨empty, fun piece last => ?_, rfl⟩)
    cases piece with
    | literal previous => exact absurd last (others previous)
    | code source => rfl

/-- What is added follows in the row of units. -/
theorem units_push (markup : Markup) (piece : Piece) :
    units (markup.push piece).pieces = units markup.pieces ++ piece.units := by
  cases piece with
  | code source => exact units_concat markup.pieces (.code source)
  | literal text =>
    rw [push]
    rcases markup.pushLiteral_cases text with
      ⟨rfl, same⟩ | ⟨earlier, previous, _, split, same⟩ | ⟨_, _, same⟩
    · rw [same, Piece.units, List.map_nil, List.append_nil]
    · rw [same, split]
      simp [units, Piece.units]
    · rw [same]
      exact units_concat markup.pieces (.literal text)

theorem IsNormal.concat {pieces : List Piece} (normal : IsNormal pieces) {piece : Piece}
    (shown : piece ≠ .literal [])
    (apart : ∀ last ∈ pieces.getLast?, last.isCode = true ∨ piece.isCode = true) :
    IsNormal (pieces ++ [piece]) where
  nonempty := by simp [normal.nonempty, shown.symm]
  apart := by
    refine List.isChain_append.mpr ⟨normal.apart, .singleton _, fun last isLast next isNext => ?_⟩
    obtain rfl := Option.some.inj isNext
    exact apart last isLast

/-- Adding a piece keeps the normal form. -/
theorem isNormal_push {markup : Markup} (normal : IsNormal markup.pieces) (piece : Piece) :
    IsNormal (markup.push piece).pieces := by
  cases piece with
  | code source => exact normal.concat (by simp) fun _ _ => .inr rfl
  | literal text =>
    rw [push]
    rcases markup.pushLiteral_cases text with
      ⟨_, same⟩ | ⟨earlier, previous, shown, split, same⟩ | ⟨shown, ends, same⟩
    · rwa [same]
    · rw [split] at normal
      obtain ⟨before, _, apart⟩ := List.isChain_append.mp normal.apart
      have start : IsNormal earlier :=
        ⟨fun member => normal.nonempty (List.mem_append_left _ member), before⟩
      rw [same]
      exact start.concat (by simp [shown]) fun last isLast =>
        apart last isLast (.literal previous) rfl
    · rw [same]
      exact normal.concat (by simp [shown]) fun last isLast => .inl (ends last isLast)

private theorem foldl_push {markup : Markup} (normal : IsNormal markup.pieces)
    (additions : List Piece) :
    IsNormal (additions.foldl push markup).pieces ∧
      units (additions.foldl push markup).pieces = units markup.pieces ++ units additions := by
  induction additions generalizing markup with
  | nil => exact ⟨normal, (List.append_nil _).symm⟩
  | cons piece later ih =>
    obtain ⟨kept, row⟩ := ih (isNormal_push normal piece)
    refine ⟨kept, ?_⟩
    rw [List.foldl_cons, row, units_push, List.append_assoc]
    rfl

private theorem isNormal_empty : IsNormal empty.pieces :=
  ⟨List.not_mem_nil, .nil⟩

/-- To begin markup is to add to the empty one. -/
theorem Beginning.markup_eq (beginning : Beginning) :
    beginning.markup = beginning.added.foldl push .empty := by
  cases beginning <;> rfl

private theorem built_eq (beginning : Beginning) (additions : List Piece) :
    built beginning additions = ofPieces (beginning.added ++ additions) := by
  rw [built, beginning.markup_eq, ofPieces, List.foldl_append]

/-- Whatever is added, the markup is what remains of it. -/
theorem pieces_ofPieces (additions : List Piece) :
    (ofPieces additions).pieces = condensed additions := by
  obtain ⟨normal, row⟩ := foldl_push isNormal_empty additions
  refine normal.eq_of_units_eq (isNormal_condensed additions) ?_
  rw [row, units_condensed]
  rfl

end Additions

/-- Markup is the normal form of what was added. However it is begun and in whatever portions
literals and codes are added, no literal is empty and no two are neighbours; the codes are those
that were added, also where they are empty; the literal text before, between and after them is what
was added there; and the rendition for a reader is that of the additions. It has no piece exactly if
only empty literals were added. Two ways of adding give the same markup exactly if the same remains
of both when empty literals are left out and neighbouring ones are joined. -/
theorem built_normal_form (beginning : Beginning) (additions : List Piece) :
    let added := beginning.added ++ additions
    let markup := built beginning additions
    IsNormal markup.pieces ∧
      codes markup.pieces = codes added ∧
      runs markup.pieces = runs added ∧
      markup.plain = added.flatMap Piece.plain ∧
      (markup.isEmpty = true ↔ ∀ piece ∈ added, piece = .literal []) ∧
      ∀ (other : Beginning) (others : List Piece),
        markup = built other others ↔ condensed added = condensed (other.added ++ others) := by
  intro added markup
  have pieces : markup.pieces = condensed added := by
    rw [← pieces_ofPieces, ← built_eq]
  have row : units markup.pieces = units added := by rw [pieces, units_condensed]
  have normal : IsNormal markup.pieces := pieces ▸ isNormal_condensed added
  refine ⟨normal, ?_, ?_, ?_, ?_, fun other others => ?_⟩
  · rw [codes_eq, row, ← codes_eq]
  · rw [runs_eq, row, ← runs_eq]
  · rw [plain, flatMap_plain, row, ← flatMap_plain]
  · rw [isEmpty, List.isEmpty_iff, ← units_eq_nil_iff, ← row]
    exact ⟨congrArg units, normal.eq_of_units_eq isNormal_empty⟩
  · rw [built_eq other, ← pieces, ← pieces_ofPieces, Markup.mk.injEq]

end Markup

end Haml
