import Haml.Proofs.Element.Block
import Haml.Proofs.Text.Trim

/-! # The rest of an element line

Behind the selectors a line is a row of attribute blocks, each behind a gap that is passed over, then
a last gap and the content. No text is such a row in two ways, and the scanner accepts a text
exactly if it is one: what it holds of an open block can always be put back in front of the rest.
-/

namespace Haml

theorem Text.byteSize_append (first second : Text) :
    Text.byteSize (first ++ second) = Text.byteSize first + Text.byteSize second := by
  induction first with
  | nil => simp [Text.byteSize]
  | cons c rest ih => simp only [List.cons_append, Text.byteSize, ih, Nat.add_assoc]

namespace Element

/-- Text outside braces that is passed over. -/
def IsGap (gap : Text) : Prop :=
  ∀ c ∈ gap, c ∉ ['{', '}', ' ', '=', '!']

/-- What an element holds starts with a space or with the mark of an expression. -/
def IsContent (content : Text) : Prop :=
  ∀ c ∈ content.head?, c ∈ [' ', '=', '!']

section Uniqueness

/-- A block behind a gap. -/
@[ext]
structure Passage where
  gap : Text
  block : Text
  isGap : IsGap gap
  isBlock : IsBlock block

/-- What follows the selectors of a line, in its parts. -/
@[ext]
structure Tail where
  passages : List Passage
  gap : Text
  content : Text
  isGap : IsGap gap
  isContent : IsContent content

/-- What content says: text behind a space, unless it is blank, and else an expression. -/
def heldIn (content : Text) : Option Inline :=
  if content.allBlank then none
  else if content.head? = some ' ' then some (.text content.trim)
  else some (.expression content.trim)

def Passage.text (passage : Passage) : Text :=
  passage.gap ++ passage.block

namespace Tail

def text (tail : Tail) : Text :=
  tail.passages.flatMap Passage.text ++ (tail.gap ++ tail.content)

/-- The last block counts. -/
def attributes (tail : Tail) : Option Text :=
  (tail.passages.map Passage.block).getLast?

def inline (tail : Tail) : Option Inline :=
  heldIn tail.content

end Tail

/-- A gap ends where a character means something. -/
theorem IsGap.append_cancel {first second rest other : Text} (gap : IsGap first)
    (gap' : IsGap second) (ends : ∀ c ∈ rest.head?, c ∈ ['{', '}', ' ', '=', '!'])
    (ends' : ∀ c ∈ other.head?, c ∈ ['{', '}', ' ', '=', '!'])
    (same : first ++ rest = second ++ other) : first = second ∧ rest = other := by
  induction first generalizing second with
  | nil =>
    cases second with
    | nil => exact ⟨rfl, same⟩
    | cons d second =>
      obtain rfl : rest = d :: (second ++ other) := same
      exact absurd (ends d rfl) (gap' d (List.mem_cons_self ..))
  | cons c first ih =>
    cases second with
    | nil =>
      obtain rfl : other = c :: (first ++ rest) := same.symm
      exact absurd (ends' c rfl) (gap c (List.mem_cons_self ..))
    | cons d second =>
      obtain ⟨rfl, later⟩ := List.cons.inj same
      obtain ⟨rfl, rfl⟩ := ih (List.forall_mem_cons.mp gap).2 (List.forall_mem_cons.mp gap').2 later
      exact ⟨rfl, rfl⟩

/-- A block ends where its braces match. -/
theorem IsBlock.append_cancel {first second rest other : Text} (block : IsBlock first)
    (block' : IsBlock second) (same : first ++ rest = second ++ other) :
    first = second ∧ rest = other := by
  have equal : first = second := by
    rcases List.prefix_or_prefix_of_prefix (List.prefix_append first rest)
      (same ▸ List.prefix_append second other) with start | start
    · exact block.eq_of_prefix block' start
    · exact (block'.eq_of_prefix block start).symm
  subst equal
  exact ⟨rfl, List.append_cancel_left same⟩

theorem IsBlock.head?_append {block : Text} (isBlock : IsBlock block) (rest : Text) :
    (block ++ rest).head? = some '{' := by
  rw [List.head?_append, isBlock.opens, Option.some_or]

theorem IsBlock.ends {block : Text} (isBlock : IsBlock block) (rest : Text) :
    ∀ c ∈ (block ++ rest).head?, c ∈ ['{', '}', ' ', '=', '!'] := by
  rw [isBlock.head?_append]
  rintro c ⟨⟩
  decide

theorem IsContent.ends {content : Text} (isContent : IsContent content) :
    ∀ c ∈ content.head?, c ∈ ['{', '}', ' ', '=', '!'] :=
  fun c first => List.mem_append_right ['{', '}'] (isContent c first)

/-- Content does not start with a block. -/
theorem IsContent.ne_block {content block : Text} (isContent : IsContent content)
    (isBlock : IsBlock block) (rest : Text) : content ≠ block ++ rest := by
  rintro rfl
  exact absurd (isContent '{' (isBlock.head?_append rest)) (by decide)

theorem Passage.text_append (passage : Passage) (later : List Passage) (rest : Text) :
    (passage :: later).flatMap Passage.text ++ rest =
      passage.gap ++ (passage.block ++ (later.flatMap Passage.text ++ rest)) := by
  simp [Passage.text]

/-- No text is a tail in two ways. -/
theorem Tail.text_injective : Function.Injective Tail.text := by
  rintro ⟨passages, gap, content, isGap, isContent⟩ ⟨others, gap', content', isGap', isContent'⟩ same
  simp only [Tail.text] at same
  have unique : passages = others ∧ gap = gap' ∧ content = content' := by
    induction passages generalizing others with
    | nil =>
      cases others with
      | nil =>
        obtain ⟨rfl, rfl⟩ := isGap.append_cancel isGap' isContent.ends isContent'.ends same
        exact ⟨rfl, rfl, rfl⟩
      | cons other later =>
        rw [Passage.text_append] at same
        have cancelled := isGap.append_cancel other.isGap isContent.ends (other.isBlock.ends _) same
        exact absurd cancelled.2 (isContent.ne_block other.isBlock _)
    | cons passage earlier ih =>
      rw [Passage.text_append] at same
      cases others with
      | nil =>
        have cancelled :=
          passage.isGap.append_cancel isGap' (passage.isBlock.ends _) isContent'.ends same
        exact absurd cancelled.2.symm (isContent'.ne_block passage.isBlock _)
      | cons other later =>
        rw [Passage.text_append] at same
        obtain ⟨sameGap, same⟩ := passage.isGap.append_cancel other.isGap (passage.isBlock.ends _)
          (other.isBlock.ends _) same
        obtain ⟨sameBlock, same⟩ := passage.isBlock.append_cancel other.isBlock same
        obtain ⟨rfl, rfl, rfl⟩ := ih later same
        exact ⟨congrArg (· :: earlier) (Passage.ext sameGap sameBlock), rfl, rfl⟩
  exact Tail.ext unique.1 unique.2.1 unique.2.2

end Uniqueness

section Scanning

theorem readTail_openBrace (offset depth : Nat) (block : Text) (found : Option Text) (rest : Text) :
    readTail offset depth block found ('{' :: rest) =
      readTail (offset + '{'.utf8Size) (depth + 1) ('{' :: block) found rest := by
  rw [readTail.eq_def]
  rfl

theorem readTail_closeBrace (offset depth : Nat) (block : Text) (found : Option Text)
    (rest : Text) :
    readTail offset (depth + 2) block found ('}' :: rest) =
      readTail (offset + '}'.utf8Size) (depth + 1) ('}' :: block) found rest := by
  rw [readTail]
  rfl

theorem readTail_lastBrace (offset : Nat) (block : Text) (found : Option Text) (rest : Text) :
    readTail offset 1 block found ('}' :: rest) =
      readTail (offset + '}'.utf8Size) 0 [] (some ('}' :: block).reverse) rest := by
  rw [readTail]
  rfl

theorem readTail_inside {c : Char} (notOpen : c ≠ '{') (notClose : c ≠ '}') (offset : Nat)
    {depth : Nat} (positive : depth ≠ 0) (block : Text) (found : Option Text) (rest : Text) :
    readTail offset depth block found (c :: rest) =
      readTail (offset + c.utf8Size) depth (c :: block) found rest := by
  rw [readTail.eq_def]
  simp only [notOpen, notClose, positive, ↓reduceIte]

theorem readTail_outside {c : Char} (passed : c ∉ ['{', '}', ' ', '=', '!']) (offset : Nat)
    (block : Text) (found : Option Text) (rest : Text) :
    readTail offset 0 block found (c :: rest) =
      readTail (offset + c.utf8Size) 0 [] found rest := by
  simp only [List.mem_cons, List.not_mem_nil, or_false, not_or] at passed
  obtain ⟨notOpen, notClose, notSpace, notEquals, notBang⟩ := passed
  rw [readTail, if_neg notOpen, if_neg notClose, if_pos rfl]
  simp [isContentMark, notSpace, notEquals, notBang]

/-- Inside braces everything up to the next brace is held. -/
theorem readTail_run {run : Text} (plain : ∀ c ∈ run, c ≠ '{' ∧ c ≠ '}') (offset : Nat)
    {depth : Nat} (positive : depth ≠ 0) (block : Text) (found : Option Text) (rest : Text) :
    readTail offset depth block found (run ++ rest) =
      readTail (offset + Text.byteSize run) depth (run.reverse ++ block) found rest := by
  induction run generalizing offset block with
  | nil => rfl
  | cons c run ih =>
    obtain ⟨⟨notOpen, notClose⟩, plain⟩ := List.forall_mem_cons.mp plain
    rw [List.cons_append, readTail_inside notOpen notClose offset positive, ih plain,
      List.reverse_cons, List.append_assoc, Text.byteSize, Nat.add_assoc]
    rfl

/-- A blank rest outside braces holds nothing. -/
theorem readTail_blank {rest : Text} (blank : rest.allBlank = true) (offset : Nat)
    (found : Option Text) : readTail offset 0 [] found rest = .ok (found, none) := by
  induction rest generalizing offset with
  | nil => rfl
  | cons c rest ih =>
    have trimmed := (Text.trim_eq_nil_iff (c :: rest)).mpr blank
    obtain ⟨first, later⟩ := (Bool.and_eq_true _ _).mp blank
    have notOpen : c ≠ '{' := by
      rintro rfl
      exact absurd first (by decide)
    have notClose : c ≠ '}' := by
      rintro rfl
      exact absurd first (by decide)
    rw [readTail, if_neg notOpen, if_neg notClose, if_pos rfl]
    split
    · next mark =>
      simp only [isContentMark, Bool.or_eq_true, beq_iff_eq] at mark
      rcases mark with (rfl | rfl) | rfl
      · rw [readInline, trimmed]
        rfl
      · exact absurd first (by decide)
      · exact absurd first (by decide)
    · exact ih later _

theorem Opened.depth_ne_zero {depth : Nat} {start : Text} (opened : Opened depth start) :
    depth ≠ 0 := by
  induction opened with
  | first => decide
  | deeper _ _ => omega
  | outer _ _ => omega
  | other _ _ _ ih => exact ih

/-- Behind the start of a block the scanner holds it, and has its depth. -/
theorem readTail_opened {depth : Nat} {start : Text} (opened : Opened depth start) (offset : Nat)
    (found : Option Text) (rest : Text) :
    readTail offset 0 [] found (start ++ rest) =
      readTail (offset + Text.byteSize start) depth start.reverse found rest := by
  induction opened generalizing rest with
  | first => exact readTail_openBrace offset 0 [] found rest
  | deeper opened ih =>
    rw [List.append_assoc, ih, List.singleton_append, readTail_openBrace, Text.byteSize_append,
      List.reverse_concat, Nat.add_assoc]
    rfl
  | outer opened ih =>
    rw [List.append_assoc, ih, List.singleton_append, readTail_closeBrace, Text.byteSize_append,
      List.reverse_concat, Nat.add_assoc]
    rfl
  | other opened notOpen notClose ih =>
    rw [List.append_assoc, ih, List.singleton_append,
      readTail_inside notOpen notClose _ opened.depth_ne_zero, Text.byteSize_append,
      List.reverse_concat, Nat.add_assoc]
    rfl

theorem readTail_block {block : Text} (isBlock : IsBlock block) (offset : Nat)
    (found : Option Text) (rest : Text) :
    readTail offset 0 [] found (block ++ rest) =
      readTail (offset + Text.byteSize block) 0 [] (some block) rest := by
  obtain ⟨start, opened, rfl⟩ := isBlock_iff.mp isBlock
  rw [List.append_assoc, readTail_opened opened, List.singleton_append, readTail_lastBrace,
    Text.byteSize_append, List.reverse_cons, List.reverse_reverse, Nat.add_assoc]
  rfl

theorem readTail_gap {gap : Text} (isGap : IsGap gap) (offset : Nat) (found : Option Text)
    (rest : Text) :
    readTail offset 0 [] found (gap ++ rest) =
      readTail (offset + Text.byteSize gap) 0 [] found rest := by
  induction gap generalizing offset with
  | nil => rfl
  | cons c gap ih =>
    obtain ⟨passed, isGap⟩ := List.forall_mem_cons.mp isGap
    rw [List.cons_append, readTail_outside passed, ih isGap, Text.byteSize, Nat.add_assoc]

/-- Behind a row of blocks the scanner keeps the last one. -/
theorem readTail_passages (passages : List Passage) (offset : Nat) (found : Option Text)
    (rest : Text) :
    readTail offset 0 [] found (passages.flatMap Passage.text ++ rest) =
      readTail (offset + Text.byteSize (passages.flatMap Passage.text)) 0 []
        ((passages.map Passage.block).getLast?.or found) rest := by
  induction passages generalizing offset found with
  | nil => rfl
  | cons passage later ih =>
    have size : offset + Text.byteSize passage.gap + Text.byteSize passage.block +
        Text.byteSize (later.flatMap Passage.text) =
        offset + Text.byteSize ((passage :: later).flatMap Passage.text) := by
      simp only [List.flatMap_cons, Passage.text, Text.byteSize_append]
      omega
    have last : (later.map Passage.block).getLast?.or (some passage.block) =
        ((passage :: later).map Passage.block).getLast?.or found := by
      rw [List.map_cons, List.getLast?_cons]
      cases (later.map Passage.block).getLast? <;> rfl
    rw [Passage.text_append, readTail_gap passage.isGap, readTail_block passage.isBlock, ih, size,
      last]

private theorem readInline_eq_heldIn {content : Text} (isContent : IsContent content) :
    readInline content = heldIn content := by
  cases content with
  | nil => rfl
  | cons c rest =>
    have mark := isContent c rfl
    simp only [List.mem_cons, List.not_mem_nil, or_false] at mark
    rcases mark with rfl | rfl | rfl
    · have empty : (Text.trim (' ' :: rest)).isEmpty = Text.allBlank (' ' :: rest) := by
        rw [Bool.eq_iff_iff, List.isEmpty_iff, Text.trim_eq_nil_iff]
      simp only [readInline, heldIn, empty, List.head?_cons, ↓reduceIte]
    · rfl
    · rfl

theorem readTail_content {content : Text} (isContent : IsContent content) (offset : Nat)
    (found : Option Text) :
    readTail offset 0 [] found content = .ok (found, heldIn content) := by
  rw [← readInline_eq_heldIn isContent]
  cases content with
  | nil => rfl
  | cons c rest =>
    have mark := isContent c rfl
    simp only [List.mem_cons, List.not_mem_nil, or_false] at mark
    rcases mark with rfl | rfl | rfl <;> rfl

/-- A tail is read as what it is. -/
theorem readTail_text (tail : Tail) (offset : Nat) (found : Option Text) :
    readTail offset 0 [] found tail.text = .ok (tail.attributes.or found, tail.inline) := by
  rw [Tail.text, readTail_passages, readTail_gap tail.isGap, readTail_content tail.isContent]
  rfl

/-- What the scanner holds: nothing outside braces, and the start of a block inside. -/
def Holds (depth : Nat) (block : Text) : Prop :=
  depth = 0 ∧ block = [] ∨ Opened depth block.reverse

theorem Holds.block_eq_nil {block : Text} (holds : Holds 0 block) : block = [] := by
  rcases holds with ⟨_, empty⟩ | opened
  · exact empty
  · exact absurd rfl opened.depth_ne_zero

private theorem Holds.opened {depth : Nat} {block : Text} (holds : Holds depth block)
    (inside : depth ≠ 0) : Opened depth block.reverse :=
  holds.resolve_left fun outside => inside outside.1

/-- A character that is passed over may stand before a tail. -/
theorem Tail.exists_cons {c : Char} (passed : c ∉ ['{', '}', ' ', '=', '!']) (tail : Tail) :
    ∃ longer : Tail, longer.text = c :: tail.text ∧ longer.attributes = tail.attributes ∧
      longer.inline = tail.inline := by
  obtain ⟨passages, gap, content, isGap, isContent⟩ := tail
  cases passages with
  | nil => exact ⟨⟨[], c :: gap, content, List.forall_mem_cons.mpr ⟨passed, isGap⟩, isContent⟩,
      rfl, rfl, rfl⟩
  | cons first later =>
    have wider : IsGap (c :: first.gap) := List.forall_mem_cons.mpr ⟨passed, first.isGap⟩
    exact ⟨⟨⟨c :: first.gap, first.block, wider, first.isBlock⟩ :: later, gap, content, isGap,
      isContent⟩, by simp [Tail.text, Passage.text], rfl, rfl⟩

/-- A block may stand before a tail, and counts if the tail has none. -/
theorem Tail.exists_append {block : Text} (isBlock : IsBlock block) (tail : Tail) :
    ∃ longer : Tail, longer.text = block ++ tail.text ∧
      longer.attributes = tail.attributes.or (some block) ∧ longer.inline = tail.inline := by
  refine ⟨⟨⟨[], block, by simp [IsGap], isBlock⟩ :: tail.passages, tail.gap, tail.content,
    tail.isGap, tail.isContent⟩, by simp [Tail.text, Passage.text], ?_, rfl⟩
  simp only [Tail.attributes, List.map_cons, List.getLast?_cons]
  cases (tail.passages.map Passage.block).getLast? <;> rfl

/-- What the scanner accepts is a tail, of which it has read what it holds. -/
theorem exists_tail_of_readTail {offset depth : Nat} {block rest : Text}
    {found attributes : Option Text} {inline : Option Inline} (holds : Holds depth block)
    (success : readTail offset depth block found rest = .ok (attributes, inline)) :
    ∃ tail : Tail, tail.text = block.reverse ++ rest ∧ attributes = tail.attributes.or found ∧
      inline = tail.inline := by
  fun_induction readTail offset depth block found rest with
  | case1 offset block found =>
    obtain ⟨rfl, rfl⟩ := Prod.mk.inj (Except.ok.inj success)
    obtain rfl := holds.block_eq_nil
    exact ⟨⟨[], [], [], by simp [IsGap], by simp [IsContent]⟩, rfl, rfl, rfl⟩
  | case2 => cases success
  | case3 offset depth block found rest next ih =>
    have deeper : Opened (depth + 1) (block.reverse ++ ['{']) := by
      rcases holds with ⟨rfl, rfl⟩ | opened
      · exact .first
      · exact .deeper opened
    simpa using ih (.inr (by rwa [List.reverse_cons])) success
  | case4 => cases success
  | case5 offset block found rest next _ ih =>
    have isBlock : IsBlock ('}' :: block).reverse := by
      rw [List.reverse_cons]
      exact isBlock_iff.mpr ⟨_, holds.opened (by decide), rfl⟩
    obtain ⟨tail, text, rfl, rfl⟩ := ih (.inl ⟨rfl, rfl⟩) success
    obtain ⟨longer, whole, attributes, inline⟩ := tail.exists_append isBlock
    refine ⟨longer, by simp [whole, text], ?_, inline.symm⟩
    rw [attributes]
    cases tail.attributes <;> rfl
  | case6 offset block found rest outer next _ ih =>
    have opened := (holds.opened (by omega)).outer
    simpa using ih (.inr (by rwa [List.reverse_cons])) success
  | case7 offset block found mark rest _ _ isMark =>
    obtain ⟨rfl, rfl⟩ := Prod.mk.inj (Except.ok.inj success)
    obtain rfl := holds.block_eq_nil
    have isContent : IsContent (mark :: rest) := by
      rintro c ⟨⟩
      simpa [isContentMark, or_assoc] using isMark
    exact ⟨⟨[], [], mark :: rest, by simp [IsGap], isContent⟩, rfl, rfl,
      readInline_eq_heldIn isContent⟩
  | case8 offset block found mark rest next notOpen notClose notMark ih =>
    obtain rfl := holds.block_eq_nil
    obtain ⟨tail, text, rfl, rfl⟩ := ih (.inl ⟨rfl, rfl⟩) success
    have passed : mark ∉ ['{', '}', ' ', '=', '!'] := by
      simpa [isContentMark, notOpen, notClose, not_or, and_assoc] using notMark
    obtain ⟨longer, whole, attributes, inline⟩ := tail.exists_cons passed
    exact ⟨longer, by simp [whole, text], by rw [attributes], inline.symm⟩
  | case9 offset depth block found mark rest next notOpen notClose inside ih =>
    have opened := (holds.opened inside).other notOpen notClose
    simpa using ih (.inr (by rwa [List.reverse_cons])) success

end Scanning

end Element

end Haml
