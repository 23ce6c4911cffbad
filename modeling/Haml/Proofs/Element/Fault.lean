import Haml.Proofs.Element.Division
import Haml.Proofs.Except
import Haml.Proofs.Text.Utf8
import Mathlib.Order.Bounds.Basic
import Mathlib.Order.Nat

/-! # Why and where braces are reported

The braces before a character of a tail tell how deep it stands. Up to the first space, equals sign,
exclamation mark or closing brace outside braces the scanner passes over everything, and its depth is
that of the text behind it. That first character decides: a closing brace is reported, by its place
among the bytes of the line in UTF-8, and anything else starts content, in which braces mean
nothing. Where no character decides, the braces that are left open are reported.
-/

namespace Haml

namespace Text

/-- A closing brace is one byte, which stands behind the bytes of what is before it. -/
theorem getElem?_utf8_closeBrace (before after : Text) :
    (utf8 (before ++ '}' :: after))[(utf8 before).length]? = some '}'.toUInt8 := by
  rw [utf8, List.flatMap_append, utf8, List.getElem?_append_right (Nat.le_refl _), Nat.sub_self]
  rfl

end Text

namespace Element

/-- How many more braces a text opens than it closes. -/
def balance (text : Text) : Int :=
  text.count '{' - text.count '}'

/-- The characters that are not passed over outside braces. -/
def decisive : List Char :=
  [' ', '=', '!', '}']

/-- A character outside braces that is not passed over stands at the given place. -/
def Decides (tail : Text) (place : Nat) : Prop :=
  balance (tail.take place) = 0 ∧ ∃ c ∈ decisive, tail[place]? = some c

/-- The first place at which a character decides. -/
abbrev FirstDecides (tail : Text) (place : Nat) : Prop :=
  IsLeast {place | Decides tail place} place

/-- No character of the text decides if the text stands inside `depth` braces. -/
def Passes (depth : Nat) (text : Text) : Prop :=
  ∀ before c after, text = before ++ c :: after → depth + balance before = 0 → c ∉ decisive

theorem balance_append (first second : Text) :
    balance (first ++ second) = balance first + balance second := by
  simp only [balance, List.count_append, Int.natCast_add]
  omega

theorem balance_cons (c : Char) (rest : Text) : balance (c :: rest) = balance [c] + balance rest :=
  balance_append [c] rest

private theorem balance_of_ne {c : Char} (notOpen : c ≠ '{') (notClose : c ≠ '}') :
    balance [c] = 0 := by
  simp [balance, notOpen, notClose]

/-- A text is divided at each of its characters. -/
theorem eq_take_cons_drop {text : Text} {place : Nat} {c : Char}
    (present : text[place]? = some c) : text = text.take place ++ c :: text.drop (place + 1) := by
  obtain ⟨bound, same⟩ := List.getElem?_eq_some_iff.mp present
  rw [← same, List.getElem_cons_drop, List.take_append_drop]

/-- Before the first character that decides, everything is passed over. -/
theorem passes_of_first {tail start rest : Text} (split : tail = start ++ rest)
    (first : ∀ place < start.length, ¬ Decides tail place) : Passes 0 start := by
  rintro before c after rfl outside member
  refine first before.length (by simp) ⟨?_, c, member, ?_⟩
  · rw [split, List.append_assoc, List.take_left]
    omega
  · rw [split, List.append_assoc, List.getElem?_append_right (Nat.le_refl _), Nat.sub_self]
    rfl

/-- A character that does not decide is read, and the depth goes up or down with the brace that it
is. -/
theorem readTail_step {depth : Nat} {c : Char} (passed : depth = 0 → c ∉ decisive) (offset : Nat)
    (block : Text) (found : Option Text) :
    ∃ (next : Nat) (held : Text) (kept : Option Text), (next : Int) = depth + balance [c] ∧
      ∀ rest, readTail offset depth block found (c :: rest) =
        readTail (offset + c.utf8Size) next held kept rest := by
  by_cases opening : c = '{'
  · subst opening
    exact ⟨depth + 1, _, _, rfl, readTail_openBrace offset depth block found⟩
  by_cases closing : c = '}'
  · subst closing
    match depth with
    | 0 => exact absurd (by decide) (passed rfl)
    | 1 => exact ⟨0, _, _, rfl, readTail_lastBrace offset block found⟩
    | outer + 2 =>
      have closes : balance ['}'] = -1 := rfl
      exact ⟨outer + 1, _, _, by omega, readTail_closeBrace offset outer block found⟩
  have level : balance [c] = 0 := balance_of_ne opening closing
  by_cases outside : depth = 0
  · subst outside
    have gap : c ∉ ['{', '}', ' ', '=', '!'] := by
      have passed := passed rfl
      simp only [decisive, List.mem_cons, List.not_mem_nil, or_false, not_or] at passed ⊢
      exact ⟨opening, closing, passed.1, passed.2.1, passed.2.2.1⟩
    exact ⟨0, _, _, by omega, readTail_outside gap offset block found⟩
  · exact ⟨depth, _, _, by omega, readTail_inside opening closing offset outside block found⟩

/-- Behind a text without a character that decides, the depth is what the braces of it say. -/
theorem readTail_pass {depth : Nat} {start : Text} (passes : Passes depth start) (offset : Nat)
    (block : Text) (found : Option Text) :
    ∃ (next : Nat) (held : Text) (kept : Option Text), (next : Int) = depth + balance start ∧
      ∀ rest, readTail offset depth block found (start ++ rest) =
        readTail (offset + Text.byteSize start) next held kept rest := by
  induction start generalizing depth offset block found with
  | nil => exact ⟨depth, block, found, by simp [balance], fun rest => rfl⟩
  | cons c later ih =>
    have passed : depth = 0 → c ∉ decisive := by
      intro outside
      exact passes [] c later rfl (by simp [outside, balance])
    obtain ⟨next, held, kept, moved, step⟩ := readTail_step passed offset block found
    have behind : Passes next later := by
      rintro before d after rfl outside
      refine passes (c :: before) d after rfl ?_
      rw [balance_cons]
      omega
    obtain ⟨last, held, kept, reached, run⟩ := ih behind (offset + c.utf8Size) held kept
    refine ⟨last, held, kept, ?_, fun rest => ?_⟩
    · rw [balance_cons]
      omega
    · rw [List.cons_append, step, run, Text.byteSize, Nat.add_assoc]

/-- What comes of a tail that starts at the byte `offset`, by the first character that decides. -/
inductive Judged (offset : Nat) (tail : Text) :
    Except BraceFault (Option Text × Option Inline) → Prop where
  | close {place : Nat} (first : FirstDecides tail place) (brace : tail[place]? = some '}') :
      Judged offset tail
        (.error (.unexpectedClose (offset + Text.byteSize (tail.take place))))
  | content {place : Nat} {parts : Option Text × Option Inline} (first : FirstDecides tail place)
      (mark : tail[place]? ≠ some '}') : Judged offset tail (.ok parts)
  | unclosed {depth : Nat} (undecided : ∀ place, ¬ Decides tail place) (positive : 0 < depth)
      (counted : balance tail = depth) : Judged offset tail (.error (.unclosed depth))
  | closed {parts : Option Text × Option Inline} (undecided : ∀ place, ¬ Decides tail place)
      (counted : balance tail = 0) : Judged offset tail (.ok parts)

/-- Everything before the first character that decides is passed over. -/
theorem readTail_of_firstDecides {tail : Text} {place : Nat} {c : Char}
    (first : FirstDecides tail place) (present : tail[place]? = some c) (offset : Nat) :
    ∃ (held : Text) (kept : Option Text), readTail offset 0 [] none tail =
      readTail (offset + Text.byteSize (tail.take place)) 0 held kept
        (c :: tail.drop (place + 1)) := by
  have split := eq_take_cons_drop present
  have passes : Passes 0 (tail.take place) := by
    refine passes_of_first split fun earlier before decides => ?_
    have inside := Nat.lt_of_lt_of_le before (List.length_take_le place tail)
    exact absurd (first.2 decides) (Nat.not_le_of_lt inside)
  obtain ⟨depth, held, kept, reached, run⟩ := readTail_pass passes offset [] none
  have outside := first.1.1
  obtain rfl : depth = 0 := by omega
  have read := run (c :: tail.drop (place + 1))
  rw [← split] at read
  exact ⟨held, kept, read⟩

/-- Where nothing decides, everything is passed over, and only the depth matters at the end. -/
theorem readTail_of_undecided {tail : Text} (undecided : ∀ place, ¬ Decides tail place)
    (offset : Nat) :
    ∃ (depth : Nat) (kept : Option Text), (depth : Int) = balance tail ∧
      readTail offset 0 [] none tail =
        if depth = 0 then .ok (kept, none) else .error (.unclosed depth) := by
  have passes : Passes 0 tail :=
    passes_of_first (List.append_nil tail).symm fun place _ => undecided place
  obtain ⟨depth, held, kept, reached, run⟩ := readTail_pass passes offset [] none
  have read := run []
  rw [List.append_nil, readTail] at read
  exact ⟨depth, kept, by omega, read⟩

private theorem judged_of_firstDecides {tail : Text} {place : Nat} (first : FirstDecides tail place)
    (offset : Nat) : Judged offset tail (readTail offset 0 [] none tail) := by
  obtain ⟨_, c, member, present⟩ := first.1
  obtain ⟨held, kept, read⟩ := readTail_of_firstDecides first present offset
  rw [read]
  simp only [decisive, List.mem_cons, List.not_mem_nil, or_false] at member
  rcases member with rfl | rfl | rfl | rfl
  · exact .content first (by simp [present])
  · exact .content first (by simp [present])
  · exact .content first (by simp [present])
  · exact .close first present

private theorem judged_of_undecided {tail : Text} (undecided : ∀ place, ¬ Decides tail place)
    (offset : Nat) : Judged offset tail (readTail offset 0 [] none tail) := by
  obtain ⟨depth, kept, reached, read⟩ := readTail_of_undecided undecided offset
  rw [read]
  split
  · next outside => exact .closed undecided (by omega)
  · next inside => exact .unclosed undecided (Nat.pos_of_ne_zero inside) (by omega)

private theorem judged_readTail (offset : Nat) (tail : Text) :
    Judged offset tail (readTail offset 0 [] none tail) := by
  by_cases decided : ∃ place, Decides tail place
  · classical exact judged_of_firstDecides (Nat.isLeast_find decided) offset
  · exact judged_of_undecided (not_exists.mp decided) offset

namespace Judged

variable {offset : Nat} {tail : Text} {result : Except BraceFault (Option Text × Option Inline)}

private theorem eq_unexpectedClose_iff (judged : Judged offset tail result) (reported : Nat) :
    result = .error (.unexpectedClose reported) ↔
      ∃ place, FirstDecides tail place ∧ tail[place]? = some '}' ∧
        reported = offset + Text.byteSize (tail.take place) := by
  constructor
  · rintro rfl
    cases judged with
    | close first brace => exact ⟨_, first, brace, rfl⟩
  · rintro ⟨place, first, brace, rfl⟩
    cases judged with
    | close other => rw [other.unique first]
    | content other mark => exact absurd (other.unique first ▸ brace) mark
    | unclosed undecided => exact absurd first.1 (undecided place)
    | closed undecided => exact absurd first.1 (undecided place)

private theorem eq_unclosed_iff (judged : Judged offset tail result) (depth : Nat) :
    result = .error (.unclosed depth) ↔
      (∀ place, ¬ Decides tail place) ∧ 0 < balance tail ∧ (depth : Int) = balance tail := by
  constructor
  · rintro rfl
    cases judged with
    | unclosed undecided positive counted => exact ⟨undecided, by omega, by omega⟩
  · rintro ⟨undecided, positive, counted⟩
    cases judged with
    | close first => exact absurd first.1 (undecided _)
    | content first => exact absurd first.1 (undecided _)
    | unclosed _ _ same =>
      obtain rfl : depth = _ := Int.natCast_inj.mp (counted.trans same)
      rfl
    | closed _ same => omega

private theorem exists_eq_ok_iff (judged : Judged offset tail result) :
    (∃ parts, result = .ok parts) ↔
      ¬ (∃ place, FirstDecides tail place ∧ tail[place]? = some '}') ∧
        ¬ ((∀ place, ¬ Decides tail place) ∧ 0 < balance tail) := by
  constructor
  · rintro ⟨parts, rfl⟩
    cases judged with
    | content first mark =>
      refine ⟨?_, fun ⟨undecided, _⟩ => undecided _ first.1⟩
      rintro ⟨place, other, brace⟩
      exact mark (first.unique other ▸ brace)
    | closed undecided counted =>
      refine ⟨fun ⟨place, first, _⟩ => undecided place first.1, ?_⟩
      rintro ⟨_, positive⟩
      omega
  · rintro ⟨notClose, notOpen⟩
    cases judged with
    | close first brace => exact absurd ⟨_, first, brace⟩ notClose
    | content first mark => exact ⟨_, rfl⟩
    | unclosed undecided positive counted => exact absurd ⟨undecided, by omega⟩ notOpen
    | closed undecided counted => exact ⟨_, rfl⟩

end Judged

/-- The tail is read from the byte at which the head ends. -/
theorem Head.parse_eq {line : Text} (head : Head line) (selfClosing : List Text) :
    parse selfClosing line =
      (readTail (Text.utf8 (written head.selectors)).length 0 [] none head.tail).map
        fun (attributes, inline) =>
          let tag := (names .tag head.selectors).getLast?.getD "div".toList
          { tag
            id := (names .id head.selectors).getLast?
            classes := names .className head.selectors
            attributes
            inline
            selfClosing := selfClosing.contains tag } := by
  have size := congrArg Text.byteSize head.whole
  rw [Text.byteSize_append] at size
  have start : Text.byteSize line - Text.byteSize head.tail =
      (Text.utf8 (written head.selectors)).length := by
    rw [Text.length_utf8]
    omega
  rw [Element.parse_eq, head.readHead_eq, start]

/-- A closing brace is reported exactly if it is the first character of the tail to decide, and by
its byte in the whole line. -/
theorem parse_eq_unexpectedClose_iff {line : Text} (head : Head line) (selfClosing : List Text)
    (offset : Nat) :
    parse selfClosing line = .error (.unexpectedClose offset) ↔
      ∃ place, FirstDecides head.tail place ∧ head.tail[place]? = some '}' ∧
        offset = (Text.utf8 (written head.selectors ++ head.tail.take place)).length := by
  have judged := judged_readTail (Text.utf8 (written head.selectors)).length head.tail
  simp only [Text.length_utf8, Text.byteSize_append]
  rw [← Text.length_utf8, ← judged.eq_unexpectedClose_iff, head.parse_eq, except_map_eq_error_iff]

/-- The place that is reported is that of a closing brace in the whole line. -/
theorem utf8_of_unexpectedClose {selfClosing : List Text} {line : Text} {place : Nat}
    (failed : parse selfClosing line = .error (.unexpectedClose place)) :
    line.utf8[place]? = some '}'.toUInt8 := by
  let head := Head.ofLine line
  obtain ⟨index, _, brace, rfl⟩ := (parse_eq_unexpectedClose_iff head selfClosing place).mp failed
  have whole : line = written head.selectors ++ head.tail.take index ++
      '}' :: head.tail.drop (index + 1) := by
    rw [List.append_assoc, ← eq_take_cons_drop brace, head.whole]
  have found := Text.getElem?_utf8_closeBrace (written head.selectors ++ head.tail.take index)
    (head.tail.drop (index + 1))
  rwa [← whole] at found

/-- Braces are reported exactly if and where they should be. A line has one longest head of
selectors. Of the tail behind it, the first space, equals sign, exclamation mark or closing brace
that stands outside braces decides. A closing brace there is reported by its byte in the whole line;
where nothing decides, the number of braces left open is reported, if there are any; and every other
line is accepted. Which tags close themselves makes no difference to any of this, nor to what is
read of the line otherwise. -/
theorem parse_brace_outcome (selfClosing : List Text) (line : Text) :
    ∃ head : Head line, (∀ other : Head line, other = head) ∧
      (∀ offset, parse selfClosing line = .error (.unexpectedClose offset) ↔
        ∃ place, FirstDecides head.tail place ∧ head.tail[place]? = some '}' ∧
          offset = (Text.utf8 (written head.selectors ++ head.tail.take place)).length) ∧
      (∀ depth : Nat, parse selfClosing line = .error (.unclosed depth) ↔
        (∀ place, ¬ Decides head.tail place) ∧ 0 < balance head.tail ∧
          (depth : Int) = balance head.tail) ∧
      ((∃ element, parse selfClosing line = .ok element) ↔
        ¬ (∃ place, FirstDecides head.tail place ∧ head.tail[place]? = some '}') ∧
          ¬ ((∀ place, ¬ Decides head.tail place) ∧ 0 < balance head.tail)) ∧
      ∀ others : List Text,
        (parse others line).map (fun element => { element with selfClosing := false }) =
          (parse selfClosing line).map fun element => { element with selfClosing := false } := by
  let head := Head.ofLine line
  have judged := judged_readTail (Text.utf8 (written head.selectors)).length head.tail
  refine ⟨head, fun other => other.unique head, parse_eq_unexpectedClose_iff head selfClosing,
    fun depth => ?_, ?_, fun others => ?_⟩
  · rw [← judged.eq_unclosed_iff, head.parse_eq, except_map_eq_error_iff]
  · rw [← judged.exists_eq_ok_iff, head.parse_eq, exists_except_map_eq_ok_iff]
  · rw [head.parse_eq, head.parse_eq]
    cases readTail (Text.utf8 (written head.selectors)).length 0 [] none head.tail <;> rfl

end Element

end Haml
