import Haml.Proofs.Text.Escape
import Haml.Proofs.Text.Quoted
import Haml.Text.Scalar
import Mathlib.Algebra.Group.Nat.Defs
import Mathlib.Tactic.SplitIfs

/-! # Reading YAML scalars

The first character of a scalar tells its style: a quote of one sort or the other, and anything else
in a plain scalar. Undoing the style gives the text back, so the three styles never collide. A text
without a line feed and without the two line separators of Unicode is written on one line, since all
other characters that end a line for YAML are written as escapes. A separator starts a new line, and
the spaces at the start of that line are none of the text.
-/

namespace Haml.Scalar

/-- The characters that end a line. -/
def lineBreaks : List Char :=
  ['\n', '\r', '\x85', '\u2028', '\u2029']

/-- A text that is written on one line. -/
structure IsFlat (text : Text) : Prop where
  feed : '\n' ∉ text
  line : '\u2028' ∉ text
  paragraph : '\u2029' ∉ text

instance (text : Text) : Decidable (IsFlat text) :=
  decidable_of_iff ('\n' ∉ text ∧ '\u2028' ∉ text ∧ '\u2029' ∉ text)
    ⟨fun ⟨feed, line, paragraph⟩ => ⟨feed, line, paragraph⟩,
      fun flat => ⟨flat.feed, flat.line, flat.paragraph⟩⟩

section Reading

/-- The characters that a letter behind a backslash stands for. -/
def letterEscapes : List (Char × Char) :=
  [('0', '\x00'), ('a', '\x07'), ('b', '\x08'), ('t', '\t'), ('n', '\n'), ('v', '\x0b'),
    ('f', '\x0c'), ('r', '\r'), ('e', '\x1b'), (' ', ' '), ('"', '"'), ('/', '/'), ('\\', '\\'),
    ('N', '\x85'), ('_', '\xa0'), ('L', '\u2028'), ('P', '\u2029')]

/-- The character whose code stands in the given number of hexadecimal digits. -/
def readCode (width : Nat) (text : Text) : Option (Char × Text) :=
  (Decimal.natural? 16 (text.take width)).bind fun code =>
    if width ≤ text.length ∧ code.isValidChar then some (Char.ofNat code, text.drop width) else none

/-- The first character of what stands in double quotes. -/
def readChar : Text → Option (Char × Text)
  | [] => none
  | '"' :: _ => none
  | '\\' :: rest =>
    match rest with
    | [] => none
    | 'x' :: rest => readCode 2 rest
    | 'u' :: rest => readCode 4 rest
    | 'U' :: rest => readCode 8 rest
    | letter :: rest => (letterEscapes.lookup letter).map (·, rest)
  | c :: rest => some (c, rest)

/-- What stands in single quotes, read behind the first of them, where a break came last or not; the
last one ends the scalar. -/
def readSingle : Bool → Text → Option Text
  | _, [] => none
  | _, ['\''] => some []
  | _, '\'' :: '\'' :: rest => (readSingle false rest).map ('\'' :: ·)
  | broken, c :: rest =>
    if c = '\'' then none
    else if broken && c == ' ' then readSingle true rest
    else (readSingle (isBreak c) rest).map (c :: ·)

/-- The text that a scalar stands for. -/
def read? : Text → Option Text
  | '\'' :: rest => readSingle false rest
  | '"' :: rest =>
    match Text.readQuoted readChar rest with
    | some (text, []) => some text
    | _ => none
  | text => some text

end Reading

section Styles

private theorem readCode_hex {width : Nat} {c : Char} (small : c.toNat < 16 ^ (width + 1))
    (rest : Text) :
    readCode (width + 1) ((Text.hex (width + 1) c.toNat).map Char.toUpper ++ rest) =
      some (c, rest) := by
  have length : ((Text.hex (width + 1) c.toNat).map Char.toUpper).length = width + 1 := by
    rw [List.length_map, Text.length_hex]
  have capitals : ∀ digit < 16, Decimal.digit? (Nat.digitChar digit).toUpper = some digit := by
    decide
  have valid : c.toNat.isValidChar := c.valid
  rw [readCode, List.take_left' length, List.drop_left' length, Text.natural?_hex capitals small,
    Option.bind_some, if_pos ⟨by simp [length], valid⟩, Char.ofNat_toNat]

/-- A character is read back however it is written. -/
theorem readChar_escape (c : Char) (rest : Text) :
    readChar (escape c ++ rest) = some (c, rest) := by
  rw [escape]
  cases short : shortEscapes.lookup c with
  | some letter =>
    have letters : ∀ pair ∈ shortEscapes, pair.2 ∉ ['x', 'u', 'U'] ∧
        letterEscapes.lookup pair.2 = some pair.1 := by decide
    obtain ⟨plain, known⟩ := letters _ (Text.mem_of_lookup short)
    simp only [List.mem_cons, List.not_mem_nil, or_false, not_or] at plain
    simp [readChar, plain, known]
  | none =>
    dsimp only
    split_ifs with printable small
    · have notQuote : c ≠ '"' := by
        rintro rfl
        cases short
      have notBackslash : c ≠ '\\' := by
        rintro rfl
        cases short
      rw [List.singleton_append, readChar]
      · exact notQuote
      · exact notBackslash
    · exact readCode_hex small rest
    · have code : c.toNat < 16 ^ 4 := by
        simp [isPrintable] at printable
        omega
      exact readCode_hex code rest

theorem read?_doubleQuoted (text : Text) : read? (doubleQuoted text) = some text := by
  have body := Text.readQuoted_flatMap (fun _ => rfl) readChar_escape text []
  rw [doubleQuoted, List.cons_append, read?, body]

/-- The spaces at the start of a line are passed over. -/
theorem readSingle_replicate (indent : Nat) (rest : Text) :
    readSingle true (List.replicate indent ' ' ++ rest) = readSingle true rest := by
  induction indent with
  | zero => rfl
  | succ indent ih =>
    rw [List.replicate_succ, List.cons_append, readSingle]
    · simpa using ih
    · simp
    · simp

private theorem readSingle_margin (indent : Nat) (broken : Bool) (rest : Text) :
    readSingle broken (List.replicate (if broken then indent else 0) ' ' ++ rest) =
      readSingle broken rest := by
  cases broken with
  | false => rfl
  | true => exact readSingle_replicate indent rest

private theorem readSingle_written {broken : Bool} {c : Char} (printed : isBreak c = false)
    (start : broken = true → c ≠ ' ') (later : Text) :
    readSingle broken ((if c = '\'' then [c, c] else [c]) ++ later) =
      (readSingle false later).map (c :: ·) := by
  split
  · next quote =>
    subst quote
    rw [List.cons_append, List.singleton_append, readSingle]
  · next plain =>
    have kept : (broken && c == ' ') = false := by
      cases broken with
      | false => rfl
      | true => simpa using start rfl
    rw [List.singleton_append, readSingle, if_neg plain, kept, printed]
    · rfl
    · exact fun quote _ => plain quote
    · exact fun _ quote _ => plain quote

/-- In a text without a space next to a break, no line starts with a space. -/
theorem spacesBreak_cons {c : Char} {rest : Text} (apart : spacesBreak (c :: rest) = false) :
    spacesBreak rest = false ∧ (isBreak c = true → rest.head? ≠ some ' ') := by
  cases rest with
  | nil => exact ⟨rfl, by simp⟩
  | cons next later =>
    simp only [spacesBreak, Bool.or_eq_false_iff, Bool.and_eq_false_imp, beq_iff_eq,
      beq_eq_false_iff_ne] at apart
    obtain ⟨⟨_, after⟩, later⟩ := apart
    exact ⟨later, fun ends => by simpa using after ends⟩

private theorem readSingle_quotedLines (indent : Nat) {text : Text} {broken : Bool}
    (apart : spacesBreak text = false) (start : broken = true → text.head? ≠ some ' ') :
    readSingle broken (quotedLines indent broken text ++ ['\'']) = some text := by
  induction text generalizing broken with
  | nil =>
    rw [quotedLines, readSingle_margin]
    cases broken <;> rfl
  | cons c rest ih =>
    obtain ⟨restApart, lineStart⟩ := spacesBreak_cons apart
    rw [quotedLines]
    split
    · next ends =>
      have known : c = '\u2028' ∨ c = '\u2029' := by simpa [isBreak] using ends
      have notSpace : (broken && c == ' ') = false := by rcases known with rfl | rfl <;> simp
      have notQuote : c ≠ '\'' := by rcases known with rfl | rfl <;> decide
      rw [List.cons_append, readSingle, if_neg notQuote, notSpace, ends]
      · simp [ih restApart fun _ => lineStart ends]
      · exact fun quote _ => notQuote quote
      · exact fun _ quote _ => notQuote quote
    · next printed =>
      rw [List.append_assoc, readSingle_margin, List.append_assoc,
        readSingle_written (by simpa using printed) (by simpa using start),
        ih restApart (by simp), Option.map_some]

theorem read?_singleQuoted (indent : Nat) {text : Text} (apart : spacesBreak text = false) :
    read? (singleQuoted indent text) = some text := by
  rw [singleQuoted, List.cons_append, read?]
  exact readSingle_quotedLines indent apart (by simp)

/-- A quote at the start of a text is not left to a plain scalar. -/
theorem read?_of_plain {text : Text} (plain : style text = .plain) : read? text = some text := by
  cases text with
  | nil => rfl
  | cons c rest =>
    have ordinary : indicators.contains c = false := by
      cases special : indicators.contains c with
      | false => rfl
      | true =>
        have starts : startsSpecially (c :: rest) = true := by
          rw [startsSpecially, special, Bool.true_or, Bool.or_true]
        rw [style] at plain
        split_ifs at plain with _ quoted
        simp [starts] at quoted
    rw [read?]
    · rintro later ⟨⟩
      exact absurd ordinary (by decide)
    · rintro later ⟨⟩
      exact absurd ordinary (by decide)

/-- Outside double quotes everything prints, and no space gets lost at a break. -/
theorem of_style_ne_double {text : Text} (unescaped : style text ≠ .double) :
    (∀ c ∈ text, isPrintable c = true) ∧ spacesBreak text = false := by
  cases special : text.any (!isPrintable ·) || spacesBreak text with
  | true => exact absurd (if_pos special) unescaped
  | false => simpa using special

/-- Undoing the style of a scalar gives back the text. -/
theorem read?_write (indent : Nat) (text : Text) : read? (write indent text) = some text := by
  rw [write]
  cases found : style text with
  | plain => exact read?_of_plain found
  | single => exact read?_singleQuoted indent (of_style_ne_double (by simp [found])).2
  | double => exact read?_doubleQuoted text

end Styles

section Lines

/-- What is written for a character in double quotes is that character or plain ASCII. -/
theorem mem_escape {c written : Char} (member : written ∈ escape c) :
    written = c ∧ isPrintable c = true ∨ Text.IsGraphic written := by
  rw [escape] at member
  cases short : shortEscapes.lookup c with
  | some letter =>
    have letters : ∀ pair ∈ shortEscapes, Text.IsGraphic pair.2 := by decide
    simp only [short, List.mem_cons, List.not_mem_nil, or_false] at member
    rcases member with rfl | rfl
    · exact .inr (by decide)
    · exact .inr (letters _ (Text.mem_of_lookup short))
  | none =>
    have digits : ∀ digit < 16, Text.IsGraphic (Nat.digitChar digit).toUpper := by decide
    have coded {width : Nat} {mark : Char} (plain : Text.IsGraphic mark)
        (member : written ∈ '\\' :: mark :: (Text.hex width c.toNat).map Char.toUpper) :
        Text.IsGraphic written := by
      simp only [List.mem_cons, List.mem_map] at member
      rcases member with rfl | rfl | ⟨lower, inside, rfl⟩
      · decide
      · exact plain
      · obtain ⟨digit, small, rfl⟩ := Text.exists_digit_of_mem_hex inside
        exact digits digit small
    simp only [short] at member
    split_ifs at member with printable small
    · exact .inl ⟨List.mem_singleton.mp member, printable⟩
    · exact .inr (coded (by decide) member)
    · exact .inr (coded (by decide) member)

private theorem mem_quotedLines {indent : Nat} {broken : Bool} {text : Text} {c : Char}
    (member : c ∈ quotedLines indent broken text) : c ∈ text ∨ c = ' ' := by
  induction text generalizing broken with
  | nil => exact .inr (List.eq_of_mem_replicate member)
  | cons first rest ih =>
    rw [quotedLines] at member
    split at member
    · rcases List.mem_cons.mp member with rfl | later
      · exact .inl List.mem_cons_self
      · exact (ih later).imp_left (List.mem_cons_of_mem first)
    · simp only [List.mem_append] at member
      rcases member with space | written | later
      · exact .inr (List.eq_of_mem_replicate space)
      · have same : c = first := by
          split at written <;> simpa using written
        exact .inl (same ▸ List.mem_cons_self)
      · exact (ih later).imp_left (List.mem_cons_of_mem first)

/-- A scalar holds printable characters of its text and plain ASCII. -/
theorem mem_write {indent : Nat} {text : Text} {c : Char} (member : c ∈ write indent text) :
    c ∈ text ∧ isPrintable c = true ∨ Text.IsGraphic c := by
  rw [write] at member
  cases found : style text with
  | plain =>
    rw [found] at member
    exact .inl ⟨member, (of_style_ne_double (by simp [found])).1 c member⟩
  | single =>
    simp only [found, singleQuoted, List.cons_append, List.mem_cons, List.mem_append,
      List.not_mem_nil, or_false] at member
    rcases member with rfl | written | rfl
    · exact .inr (by decide)
    · rcases mem_quotedLines written with inside | rfl
      · exact .inl ⟨inside, (of_style_ne_double (by simp [found])).1 c inside⟩
      · exact .inr (by decide)
    · exact .inr (by decide)
  | double =>
    simp only [found, doubleQuoted, List.cons_append, List.mem_cons, List.mem_append,
      List.mem_flatMap, List.not_mem_nil, or_false] at member
    rcases member with rfl | ⟨source, inside, written⟩ | rfl
    · exact .inr (by decide)
    · rcases mem_escape written with ⟨rfl, shown⟩ | ascii
      · exact .inl ⟨inside, shown⟩
      · exact .inr ascii
    · exact .inr (by decide)

/-- A scalar stays on one line. -/
theorem lineBreak_not_mem_write {text : Text} (flat : IsFlat text) {c : Char}
    (ends : c ∈ lineBreaks) (indent : Nat) : c ∉ write indent text := by
  intro member
  simp only [lineBreaks, List.mem_cons, List.not_mem_nil, or_false] at ends
  rcases mem_write member with ⟨inside, printable⟩ | ascii
  · rcases ends with rfl | rfl | rfl | rfl | rfl
    · exact flat.feed inside
    · exact absurd printable (by decide)
    · exact absurd printable (by decide)
    · exact flat.line inside
    · exact flat.paragraph inside
  · rcases ends with rfl | rfl | rfl | rfl | rfl <;> exact absurd ascii (by decide)

end Lines

end Haml.Scalar
