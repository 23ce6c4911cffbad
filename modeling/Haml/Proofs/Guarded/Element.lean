import Haml.Proofs.Guarded.Basic

/-! # Reading an element line without a breach

Here the head of an element line and its selectors are found as spans of bytes and cut out of the
line, and the rest of the line is scanned lexeme by lexeme. A brace counter goes up and down, a
block is cut out from the byte of its outermost brace on, and content from the byte of its mark on.
All spans end between two characters, and the counter goes down only inside braces. So no rule is
broken, and the element is the one that reading gives.
-/

namespace Haml.Guarded

open Element

/-! ### The head -/

/-- The number of bytes of the selectors that a line starts with. -/
def headSize : Text → Nat
  | [] => 0
  | mark :: rest =>
    match Marker.ofChar? mark, rest.takeWhile isWord with
    | some _, c :: name =>
      mark.utf8Size + Text.byteSize (c :: name) + headSize (rest.dropWhile isWord)
    | _, _ => 0
  termination_by line => line.length
  decreasing_by
    simp only [List.length_cons]
    exact Nat.lt_succ_of_le (List.dropWhile_sublist isWord).length_le

/-- The bytes at which each selector of a text starts and stops, where the text starts at the byte
`offset`. Other characters are passed over. -/
def selectorSpans (offset : Nat) : Text → List (Nat × Nat)
  | [] => []
  | mark :: rest =>
    match Marker.ofChar? mark, rest.takeWhile isWord with
    | some _, c :: name =>
      let stop := offset + (mark.utf8Size + Text.byteSize (c :: name))
      (offset, stop) :: selectorSpans stop (rest.dropWhile isWord)
    | _, _ => selectorSpans (offset + mark.utf8Size) rest
  termination_by text => text.length
  decreasing_by
    · simp only [List.length_cons]
      exact Nat.lt_succ_of_le (List.dropWhile_sublist isWord).length_le
    all_goals simp

/-- What the selectors of a line name. -/
structure Selection where
  tag : Text
  id : Option Text
  classes : List Text

namespace Selection

/-- Without a selector the element is a plain block. -/
def start : Selection :=
  ⟨"div".toList, none, []⟩

/-- Takes in a name behind its mark: the last tag and the last identity count. -/
def add (selection : Selection) (mark name : Text) : Selection :=
  if mark = ['%'] then { selection with tag := name }
  else if mark = ['#'] then { selection with id := some name }
  else { selection with classes := selection.classes ++ [name] }

end Selection

/-- Takes in the selector that stands at a span of the head. -/
def addSpan {m : Type → Type} [Monad m] (head : Text) (selection : Selection) (span : Nat × Nat) :
    Guarded m Selection := do
  let token ← slice span.1 span.2 head
  let mark ← slice 0 1 token
  let name ← sliceFrom 1 token
  return selection.add mark name

/-! ### The tail -/

/-- What a lexeme is to the scanner. -/
inductive Token where
  | openBrace
  | closeBrace
  | space
  /-- An equals sign or an exclamation mark. -/
  | mark
  | other
  deriving DecidableEq, Repr

/-- A token with the bytes at which it starts and stops. -/
structure Lexeme where
  token : Token
  start : Nat
  stop : Nat
  deriving DecidableEq, Repr

/-- Whether the character is none that the scanner looks for. -/
def isOther (c : Char) : Bool :=
  !List.contains ['{', '}', ' ', '=', '!'] c

/-- The lexemes of a text that starts at the byte `offset`. -/
def lex (offset : Nat) : Text → List Lexeme
  | [] => []
  | '{' :: rest => ⟨.openBrace, offset, offset + 1⟩ :: lex (offset + 1) rest
  | '}' :: rest => ⟨.closeBrace, offset, offset + 1⟩ :: lex (offset + 1) rest
  | ' ' :: rest => ⟨.space, offset, offset + 1⟩ :: lex (offset + 1) rest
  | '=' :: rest => ⟨.mark, offset, offset + 1⟩ :: lex (offset + 1) rest
  | '!' :: rest => ⟨.mark, offset, offset + 1⟩ :: lex (offset + 1) rest
  | c :: rest =>
    ⟨.other, offset, offset + Text.byteSize (c :: rest.takeWhile isOther)⟩ ::
      lex (offset + Text.byteSize (c :: rest.takeWhile isOther)) (rest.dropWhile isOther)
  termination_by text => text.length
  decreasing_by
    all_goals simp only [List.length_cons]
    all_goals first
      | exact Nat.lt_succ_self _
      | exact Nat.lt_succ_of_le (List.dropWhile_sublist isOther).length_le

/-- Scans the rest of a line, which starts at the byte `offset` of the line, for its last attribute
block and its content. The scan is inside `depth` braces, of which the outermost stands at the byte
`blockStart` of the rest; `found` is the last block that was closed. -/
def scanTail (rest : Text) (offset depth blockStart : Nat) (found : Option Text) :
    List Lexeme → Guarded (Except BraceFault) (Option Text × Option Inline)
  | [] => if 0 < depth then refused (.unclosed depth) else pure (found, none)
  | ⟨.openBrace, start, _⟩ :: later =>
    scanTail rest offset (depth + 1) (if depth = 0 then start else blockStart) found later
  | ⟨.closeBrace, start, stop⟩ :: later =>
    if depth = 0 then refused (.unexpectedClose (offset + start))
    else do
      let outer ← decrement depth
      if outer = 0 then
        let block ← slice blockStart stop rest
        scanTail rest offset outer blockStart (some block) later
      else
        scanTail rest offset outer blockStart found later
  | ⟨.space, start, _⟩ :: later =>
    if depth = 0 then do
      let remaining := Text.trim (← sliceFrom start rest)
      if remaining.isEmpty then scanTail rest offset depth blockStart found later
      else return (found, some (.text remaining))
    else scanTail rest offset depth blockStart found later
  | ⟨.mark, start, _⟩ :: later =>
    if depth = 0 then
      return (found, some (.expression (Text.trim (← sliceFrom start rest))))
    else scanTail rest offset depth blockStart found later
  | ⟨.other, _, _⟩ :: later => scanTail rest offset depth blockStart found later

/-- Reads an element line. -/
def readElement (selfClosing : List Text) (line : Text) : Guarded (Except BraceFault) Element := do
  let head ← slice 0 (headSize line) line
  let selection ← (selectorSpans 0 head).foldlM (addSpan head) Selection.start
  let rest ← sliceFrom head.byteSize line
  let (attributes, content) ← scanTail rest head.byteSize 0 0 none (lex 0 rest)
  return {
    tag := selection.tag
    id := selection.id
    classes := selection.classes
    attributes
    inline := content
    selfClosing := selfClosing.contains selection.tag
  }

/-! ### Spans of selectors -/

theorem headSize_eq (line : Text) : headSize line = Text.byteSize (written (readHead line).1) := by
  fun_induction readHead line with
  | case1 =>
    rw [headSize]
    rfl
  | case2 mark rest marker c name word found later tail read ih =>
    rw [read] at ih
    rw [headSize, found, word, ih, written_cons, ← Marker.eq_char_of_ofChar? found, Text.byteSize,
      Text.byteSize_append]
    exact Nat.add_assoc ..
  | case3 mark rest stopped =>
    rw [headSize]
    split
    · next marker c name found word => exact (stopped marker c name found word).elim
    · rfl

/-- The first span of a row of selectors is that of the first selector. -/
theorem selectorSpans_written {selector : Selector} (named : IsName selector.name)
    {later : List Selector} (offset : Nat) :
    selectorSpans offset (written (selector :: later)) =
      (offset, offset + Text.byteSize selector.written) ::
        selectorSpans (offset + Text.byteSize selector.written) (written later) := by
  have ends : ∀ c ∈ (written later).head?, isWord c = false := by
    cases later with
    | nil => simp
    | cons next others => simpa using isWord_head_written next others []
  have word := named.takeWhile_append ends
  have behind := named.dropWhile_append ends
  obtain ⟨c, name, same⟩ := List.exists_cons_of_ne_nil named.nonempty
  rw [same] at word behind
  rw [written_cons, same, selectorSpans, Marker.ofChar?_char, word, behind, Selector.written, same]
  rfl

/-- What a row of selectors names. -/
def Selection.addAll (selection : Selection) (selectors : List Selector) : Selection :=
  selectors.foldl (fun reached selector => reached.add [selector.marker.char] selector.name)
    selection

/-- A selector is cut out of its row, and its mark, which is one byte, from its name. -/
theorem addSpan_eq {m : Type → Type} [Monad m] [LawfulMonad m] (before after : Text)
    (selection : Selection) (selector : Selector) :
    (addSpan (before ++ (selector.written ++ after)) selection
      (before.byteSize, before.byteSize + selector.written.byteSize) : Guarded m Selection) =
      pure (selection.add [selector.marker.char] selector.name) := by
  have single : Text.byteSize [selector.marker.char] = 1 := by cases selector.marker <;> decide
  have mark : (slice 0 1 selector.written : Guarded m Text) = pure [selector.marker.char] := by
    have cut := slice_append (m := m) [] [selector.marker.char] selector.name
    rw [single] at cut
    exact cut
  have name : (sliceFrom 1 selector.written : Guarded m Text) = pure selector.name := by
    have cut := sliceFrom_append (m := m) [selector.marker.char] selector.name
    rw [single] at cut
    exact cut
  rw [addSpan, slice_append, pure_bind, mark, pure_bind, name, pure_bind]

private theorem foldlM_addSpan {m : Type → Type} [Monad m] [LawfulMonad m]
    {selectors : List Selector} (named : ∀ selector ∈ selectors, IsName selector.name)
    (before : Text) (selection : Selection) :
    (selectorSpans before.byteSize (written selectors)).foldlM
      (addSpan (before ++ written selectors)) selection =
      (pure (selection.addAll selectors) : Guarded m Selection) := by
  induction selectors generalizing before selection with
  | nil =>
    rw [written_nil, selectorSpans]
    rfl
  | cons selector later ih =>
    obtain ⟨name, names⟩ := List.forall_mem_cons.mp named
    have rest := ih names (before ++ selector.written)
      (selection.add [selector.marker.char] selector.name)
    have row : written (selector :: later) = selector.written ++ written later := rfl
    rw [Text.byteSize_append, List.append_assoc, ← row] at rest
    rw [selectorSpans_written name, List.foldlM_cons, row, addSpan_eq, pure_bind, ← row, rest]
    rfl

/-- The last tag, the last identity and all classes count. -/
theorem addAll_eq (selection : Selection) (selectors : List Selector) :
    selection.addAll selectors =
      ⟨(names .tag selectors).getLast?.getD selection.tag,
        (names .id selectors).getLast?.or selection.id,
        selection.classes ++ names .className selectors⟩ := by
  induction selectors generalizing selection with
  | nil => simp [Selection.addAll, names]
  | cons selector later ih =>
    have step : selection.addAll (selector :: later) =
        (selection.add [selector.marker.char] selector.name).addAll later := rfl
    obtain ⟨marker, name⟩ := selector
    rw [step, ih]
    cases marker <;> simp [Selection.add, Marker.char, names, List.getLast?_cons]

/-! ### The scan of the tail -/

/-- Where a scan has come to that has read `before`: outside braces nothing is held, and inside
them `block`, last character first, is what stands from the byte `blockStart` on. -/
structure Reached (before : Text) (depth blockStart : Nat) (block : Text) : Prop where
  outside : depth = 0 → block = []
  inside : depth ≠ 0 → ∃ front, before = front ++ block.reverse ∧ blockStart = Text.byteSize front

namespace Reached

variable {before block : Text} {depth blockStart : Nat}

theorem of_outside (before : Text) (blockStart : Nat) : Reached before 0 blockStart [] :=
  ⟨fun _ => rfl, fun positive => absurd rfl positive⟩

/-- Inside braces, what is read is held, at whatever depth the scan goes on. -/
theorem pass (reached : Reached before depth blockStart block) (positive : depth ≠ 0) (run : Text)
    {next : Nat} (deep : next ≠ 0) :
    Reached (before ++ run) next blockStart (run.reverse ++ block) := by
  refine ⟨fun shallow => absurd shallow deep, fun _ => ?_⟩
  obtain ⟨front, rfl, start⟩ := reached.inside positive
  exact ⟨front, by simp, start⟩

/-- The outermost brace starts a block. -/
theorem open_brace (reached : Reached before depth blockStart block) :
    Reached (before ++ ['{']) (depth + 1) (if depth = 0 then before.byteSize else blockStart)
      ('{' :: block) := by
  by_cases outermost : depth = 0
  · rw [if_pos outermost, reached.outside outermost]
    exact ⟨fun shallow => absurd shallow (Nat.succ_ne_zero depth), fun _ => ⟨before, rfl, rfl⟩⟩
  · rw [if_neg outermost]
    exact reached.pass outermost ['{'] (Nat.succ_ne_zero depth)

/-- The block that the last brace closes is cut out between two characters. -/
theorem slice_block {m : Type → Type} [Monad m] (reached : Reached before 1 blockStart block)
    (rest : Text) :
    (slice blockStart (before.byteSize + 1) (before ++ '}' :: rest) : Guarded m Text) =
      pure ('}' :: block).reverse := by
  obtain ⟨front, rfl, rfl⟩ := reached.inside Nat.one_ne_zero
  have cut := slice_append (m := m) front ('}' :: block).reverse rest
  have stop : front.byteSize + Text.byteSize ('}' :: block).reverse =
      Text.byteSize (front ++ block.reverse) + 1 := by
    rw [List.reverse_cons, Text.byteSize_append, Text.byteSize_append]
    rfl
  rw [stop] at cut
  simpa using cut

end Reached

/-- Where content starts outside braces, the rest of the line is cut off in front of its mark. -/
theorem sliceFrom_place {m : Type → Type} [Monad m] {whole before text : Text} {place : Nat}
    (divided : whole = before ++ text) (placed : place = before.byteSize) :
    (sliceFrom place whole : Guarded m Text) = pure text := by
  rw [divided, placed, sliceFrom_append]

/-- An equals sign or an exclamation mark starts an expression outside braces, and inside them it
is held. -/
theorem scanTail_mark {whole before rest block : Text} {c : Char}
    {offset place depth blockStart : Nat} {found : Option Text} {later : List Lexeme}
    (mark : c = '=' ∨ c = '!')
    (divided : whole = before ++ c :: rest) (placed : place = before.byteSize)
    (reached : Reached before depth blockStart block)
    (next : depth ≠ 0 → scanTail whole offset depth blockStart found later =
      unbroken (readTail (offset + (place + 1)) depth (c :: block) found rest)) :
    scanTail whole offset depth blockStart found (⟨.mark, place, place + 1⟩ :: later) =
      unbroken (readTail (offset + place) depth block found (c :: rest)) := by
  rw [scanTail]
  by_cases shallow : depth = 0
  · obtain rfl := shallow
    rw [if_pos rfl, reached.outside rfl, sliceFrom_place divided placed, pure_bind]
    rcases mark with rfl | rfl <;> exact (unbroken_pure _).symm
  · rw [if_neg shallow, next shallow]
    rcases mark with rfl | rfl <;> rw [readTail_inside (by decide) (by decide) _ shallow] <;> rfl

/-- A space starts text outside braces unless only blanks follow, and inside them it is held. -/
theorem scanTail_space {whole before rest block : Text} {offset place depth blockStart : Nat}
    {found : Option Text} {later : List Lexeme} (divided : whole = before ++ ' ' :: rest)
    (placed : place = before.byteSize) (reached : Reached before depth blockStart block)
    (next : ∀ held, (depth = 0 → held = []) → (depth ≠ 0 → held = ' ' :: block) →
      scanTail whole offset depth blockStart found later =
        unbroken (readTail (offset + (place + 1)) depth held found rest)) :
    scanTail whole offset depth blockStart found (⟨.space, place, place + 1⟩ :: later) =
      unbroken (readTail (offset + place) depth block found (' ' :: rest)) := by
  rw [scanTail]
  by_cases shallow : depth = 0
  · obtain rfl := shallow
    rw [if_pos rfl, reached.outside rfl, sliceFrom_place divided placed, pure_bind]
    change _ = unbroken (Except.ok (found, readInline (' ' :: rest)))
    rw [readInline]
    split
    · next empty =>
      have blank := (Text.trim_eq_nil_iff _).mp (List.isEmpty_iff.mp empty)
      rw [Text.allBlank, List.all_cons, Bool.and_eq_true] at blank
      rw [if_pos empty, next [] (fun _ => rfl) (fun deep => absurd rfl deep),
        readTail_blank blank.2]
    · next shown =>
      rw [if_neg shown]
      exact (unbroken_pure _).symm
  · rw [if_neg shallow, next (' ' :: block) (fun zero => absurd zero shallow) (fun _ => rfl),
      readTail_inside (by decide) (by decide) _ shallow]
    rfl

/-- The scan of lexemes breaks no rule and comes to what the scan of characters comes to. -/
theorem scanTail_eq {whole before text block : Text} {place depth blockStart : Nat}
    (offset : Nat) (found : Option Text) (divided : whole = before ++ text)
    (placed : place = before.byteSize) (reached : Reached before depth blockStart block) :
    scanTail whole offset depth blockStart found (lex place text) =
      unbroken (readTail (offset + place) depth block found text) := by
  have advanced (c : Char) (single : c.utf8Size = 1) (before : Text) :
      before.byteSize + 1 = Text.byteSize (before ++ [c]) := by
    rw [Text.byteSize_append, Text.byteSize, single]
    rfl
  fun_induction lex place text generalizing before block depth blockStart found with
  | case1 place =>
    rw [scanTail, readTail]
    rcases Nat.eq_zero_or_pos depth with rfl | positive
    · exact (unbroken_pure _).symm
    · rw [if_pos positive, if_neg (Nat.ne_of_gt positive)]
      rfl
  | case2 place rest ih =>
    subst placed
    rw [scanTail, readTail_openBrace]
    exact ih found (by simp [divided]) (advanced '{' rfl before) reached.open_brace
  | case3 place rest ih =>
    subst placed
    have behind : whole = before ++ ['}'] ++ rest := by simp [divided]
    rw [scanTail]
    rcases depth with _ | _ | outer
    · rw [if_pos rfl, readTail]
      rfl
    · have block := reached.slice_block (m := Except BraceFault) rest
      rw [← divided] at block
      rw [if_neg Nat.one_ne_zero, decrement, pure_bind, if_pos rfl, readTail_lastBrace, block,
        pure_bind]
      exact ih _ behind (advanced '}' rfl before) (Reached.of_outside _ _)
    · rw [if_neg (Nat.succ_ne_zero _), decrement, pure_bind, if_neg (Nat.succ_ne_zero _),
        readTail_closeBrace]
      exact ih found behind (advanced '}' rfl before)
        (reached.pass (Nat.succ_ne_zero _) ['}'] (Nat.succ_ne_zero _))
  | case4 place rest ih =>
    refine scanTail_space divided placed reached fun held outside inside => ?_
    refine ih found (by simp [divided]) (placed ▸ advanced ' ' rfl before) ?_
    by_cases shallow : depth = 0
    · rw [outside shallow, shallow]
      exact Reached.of_outside _ _
    · rw [inside shallow]
      exact reached.pass shallow [' '] shallow
  | case5 place rest ih =>
    refine scanTail_mark (.inl rfl) divided placed reached fun deep => ?_
    exact ih found (by simp [divided]) (placed ▸ advanced '=' rfl before)
      (reached.pass deep ['='] deep)
  | case6 place rest ih =>
    refine scanTail_mark (.inr rfl) divided placed reached fun deep => ?_
    exact ih found (by simp [divided]) (placed ▸ advanced '!' rfl before)
      (reached.pass deep ['!'] deep)
  | case7 place c rest notOpen notClose notSpace notEquals notBang ih =>
    have isGap : IsGap (c :: rest.takeWhile isOther) := by
      refine List.forall_mem_cons.mpr ⟨?_, fun d member => ?_⟩
      · simp only [List.mem_cons, List.not_mem_nil, or_false, not_or]
        exact ⟨notOpen, notClose, notSpace, notEquals, notBang⟩
      · simpa [isOther] using List.mem_takeWhile_imp member
    have run : c :: rest = (c :: rest.takeWhile isOther) ++ rest.dropWhile isOther := by
      rw [List.cons_append, List.takeWhile_append_dropWhile]
    have behind : whole = before ++ (c :: rest.takeWhile isOther) ++ rest.dropWhile isOther := by
      rw [List.append_assoc, ← run, divided]
    have stop : place + Text.byteSize (c :: rest.takeWhile isOther) =
        Text.byteSize (before ++ (c :: rest.takeWhile isOther)) := by
      rw [placed, Text.byteSize_append]
    rw [scanTail, run]
    by_cases shallow : depth = 0
    · obtain rfl := shallow
      rw [reached.outside rfl, readTail_gap isGap, Nat.add_assoc]
      exact ih found behind stop (Reached.of_outside _ _)
    · have plain : ∀ d ∈ c :: rest.takeWhile isOther, d ≠ '{' ∧ d ≠ '}' := by
        intro d member
        have passed := isGap d member
        simp only [List.mem_cons, not_or] at passed
        exact ⟨passed.1, passed.2.1⟩
      rw [readTail_run plain _ shallow, Nat.add_assoc]
      exact ih found behind stop (reached.pass shallow _ shallow)

private theorem scanTail_lex (rest : Text) (offset : Nat) :
    scanTail rest offset 0 0 none (lex 0 rest) = unbroken (readTail offset 0 [] none rest) :=
  scanTail_eq offset none (List.nil_append rest).symm rfl (Reached.of_outside [] 0)

/-- Every element line is read without a breach. -/
theorem readElement_eq (selfClosing : List Text) (line : Text) :
    readElement selfClosing line = unbroken (Element.parse selfClosing line) := by
  have whole := written_readHead line
  have head : (slice 0 (headSize line) line : Guarded (Except BraceFault) Text) =
      pure (written (readHead line).1) := by
    have cut := slice_append (m := Except BraceFault) [] (written (readHead line).1)
      (readHead line).2
    rwa [List.nil_append, whole, Text.byteSize, Nat.zero_add, ← headSize_eq] at cut
  have selection : (selectorSpans 0 (written (readHead line).1)).foldlM
      (addSpan (written (readHead line).1)) Selection.start =
      (pure (Selection.start.addAll (readHead line).1) : Guarded (Except BraceFault) Selection) :=
    foldlM_addSpan (fun _ => isName_of_mem_readHead) [] Selection.start
  have rest : (sliceFrom (written (readHead line).1).byteSize line :
      Guarded (Except BraceFault) Text) = pure (readHead line).2 :=
    sliceFrom_place whole.symm rfl
  have start : line.byteSize - (readHead line).2.byteSize =
      (written (readHead line).1).byteSize := by
    have size := congrArg Text.byteSize whole
    rw [Text.byteSize_append] at size
    omega
  rw [readElement, head, pure_bind, selection, pure_bind, rest, pure_bind, scanTail_lex, addAll_eq,
    Element.parse_eq, start]
  change _ = unbroken (_ <$> _)
  rw [unbroken_map, map_eq_pure_bind]
  simp [Selection.start]

end Haml.Guarded
