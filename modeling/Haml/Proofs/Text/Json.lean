import Haml.Proofs.Text.Escape
import Haml.Proofs.Text.Quoted
import Haml.Text.Json

/-! # Reading JSON

A reader for the JSON documents that dumps are made of. It takes one token at a time, skips blanks
between tokens, and keeps the arrays and objects that are still open on a stack. Everything that
JSON does not allow is refused: a comma before a closing bracket, a number with a leading zero, a
control character in a string, anything behind the document. `read?_pretty` says that it reads back
every document that is written with one item or field a line.
-/

namespace Haml.Json

/-- The smallest parts of a document. -/
inductive Token where
  | openArray
  | closeArray
  | openObject
  | closeObject
  | comma
  | colon
  | number (value : Nat)
  | string (value : Text)
  deriving DecidableEq, Repr

/-- The tokens of one character. -/
def punctuation : List (Char × Token) :=
  [('[', .openArray), (']', .closeArray), ('{', .openObject), ('}', .closeObject), (',', .comma),
    (':', .colon)]

/-- Whether the character may stand between tokens. -/
def isSpace (c : Char) : Bool :=
  c == ' ' || c == '\n' || c == '\r' || c == '\t'

/-- The first character of what a string holds. -/
def readChar : Text → Option (Char × Text)
  | [] => none
  | c :: rest =>
    if c = '\\' then Text.readEscape rest
    else if c ≠ '"' ∧ 0x20 ≤ c.toNat then some (c, rest)
    else none

/-- A natural number, which starts with a zero only if it is zero. -/
def readNumber (text : Text) : Option (Nat × Text) :=
  if text.head? = some '0' ∧ (text.takeWhile Char.isDigit).length ≠ 1 then none
  else Text.readNumeral text

/-- The token at the start of a text. -/
def readToken : Text → Option (Token × Text)
  | [] => none
  | c :: rest =>
    if c = '"' then
      (Text.readQuoted readChar rest).map fun (value, rest) => (.string value, rest)
    else if c.isDigit then (readNumber (c :: rest)).map fun (value, rest) => (.number value, rest)
    else (punctuation.lookup c).map (·, rest)

/-- An array or object that is still open, with what it holds so far, from the end. -/
inductive Frame where
  | array (items : List Json)
  /-- The value that is read next is that of the field of the given name. -/
  | object (fields : List (Text × Json)) (name : Text)

/-- How far a document is read, always with the open arrays and objects around that place. -/
inductive State where
  /-- A value comes next. -/
  | atValue (around : List Frame)
  /-- An array was opened. -/
  | inArray (around : List Frame)
  /-- An object was opened. -/
  | inObject (around : List Frame)
  /-- The name of a field comes next, behind other fields. -/
  | atName (fields : List (Text × Json)) (around : List Frame)
  /-- The colon behind the name of a field comes next. -/
  | atColon (fields : List (Text × Json)) (name : Text) (around : List Frame)
  /-- A value was read. -/
  | done (value : Json) (around : List Frame)

namespace State

/-- Starts a value. -/
def start (around : List Frame) : Token → Option State
  | .number value => some (.done (.number value) around)
  | .string value => some (.done (.string value) around)
  | .openArray => some (.inArray around)
  | .openObject => some (.inObject around)
  | _ => none

/-- Takes the next token. -/
def step : State → Token → Option State
  | .atValue around, token => start around token
  | .inArray around, .closeArray => some (.done (.array []) around)
  | .inArray around, token => start (.array [] :: around) token
  | .inObject around, .closeObject => some (.done (.object []) around)
  | .inObject around, .string name => some (.atColon [] name around)
  | .atName fields around, .string name => some (.atColon fields name around)
  | .atColon fields name around, .colon => some (.atValue (.object fields name :: around))
  | .done value (.array items :: around), .comma =>
    some (.atValue (.array (value :: items) :: around))
  | .done value (.array items :: around), .closeArray =>
    some (.done (.array (value :: items).reverse) around)
  | .done value (.object fields name :: around), .comma =>
    some (.atName ((name, value) :: fields) around)
  | .done value (.object fields name :: around), .closeObject =>
    some (.done (.object ((name, value) :: fields).reverse) around)
  | _, _ => none

/-- Unless it is closed at once, an array goes on with a value. -/
theorem step_inArray (around : List Frame) {token : Token} (opens : token ≠ .closeArray) :
    step (.inArray around) token = step (.atValue (.array [] :: around)) token := by
  rw [step, step]
  exact opens

/-- The document, if it is complete. -/
def result? : State → Option Json
  | .done value [] => some value
  | _ => none

end State

private theorem readToken_length {text rest : Text} {token : Token}
    (success : readToken text = some (token, rest)) : rest.length < text.length := by
  rcases text with _ | ⟨c, tail⟩
  · contradiction
  rw [readToken] at success
  split_ifs at success with quote digit
  · obtain ⟨⟨value, behind⟩, read, same⟩ := Option.map_eq_some_iff.mp success
    have shorter := Text.readQuoted_length read
    cases same
    simp only [List.length_cons]
    omega
  · obtain ⟨⟨value, behind⟩, read, same⟩ := Option.map_eq_some_iff.mp success
    rw [readNumber] at read
    split_ifs at read
    obtain ⟨number, _, split⟩ := Option.map_eq_some_iff.mp read
    cases same
    cases split
    rw [List.dropWhile_cons_of_pos digit]
    exact Nat.lt_succ_of_le (List.dropWhile_sublist _).length_le
  · obtain ⟨found, _, same⟩ := Option.map_eq_some_iff.mp success
    cases same
    simp

/-- The document that is complete when all of the text is read. -/
def run (state : State) : Text → Option Json
  | [] => state.result?
  | c :: rest =>
    if isSpace c then run state rest
    else
      match _step : readToken (c :: rest) with
      | some (token, later) => (state.step token).bind fun next => run next later
      | none => none
  termination_by text => text.length
  decreasing_by
    · simp
    · exact readToken_length _step

/-- The document that the text is. -/
def read? (text : Text) : Option Json :=
  run (.atValue []) text

section Tokens

/-- A character is read back however it is written. -/
theorem readChar_escape (c : Char) (rest : Text) :
    readChar (Text.escape c ++ rest) = some (c, rest) := by
  obtain ⟨code, written, read⟩ | ⟨written, notQuote, notBackslash, shown⟩ := Text.escape_cases c
  · rw [written, List.cons_append, readChar, if_pos rfl, read]
  · rw [written, List.singleton_append, readChar, if_neg notBackslash, if_pos ⟨notQuote, shown⟩]

private theorem readToken_quoted (text rest : Text) :
    readToken (Text.quoted text ++ rest) = some (.string text, rest) := by
  have body := Text.readQuoted_flatMap (fun _ => rfl) readChar_escape text rest
  simp [Text.quoted, readToken, body]

private theorem readNumber_ofNat {rest : Text} (ends : ∀ c ∈ rest.head?, c.isDigit = false)
    (n : Nat) : readNumber (Text.ofNat n ++ rest) = some (n, rest) := by
  have plain : ¬((Text.ofNat n ++ rest).head? = some '0' ∧
      ((Text.ofNat n ++ rest).takeWhile Char.isDigit).length ≠ 1) := by
    obtain ⟨c, later, split, _⟩ := Text.exists_cons_ofNat n
    rw [Text.takeWhile_ofNat ends]
    rintro ⟨first, length⟩
    by_cases zero : n = 0
    · exact length (by rw [zero]; rfl)
    · rw [split] at first
      exact Text.head?_ofNat_ne_zero zero (by rw [split]; exact first)
  rw [readNumber, if_neg plain, Text.readNumeral_ofNat ends]

private theorem readToken_ofNat {rest : Text} (ends : ∀ c ∈ rest.head?, c.isDigit = false)
    (n : Nat) : readToken (Text.ofNat n ++ rest) = some (.number n, rest) := by
  obtain ⟨c, later, split, digit⟩ := Text.exists_cons_ofNat n
  have notQuote : c ≠ '"' := by
    rintro rfl
    exact absurd digit (by decide)
  have number := readNumber_ofNat ends n
  rw [split, List.cons_append] at number ⊢
  rw [readToken, if_neg notQuote, if_pos digit, number, Option.map_some]

end Tokens

section Steps

variable (state : State)

theorem run_nil : run state [] = state.result? := by
  rw [run]

theorem run_space {c : Char} (space : isSpace c = true) (rest : Text) :
    run state (c :: rest) = run state rest := by
  rw [run, if_pos space]

theorem run_newline (level : Nat) (rest : Text) :
    run state (newline level ++ rest) = run state rest := by
  have spaces (count : Nat) : run state (List.replicate count ' ' ++ rest) = run state rest := by
    induction count with
    | zero => rfl
    | succ count ih =>
      rw [List.replicate_succ, List.cons_append, run_space state (by decide), ih]
  rw [newline, List.cons_append, run_space state (by decide), spaces]

private theorem isSpace_of_readToken {c : Char} {tail rest : Text} {token : Token}
    (read : readToken (c :: tail) = some (token, rest)) : isSpace c = false := by
  cases space : isSpace c with
  | false => rfl
  | true =>
    simp only [isSpace, Bool.or_eq_true, beq_iff_eq] at space
    rcases space with ((rfl | rfl) | rfl) | rfl <;> cases read

variable {state}

/-- A token takes one step. -/
theorem run_of_readToken (token : Token) {next : State} {text rest : Text}
    (read : readToken text = some (token, rest)) (step : state.step token = some next) :
    run state text = run next rest := by
  cases text with
  | nil => contradiction
  | cons c tail =>
    rw [run, if_neg (by simp [isSpace_of_readToken read])]
    split
    · rename_i found
      obtain ⟨rfl, rfl⟩ := Prod.mk.inj (Option.some.inj (found.symm.trans read))
      rw [step, Option.bind_some]
    · rename_i found
      cases found.symm.trans read

/-- States that take the first token alike read the whole text alike. -/
theorem run_eq_of_step_eq {other : State} {text rest : Text} {token : Token}
    (read : readToken text = some (token, rest)) (same : state.step token = other.step token) :
    run state text = run other text := by
  cases text with
  | nil => contradiction
  | cons c tail =>
    rw [run, run, if_neg (by simp [isSpace_of_readToken read]),
      if_neg (by simp [isSpace_of_readToken read])]
    split
    · rename_i found
      obtain ⟨rfl, rfl⟩ := Prod.mk.inj (Option.some.inj (found.symm.trans read))
      rw [same]
    · rfl

/-- The name of a field leads to its value. -/
theorem run_field {fields : List (Text × Json)} {name : Text} {around : List Frame}
    (step : state.step (.string name) = some (.atColon fields name around)) (text : Text) :
    run state (Text.quoted name ++ ':' :: ' ' :: text) =
      run (.atValue (.object fields name :: around)) text := by
  rw [run_of_readToken _ (readToken_quoted name _) step,
    run_of_readToken .colon rfl rfl, run_space _ (by decide)]

end Steps

section Documents

/-- The text behind a number, which no digit starts. -/
def EndsNumber (rest : Text) : Prop :=
  ∀ c ∈ rest.head?, c.isDigit = false

private theorem endsNumber_newline (level : Nat) (rest : Text) :
    EndsNumber (newline level ++ rest) := by
  rintro c ⟨⟩
  decide

private theorem endsNumber_prettyItems {rest : Text} (ends : EndsNumber rest) (level : Nat)
    (items : List Json) : EndsNumber (prettyItems level rest items) := by
  cases items with
  | nil => rwa [prettyItems]
  | cons item items =>
    rw [prettyItems]
    rintro c ⟨⟩
    decide

private theorem endsNumber_prettyFields {rest : Text} (ends : EndsNumber rest) (level : Nat)
    (fields : List (Text × Json)) : EndsNumber (prettyFields level rest fields) := by
  cases fields with
  | nil => rwa [prettyFields]
  | cons field fields =>
    rw [prettyFields]
    rintro c ⟨⟩
    decide

/-- No document starts with the end of an array. -/
theorem exists_readToken_prettyAt {rest : Text} (ends : EndsNumber rest) (level : Nat)
    (document : Json) :
    ∃ token later, readToken (prettyAt level rest document) = some (token, later) ∧
      token ≠ .closeArray := by
  cases document with
  | number value =>
    rw [prettyAt]
    exact ⟨_, _, readToken_ofNat ends value, by simp⟩
  | string value =>
    rw [prettyAt]
    exact ⟨_, _, readToken_quoted value rest, by simp⟩
  | array items =>
    cases items <;> rw [prettyAt] <;> exact ⟨.openArray, _, rfl, by simp⟩
  | object fields =>
    cases fields <;> rw [prettyAt] <;> exact ⟨.openObject, _, rfl, by simp⟩

mutual

/-- A document is read as a value of what is open around it. -/
theorem run_prettyAt {rest : Text} (ends : EndsNumber rest) (level : Nat) (around : List Frame) :
    (document : Json) →
      run (.atValue around) (prettyAt level rest document) = run (.done document around) rest
  | .number value => by
    rw [prettyAt]
    exact run_of_readToken _ (readToken_ofNat ends value) rfl
  | .string value => by
    rw [prettyAt]
    exact run_of_readToken _ (readToken_quoted value rest) rfl
  | .array [] => by
    rw [prettyAt, run_of_readToken .openArray rfl rfl,
      run_of_readToken .closeArray rfl rfl]
  | .array (item :: items) => by
    have closes := endsNumber_newline level (']' :: rest)
    have follows := endsNumber_prettyItems closes level items
    obtain ⟨token, later, first, opens⟩ := exists_readToken_prettyAt follows (level + 1) item
    have started := State.step_inArray around opens
    rw [prettyAt, List.cons_append, run_of_readToken .openArray rfl rfl, run_newline,
      run_eq_of_step_eq first started, run_prettyAt follows, run_prettyItems]
    rfl
  | .object [] => by
    rw [prettyAt, run_of_readToken .openObject rfl rfl,
      run_of_readToken .closeObject rfl rfl]
  | .object ((name, value) :: fields) => by
    have closes := endsNumber_newline level ('}' :: rest)
    have follows := endsNumber_prettyFields closes level fields
    rw [prettyAt, List.cons_append, List.cons_append, List.append_assoc,
      run_of_readToken .openObject rfl rfl, run_newline, run_field rfl,
      run_prettyAt follows, run_prettyFields]
    rfl

/-- Further items are read behind those that were read. -/
theorem run_prettyItems (level : Nat) (rest : Text) (around : List Frame) (value : Json)
    (earlier : List Json) : (items : List Json) →
      run (.done value (.array earlier :: around))
          (prettyItems level (newline level ++ ']' :: rest) items) =
        run (.done (.array (earlier.reverse ++ value :: items)) around) rest
  | [] => by
    rw [prettyItems, run_newline, run_of_readToken .closeArray rfl rfl,
      List.reverse_cons]
  | item :: items => by
    have closes := endsNumber_newline level (']' :: rest)
    have follows := endsNumber_prettyItems closes level items
    rw [prettyItems, List.cons_append, run_of_readToken .comma rfl rfl, run_newline,
      run_prettyAt follows, run_prettyItems, List.reverse_cons, List.append_assoc,
      List.singleton_append]

/-- Further fields are read behind those that were read. -/
theorem run_prettyFields (level : Nat) (rest : Text) (around : List Frame) (name : Text)
    (value : Json) (earlier : List (Text × Json)) : (fields : List (Text × Json)) →
      run (.done value (.object earlier name :: around))
          (prettyFields level (newline level ++ '}' :: rest) fields) =
        run (.done (.object (earlier.reverse ++ (name, value) :: fields)) around) rest
  | [] => by
    rw [prettyFields, run_newline, run_of_readToken .closeObject rfl rfl,
      List.reverse_cons]
  | (next, content) :: fields => by
    have closes := endsNumber_newline level ('}' :: rest)
    have follows := endsNumber_prettyFields closes level fields
    rw [prettyFields, List.cons_append, List.cons_append, List.append_assoc,
      run_of_readToken .comma rfl rfl, run_newline, run_field rfl,
      run_prettyAt follows, run_prettyFields, List.reverse_cons, List.append_assoc,
      List.singleton_append]

end

/-- Reading a document that is written out gives the document, and leaves nothing of the text. -/
theorem read?_pretty (document : Json) : read? document.pretty = some document := by
  rw [read?, pretty, run_prettyAt (by simp [EndsNumber]), run_nil]
  rfl

example : ["[1,]", "[01]", "[1] 2", "\"\t\"", "\t[ 1 ]\r\n"].map (read? ·.toList |>.isSome) =
    [false, false, false, false, true] := by
  decide +kernel

end Documents

end Haml.Json
