import Haml.Text.Quoted

/-! # Reading quoted strings

What stands between double quotes is read character by character up to the closing quote. How a
character is written differs between formats, so it is left to a reader for one character. If that
reader takes back every character as it is written, and never a bare quote, then every text is
taken back.
-/

namespace Haml.Text

/-- What a string holds, read behind its opening quote, and what follows its closing quote. -/
def readQuoted (readChar : Text → Option (Char × Text)) (text : Text) : Option (Text × Text) :=
  if text.head? = some '"' then some ([], text.drop 1)
  else
    match readChar text with
    | some (c, rest) =>
      if rest.length < text.length then
        (readQuoted readChar rest).map fun (value, rest) => (c :: value, rest)
      else none
    | none => none
  termination_by text.length

theorem readQuoted_length {readChar : Text → Option (Char × Text)} {text value rest : Text}
    (success : readQuoted readChar text = some (value, rest)) : rest.length < text.length := by
  fun_induction readQuoted readChar text generalizing value rest with
  | case1 text quote =>
    obtain ⟨tail, rfl⟩ := List.head?_eq_some_iff.mp quote
    cases success
    simp
  | case2 text _ c later _ shorter ih =>
    obtain ⟨⟨found, behind⟩, read, same⟩ := Option.map_eq_some_iff.mp success
    have further := ih read
    cases same
    omega
  | case3 => contradiction
  | case4 => contradiction

section RoundTrip

variable {readChar : Text → Option (Char × Text)} {escape : Char → Text}
  (quote : ∀ rest, readChar ('"' :: rest) = none)
  (each : ∀ c rest, readChar (escape c ++ rest) = some (c, rest))
include quote each

/-- Every character is written with one character at least, and the first one is no quote. -/
theorem exists_cons_escape (c : Char) : ∃ first later, escape c = first :: later ∧ first ≠ '"' := by
  cases written : escape c with
  | nil =>
    have nothing := each c ['"']
    rw [written, List.nil_append, quote] at nothing
    cases nothing
  | cons first later =>
    refine ⟨first, later, rfl, ?_⟩
    rintro rfl
    have refused := each c []
    rw [written, List.cons_append, quote] at refused
    cases refused

/-- What a string holds is read up to its closing quote. -/
theorem readQuoted_flatMap (text rest : Text) :
    readQuoted readChar (text.flatMap escape ++ '"' :: rest) = some (text, rest) := by
  induction text with
  | nil =>
    rw [readQuoted]
    simp
  | cons c text ih =>
    obtain ⟨first, later, written, plain⟩ := exists_cons_escape quote each c
    rw [List.flatMap_cons, List.append_assoc, readQuoted, each, if_neg (by simp [written, plain])]
    generalize text.flatMap escape ++ '"' :: rest = tail at ih ⊢
    have shorter : tail.length < (escape c ++ tail).length := by
      simp only [written, List.length_append, List.length_cons]
      omega
    simp only [shorter, ↓reduceIte, ih, Option.map_some]

end RoundTrip

end Haml.Text
