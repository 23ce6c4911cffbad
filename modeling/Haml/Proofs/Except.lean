/-! # Computations that may fail

How a computation that may fail goes on where it has not failed.
-/

namespace Haml

@[simp]
theorem except_ok_bind {ε α β : Type} (value : α) (next : α → Except ε β) :
    (Except.ok value : Except ε α) >>= next = next value :=
  rfl

@[simp]
theorem except_map_ok {ε α β : Type} (change : α → β) (value : α) :
    change <$> (Except.ok value : Except ε α) = .ok (change value) :=
  rfl

theorem except_mapError_ok {ε δ α : Type} (change : ε → δ) (value : α) :
    (Except.ok value : Except ε α).mapError change = .ok value :=
  rfl

/-- A computation that succeeds goes through a value of its first part. -/
theorem exists_of_bind_eq_ok {ε α β : Type} {first : Except ε α} {next : α → Except ε β}
    {result : β} (success : first >>= next = .ok result) :
    ∃ value, first = .ok value ∧ next value = .ok result := by
  cases first with
  | error error => cases success
  | ok value => exact ⟨value, rfl, success⟩

theorem except_map_eq_error_iff {ε α β : Type} {change : α → β} {result : Except ε α} {error : ε} :
    result.map change = .error error ↔ result = .error error := by
  cases result <;> simp [Except.map]

theorem exists_except_map_eq_ok_iff {ε α β : Type} {change : α → β} {result : Except ε α} :
    (∃ value, result.map change = .ok value) ↔ ∃ value, result = .ok value := by
  cases result <;> simp [Except.map]

theorem exists_of_isOk {ε α : Type} {result : Except ε α} (success : result.isOk = true) :
    ∃ value, result = .ok value := by
  cases result with
  | error error => cases success
  | ok value => exact ⟨value, rfl⟩

theorem eq_ok_of_toOption {ε α : Type} {result : Except ε α} {value : α}
    (success : result.toOption = some value) : result = .ok value := by
  cases result with
  | error error => cases success
  | ok found => exact congrArg Except.ok (Option.some.inj success)

end Haml
