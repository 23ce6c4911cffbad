import Haml.Error

/-! # Emissions

An emission is a computation that asks a target for code. It records what it asked for, in order,
also where it ends in an error: what was asked for before the error stays on record.
-/

namespace Haml

/-- What was asked of a target, in order, and what came of it. -/
@[ext]
structure Emission (α : Type) where
  calls : List Capability
  outcome : Except CompileError α

namespace Emission

/-- Asks for nothing. -/
def pure {α : Type} (value : α) : Emission α :=
  ⟨[], .ok value⟩

/-- Continues with the value of an emission, unless that emission failed. -/
def bind {α β : Type} (first : Emission α) (next : α → Emission β) : Emission β :=
  match first.outcome with
  | .ok value =>
    let second := next value
    ⟨first.calls ++ second.calls, second.outcome⟩
  | .error error => ⟨first.calls, .error error⟩

/-- Changes the value of an emission. -/
def map {α β : Type} (change : α → β) (emission : Emission α) : Emission β :=
  ⟨emission.calls, emission.outcome.map change⟩

instance : Monad Emission where
  pure := pure
  bind := bind
  map := map

/-- Fails without asking for anything. -/
def fail {α : Type} (error : CompileError) : Emission α :=
  ⟨[], .error error⟩

/-- Goes on with a result that needs no target. -/
def ofExcept {α : Type} (result : Except CompileError α) : Emission α :=
  ⟨[], result⟩

theorem pure_def {α : Type} (value : α) : (Pure.pure value : Emission α) = ⟨[], .ok value⟩ :=
  rfl

/-- After a value, the calls of the rest follow. -/
@[simp]
theorem ok_bind {α β : Type} (calls : List Capability) (value : α) (next : α → Emission β) :
    (⟨calls, .ok value⟩ : Emission α) >>= next =
      ⟨calls ++ (next value).calls, (next value).outcome⟩ :=
  rfl

/-- After an error, nothing follows. -/
@[simp]
theorem error_bind {α β : Type} (calls : List Capability) (error : CompileError)
    (next : α → Emission β) :
    (⟨calls, .error error⟩ : Emission α) >>= next = ⟨calls, .error error⟩ :=
  rfl

@[simp]
theorem ok_map {α β : Type} (calls : List Capability) (value : α) (change : α → β) :
    change <$> (⟨calls, .ok value⟩ : Emission α) = ⟨calls, .ok (change value)⟩ :=
  rfl

@[simp]
theorem error_map {α β : Type} (calls : List Capability) (error : CompileError) (change : α → β) :
    change <$> (⟨calls, .error error⟩ : Emission α) = ⟨calls, .error error⟩ :=
  rfl

instance : LawfulMonad Emission := LawfulMonad.mk' Emission
  (by rintro α ⟨calls, _ | value⟩ <;> rfl)
  (by intro α β value next; rfl)
  (by
    rintro α β γ ⟨calls, _ | value⟩ next last
    · rfl
    · rcases step : next value with ⟨more, _ | result⟩ <;> simp [step])
  (by intro α β value emission; rfl)
  (by rintro α β ⟨calls, _ | value⟩ ⟨more, _ | result⟩ <;> simp [SeqLeft.seqLeft, bind, pure, pure_def])
  (by rintro α β ⟨calls, _ | value⟩ ⟨more, _ | result⟩ <;> simp [SeqRight.seqRight, bind])
  (by rintro α β change ⟨calls, _ | value⟩ <;> simp [pure_def])

/-- How often a capability was asked for. -/
def count {α : Type} (capability : Capability) (emission : Emission α) : Nat :=
  emission.calls.count capability

end Emission

end Haml
