-- How a function ends that gives no value: it returns a fault, or it panics and returns nothing.

namespace KeyRoute

/-- The end of a function without a value. -/
inductive Halt (ε : Type) where
  /-- A fault is returned. -/
  | fault (cause : ε)
  /-- Nothing is returned, as the program panics. -/
  | panic
deriving DecidableEq

/-- A fault that is told in other words; a panic stays one. -/
def Halt.map {ε δ : Type} (f : ε → δ) : Halt ε → Halt δ
  | .fault cause => .fault (f cause)
  | .panic => .panic

/-! ## Other words for what ended a function -/

section

variable {ε δ α : Type} {result : Except ε α} {f : ε → δ}

theorem mapError_ok_iff {a : α} : result.mapError f = .ok a ↔ result = .ok a := by
  cases result with
  | error cause => exact ⟨nofun, nofun⟩
  | ok value =>
    exact ⟨fun h => congrArg _ (Except.ok.inj h), fun h => congrArg _ (Except.ok.inj h)⟩

theorem mapError_error_iff {e : δ} :
    result.mapError f = .error e ↔ ∃ cause, result = .error cause ∧ f cause = e := by
  cases result with
  | error cause =>
    constructor
    · exact fun h => ⟨cause, rfl, Except.error.inj h⟩
    · rintro ⟨_, ⟨⟩, rfl⟩
      rfl
  | ok value => exact ⟨nofun, nofun⟩

end

end KeyRoute
