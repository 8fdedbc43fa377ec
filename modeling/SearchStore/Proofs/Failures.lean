import SearchStore.Failure

/-!
Computations that may fail: those that fail only of malformed input, and what is known of one that
did not fail.
-/

set_option autoImplicit false

namespace SearchStore

variable {α β : Type}

def FailsMalformed (result : Except Failure α) : Prop :=
  ∀ e, result = .error e → ∃ cause, e = .malformedInput cause

theorem malformed_ok (a : α) : FailsMalformed (.ok a : Except Failure α) := by
  intro e failed
  cases failed

theorem malformed_error (cause : Malformed) : FailsMalformed (.error (.malformedInput cause) : Except Failure α) := by
  intro e failed
  cases failed
  exact ⟨cause, rfl⟩

theorem malformed_bind {first : Except Failure α} {rest : α → Except Failure β} (left : FailsMalformed first)
    (right : ∀ a, FailsMalformed (rest a)) : FailsMalformed (first >>= rest) := by
  cases first with
  | ok a => exact right a
  | error e =>
      intro _ failed
      cases failed
      exact left e rfl

theorem accepted_bind {first : Except Failure α} {rest : α → Except Failure β} {b : β}
    (accepted : (first >>= rest) = .ok b) : ∃ a, first = .ok a ∧ rest a = .ok b := by
  cases first with
  | error e => cases accepted
  | ok a => exact ⟨a, rfl, accepted⟩

theorem error_of_map {ε α β : Type} {result : Except ε α} {f : α → β} {e : ε} (failed : result.map f = .error e) :
    result = .error e := by
  cases result with
  | ok a => cases failed
  | error e =>
      cases failed
      rfl

theorem accepted_of_option {result : Except Failure α} {a : α} (present : result.toOption = some a) :
    result = .ok a := by
  cases result with
  | error e => cases present
  | ok b => exact congrArg Except.ok (Option.some.inj present)

end SearchStore
