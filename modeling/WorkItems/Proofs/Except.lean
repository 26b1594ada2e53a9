/-!
# Steps that may fail

What has a result has one at each of its steps. So a reader that is a chain of steps is taken apart
one step after the other, and the cases in which a step fails need not be named.
-/

namespace WorkItems

variable {ε α β : Type}

theorem exists_of_bind_eq_ok {x : Except ε α} {f : α → Except ε β} {b : β}
    (h : (x >>= f) = .ok b) : ∃ a, x = .ok a ∧ f a = .ok b := by
  cases x with
  | error e => cases h
  | ok a => exact ⟨a, rfl, h⟩

/-- What is known of a result, if there is one, tells that there is one. -/
theorem exists_ok {r : Except ε α} {f : α → β} {b : β} (h : r.toOption.map f = some b) :
    ∃ a, r = .ok a ∧ f a = b := by
  cases r with
  | error e => cases h
  | ok a => exact ⟨a, rfl, Option.some.inj h⟩

end WorkItems
