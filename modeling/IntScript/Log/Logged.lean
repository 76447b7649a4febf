import IntScript.Log.Event

/-!
# Logged computations

A logged computation ends with a value or an error, and reports events on the way.  The events
reported before an error are kept.
-/

namespace IntScript

/-- The `events` of a computation, in order, and the `result` it ended with. -/
structure Logged (ε α : Type) where
  events : List Event
  result : Except ε α

namespace Logged

variable {ε α β : Type}

/-- Reports `event`. -/
def report (event : Event) : Logged ε Unit :=
  ⟨[event], .ok ()⟩

/-- A computation that ends with `result` and reports nothing. -/
def quiet (result : Except ε α) : Logged ε α :=
  ⟨[], result⟩

/-- Carries on with the value of `computation`, unless it ended with an error. -/
def bind (computation : Logged ε α) (next : α → Logged ε β) : Logged ε β :=
  match computation.result with
  | .ok value => ⟨computation.events ++ (next value).events, (next value).result⟩
  | .error error => ⟨computation.events, .error error⟩

instance : Monad (Logged ε) where
  pure value := quiet (.ok value)
  bind := bind

@[simp]
theorem result_pure (value : α) :
  (pure value : Logged ε α).result = .ok value
  := rfl

/-- The result of `computation >>= next` does not depend on the events reported. -/
@[simp]
theorem result_bind (computation : Logged ε α) (next : α → Logged ε β) :
  (computation >>= next).result = computation.result >>= fun value => (next value).result
  := by
  obtain ⟨events, result⟩ := computation
  cases result <;> rfl

end Logged

end IntScript
