/-!
# Results or faults

How a sequence of steps, each of which gives a result or a fault, comes to its own: its result is
that of the last step on the results before, and its fault is the first.
-/

namespace LogSieve

variable {ε α β : Type}

@[simp] theorem pure_eq_ok (a : α) : (pure a : Except ε α) = .ok a := rfl

@[simp] theorem ok_bind (a : α) (next : α → Except ε β) : (.ok a >>= next) = next a := rfl

@[simp] theorem error_bind (fault : ε) (next : α → Except ε β) :
    (.error fault >>= next) = .error fault := rfl

/-- Two steps have a result when the first has one with which the second has it. -/
theorem bind_eq_ok_iff {step : Except ε α} {next : α → Except ε β} {b : β} :
    (step >>= next) = .ok b ↔ ∃ a, step = .ok a ∧ next a = .ok b := by
  cases step <;> simp

/-- Two steps have a fault when the first has it, or the second has it with the result of the
first. -/
theorem bind_eq_error_iff {step : Except ε α} {next : α → Except ε β} {fault : ε} :
    (step >>= next) = .error fault ↔
      step = .error fault ∨ ∃ a, step = .ok a ∧ next a = .error fault := by
  cases step <;> simp

/-- The fault of a step, if it has one. -/
def fault? : Except ε α → Option ε
  | .ok _ => none
  | .error fault => some fault

@[simp] theorem fault?_ok (a : α) : fault? (.ok a : Except ε α) = none := rfl

@[simp] theorem fault?_error (fault : ε) : fault? (.error fault : Except ε α) = some fault := rfl

theorem fault?_eq_some_iff {step : Except ε α} {fault : ε} :
    fault? step = some fault ↔ step = .error fault := by
  cases step <;> simp

theorem fault?_eq_none_iff {step : Except ε α} : fault? step = none ↔ ∃ a, step = .ok a := by
  cases step <;> simp

/-- The fault of two steps is the first of theirs, if that of the second does not depend on the
result of the first. -/
theorem fault?_bind {step : Except ε α} {next : α → Except ε β} {later : Option ε}
    (h : ∀ a, step = .ok a → fault? (next a) = later) :
    fault? (step >>= next) = (fault? step).or later := by
  cases step with
  | ok a => exact h a rfl
  | error fault => rfl

end LogSieve
