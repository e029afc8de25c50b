/-!
# Numbered values

A family with a value for every number, of which one is replaced at a time.
-/

namespace Countersign

/-- The family in which one number has a new value. -/
def assign {Value : Type} (values : Nat → Value) (number : Nat) (value : Value) : Nat → Value :=
  fun other => if other = number then value else values other

variable {Value : Type}

@[simp]
theorem assign_self (values : Nat → Value) (number : Nat) (value : Value) :
    assign values number value number = value := by
  simp [assign]

@[simp]
theorem assign_same (values : Nat → Value) (number : Nat) :
    assign values number (values number) = values := by
  funext other
  by_cases same : other = number
  · subst same
    simp
  · simp [assign, same]

theorem assign_of_ne (values : Nat → Value) {number other : Nat} (value : Value)
    (different : other ≠ number) : assign values number value other = values other := by
  simp [assign, different]

/-- Of two values for one number the later one counts. -/
theorem assign_assign (values : Nat → Value) (number : Nat) (early late : Value) :
    assign (assign values number early) number late = assign values number late := by
  funext other
  by_cases same : other = number
  · subst same
    simp
  · simp [assign, same]

/-- What holds of a new value, and of the values of all other numbers, holds throughout. -/
theorem assign_forall (holds : Nat → Value → Prop) {values : Nat → Value} {number : Nat}
    {value : Value} (new : holds number value)
    (others : ∀ other, other ≠ number → holds other (values other)) (other : Nat) :
    holds other (assign values number value other) := by
  by_cases same : other = number
  · subst same
    rwa [assign_self]
  · rw [assign_of_ne _ _ same]
    exact others other same

end Countersign
