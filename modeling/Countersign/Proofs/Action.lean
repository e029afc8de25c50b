import Countersign.Action

/-!
# Laws of actions

Actions obey the monad laws.  What an action does is read off its outcome in a starting state: each
basic action has one equation for it, and a sequence is opened by what its first part ended with.
-/

namespace Countersign

attribute [ext] Outcome

namespace Outcome

variable {State Value : Type}

/-- An outcome that other events came before. -/
def after (events : List Event) (outcome : Outcome State Value) : Outcome State Value :=
  { outcome with events := events ++ outcome.events }

@[simp]
theorem after_after (early late : List Event) (outcome : Outcome State Value) :
    (outcome.after late).after early = outcome.after (early ++ late) := by
  simp [after]

end Outcome

namespace Action

variable {State Part Value Result : Type}

@[simp]
theorem emit_apply (event : Event) (state : State) :
    emit event state = { result := .ok (), state, events := [event] } := rfl

@[simp]
theorem note_apply (notice : Notice) (state : State) :
    note notice state = { result := .ok (), state, events := [.noted notice] } := rfl

@[simp]
theorem current_apply (state : State) :
    current state = { result := .ok state, state, events := [] } := rfl

@[simp]
theorem change_apply (update : State → State) (state : State) :
    change update state = { result := .ok (), state := update state, events := [] } := rfl

@[simp]
theorem fail_apply (failure : Failure) (state : State) :
    (fail failure : Action State Value) state =
      { result := .error failure, state, events := [] } := rfl

@[simp]
theorem ofResult_apply (result : Except Failure Value) (state : State) :
    ofResult result state = { result, state, events := [] } := rfl

@[simp]
theorem attempt_apply (action : Action State Value) (state : State) :
    attempt action state =
      { result := .ok (action state).result
        state := (action state).state
        events := (action state).events } := rfl

@[simp]
theorem within_apply (view : State → Part) (update : State → Part → State)
    (action : Action Part Value) (state : State) :
    action.within view update state =
      { result := (action (view state)).result
        state := update state (action (view state)).state
        events := (action (view state)).events } := rfl

/-- A sequence whose first part ended with a value goes on with it. -/
theorem bind_of_ok {action : Action State Value} {next : Value → Action State Result}
    {state : State} {value : Value} (ended : (action state).result = .ok value) :
    (action >>= next) state = (next value (action state).state).after (action state).events := by
  simp [bind_apply, ended, Outcome.after]

/-- A sequence whose first part failed has failed. -/
theorem bind_of_error {action : Action State Value} {next : Value → Action State Result}
    {state : State} {failure : Failure} (ended : (action state).result = .error failure) :
    (action >>= next) state =
      { result := .error failure, state := (action state).state
        events := (action state).events } := by
  simp [bind_apply, ended]

/-- A sequence that ends with the value of its first part, if there is one, ends there unless there
is none. -/
theorem bind_of_ne_none {action : Action State (Option Value)}
    {next : Option Value → Action State (Option Value)} {state : State}
    (answers : ∀ value, next (some value) = pure (some value))
    (ended : (action state).result ≠ .ok none) : (action >>= next) state = action state := by
  rcases reached : action state with ⟨failure | _ | value, after, events⟩
  · rw [bind_of_error (by rw [reached]), reached]
  · rw [reached] at ended
    exact absurd rfl ended
  · rw [bind_of_ok (by rw [reached]), reached, answers]
    simp [pure_apply, Outcome.after]

theorem map_id_apply (action : Action State Value) : id <$> action = action := by
  funext state
  change (action >>= fun value => pure (id value)) state = action state
  cases ended : (action state).result with
  | ok value => ext <;> simp [bind_apply, ended, pure_apply]
  | error failure => ext <;> simp [bind_apply, ended]

theorem succeed_bind (value : Value) (next : Value → Action State Result) :
    (pure value >>= next : Action State Result) = next value := by
  funext state
  simp [bind_apply, pure_apply]

theorem bind_bind {Middle : Type} (action : Action State Value)
    (next : Value → Action State Middle) (last : Middle → Action State Result) :
    action >>= next >>= last = action >>= fun value => next value >>= last := by
  funext state
  cases ended : (action state).result with
  | error failure => simp [bind_apply, ended]
  | ok value =>
      cases continued : (next value (action state).state).result with
      | error failure => simp [bind_apply, ended, continued]
      | ok middle => simp [bind_apply, ended, continued]

instance : LawfulMonad (Action State) :=
  LawfulMonad.mk' (Action State) map_id_apply succeed_bind bind_bind

@[simp]
theorem map_apply (update : Value → Result) (action : Action State Value) (state : State) :
    (update <$> action) state =
      { result := (action state).result.map update
        state := (action state).state
        events := (action state).events } := by
  rw [← bind_pure_comp]
  cases ended : (action state).result with
  | error failure => simp [bind_apply, ended, Except.map]
  | ok value => simp [bind_apply, ended, pure_apply, Except.map]

/-- A sequence whose last part is a result at hand does nothing in that part. -/
theorem bind_ofResult_apply (action : Action State Value) (next : Value → Except Failure Result)
    (state : State) :
    (action >>= fun value => ofResult (next value)) state =
      { result := (action state).result.bind next
        state := (action state).state
        events := (action state).events } := by
  cases ended : (action state).result with
  | error failure => simp [bind_apply, ended, Except.bind]
  | ok value => simp [bind_apply, ended, Except.bind]

/-- A sequence is attempted part by part. -/
theorem attempt_bind (action : Action State Value) (next : Value → Action State Result) :
    attempt (action >>= next) =
      attempt action >>= fun
        | .ok value => attempt (next value)
        | .error failure => pure (.error failure) := by
  funext state
  cases ended : (action state).result with
  | error failure => simp [bind_apply, ended, pure_apply]
  | ok value => simp [bind_apply, ended]

/-- Going on with the value of an attempt, or with the failure that it ended with, is going on
with the action itself. -/
theorem bind_of_attempt (action : Action State Value) (next : Value → Action State Result)
    (continued : Except Failure Value → Action State Result)
    (on_ok : ∀ value, continued (.ok value) = next value)
    (on_error : ∀ failure, continued (.error failure) = ofResult (.error failure)) :
    attempt action >>= continued = action >>= next := by
  funext state
  cases ended : (action state).result with
  | error failure => simp [bind_apply, ended, on_error]
  | ok value => simp [bind_apply, ended, on_ok]

end Action
end Countersign
