import Countersign.Event

/-!
# Actions

An action starts in a state and ends with a value or a failure, a new state, and the events that
could be observed on the way.  A failure keeps the state and the events that came before it.
-/

namespace Countersign

/-- What an action ends with. -/
structure Outcome (State Value : Type) where
  /-- The value, or why there is none. -/
  result : Except Failure Value
  /-- The state afterwards. -/
  state : State
  /-- What could be observed, in order. -/
  events : List Event

/-- A step of work on a state. -/
def Action (State Value : Type) : Type :=
  State → Outcome State Value

namespace Action

variable {State Part Value Result : Type}

/-- Ends with a value at once. -/
def succeed (value : Value) : Action State Value := fun state =>
  { result := .ok value, state, events := [] }

/-- Ends with a failure at once. -/
def fail (failure : Failure) : Action State Value := fun state =>
  { result := .error failure, state, events := [] }

/-- Continues with the value of an action unless it failed. -/
def andThen (action : Action State Value) (next : Value → Action State Result) :
    Action State Result := fun state =>
  let before := action state
  match before.result with
  | .ok value =>
      let after := next value before.state
      { after with events := before.events ++ after.events }
  | .error failure =>
      { result := .error failure, state := before.state, events := before.events }

instance : Monad (Action State) where
  pure := succeed
  bind := andThen

/-- Lets an event be observed. -/
def emit (event : Event) : Action State Unit := fun state =>
  { result := .ok (), state, events := [event] }

/-- Logs a line. -/
def note (notice : Notice) : Action State Unit :=
  emit (.noted notice)

/-- The current state. -/
def current : Action State State := fun state =>
  { result := .ok state, state, events := [] }

/-- Changes the state. -/
def change (update : State → State) : Action State Unit := fun state =>
  { result := .ok (), state := update state, events := [] }

/-- Ends with a result that is at hand. -/
def ofResult (result : Except Failure Value) : Action State Value := fun state =>
  { result, state, events := [] }

/-- Ends with the result of an action as a value, and so never fails. -/
def attempt (action : Action State Value) : Action State (Except Failure Value) := fun state =>
  let outcome := action state
  { outcome with result := .ok outcome.result }

/-- Ends with the value of an action and the events that it caused. -/
def observed (action : Action State Value) : Action State (Value × List Event) := fun state =>
  let outcome := action state
  { outcome with result := outcome.result.map fun value => (value, outcome.events) }

/-- Runs an action on a part of the state. -/
def within (view : State → Part) (update : State → Part → State) (action : Action Part Value) :
    Action State Value := fun state =>
  let outcome := action (view state)
  { outcome with state := update state outcome.state }

theorem pure_apply (value : Value) (state : State) :
    (pure value : Action State Value) state = { result := .ok value, state, events := [] } := rfl

theorem bind_apply (action : Action State Value) (next : Value → Action State Result)
    (state : State) :
    (action >>= next) state =
      match (action state).result with
      | .ok value =>
          { next value (action state).state with
            events := (action state).events ++ (next value (action state).state).events }
      | .error failure =>
          { result := .error failure, state := (action state).state
            events := (action state).events } := rfl

end Action
end Countersign
