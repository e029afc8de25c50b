import Countersign.Credentials

/-!
# Schemes and their dispatch

A scheme accepts some challenges and tries to answer those.  Dispatch gives a challenge to the first
scheme that accepts it and to no other; among several challenges the first that is answered counts.
-/

namespace Countersign

/-- A way to answer challenges, acting on a state and given a configuration if there is one. -/
structure Scheme (State Conf : Type) where
  /-- What the scheme is called. -/
  name : String
  /-- Whether the scheme is for a challenge. -/
  accepts : Option String → Bool
  /-- The answer to a challenge, if there is one. -/
  resolve : Option String → Option Conf → Action State (Option Handle)

/-- Schemes in order of preference. -/
abbrev Dispatcher (State Conf : Type) : Type :=
  List (Scheme State Conf)

namespace Dispatcher

variable {State Conf : Type}

/-- The first scheme that accepts a challenge. -/
def select (dispatcher : Dispatcher State Conf) (challenge : Option String) :
    Option (Scheme State Conf) :=
  dispatcher.find? (·.accepts challenge)

/-- The answer of the first scheme that accepts a challenge. -/
def authorize (dispatcher : Dispatcher State Conf) (challenge : Option String)
    (config : Option Conf) : Action State (Option Handle) := do
  match dispatcher.select challenge with
  | none => do
      Action.note (.unmatched challenge)
      pure none
  | some scheme => do
      match ← scheme.resolve challenge config with
      | none => do
          Action.note (.withheld scheme.name challenge)
          pure none
      | some handle => do
          Action.note (.provided scheme.name handle.realm)
          pure (some handle)

/-- The answer to the first of several challenges that is answered. -/
def authorizeAny (dispatcher : Dispatcher State Conf) (config : Option Conf) :
    List (Option String) → Action State (Option Handle)
  | [] => pure none
  | challenge :: challenges => do
      match ← dispatcher.authorize challenge config with
      | some handle => pure (some handle)
      | none => dispatcher.authorizeAny config challenges

end Dispatcher
end Countersign
