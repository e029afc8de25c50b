import Countersign.Action
import Countersign.Numbered

/-!
# Loading once

Several threads may find that something has not been loaded.  Each looks at a flag, waits for a
lock, looks again, and only if the flag is still unset loads and sets the flag, whether the load
succeeded or not.  One turn of a thread is one atomic step; a thread that waits for a held lock,
and one that has nothing left to do, let their turn pass.
-/

namespace Countersign
namespace Loading

/-- Loads, and logs whether that succeeded instead of failing. -/
def reported {World : Type} (load : Action World Unit) : Action World Unit := do
  match ← Action.attempt load with
  | .ok _ => Action.note .loaded
  | .error failure => Action.note (.unloadable failure.message)

/-- Where a thread is within a call. -/
inductive Stage where
  /-- Between calls. -/
  | idle
  /-- Has seen the flag unset and wants the lock. -/
  | waiting
  /-- Has the lock and is about to look at the flag again. -/
  | checking
  /-- Has the lock and is about to load. -/
  | loading
  /-- Has the lock and is about to set the flag. -/
  | marking
  /-- Is about to release the lock. -/
  | leaving
  deriving DecidableEq, Repr

/-- A thread that calls a number of times. -/
structure Thread where
  /-- Where the thread is within a call. -/
  stage : Stage
  /-- Calls that have not begun. -/
  pending : Nat
  /-- Calls that have returned. -/
  returned : Nat
  deriving DecidableEq, Repr

/-- What the threads share, and where each of them is. -/
structure State (World : Type) where
  /-- What is loaded into. -/
  world : World
  /-- Whether the load is over. -/
  loaded : Bool
  /-- The thread that has the lock. -/
  holder : Option Nat
  /-- The threads by number. -/
  threads : Nat → Thread
  /-- What could be observed, in order. -/
  events : List Event

namespace State

variable {World : Type}

/-- All threads between calls, with the number of calls that each will make. -/
def start (world : World) (loaded : Bool) (calls : Nat → Nat) : State World :=
  { world, loaded, holder := none, events := []
    threads := fun number => { stage := .idle, pending := calls number, returned := 0 } }

/-- Moves a thread to a stage. -/
def moveTo (state : State World) (number : Nat) (stage : Stage) : State World :=
  { state with threads := assign state.threads number { state.threads number with stage } }

/-- One atomic step of a thread. -/
def turn (load : Action World Unit) (state : State World) (number : Nat) : State World :=
  let thread := state.threads number
  match thread.stage with
  | .idle =>
      match thread.pending with
      | 0 => state
      | pending + 1 =>
          let stage := if state.loaded then Stage.idle else Stage.waiting
          let returned := if state.loaded then thread.returned + 1 else thread.returned
          { state with threads := assign state.threads number { stage, pending, returned } }
  | .waiting =>
      match state.holder with
      | some _ => state
      | none => { state.moveTo number .checking with holder := some number }
  | .checking => state.moveTo number (if state.loaded then .leaving else .loading)
  | .loading =>
      let outcome := reported load state.world
      { state.moveTo number .marking with
        world := outcome.state
        events := state.events ++ outcome.events }
  | .marking => { state.moveTo number .leaving with loaded := true }
  | .leaving =>
      { state with
        holder := none
        threads :=
          assign state.threads number
            { thread with stage := .idle, returned := thread.returned + 1 } }

/-- The state after the given threads have had their turns, in order. -/
def run (load : Action World Unit) (state : State World) (schedule : List Nat) : State World :=
  schedule.foldl (turn load) state

end State

/-- The schedule on which all threads look at the flag before any of them goes on, and then each
goes on until it returns. -/
def crowd (threads : Nat) : List Nat :=
  List.range threads ++ (List.range threads).flatMap fun number => List.replicate 5 number

end Loading
end Countersign
