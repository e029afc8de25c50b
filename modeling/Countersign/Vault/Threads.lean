import Countersign.Numbered
import Countersign.Vault.Basic

/-!
# Resolving by several threads

Resolvers share a cache, and each has a lock of its own.  A thread that resolves a challenge first
looks into the cache without the lock.  If the realm is not known there it waits for the lock,
looks again, asks for the username and the password, stores the entry and releases the lock.
Forgetting also happens under the lock.  One turn of a thread is one atomic step; a thread that
waits for a held lock, and one that has nothing left to do, let their turn pass.
-/

namespace Countersign
namespace Threads

variable {World : Type}

/-- Something that a thread asks of a resolver. -/
inductive Call (World : Type) where
  /-- The record that answers a challenge. -/
  | resolve (resolver : Nat) (challenge : Option String) (config : Option (Config World))
  /-- Dropping what is known about a realm. -/
  | forget (resolver : Nat) (realm : String)
  /-- Dropping everything that is known. -/
  | clear (resolver : Nat)

/-- The resolver that a call is made on. -/
def Call.resolver : Call World → Nat
  | resolve resolver _ _ => resolver
  | forget resolver _ => resolver
  | clear resolver => resolver

/-- What a thread does next while it has the lock. -/
inductive Work (World : Type) where
  /-- Look for the realm again. -/
  | look (realm : String) (config : Option (Config World))
  /-- Ask for the username. -/
  | askUsername (realm : String) (config : Config World)
  /-- Ask for the password. -/
  | askPassword (realm : String) (config : Config World) (username : RawText)
  /-- Store the entry. -/
  | store (realm : String) (entry : Option Record)
  /-- Drop what is known about the realm. -/
  | remove (realm : String)
  /-- Drop everything that is known. -/
  | removeAll
  /-- Release the lock and return. -/
  | leave (result : Except Failure (Option Record))

namespace Work

/-- What follows the end of a look-up. -/
def conclude (realm : String) (outcome : Except Failure Credentials) :
    Action (Vault World) (Work World) := do
  match ← Action.attempt (Vault.settle realm outcome) with
  | .ok entry => pure (store realm entry)
  | .error failure => pure (leave (.error failure))

/-- Does what is to be done and finds what is next. -/
def proceed (fallback : Option (Config World)) : Work World → Action (Vault World) (Work World)
  | look realm config => do
      match ← Vault.entryFor realm with
      | some entry => pure (leave (.ok entry))
      | none =>
          match config.or fallback with
          | some config => pure (askUsername realm config)
          | none => do
              Action.note (.unconfigured realm)
              pure (leave (.ok none))
  | askUsername realm config => do
      match ← Action.attempt (Vault.onWorld (Credentials.askUsername realm config)) with
      | .ok username => pure (askPassword realm config username)
      | .error failure => conclude realm (.error failure)
  | askPassword realm config username => do
      match ← Action.attempt (Vault.onWorld (Credentials.askPassword realm config)) with
      | .ok password => conclude realm (Credentials.make realm username password)
      | .error failure => conclude realm (.error failure)
  | store realm entry => do
      Vault.onCache (·.store realm entry)
      pure (leave (.ok entry))
  | remove realm => do
      Vault.forget realm
      pure (leave (.ok none))
  | removeAll => do
      Vault.clear
      pure (leave (.ok none))
  | leave result => pure (leave result)

end Work

/-- The start of a call, without the lock: what it returns at once, or what it will do under the
lock. -/
def Call.begin : Call World → Action (Vault World) (Except (Work World) (Option Record))
  | .resolve _ challenge config => do
      match Challenge.parse challenge with
      | .error failure => do
          Action.note (.ignored failure)
          pure (.ok none)
      | .ok realm => do
          match ← Vault.entryFor realm with
          | some entry => pure (.ok entry)
          | none => pure (.error (.look realm config))
  | .forget _ realm => pure (.error (.remove realm))
  | .clear _ => pure (.error .removeAll)

/-- Where a thread is within a call. -/
inductive Stage (World : Type) where
  /-- Between calls. -/
  | idle
  /-- Wants the lock of a resolver. -/
  | waiting (resolver : Nat) (work : Work World)
  /-- Has the lock of a resolver. -/
  | holding (resolver : Nat) (work : Work World)

/-- A thread that makes calls one after the other. -/
structure Thread (World : Type) where
  /-- Where the thread is within a call. -/
  stage : Stage World
  /-- Calls that have not begun. -/
  pending : List (Call World)
  /-- What the finished calls returned, in order. -/
  returned : List (Except Failure (Option Record))

/-- What the threads share, and where each of them is. -/
structure State (World : Type) where
  /-- The shared cache and the world. -/
  vault : Vault World
  /-- The thread that has the lock of each resolver. -/
  holders : Nat → Option Nat
  /-- The threads by number. -/
  threads : Nat → Thread World
  /-- What could be observed, in order, with the thread that caused it. -/
  events : List (Nat × Event)

namespace State

/-- All threads between calls, with the calls that each will make. -/
def start (vault : Vault World) (calls : Nat → List (Call World)) : State World :=
  { vault, holders := fun _ => none, events := []
    threads := fun number => { stage := .idle, pending := calls number, returned := [] } }

/-- Replaces a thread. -/
def setThread (state : State World) (number : Nat) (thread : Thread World) : State World :=
  { state with threads := assign state.threads number thread }

/-- Records what a thread did to the vault. -/
def record {Value : Type} (state : State World) (number : Nat)
    (outcome : Outcome (Vault World) Value) : State World :=
  { state with
    vault := outcome.state
    events := state.events ++ outcome.events.map fun event => (number, event) }

/-- One atomic step of a thread, given what each resolver falls back on. -/
def turn (fallback : Nat → Option (Config World)) (state : State World) (number : Nat) :
    State World :=
  let thread := state.threads number
  match thread.stage with
  | .idle =>
      match thread.pending with
      | [] => state
      | call :: pending =>
          let outcome := call.begin state.vault
          let next : Thread World :=
            match outcome.result with
            | .ok (.ok entry) => { thread with pending, returned := thread.returned ++ [.ok entry] }
            | .ok (.error work) => { thread with pending, stage := .waiting call.resolver work }
            | .error failure =>
                { thread with pending, returned := thread.returned ++ [.error failure] }
          (state.record number outcome).setThread number next
  | .waiting resolver work =>
      match state.holders resolver with
      | some _ => state
      | none =>
          { state.setThread number { thread with stage := .holding resolver work } with
            holders := assign state.holders resolver (some number) }
  | .holding resolver (.leave result) =>
      { state.setThread number
          { thread with stage := .idle, returned := thread.returned ++ [result] } with
        holders := assign state.holders resolver none }
  | .holding resolver work =>
      let outcome := work.proceed (fallback resolver) state.vault
      let next : Work World :=
        match outcome.result with
        | .ok next => next
        | .error failure => .leave (.error failure)
      (state.record number outcome).setThread number { thread with stage := .holding resolver next }

/-- The state after the given threads have had their turns, in order. -/
def run (fallback : Nat → Option (Config World)) (state : State World) (schedule : List Nat) :
    State World :=
  schedule.foldl (turn fallback) state

end State

/-- The schedule on which all threads look into the cache before any of them goes on, and then
each goes on until it returns. -/
def crowd (threads : Nat) : List Nat :=
  List.range threads ++ (List.range threads).flatMap fun number => List.replicate 6 number

end Threads
end Countersign
