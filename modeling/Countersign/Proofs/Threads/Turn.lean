import Countersign.Proofs.Threads.Sequential

/-!
# What a turn can do

A turn of a thread does one of six things.  Nothing happens if the thread waits for a held lock or
has no calls left; otherwise a call begins and returns at once, a call begins and wants the lock,
the lock is taken, something is done under the lock, or the lock is released.
-/

namespace Countersign
namespace Threads

variable {World : Type}

/-- Whether a thread has a lock. -/
def Stage.IsHolding : Stage World → Prop
  | .holding _ _ => True
  | .idle | .waiting _ _ => False

namespace State

/-- What a turn of a thread can make of a state. -/
inductive Turn (fallback : Nat → Option (Config World)) (state : State World) (number : Nat) :
    State World → Prop
  /-- Nothing happens. -/
  | rest : ¬(state.threads number).stage.IsHolding → Turn fallback state number state
  /-- A call begins and returns at once. -/
  | answer (call : Call World) (pending : List (Call World))
      (returned : List (Except Failure (Option Record))) (entry : Option Record)
      (events : List Event) :
      state.threads number = { stage := .idle, pending := call :: pending, returned } →
      call.begin state.vault = { result := .ok (.ok entry), state := state.vault, events } →
      Turn fallback state number
        { state with
          threads := assign state.threads number
            { stage := .idle, pending, returned := returned ++ [.ok entry] }
          events := state.events ++ events.map fun event => (number, event) }
  /-- A call begins and wants the lock. -/
  | want (call : Call World) (pending : List (Call World))
      (returned : List (Except Failure (Option Record))) (work : Work World) :
      state.threads number = { stage := .idle, pending := call :: pending, returned } →
      call.begin state.vault = { result := .ok (.error work), state := state.vault, events := [] } →
      Turn fallback state number
        { state with
          threads := assign state.threads number
            { stage := .waiting call.resolver work, pending, returned } }
  /-- The lock is taken. -/
  | take (resolver : Nat) (work : Work World) (pending : List (Call World))
      (returned : List (Except Failure (Option Record))) :
      state.threads number = { stage := .waiting resolver work, pending, returned } →
      state.holders resolver = none →
      Turn fallback state number
        { state with
          threads := assign state.threads number
            { stage := .holding resolver work, pending, returned }
          holders := assign state.holders resolver (some number) }
  /-- Something is done under the lock. -/
  | work (resolver : Nat) (work next : Work World) (pending : List (Call World))
      (returned : List (Except Failure (Option Record))) (after : Vault World)
      (events : List Event) :
      state.threads number = { stage := .holding resolver work, pending, returned } →
      work.IsOpen →
      work.proceed (fallback resolver) state.vault =
        { result := .ok next, state := after, events } →
      Turn fallback state number
        { state with
          vault := after
          threads := assign state.threads number
            { stage := .holding resolver next, pending, returned }
          events := state.events ++ events.map fun event => (number, event) }
  /-- The lock is released. -/
  | release (resolver : Nat) (result : Except Failure (Option Record))
      (pending : List (Call World)) (returned : List (Except Failure (Option Record))) :
      state.threads number = { stage := .holding resolver (.leave result), pending, returned } →
      Turn fallback state number
        { state with
          threads := assign state.threads number
            { stage := .idle, pending, returned := returned ++ [result] }
          holders := assign state.holders resolver none }

theorem turn_eq_of_open {fallback : Nat → Option (Config World)} {state : State World}
    {number resolver : Nat} {work next : Work World} {pending : List (Call World)}
    {returned : List (Except Failure (Option Record))} {after : Vault World} {events : List Event}
    (threaded :
      state.threads number = { stage := .holding resolver work, pending, returned })
    (isOpen : work.IsOpen)
    (proceeded : work.proceed (fallback resolver) state.vault =
      { result := .ok next, state := after, events }) :
    state.turn fallback number =
      { state with
        vault := after
        threads := assign state.threads number
          { stage := .holding resolver next, pending, returned }
        events := state.events ++ events.map fun event => (number, event) } := by
  cases work with
  | leave result => exact absurd rfl (isOpen result)
  | _ => simp only [turn, threaded, proceeded, record, setThread]

/-- A turn does nothing else. -/
theorem turn_spec (fallback : Nat → Option (Config World)) (state : State World) (number : Nat) :
    Turn fallback state number (state.turn fallback number) := by
  rcases threaded : state.threads number with ⟨stage, pending, returned⟩
  cases stage with
  | idle =>
      cases pending with
      | nil =>
          have same : state.turn fallback number = state := by simp [turn, threaded]
          rw [same]
          exact .rest (by simp [threaded, Stage.IsHolding])
      | cons call pending =>
          rcases call.begin_cases state.vault with
            ⟨entry, events, begun, _, _⟩ | ⟨work, begun, _, _⟩
          · have next : Turn fallback state number _ :=
              .answer call pending returned entry events threaded begun
            simpa [turn, threaded, begun, record, setThread] using next
          · have next : Turn fallback state number _ :=
              .want call pending returned work threaded begun
            simpa [turn, threaded, begun, record, setThread] using next
  | waiting resolver work =>
      cases free : state.holders resolver with
      | none =>
          have next : Turn fallback state number _ :=
            .take resolver work pending returned threaded free
          simpa [turn, threaded, free, setThread] using next
      | some holder =>
          have same : state.turn fallback number = state := by simp [turn, threaded, free]
          rw [same]
          exact .rest (by simp [threaded, Stage.IsHolding])
  | holding resolver work =>
      by_cases ended : ∃ result, work = .leave result
      · obtain ⟨result, rfl⟩ := ended
        have next : Turn fallback state number _ :=
          .release resolver result pending returned threaded
        simpa [turn, threaded, setThread] using next
      · have isOpen : work.IsOpen := fun result equal => ended ⟨result, equal⟩
        obtain ⟨next, after, events, proceeded, _⟩ :=
          work.proceed_cases (fallback resolver) state.vault
        rw [turn_eq_of_open threaded isOpen proceeded]
        exact .work resolver work next pending returned after events threaded isOpen proceeded

/-- A turn concerns no other thread. -/
theorem turn_threads_of_ne (fallback : Nat → Option (Config World)) (state : State World)
    {number other : Nat} (different : other ≠ number) :
    (state.turn fallback number).threads other = state.threads other := by
  have turned := turn_spec fallback state number
  generalize state.turn fallback number = next at turned
  cases turned with
  | rest => rfl
  | answer | want | take | work | release => exact assign_of_ne _ _ different

end State
end Threads
end Countersign
