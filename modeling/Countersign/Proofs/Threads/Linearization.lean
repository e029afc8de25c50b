import Countersign.Proofs.Threads.Simulation

/-!
# Threads on one resolver agree with calls one after the other

Making the whole calls one after the other in the order in which they take effect gives every thread
the same results, and the same vault.  The order keeps to the order of every thread, and up to every
point of a run it has come to the calls that have returned and to none that has not begun.
-/

namespace Countersign
namespace Threads
namespace State

variable {World : Type} {fallback : Nat → Option (Config World)} {resolver : Nat}
  {state serial : State World} {begun : List Event}

theorem simulates_start (fallback : Nat → Option (Config World)) (vault : Vault World)
    {calls : Nat → List (Call World)}
    (shared : ∀ number, ∀ call ∈ calls number, call.resolver = resolver) :
    Simulates fallback resolver (start vault calls) (start vault calls) [] :=
  { entries := rfl
    follows := fun number => .idle (calls number) []
    exclusive := fun number => by simp [start, Stage.IsHolding]
    progress := .inl ⟨rfl, rfl, rfl⟩
    shared
    free := fun _ => rfl }

/-- How far a sequential state has come when it stands beside a state: every call that has returned
is made, no call is made that has not begun, and the same is known. -/
structure Accounts (serial state : State World) : Prop where
  /-- The same is known. -/
  entries : state.vault.cache.entries = serial.vault.cache.entries
  /-- Calls that have returned are made, with the same results. -/
  returned : ∀ number, (state.threads number).returned <+: (serial.threads number).returned
  /-- Calls that have not begun are still to be made. -/
  pending : ∀ number, (state.threads number).pending <:+ (serial.threads number).pending

theorem Simulates.accounts (simulates : Simulates fallback resolver state serial begun) :
    Accounts serial state where
  entries := simulates.entries
  returned number := by
    have follows := simulates.follows number
    generalize state.threads number = thread at follows
    generalize serial.threads number = other at follows
    cases follows with
    | idle | waiting | midway => exact List.prefix_rfl
    | leaving => exact List.prefix_append _ _
  pending number := by
    have follows := simulates.follows number
    generalize state.threads number = thread at follows
    generalize serial.threads number = other at follows
    cases follows with
    | idle | leaving => exact List.suffix_rfl
    | waiting | midway => exact List.suffix_cons _ _

/-- When every thread is done, the sequential state is the same but for the place of the lines about
challenges without a realm. -/
theorem Simulates.eq_of_done (simulates : Simulates fallback resolver state serial begun)
    (done : ∀ number, (state.threads number).IsDone) :
    state.vault = serial.vault ∧ state.threads = serial.threads ∧
      ordered state.events = ordered serial.events := by
  have nobody (number : Nat) : ¬(state.threads number).IsMidway := by
    rintro ⟨_, _, staged, _⟩
    rw [(done number).1] at staged
    cases staged
  obtain ⟨-, same_vault, observed⟩ := simulates.settled nobody
  refine ⟨same_vault, ?_, observed⟩
  funext number
  have idle := (done number).1
  rcases threaded : state.threads number with ⟨stage, pending, returned⟩
  rw [threaded] at idle
  subst idle
  exact (threaded ▸ simulates.follows number).eq_of_idle.symm

/-- Any schedule has an order of whole calls, and any beginning of the schedule has a beginning of
that order. -/
theorem Simulates.run (simulates : Simulates fallback resolver state serial begun)
    (schedule : List Nat) :
    ∃ order begun',
      Simulates fallback resolver (state.run fallback schedule) (serial.runWhole fallback order)
          begun' ∧
        ∀ early late, schedule = early ++ late → ∃ first second, order = first ++ second ∧
          Accounts (serial.runWhole fallback first) (state.run fallback early) := by
  induction schedule generalizing state serial begun with
  | nil =>
      refine ⟨[], begun, simulates, fun early late split => ⟨[], [], rfl, ?_⟩⟩
      obtain ⟨rfl, rfl⟩ := List.append_eq_nil_iff.mp split.symm
      exact simulates.accounts
  | cons number schedule induction =>
      obtain ⟨begun', waits | makes⟩ := simulates.turn number
      · obtain ⟨order, begun'', final, beginnings⟩ := induction waits
        refine ⟨order, begun'', final, fun early late split => ?_⟩
        cases early with
        | nil => exact ⟨[], order, rfl, simulates.accounts⟩
        | cons first early =>
            obtain ⟨rfl, remaining⟩ := List.cons.inj split
            exact beginnings early late remaining
      · obtain ⟨order, begun'', final, beginnings⟩ := induction makes
        refine ⟨number :: order, begun'', final, fun early late split => ?_⟩
        cases early with
        | nil => exact ⟨[], number :: order, rfl, simulates.accounts⟩
        | cons first early =>
            obtain ⟨rfl, remaining⟩ := List.cons.inj split
            obtain ⟨made, rest, rfl, accounts⟩ := beginnings early late remaining
            exact ⟨number :: made, rest, rfl, accounts⟩

end State
end Threads
end Countersign
