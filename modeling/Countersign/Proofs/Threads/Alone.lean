import Countersign.Proofs.Threads.Turn

/-!
# A thread that is alone

A thread that takes turns without interruption, and finds the lock that it wants free, makes its
next call as a whole and returns.  Every turn under the lock brings the thread closer to releasing
it, whatever comes of the call, so all locks are as they were before.
-/

namespace Countersign
namespace Threads

variable {World : Type}

namespace Work

/-- How many more turns are needed at most until the lock can be released. -/
def distance : Work World → Nat
  | look _ _ => 4
  | askUsername _ _ => 3
  | askPassword _ _ _ => 2
  | store _ _ | remove _ | removeAll => 1
  | leave _ => 0

theorem distance_settled (realm : String) (result : Except Failure (Option Record)) :
    (settled realm result : Work World).distance ≤ 1 := by
  cases result with
  | ok entry => exact Nat.le_refl 1
  | error failure => exact Nat.zero_le 1

/-- Every turn under the lock brings its release closer. -/
theorem distance_lt_of_proceed {fallback : Option (Config World)} {work next : Work World}
    {vault after : Vault World} {events : List Event} (isOpen : work.IsOpen)
    (proceeded : work.proceed fallback vault = { result := .ok next, state := after, events }) :
    next.distance < work.distance := by
  have concluded {realm : String} {outcome : Except Failure Credentials} {other : Vault World}
      {early : List Event} (same : (conclude realm outcome other).after early =
        { result := .ok next, state := after, events }) : next.distance < 2 := by
    rw [conclude_apply] at same
    cases same
    exact Nat.lt_succ_of_le (distance_settled _ _)
  cases work with
  | look realm config =>
      rcases known : vault.cache.find? realm with _ | entry
      · rcases available : config.or fallback with _ | config
        all_goals
          simp only [proceed, Action.bind_apply, Vault.entryFor_apply, known, available]
            at proceeded
          cases proceeded
        · exact Nat.succ_pos 3
        · exact Nat.lt_succ_self 3
      · simp only [proceed, Action.bind_apply, Vault.entryFor_apply, known] at proceeded
        cases proceeded
        exact Nat.succ_pos 3
  | askUsername realm config =>
      cases asked : (Credentials.askUsername realm config vault.world).result with
      | ok username =>
          rw [proceed_askUsername_ok asked] at proceeded
          cases proceeded
          exact Nat.lt_succ_self _
      | error failure =>
          rw [proceed_askUsername_error asked] at proceeded
          exact Nat.lt_succ_of_lt (concluded proceeded)
  | askPassword realm config username =>
      rw [proceed_askPassword] at proceeded
      exact concluded proceeded
  | store realm entry | remove realm | removeAll =>
      cases proceeded
      exact Nat.succ_pos _
  | leave result => exact absurd rfl (isOpen result)

end Work

namespace State

variable {state : State World} {number : Nat} {pending : List (Call World)}
  {returned : List (Except Failure (Option Record))}

/-- A thread that has a lock can go on until it has released it. -/
theorem exists_run_of_holding (fallback : Nat → Option (Config World)) {resolver : Nat}
    {work : Work World}
    (threaded : state.threads number = { stage := .holding resolver work, pending, returned }) :
    let outcome := work.finish (fallback resolver) state.vault
    ∃ turns, state.run fallback (List.replicate turns number) =
      { vault := outcome.state
        holders := assign state.holders resolver none
        threads := assign state.threads number
          { stage := .idle, pending, returned := returned ++ [outcome.result] }
        events := state.events ++ outcome.events.map fun event => (number, event) } := by
  intro outcome
  induction measured : work.distance using Nat.strongRecOn generalizing state work with
  | ind distance induction =>
      by_cases ended : ∃ result, work = .leave result
      · obtain ⟨result, rfl⟩ := ended
        refine ⟨1, ?_⟩
        simp [run, turn, threaded, setThread, outcome, Work.finish]
      · have isOpen : work.IsOpen := fun result same => ended ⟨result, same⟩
        obtain ⟨next, after, events, proceeded, -⟩ :=
          work.proceed_cases (fallback resolver) state.vault
        have turned := turn_eq_of_open threaded isOpen proceeded
        have closer := Work.distance_lt_of_proceed isOpen proceeded
        have threaded_next : (state.turn fallback number).threads number =
            { stage := .holding resolver next, pending, returned } := by
          rw [turned]
          exact assign_self _ _ _
        obtain ⟨turns, reached⟩ := induction _ (measured ▸ closer) threaded_next rfl
        refine ⟨turns + 1, ?_⟩
        have first : state.run fallback (List.replicate (turns + 1) number) =
            (state.turn fallback number).run fallback (List.replicate turns number) := rfl
        rw [first, reached, turned]
        simp only [assign_assign, outcome, Work.finish_of_proceed proceeded, Outcome.after,
          List.map_append, List.append_assoc]

/-- A thread that is alone makes its next call as a whole, and leaves all locks as they were. -/
theorem exists_run_of_call (fallback : Nat → Option (Config World)) {call : Call World}
    (threaded : state.threads number = { stage := .idle, pending := call :: pending, returned })
    (free : state.holders call.resolver = none) :
    let outcome := call.perform (fallback call.resolver) state.vault
    ∃ turns, state.run fallback (List.replicate turns number) =
      { vault := outcome.state
        holders := state.holders
        threads := assign state.threads number
          { stage := .idle, pending, returned := returned ++ [outcome.result] }
        events := state.events ++ outcome.events.map fun event => (number, event) } := by
  intro outcome
  rcases call.begin_cases state.vault with
    ⟨entry, events, begun, -, performed⟩ | ⟨work, begun, -, performed⟩
  · refine ⟨1, ?_⟩
    simp only [outcome, performed _ state.vault rfl]
    simp [run, turn, threaded, begun, record, setThread]
  · -- the first turn begins the call, and the second one takes the lock
    let entered : State World :=
      { state with
        holders := assign state.holders call.resolver (some number)
        threads := assign state.threads number
          { stage := .holding call.resolver work, pending, returned } }
    have entered_eq : (state.turn fallback number).turn fallback number = entered := by
      simp [turn, threaded, begun, record, setThread, free, entered, assign_assign]
    have threaded_entered : entered.threads number =
        { stage := .holding call.resolver work, pending, returned } := assign_self _ _ _
    obtain ⟨turns, reached⟩ := entered.exists_run_of_holding fallback threaded_entered
    refine ⟨turns + 2, ?_⟩
    have opened : state.run fallback (List.replicate (turns + 2) number) =
        ((state.turn fallback number).turn fallback number).run fallback
          (List.replicate turns number) := rfl
    have released : assign entered.holders call.resolver none = state.holders := by
      simp only [entered, assign_assign]
      rw [← free, assign_same]
    rw [opened, entered_eq, reached, released]
    simp only [entered, assign_assign, outcome, performed]

end State
end Threads
end Countersign
