import Countersign.Proofs.Vault.Resolve
import Countersign.Vault.Threads

/-!
# Calls without interruption

A call of a thread is cut into turns, and what its remaining turns do together is again one action.
Each turn does a part of that action and leaves the rest, so a thread that is not interrupted does
the whole call.
-/

namespace Countersign

/-- Whether an event is the line about a challenge without a realm. -/
def Event.isIgnoring : Event → Bool
  | .noted (.ignored _) => true
  | _ => false

namespace Threads

variable {World : Type}

/-- A whole call at once. -/
def Call.perform (fallback : Option (Config World)) :
    Call World → Action (Vault World) (Option Record)
  | .resolve _ challenge config => Vault.resolve fallback challenge config
  | .forget _ realm => do
      Vault.forget realm
      pure none
  | .clear _ => do
      Vault.clear
      pure none

namespace Work

/-- Everything that is left to be done, at once. -/
def finish (fallback : Option (Config World)) : Work World → Action (Vault World) (Option Record)
  | look realm config => do
      match ← Vault.entryFor realm with
      | some entry => pure entry
      | none => Vault.consult realm (config.or fallback)
  | askUsername realm config => Vault.lookUp realm config
  | askPassword realm config username => do
      let outcome ← Action.attempt (Vault.onWorld do
        let password ← Credentials.askPassword realm config
        Action.ofResult (Credentials.make realm username password))
      let entry ← Vault.settle realm outcome
      Vault.onCache (·.store realm entry)
      pure entry
  | store realm entry => do
      Vault.onCache (·.store realm entry)
      pure entry
  | remove realm => do
      Vault.forget realm
      pure none
  | removeAll => do
      Vault.clear
      pure none
  | leave result => Action.ofResult result

/-- What follows the end of a look-up is the entry for it and its storing. -/
theorem conclude_finish (fallback : Option (Config World)) (realm : String)
    (outcome : Except Failure Credentials) :
    conclude realm outcome >>= finish fallback =
      Vault.settle realm outcome >>= fun entry => (store realm entry).finish fallback := by
  rw [conclude, bind_assoc]
  apply Action.bind_of_attempt
  · intro entry
    exact pure_bind _ _
  · intro failure
    exact pure_bind _ _

/-- A turn does a part of what is left. -/
theorem finish_eq_proceed (fallback : Option (Config World)) (work : Work World) :
    work.finish fallback = work.proceed fallback >>= finish fallback := by
  cases work with
  | look realm config =>
      simp only [finish, proceed, bind_assoc]
      congr 1
      funext known
      cases known with
      | some entry => rfl
      | none =>
          cases config.or fallback with
          | some config => rfl
          | none => rfl
  | askUsername realm config =>
      simp only [finish, proceed, bind_assoc, Vault.lookUp, Credentials.fromConfig,
        Vault.onWorld_bind, Action.attempt_bind]
      congr 1
      funext username
      cases username with
      | error failure =>
          rw [conclude_finish, pure_bind]
          rfl
      | ok username =>
          simp only [pure_bind, finish, Vault.onWorld_bind, Action.attempt_bind, bind_assoc]
  | askPassword realm config username =>
      simp only [finish, proceed, bind_assoc, Vault.onWorld_bind, Action.attempt_bind]
      congr 1
      funext password
      cases password with
      | error failure =>
          rw [conclude_finish, pure_bind]
          rfl
      | ok password =>
          rw [conclude_finish]
          rfl
  | store realm entry => rfl
  | remove realm => rfl
  | removeAll => rfl
  | leave result => rfl

/-- Whether more is left to be done than to release the lock. -/
def IsOpen (work : Work World) : Prop :=
  ∀ result, work ≠ leave result

/-- What follows the end of a look-up that came to an entry or to a failure. -/
def settled (realm : String) : Except Failure (Option Record) → Work World
  | .ok entry => store realm entry
  | .error failure => leave (.error failure)

theorem conclude_apply (realm : String) (outcome : Except Failure Credentials)
    (vault : Vault World) :
    conclude realm outcome vault =
      { result := .ok (settled realm (Vault.settle realm outcome vault).result)
        state := (Vault.settle realm outcome vault).state
        events := (Vault.settle realm outcome vault).events } := by
  cases ended : (Vault.settle realm outcome vault).result with
  | ok entry => simp [conclude, Action.bind_apply, Action.pure_apply, ended, settled]
  | error failure => simp [conclude, Action.bind_apply, Action.pure_apply, ended, settled]

variable {fallback : Option (Config World)} {vault : Vault World} {realm : String}
  {username : RawText} {config : Config World}

theorem proceed_askUsername_ok
    (asked : (Credentials.askUsername realm config vault.world).result = .ok username) :
    (askUsername realm config).proceed fallback vault =
      { result := .ok (askPassword realm config username)
        state :=
          { vault with world := (Credentials.askUsername realm config vault.world).state }
        events := (Credentials.askUsername realm config vault.world).events } := by
  simp [proceed, Action.bind_apply, Action.pure_apply, asked]

theorem proceed_askUsername_error {failure : Failure}
    (asked : (Credentials.askUsername realm config vault.world).result = .error failure) :
    (askUsername realm config).proceed fallback vault =
      (conclude realm (.error failure)
        { vault with world := (Credentials.askUsername realm config vault.world).state }).after
        (Credentials.askUsername realm config vault.world).events := by
  simp [proceed, Action.bind_apply, asked, Outcome.after, conclude_apply]

theorem proceed_askPassword :
    (askPassword realm config username).proceed fallback vault =
      (conclude realm
        ((Credentials.askPassword realm config vault.world).result.bind
          (Credentials.make realm username))
        { vault with world := (Credentials.askPassword realm config vault.world).state }).after
        (Credentials.askPassword realm config vault.world).events := by
  cases asked : (Credentials.askPassword realm config vault.world).result with
  | ok password =>
      simp [proceed, Action.bind_apply, asked, Outcome.after, conclude_apply, Except.bind]
  | error failure =>
      simp [proceed, Action.bind_apply, asked, Outcome.after, conclude_apply, Except.bind]

/-- A turn under the lock never fails, and only one after which the lock is released changes what
the cache knows. -/
theorem proceed_cases (fallback : Option (Config World)) (work : Work World) (vault : Vault World) :
    ∃ next after events,
      work.proceed fallback vault = { result := .ok next, state := after, events } ∧
        (next.IsOpen → after.cache.entries = vault.cache.entries) := by
  have concludes (realm : String) (outcome : Except Failure Credentials) (world : World)
      (events : List Event) :
      ∃ next after later,
        (conclude realm outcome { vault with world }).after events =
            { result := .ok next, state := after, events := later } ∧
          (next.IsOpen → after.cache.entries = vault.cache.entries) := by
    refine ⟨_, _, _, by rw [conclude_apply]; rfl, fun _ => ?_⟩
    exact Vault.settle_entries realm outcome { vault with world }
  cases work with
  | look realm config =>
      cases known : vault.cache.find? realm with
      | some entry =>
          refine ⟨leave (.ok entry), vault, [], ?_, fun _ => rfl⟩
          simp [proceed, Action.bind_apply, Action.pure_apply, known]
      | none =>
          cases available : config.or fallback with
          | some config =>
              refine ⟨askUsername realm config, vault, [], ?_, fun _ => rfl⟩
              simp [proceed, Action.bind_apply, Action.pure_apply, known, available]
          | none =>
              refine ⟨leave (.ok none), vault, [.noted (.unconfigured realm)], ?_, fun _ => rfl⟩
              simp [proceed, Action.bind_apply, known, available, Except.map]
  | askUsername realm config =>
      cases asked : (Credentials.askUsername realm config vault.world).result with
      | ok username => exact ⟨_, _, _, proceed_askUsername_ok asked, fun _ => rfl⟩
      | error failure =>
          rw [proceed_askUsername_error asked]
          exact concludes realm _ _ _
  | askPassword realm config username =>
      rw [proceed_askPassword]
      exact concludes realm _ _ _
  | store realm entry =>
      exact ⟨leave (.ok entry), _, [], rfl, fun more => absurd rfl (more _)⟩
  | remove realm => exact ⟨leave (.ok none), _, [], rfl, fun more => absurd rfl (more _)⟩
  | removeAll => exact ⟨leave (.ok none), _, [], rfl, fun more => absurd rfl (more _)⟩
  | leave result => exact ⟨leave result, _, [], rfl, fun _ => rfl⟩

theorem entries_of_proceed {work next : Work World} {after : Vault World} {events : List Event}
    (proceeded : work.proceed fallback vault = { result := .ok next, state := after, events })
    (isOpen : next.IsOpen) : after.cache.entries = vault.cache.entries := by
  obtain ⟨next', after', events', proceeded', same⟩ := work.proceed_cases fallback vault
  rw [proceeded] at proceeded'
  cases proceeded'
  exact same isOpen

/-- What is left after a turn is what was left before without what the turn did. -/
theorem finish_of_proceed {work next : Work World} {after : Vault World} {events : List Event}
    (proceeded : work.proceed fallback vault = { result := .ok next, state := after, events }) :
    work.finish fallback vault = (next.finish fallback after).after events := by
  rw [finish_eq_proceed]
  simp [Action.bind_apply, proceeded, Outcome.after]

end Work

/-- A call either returns at once, and would return the same from any vault that knows the same, or
all of it is left to be done under the lock.  At once nothing is observed but that a challenge has
no realm. -/
theorem Call.begin_cases (call : Call World) (vault : Vault World) :
    (∃ entry events,
      call.begin vault = { result := .ok (.ok entry), state := vault, events } ∧
        (∀ event ∈ events, event.isIgnoring) ∧
          ∀ fallback (other : Vault World), other.cache.entries = vault.cache.entries →
            call.perform fallback other = { result := .ok entry, state := other, events }) ∨
      ∃ work, call.begin vault = { result := .ok (.error work), state := vault, events := [] } ∧
        work.IsOpen ∧ ∀ fallback, call.perform fallback = work.finish fallback := by
  cases call with
  | resolve resolver challenge config =>
      cases parsed : Challenge.parse challenge with
      | error failure =>
          refine .inl ⟨none, [.noted (.ignored failure)], ?_, by simp [Event.isIgnoring], ?_⟩
          · simp [Call.begin, parsed, Except.map]
          · intro fallback other _
            exact Vault.resolve_malformed parsed
      | ok realm =>
          cases known : vault.cache.find? realm with
          | some entry =>
              refine .inl ⟨entry, [], ?_, by simp, ?_⟩
              · simp [Call.begin, parsed, Action.bind_apply, Action.pure_apply, known]
              · intro fallback other same
                have other_known : other.cache.find? realm = some entry := by
                  rw [Cache.find?, same]
                  exact known
                exact Vault.resolve_known parsed other_known
          | none =>
              refine .inr ⟨.look realm config, ?_, by rintro _ ⟨⟩, ?_⟩
              · simp [Call.begin, parsed, Action.bind_apply, Action.pure_apply, known]
              · intro fallback
                change Vault.resolve fallback challenge config = _
                rw [Vault.resolve, parsed]
                rfl
  | forget resolver realm => exact .inr ⟨.remove realm, rfl, by rintro _ ⟨⟩, fun _ => rfl⟩
  | clear resolver => exact .inr ⟨.removeAll, rfl, by rintro _ ⟨⟩, fun _ => rfl⟩

theorem Call.perform_of_answer {call : Call World} {vault : Vault World} {entry : Option Record}
    {events : List Event}
    (begun : call.begin vault = { result := .ok (.ok entry), state := vault, events }) :
    (∀ event ∈ events, event.isIgnoring) ∧
      ∀ fallback (other : Vault World), other.cache.entries = vault.cache.entries →
        call.perform fallback other = { result := .ok entry, state := other, events } := by
  rcases call.begin_cases vault with ⟨entry', events', begun', performed⟩ | ⟨work, begun', _⟩
  · rw [begun] at begun'
    cases begun'
    exact performed
  · rw [begun] at begun'
    cases begun'

theorem Call.perform_of_want {call : Call World} {vault : Vault World} {work : Work World}
    (begun : call.begin vault = { result := .ok (.error work), state := vault, events := [] }) :
    work.IsOpen ∧ ∀ fallback, call.perform fallback = work.finish fallback := by
  rcases call.begin_cases vault with ⟨entry, events, begun', _⟩ | ⟨work', begun', isOpen, same⟩
  · rw [begun] at begun'
    cases begun'
  · rw [begun] at begun'
    cases begun'
    exact ⟨isOpen, same⟩

end Threads
end Countersign
