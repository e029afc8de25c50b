import Countersign.Proofs.Config.Keys
import Countersign.Proofs.Vault.Resolve

/-!
# Look-ups that break off

A configuration that fails, on the username or after it on the password, breaks the look-up of a
realm off.  Nothing is stored then, and so a configuration that fails a number of times and then has
the values of a table comes to the same, in the end, as the table.
-/

namespace Countersign

variable {World : Type}

namespace Config

/-- Whether looking a realm up breaks off with a failure, with the world and the events that this
leaves. -/
inductive BreaksOff (config : Config World) (realm : String) (world : World) (failure : Failure) :
    World → List Event → Prop
  /-- There is no answer to the key of the username. -/
  | username {after : World} {events : List Event} :
      config (userKey realm) world = { result := .error failure, state := after, events } →
      BreaksOff config realm world failure after (.asked (userKey realm) :: events)
  /-- There is a username, but no answer to the key of the password. -/
  | password {username : RawText} {middle after : World} {early late : List Event} :
      config (userKey realm) world =
        { result := .ok (some username), state := middle, events := early } →
      config (passwordKey realm) middle =
        { result := .error failure, state := after, events := late } →
      BreaksOff config realm world failure after
        (.asked (userKey realm) :: early ++ .asked (passwordKey realm) :: late)

/-- Whether a configuration has the values of a table, except that asking for a key fails as often
as is left. -/
structure FailsFirst (config : Config World) (values : Table String RawText) (key : String)
    (failure : Failure) (left : Nat → World → Prop) : Prop where
  fails : ∀ remaining world, left (remaining + 1) world → ∃ after events,
    config key world = { result := .error failure, state := after, events } ∧ left remaining after
  answers : ∀ remaining world other, left remaining world → other ≠ key ∨ remaining = 0 →
    ∃ after events,
      config other world = { result := .ok (values.find? other), state := after, events } ∧
        left remaining after

end Config

namespace Credentials

variable {config : Config World} {realm : String} {world after : World} {failure : Failure}
  {events : List Event}

/-- What breaks a look-up off is what it ends with. -/
theorem fromConfig_of_breaksOff (breaks : config.BreaksOff realm world failure after events) :
    fromConfig realm config world = { result := .error failure, state := after, events } := by
  cases breaks with
  | username answered =>
      have asked := askUsername_apply realm config world
      rw [answered] at asked
      rw [fromConfig, Action.bind_of_error (by rw [asked]; rfl), asked]
  | password answered failed =>
      have asked := askUsername_apply realm config world
      rw [answered] at asked
      rw [fromConfig, Action.bind_of_ok (by rw [asked]; rfl), asked, Action.bind_ofResult_apply,
        askPassword_apply, failed]
      rfl

end Credentials

namespace Config.FailsFirst

variable {config : Config World} {values : Table String RawText} {key : String} {failure : Failure}
  {left : Nat → World → Prop} {realm : String} {world : World} {remaining : Nat}

/-- While failures are left, a look-up that comes to the key breaks off and uses one of them up. -/
theorem exists_breaksOff (fails : config.FailsFirst values key failure left)
    (asks : key = userKey realm ∨
      key = passwordKey realm ∧ (values.find? (userKey realm)).isSome)
    (standing : left (remaining + 1) world) :
    ∃ after events, config.BreaksOff realm world failure after events ∧ left remaining after := by
  rcases asks with rfl | ⟨rfl, named⟩
  · obtain ⟨after, events, failed, standing_after⟩ := fails.fails remaining world standing
    exact ⟨after, _, .username failed, standing_after⟩
  · obtain ⟨username, found⟩ := Option.isSome_iff_exists.mp named
    obtain ⟨middle, early, answered, standing_middle⟩ :=
      fails.answers _ world (userKey realm) standing (.inl (userKey_ne_passwordKey realm realm))
    rw [found] at answered
    obtain ⟨after, late, failed, standing_after⟩ := fails.fails remaining middle standing_middle
    exact ⟨after, _, .password answered failed, standing_after⟩

/-- When no failures are left, a look-up ends as it does in the table. -/
theorem fromConfig_eq (fails : config.FailsFirst values key failure left)
    (standing : left 0 world) (other : World) :
    (Credentials.fromConfig realm config world).result =
      (Credentials.fromConfig realm (ofTable values) other).result := by
  obtain ⟨middle, _, answered, standing_middle⟩ :=
    fails.answers 0 world (userKey realm) standing (.inr rfl)
  obtain ⟨_, _, answered', -⟩ :=
    fails.answers 0 middle (passwordKey realm) standing_middle (.inr rfl)
  simp only [Credentials.fromConfig_result, Credentials.askUsername_apply,
    Credentials.askPassword_apply, answered, answered', ofTable, Action.pure_apply]

end Config.FailsFirst

namespace Vault

variable {fallback config : Option (Config World)} {challenge : Option String} {realm : String}
  {vault : Vault World} {given : Config World} {failure : Failure} {after : World}
  {events : List Event}

/-- Whether resolving a challenge breaks off, with the world and the events that this leaves. -/
structure BreaksOff (fallback : Option (Config World)) (challenge : Option String)
    (config : Option (Config World)) (vault : Vault World) (failure : Failure) (after : World)
    (events : List Event) : Prop where
  /-- The realm is not known, and looking it up breaks off. -/
  fails : ∃ realm given, Challenge.parse challenge = .ok realm ∧
    vault.cache.find? realm = none ∧ config.or fallback = some given ∧
    given.BreaksOff realm vault.world failure after events
  /-- The failure is not about a missing value. -/
  other : ∀ message missing key, failure ≠ .notFound message missing key

/-- Resolving that breaks off leaves the cache as it is and shows nothing of its own. -/
theorem resolve_of_breaksOff
    (breaks : BreaksOff fallback challenge config vault failure after events) :
    resolve fallback challenge config vault =
      { result := .error failure, state := { vault with world := after }, events } := by
  obtain ⟨realm, given, parsed, unknown, available, broken⟩ := breaks.fails
  have looked := Credentials.fromConfig_of_breaksOff broken
  rw [resolve_unknown parsed unknown, available, consult_some,
    lookUp_failed (by rw [looked]) breaks.other, looked]

/-- Look-ups that end alike return and store the same, whatever else the worlds hold. -/
theorem lookUp_congr {first second : Config World} {cache : Cache} {left right : World}
    (same : (Credentials.fromConfig realm first left).result =
      (Credentials.fromConfig realm second right).result) :
    (lookUp realm first { cache, world := left }).result =
        (lookUp realm second { cache, world := right }).result ∧
      (lookUp realm first { cache, world := left }).state.cache =
        (lookUp realm second { cache, world := right }).state.cache := by
  rcases ended : (Credentials.fromConfig realm second right).result with failure | credentials
  · rw [ended] at same
    by_cases missing : ∃ message at_ key, failure = .notFound message at_ key
    · obtain ⟨message, at_, key, rfl⟩ := missing
      rw [lookUp_missing same, lookUp_missing ended]
      exact ⟨rfl, rfl⟩
    · have other : ∀ message at_ key, failure ≠ .notFound message at_ key :=
        fun message at_ key equal => missing ⟨message, at_, key, equal⟩
      rw [lookUp_failed same other, lookUp_failed ended other]
      exact ⟨rfl, rfl⟩
  · rw [ended] at same
    rw [lookUp_found same, lookUp_found ended]
    exact ⟨rfl, rfl⟩

/-- When no failures are left, resolving returns and stores what it does with the table. -/
theorem resolve_of_failsFirst {values : Table String RawText} {key : String}
    {left : Nat → World → Prop} (fails : given.FailsFirst values key failure left) {cache : Cache}
    {world : World} (used_up : left 0 world) (parsed : Challenge.parse challenge = .ok realm)
    (available : config.or fallback = some given) (unknown : cache.find? realm = none)
    (other : World) :
    let retried := resolve fallback challenge config { cache, world }
    let plain := resolve fallback challenge (some (.ofTable values)) { cache, world := other }
    retried.result = plain.result ∧ retried.state.cache = plain.state.cache := by
  intro retried plain
  have retried_eq : retried = lookUp realm given { cache, world } := by
    simp only [retried]
    rw [resolve_unknown parsed unknown, available, consult_some]
  have plain_eq : plain = lookUp realm (.ofTable values) { cache, world := other } := by
    simp only [plain]
    rw [resolve_unknown parsed unknown, Option.some_or, consult_some]
  rw [retried_eq, plain_eq]
  exact lookUp_congr (fails.fromConfig_eq used_up other)

end Vault
end Countersign
