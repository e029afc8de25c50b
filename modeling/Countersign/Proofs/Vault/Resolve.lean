import Countersign.Proofs.Config.Reliable
import Countersign.Vault.Basic

/-!
# What resolving does

A challenge without a realm and a known realm leave the vault as it is.  An unknown realm is looked
up if there is a configuration, and the look-up ends in one of three ways: with credentials, which
become the next record; with a missing value, which is stored as such; or with another failure,
after which the cache is what it was.
-/

namespace Countersign

namespace Cache

theorem find?_store (cache : Cache) (realm other : String) (entry : Option Record) :
    (cache.store realm entry).find? other =
      if other = realm then some entry else cache.find? other :=
  Table.find?_insert cache.entries realm other entry

theorem find?_forget (cache : Cache) (realm other : String) :
    (cache.forget realm).find? other = if other = realm then none else cache.find? other :=
  Table.find?_erase cache.entries realm other

@[simp]
theorem find?_clear (cache : Cache) (realm : String) : cache.clear.find? realm = none := rfl

@[simp]
theorem find?_afterRecord (cache : Cache) (realm : String) :
    cache.afterRecord.find? realm = cache.find? realm := rfl

end Cache

namespace Vault

variable {World Value Result : Type}

@[simp]
theorem onWorld_apply (action : Action World Value) (vault : Vault World) :
    onWorld action vault =
      { result := (action vault.world).result
        state := { vault with world := (action vault.world).state }
        events := (action vault.world).events } := rfl

theorem onWorld_bind (action : Action World Value) (next : Value → Action World Result) :
    (onWorld (action >>= next) : Action (Vault World) Result) =
      onWorld action >>= fun value => onWorld (next value) := by
  funext vault
  cases ended : (action vault.world).result with
  | error failure => simp [Action.bind_apply, ended]
  | ok value => simp [Action.bind_apply, ended]

@[simp]
theorem onCache_apply (change : Cache → Cache) (vault : Vault World) :
    onCache change vault =
      { result := .ok (), state := { vault with cache := change vault.cache }, events := [] } := rfl

@[simp]
theorem entryFor_apply (realm : String) (vault : Vault World) :
    entryFor realm vault =
      { result := .ok (vault.cache.find? realm), state := vault, events := [] } := rfl

@[simp]
theorem forget_apply (realm : String) (vault : Vault World) :
    forget realm vault =
      { result := .ok (), state := { vault with cache := vault.cache.forget realm }
        events := [] } := rfl

@[simp]
theorem clear_apply (vault : Vault World) :
    clear vault =
      { result := .ok (), state := { vault with cache := vault.cache.clear }, events := [] } := rfl

@[simp]
theorem settle_ok (realm : String) (credentials : Credentials) (vault : Vault World) :
    settle realm (.ok credentials) vault =
      { result := .ok (some (vault.cache.nextRecord credentials))
        state := { vault with cache := vault.cache.afterRecord }
        events := [.noted (.resolved realm credentials.username)] } := rfl

@[simp]
theorem settle_notFound (realm message : String) (missing key : Option String)
    (vault : Vault World) :
    settle realm (.error (.notFound message missing key)) vault =
      { result := .ok none, state := vault, events := [.noted (.unavailable realm key)] } := rfl

theorem settle_error {realm : String} {failure : Failure} {vault : Vault World}
    (other : ∀ message missing key, failure ≠ .notFound message missing key) :
    settle realm (.error failure) vault =
      { result := .error failure, state := vault, events := [] } := by
  cases failure with
  | notFound message missing key => exact absurd rfl (other message missing key)
  | _ => rfl

/-- Settling makes a record at most, and leaves what is known as it is. -/
theorem settle_entries (realm : String) (outcome : Except Failure Credentials)
    (vault : Vault World) :
    (settle realm outcome vault).state.cache.entries = vault.cache.entries := by
  rcases outcome with (_ | _ | _ | _ | _ | _ | _ | _ | _ | _ | _ | _ | _) | credentials <;> rfl

variable {fallback config : Option (Config World)} {challenge : Option String} {realm : String}
  {vault : Vault World}

theorem resolve_malformed {failure : Failure}
    (parsed : Challenge.parse challenge = .error failure) :
    resolve fallback challenge config vault =
      { result := .ok none, state := vault, events := [.noted (.ignored failure)] } := by
  simp [resolve, parsed, Except.map]

theorem resolve_known {entry : Option Record} (parsed : Challenge.parse challenge = .ok realm)
    (known : vault.cache.find? realm = some entry) :
    resolve fallback challenge config vault =
      { result := .ok entry, state := vault, events := [] } := by
  simp [resolve, parsed, Action.bind_apply, known, Action.pure_apply]

theorem resolve_unknown (parsed : Challenge.parse challenge = .ok realm)
    (unknown : vault.cache.find? realm = none) :
    resolve fallback challenge config vault = consult realm (config.or fallback) vault := by
  simp [resolve, parsed, Action.bind_apply, unknown]

@[simp]
theorem consult_none (realm : String) (vault : Vault World) :
    consult realm none vault =
      { result := .ok none, state := vault, events := [.noted (.unconfigured realm)] } := rfl

@[simp]
theorem consult_some (realm : String) (config : Config World) :
    consult realm (some config) = lookUp realm config := rfl

/-- Found credentials become the next record, which is stored. -/
theorem lookUp_found {config : Config World} {credentials : Credentials}
    (found : (Credentials.fromConfig realm config vault.world).result = .ok credentials) :
    lookUp realm config vault =
      { result := .ok (some (vault.cache.nextRecord credentials))
        state :=
          { cache := vault.cache.afterRecord.store realm (some (vault.cache.nextRecord credentials))
            world := (Credentials.fromConfig realm config vault.world).state }
        events := (Credentials.fromConfig realm config vault.world).events ++
          [.noted (.resolved realm credentials.username)] } := by
  simp [lookUp, Action.bind_apply, found, Except.map, Cache.nextRecord]

/-- A missing value is stored as such. -/
theorem lookUp_missing {config : Config World} {message : String} {missing key : Option String}
    (absent : (Credentials.fromConfig realm config vault.world).result =
      .error (.notFound message missing key)) :
    lookUp realm config vault =
      { result := .ok none
        state :=
          { cache := vault.cache.store realm none
            world := (Credentials.fromConfig realm config vault.world).state }
        events := (Credentials.fromConfig realm config vault.world).events ++
          [.noted (.unavailable realm key)] } := by
  simp [lookUp, Action.bind_apply, absent, Except.map]

/-- After another failure the cache is what it was. -/
theorem lookUp_failed {config : Config World} {failure : Failure}
    (failed : (Credentials.fromConfig realm config vault.world).result = .error failure)
    (other : ∀ message missing key, failure ≠ .notFound message missing key) :
    lookUp realm config vault =
      { result := .error failure
        state := { vault with world := (Credentials.fromConfig realm config vault.world).state }
        events := (Credentials.fromConfig realm config vault.world).events } := by
  simp [lookUp, Action.bind_apply, failed, settle_error other]

/-- Looking a realm up concerns no other realm. -/
theorem find?_lookUp_of_ne {config : Config World} {other : String} (different : other ≠ realm) :
    (lookUp realm config vault).state.cache.find? other = vault.cache.find? other := by
  rcases ended : (Credentials.fromConfig realm config vault.world).result with failure | credentials
  · by_cases missing : ∃ message at_ key, failure = .notFound message at_ key
    · obtain ⟨message, at_, key, rfl⟩ := missing
      rw [lookUp_missing ended]
      simp [Cache.find?_store, different]
    · rw [lookUp_failed ended fun message at_ key same => missing ⟨message, at_, key, same⟩]
  · rw [lookUp_found ended]
    simp [Cache.find?_store, different]

/-- Resolving leaves what is known as it is. -/
theorem find?_resolve_of_known {other : String} {entry : Option Record}
    (known : vault.cache.find? other = some entry) :
    (resolve fallback challenge config vault).state.cache.find? other = some entry := by
  cases parsed : Challenge.parse challenge with
  | error failure =>
      rw [resolve_malformed parsed]
      exact known
  | ok realm =>
      cases looked : vault.cache.find? realm with
      | some found =>
          rw [resolve_known parsed looked]
          exact known
      | none =>
          rw [resolve_unknown parsed looked]
          cases config.or fallback with
          | none => exact known
          | some config =>
              have different : other ≠ realm := by
                rintro rfl
                rw [looked] at known
                cases known
              rw [consult_some, find?_lookUp_of_ne different]
              exact known

/-- With a reliable configuration at hand that gives only what can be written, resolving returns
what it makes known. -/
theorem resolve_of_reliable {given : Config World} (parsed : Challenge.parse challenge = .ok realm)
    (available : config.or fallback = some given) (reliable : given.IsReliable)
    (writable : given.IsWritable realm) :
    ∃ entry, (resolve fallback challenge config vault).result = .ok entry ∧
      (resolve fallback challenge config vault).state.cache.find? realm = some entry := by
  cases looked : vault.cache.find? realm with
  | some entry => exact ⟨entry, by rw [resolve_known parsed looked], by
      rw [resolve_known parsed looked]; exact looked⟩
  | none =>
      rw [resolve_unknown parsed looked, available, consult_some]
      rcases Credentials.fromConfig_of_no_failure
        (reliable.failure?_eq_none writable vault.world) with
          ⟨credentials, found⟩ | ⟨message, missing, key, absent⟩
      · rw [lookUp_found found]
        exact ⟨_, rfl, by simp [Cache.find?_store]⟩
      · rw [lookUp_missing absent]
        exact ⟨_, rfl, by simp [Cache.find?_store]⟩

end Vault
end Countersign
