import Countersign.Proofs.Vault.Resolve

/-!
# Looking up against remembering

Where a resolver knows nothing about a realm, it depends on the configuration at hand alone whether
a challenge makes the realm known.  What becomes known is what the look-up gave.
-/

namespace Countersign
namespace Vault

variable {World : Type}

/-- What looking a realm up makes known, if it does not break off. -/
def verdict? (realm : String) (config : Config World) (vault : Vault World) :
    Option (Option Record) :=
  match config.failure? realm vault.world with
  | some _ => none
  | none =>
      some ((Credentials.fromConfig realm config vault.world).result.toOption.map
        vault.cache.nextRecord)

/-- The configuration in which a challenge has a realm looked up. -/
def configFor? (realm : String) (fallback : Option (Config World)) (challenge : Option String)
    (config : Option (Config World)) : Option (Config World) :=
  match Challenge.parse challenge with
  | .ok other => if other = realm then config.or fallback else none
  | .error _ => none

variable {realm other : String} {given : Config World} {vault : Vault World}

theorem lookUp_of_failure (candid : given.IsCandid) {failure : Failure}
    (failed : given.failure? realm vault.world = some failure) :
    (lookUp realm given vault).result = .error failure ∧
      (lookUp realm given vault).state.cache = vault.cache := by
  rw [lookUp_failed (Credentials.fromConfig_of_failure failed) (candid.failure?_ne failed)]
  exact ⟨rfl, rfl⟩

theorem lookUp_of_no_failure (unfailing : given.failure? realm vault.world = none) :
    ∃ entry, verdict? realm given vault = some entry ∧
      (lookUp realm given vault).result = .ok entry ∧
        (lookUp realm given vault).state.cache.find? realm = some entry := by
  rcases Credentials.fromConfig_of_no_failure unfailing with
    ⟨credentials, found⟩ | ⟨message, missing, key, absent⟩
  · refine ⟨some (vault.cache.nextRecord credentials), ?_, ?_, ?_⟩
    · simp [verdict?, unfailing, found, Except.toOption]
    · rw [lookUp_found found]
    · simp [lookUp_found found, Cache.find?_store]
  · refine ⟨none, ?_, ?_, ?_⟩
    · simp [verdict?, unfailing, absent, Except.toOption]
    · rw [lookUp_missing absent]
    · simp [lookUp_missing absent, Cache.find?_store]

/-- What a look-up makes known about its realm. -/
theorem find?_lookUp (candid : given.IsCandid) (unknown : vault.cache.find? realm = none) :
    (lookUp realm given vault).state.cache.find? realm = verdict? realm given vault := by
  cases failed : given.failure? realm vault.world with
  | some failure =>
      rw [(lookUp_of_failure candid failed).2, unknown]
      simp [verdict?, failed]
  | none =>
      obtain ⟨entry, judged, -, known⟩ := lookUp_of_no_failure failed
      rw [known, judged]

variable {fallback config : Option (Config World)} {challenge : Option String}

/-- What is known after a challenge: what was known before, or what its look-up made known. -/
theorem find?_resolve (candid : ∀ given, config.or fallback = some given → given.IsCandid)
    (realm : String) :
    (resolve fallback challenge config vault).state.cache.find? realm =
      (vault.cache.find? realm).or
        ((configFor? realm fallback challenge config).bind (verdict? realm · vault)) := by
  cases known : vault.cache.find? realm with
  | some entry => exact find?_resolve_of_known known
  | none =>
      cases parsed : Challenge.parse challenge with
      | error failure => simp [resolve_malformed parsed, configFor?, parsed, known]
      | ok other =>
          by_cases same : other = realm
          · subst same
            rw [resolve_unknown parsed known]
            cases available : config.or fallback with
            | none => simp [configFor?, parsed, available, known]
            | some given =>
                rw [consult_some, find?_lookUp (candid given available) known]
                simp [configFor?, parsed, available]
          · have elsewhere :
                (resolve fallback challenge config vault).state.cache.find? realm = none := by
              cases looked : vault.cache.find? other with
              | some entry => rw [resolve_known parsed looked, known]
              | none =>
                  rw [resolve_unknown parsed looked]
                  cases config.or fallback with
                  | none => exact known
                  | some given =>
                      rw [consult_some, find?_lookUp_of_ne fun equal => same equal.symm]
                      exact known
            simp [elsewhere, configFor?, parsed, same]

/-- How a challenge for a realm ends: with what is then known, without a configuration with
nothing, or with the failure of the configuration. -/
theorem resolve_cases (candid : ∀ given, config.or fallback = some given → given.IsCandid)
    (parsed : Challenge.parse challenge = .ok realm) :
    (∃ entry, (resolve fallback challenge config vault).state.cache.find? realm = some entry ∧
        (resolve fallback challenge config vault).result = .ok entry) ∨
      (resolve fallback challenge config vault).state.cache.find? realm = none ∧
        ((config.or fallback = none ∧ (resolve fallback challenge config vault).result = .ok none) ∨
          ∃ given failure, config.or fallback = some given ∧
            given.failure? realm vault.world = some failure ∧
            (resolve fallback challenge config vault).result = .error failure) := by
  cases known : vault.cache.find? realm with
  | some entry =>
      rw [resolve_known parsed known]
      exact .inl ⟨entry, known, rfl⟩
  | none =>
      rw [resolve_unknown parsed known]
      cases available : config.or fallback with
      | none => exact .inr ⟨known, .inl ⟨rfl, rfl⟩⟩
      | some given =>
          rw [consult_some]
          cases failed : given.failure? realm vault.world with
          | some failure =>
              obtain ⟨ended, same⟩ := lookUp_of_failure (candid given available) failed
              rw [same]
              exact .inr ⟨known, .inr ⟨given, failure, rfl, failed, ended⟩⟩
          | none =>
              obtain ⟨entry, -, ended, stored⟩ := lookUp_of_no_failure failed
              exact .inl ⟨entry, stored, ended⟩

end Vault
end Countersign
