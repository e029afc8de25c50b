import Countersign.Proofs.Vault.Resolve

/-!
# Configurations that never change

A steady configuration gives every key the same value at all times.  A resolver that only sees one
steady configuration answers a challenge for a realm with the credentials among its values, whether
it looks them up or remembers them, and fails if they cannot be written.
-/

namespace Countersign

variable {World : Type}

/-- Whether a configuration always gives certain values, and nothing can be observed of it but the
lines that it logs. -/
structure Config.Gives (config : Config World) (values : String → Option RawText) : Prop where
  result : ∀ key world, (config key world).result = .ok (values key)
  quiet : config.IsQuiet

namespace Credentials

/-- The credentials of a realm among values, if both are there, unless they cannot be written. -/
def among (values : String → Option RawText) (realm : String) :
    Except Failure (Option Credentials) :=
  match given realm (values (Config.userKey realm)) (values (Config.passwordKey realm)) with
  | .ok credentials => .ok (some credentials)
  | .error (.notFound _ _ _) => .ok none
  | .error failure => .error failure

theorem fromConfig_of_gives {config : Config World} {values : String → Option RawText}
    (gives : config.Gives values) (realm : String) (world : World) :
    (fromConfig realm config world).result =
      given realm (values (Config.userKey realm)) (values (Config.passwordKey realm)) := by
  rw [fromConfig_result, askUsername_apply]
  simp only [gives.result]
  cases username : values (Config.userKey realm) with
  | none => rfl
  | some username =>
      simp only [Config.required, askPassword_apply, gives.result]
      cases password : values (Config.passwordKey realm) <;> rfl

end Credentials

namespace Config

theorem gives_ofTable (values : Table String RawText) :
    (ofTable values : Config World).Gives values.find? :=
  { result := fun _ _ => rfl, quiet := (isReliable_ofTable values).quiet }

/-- Whether what is available to look realms up in is steady and settles them in a certain way. -/
def Supplies (known : String → Except Failure (Option Credentials)) :
    Option (Config World) → Prop
  | none => ∀ realm, known realm = .ok none
  | some config =>
      ∃ values, config.Gives values ∧ ∀ realm, known realm = Credentials.among values realm

theorem exists_supplies {available : Option (Config World)}
    (steady : ∀ config, available = some config → ∃ values, config.Gives values) :
    ∃ known, Supplies known available := by
  cases available with
  | none => exact ⟨fun _ => .ok none, fun _ => rfl⟩
  | some config =>
      obtain ⟨values, gives⟩ := steady config rfl
      exact ⟨Credentials.among values, values, gives, fun _ => rfl⟩

end Config

/-- Whether a cache holds nothing but what is settled. -/
def Cache.Agrees (known : String → Except Failure (Option Credentials)) (cache : Cache) : Prop :=
  ∀ realm entry, cache.find? realm = some entry → known realm = .ok (entry.map (·.credentials))

/-- The credentials that answer a challenge. -/
def Challenge.answer (known : String → Except Failure (Option Credentials))
    (challenge : Option String) : Except Failure (Option Credentials) :=
  match parse challenge with
  | .ok realm => known realm
  | .error _ => .ok none

namespace Vault

/-- What looking a realm up in a steady configuration returns and makes known. -/
theorem lookUp_of_gives {config : Config World} {values : String → Option RawText}
    (gives : config.Gives values) (realm : String) (vault : Vault World) :
    (lookUp realm config vault).result.map (Option.map (·.credentials)) =
        Credentials.among values realm ∧
      ∀ entry, (lookUp realm config vault).state.cache.find? realm = some entry →
        vault.cache.find? realm = some entry ∨
          Credentials.among values realm = .ok (entry.map (·.credentials)) := by
  have ended := Credentials.fromConfig_of_gives gives realm vault.world
  rw [Credentials.among, ← ended]
  rcases found : (Credentials.fromConfig realm config vault.world).result with
    failure | credentials
  · by_cases missing : ∃ message at_ key, failure = .notFound message at_ key
    · obtain ⟨message, at_, key, rfl⟩ := missing
      rw [lookUp_missing found]
      refine ⟨rfl, fun entry stored => .inr ?_⟩
      rw [Cache.find?_store, if_pos rfl, Option.some_inj] at stored
      rw [← stored]
      rfl
    · have other : ∀ message at_ key, failure ≠ .notFound message at_ key :=
        fun message at_ key same => missing ⟨message, at_, key, same⟩
      rw [lookUp_failed found other]
      refine ⟨?_, fun entry stored => .inl stored⟩
      cases failure with
      | notFound message at_ key => exact absurd rfl (other message at_ key)
      | _ => rfl
  · rw [lookUp_found found]
    refine ⟨rfl, fun entry stored => .inr ?_⟩
    rw [Cache.find?_store, if_pos rfl, Option.some_inj] at stored
    rw [← stored]
    rfl

variable {known : String → Except Failure (Option Credentials)}
  {fallback config : Option (Config World)} {challenge : Option String} {vault : Vault World}

/-- Resolving keeps a cache to what is settled. -/
theorem agrees_resolve (supplies : Config.Supplies known (config.or fallback))
    (agrees : vault.cache.Agrees known) :
    (resolve fallback challenge config vault).state.cache.Agrees known := by
  cases parsed : Challenge.parse challenge with
  | error failure =>
      rw [resolve_malformed parsed]
      exact agrees
  | ok realm =>
      cases looked : vault.cache.find? realm with
      | some entry =>
          rw [resolve_known parsed looked]
          exact agrees
      | none =>
          rw [resolve_unknown parsed looked]
          cases available : config.or fallback with
          | none => exact agrees
          | some given =>
              rw [available] at supplies
              obtain ⟨values, gives, same⟩ := supplies
              intro other entry stored
              by_cases isRealm : other = realm
              · subst isRealm
                rcases (lookUp_of_gives gives other vault).2 entry stored with before | settled
                · exact agrees other entry before
                · rw [same, settled]
              · rw [consult_some, find?_lookUp_of_ne isRealm] at stored
                exact agrees other entry stored

/-- A challenge is answered with what is settled for it. -/
theorem resolve_of_supplies (supplies : Config.Supplies known (config.or fallback))
    (agrees : vault.cache.Agrees known) :
    (resolve fallback challenge config vault).result.map (Option.map (·.credentials)) =
      Challenge.answer known challenge := by
  cases parsed : Challenge.parse challenge with
  | error failure =>
      rw [resolve_malformed parsed, Challenge.answer, parsed]
      rfl
  | ok realm =>
      simp only [Challenge.answer, parsed]
      cases looked : vault.cache.find? realm with
      | some entry =>
          rw [resolve_known parsed looked, agrees realm entry looked]
          rfl
      | none =>
          rw [resolve_unknown parsed looked]
          cases available : config.or fallback with
          | none =>
              rw [available] at supplies
              rw [supplies realm]
              rfl
          | some given =>
              rw [available] at supplies
              obtain ⟨values, gives, same⟩ := supplies
              rw [same]
              exact (lookUp_of_gives gives realm vault).1

end Vault
end Countersign
