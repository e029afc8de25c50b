import Countersign.Proofs.Credentials

/-!
# Configurations that fail in their own right

A look-up breaks off with the first failure of its configuration, or because the values that it
found cannot be written.  If it does not break off it ends with credentials or finds that one of
them is missing.  A configuration is candid if its own failures cannot be taken for a missing
credential.
-/

namespace Countersign

namespace Config

variable {World : Type}

/-- The failure with which looking a realm up in a configuration breaks off. -/
def failure? (config : Config World) (realm : String) (world : World) : Option Failure :=
  match (config (userKey realm) world).result with
  | .error failure => some failure
  | .ok none => none
  | .ok (some username) =>
      match (config (passwordKey realm) (config (userKey realm) world).state).result with
      | .error failure => some failure
      | .ok none => none
      | .ok (some password) =>
          match Credentials.make realm username password with
          | .error failure => some failure
          | .ok _ => none

/-- Whether no failure of a configuration looks like a missing credential. -/
def IsCandid (config : Config World) : Prop :=
  ∀ key world message missing asked,
    (config key world).result ≠ .error (.notFound message missing asked)

theorem IsCandid.failure?_ne {config : Config World} (candid : config.IsCandid) {realm : String}
    {world : World} {failure : Failure} (failed : config.failure? realm world = some failure)
    (message : String) (missing asked : Option String) :
    failure ≠ .notFound message missing asked := by
  rintro rfl
  rw [failure?] at failed
  split at failed
  case h_1 _ answered =>
    cases failed
    exact candid _ _ _ _ _ answered
  case h_2 => cases failed
  case h_3 =>
    split at failed
    case h_1 _ answered =>
      cases failed
      exact candid _ _ _ _ _ answered
    case h_2 => cases failed
    case h_3 =>
      split at failed
      case h_1 _ made =>
        cases failed
        obtain ⟨_, ⟨⟩⟩ := Credentials.eq_unencodable_of_make made
      case h_2 => cases failed

end Config

namespace Credentials

variable {World : Type} {config : Config World} {realm : String} {world : World}

theorem fromConfig_of_failure {failure : Failure}
    (failed : config.failure? realm world = some failure) :
    (fromConfig realm config world).result = .error failure := by
  rw [fromConfig_result, askUsername_apply]
  rcases answered : (config (Config.userKey realm) world).result with _ | _ | username
  · simp only [Config.failure?, answered] at failed
    cases failed
    rfl
  · simp [Config.failure?, answered] at failed
  · rcases answered' : (config (Config.passwordKey realm)
        (config (Config.userKey realm) world).state).result with _ | _ | password
    · simp only [Config.failure?, answered, answered'] at failed
      cases failed
      simp [Config.required, askPassword_apply, answered', Except.bind]
    · simp [Config.failure?, answered, answered'] at failed
    · cases made : make realm username password with
      | error refusal =>
          simp only [Config.failure?, answered, answered', made] at failed
          cases failed
          simp [Config.required, askPassword_apply, answered', Except.bind, made]
      | ok credentials => simp [Config.failure?, answered, answered', made] at failed

/-- A look-up that does not break off ends with credentials or with a missing value. -/
theorem fromConfig_of_no_failure (unfailing : config.failure? realm world = none) :
    (∃ credentials, (fromConfig realm config world).result = .ok credentials) ∨
      ∃ message missing key,
        (fromConfig realm config world).result = .error (.notFound message missing key) := by
  rw [fromConfig_result, askUsername_apply]
  rcases answered : (config (Config.userKey realm) world).result with _ | _ | username
  · simp [Config.failure?, answered] at unfailing
  · exact .inr ⟨_, _, _, rfl⟩
  · simp only [Config.required, askPassword_apply]
    rcases answered' : (config (Config.passwordKey realm)
        (config (Config.userKey realm) world).state).result with _ | _ | password
    · simp [Config.failure?, answered, answered'] at unfailing
    · exact .inr ⟨_, _, _, rfl⟩
    · cases made : make realm username password with
      | error refusal => simp [Config.failure?, answered, answered', made] at unfailing
      | ok credentials => exact .inl ⟨credentials, made⟩

end Credentials
end Countersign
