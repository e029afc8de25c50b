import Countersign.Credentials
import Countersign.Proofs.Action
import Countersign.Proofs.Text.Raw

/-!
# What looking credentials up does

A look-up asks for the username and, if there is one, in the world that this leaves for the
password.  It ends with the first failure of the configuration, with the first missing value, or
with the making of credentials, which fails if a value is not a text.
-/

namespace Countersign

namespace Config

variable {World : Type}

/-- The value that an answer gives, with the failure to take if there is none. -/
def required (missing : Failure) : Except Failure (Option RawText) → Except Failure RawText
  | .ok (some value) => .ok value
  | .ok none => .error missing
  | .error failure => .error failure

@[simp]
theorem ask_apply (config : Config World) (key : String) (world : World) :
    config.ask key world = (config key world).after [.asked key] := by
  simp [ask, Action.bind_apply, Outcome.after]

end Config

namespace Credentials

section Make

variable {realm : String} {username password : RawText}

/-- A username and a password can be written together if both are texts. -/
theorem fault?_login_eq_none :
    (username ++ RawText.ofText ":" ++ password).fault? = none ↔
      username.isText ∧ password.isText := by
  rw [RawText.fault?_eq_none, RawText.isText_append, RawText.isText_append]
  exact and_congr_left fun _ => and_iff_left (RawText.isText_ofText ":")

/-- Of texts credentials are made. -/
theorem make_of_isText (isName : username.isText) (isSecret : password.isText) :
    make realm username password =
      .ok { realm, username := username.text, password := password.text } := by
  rw [make, fault?_login_eq_none.mpr ⟨isName, isSecret⟩]

@[simp]
theorem make_ofText (realm username password : String) :
    make realm (.ofText username) (.ofText password) = .ok { realm, username, password } := by
  rw [make_of_isText (RawText.isText_ofText username) (RawText.isText_ofText password),
    RawText.text_ofText, RawText.text_ofText]

/-- Of values that are not both texts no credentials are made. -/
theorem exists_make_error (realm : String) (ragged : ¬(username.isText ∧ password.isText)) :
    ∃ fault, make realm username password = .error (.unencodable fault) := by
  cases refused : (username ++ RawText.ofText ":" ++ password).fault? with
  | some fault => exact ⟨fault, by rw [make, refused]⟩
  | none => exact absurd (fault?_login_eq_none.mp refused) ragged

/-- Nothing but their writing keeps credentials from being made. -/
theorem eq_unencodable_of_make {failure : Failure}
    (refused : make realm username password = .error failure) :
    ∃ fault, failure = .unencodable fault := by
  rw [make] at refused
  split at refused
  · cases refused
    exact ⟨_, rfl⟩
  · cases refused

/-- Whether credentials can be made, and why not, does not depend on a password that is a text. -/
theorem make_of_not_isText (ragged : ¬username.isText) (password other : RawText) :
    make realm username password = make realm username other := by
  have refused : ∃ point ∈ username.points, point.isSurrogate := by
    simpa [RawText.isText] using ragged
  have same : (username ++ RawText.ofText ":" ++ password).fault? =
      (username ++ RawText.ofText ":" ++ other).fault? := by
    change RawText.faultFrom _ 0 ((username.points ++ [.plain ':']) ++ password.points) =
      RawText.faultFrom _ 0 ((username.points ++ [.plain ':']) ++ other.points)
    rw [List.append_assoc, List.append_assoc]
    exact RawText.faultFrom_append refused ':' password.points other.points 0
  obtain ⟨fault, isFault⟩ := Option.ne_none_iff_exists'.mp
    (fun encodable => ragged (fault?_login_eq_none.mp encodable).1 :
      (username ++ RawText.ofText ":" ++ other).fault? ≠ none)
  rw [make, make, same, isFault]

/-- Credentials are made of texts alone. -/
theorem of_make_ok {credentials : Credentials}
    (made : make realm username password = .ok credentials) :
    username = .ofText credentials.username ∧ password = .ofText credentials.password ∧
      credentials.realm = realm := by
  by_cases texts : username.isText ∧ password.isText
  · rw [make_of_isText texts.1 texts.2] at made
    cases made
    exact ⟨(RawText.ofText_text texts.1).symm, (RawText.ofText_text texts.2).symm, rfl⟩
  · obtain ⟨fault, refused⟩ := exists_make_error realm texts
    rw [refused] at made
    cases made

end Make

variable {World : Type}

theorem askUsername_apply (realm : String) (config : Config World) (world : World) :
    askUsername realm config world =
      { result := Config.required (.noUsername realm (Config.userKey realm))
          (config (Config.userKey realm) world).result
        state := (config (Config.userKey realm) world).state
        events :=
          .asked (Config.userKey realm) :: (config (Config.userKey realm) world).events } := by
  rcases answered : (config (Config.userKey realm) world).result with failure | _ | username <;>
    simp [askUsername, Action.bind_apply, Action.pure_apply, Outcome.after, answered,
      Config.required]

theorem askPassword_apply (realm : String) (config : Config World) (world : World) :
    askPassword realm config world =
      { result := Config.required (.noPassword realm (Config.passwordKey realm))
          (config (Config.passwordKey realm) world).result
        state := (config (Config.passwordKey realm) world).state
        events :=
          .asked (Config.passwordKey realm) ::
            (config (Config.passwordKey realm) world).events } := by
  rcases answered : (config (Config.passwordKey realm) world).result with failure | _ | password <;>
    simp [askPassword, Action.bind_apply, Action.pure_apply, Outcome.after, answered,
      Config.required]

/-- How a look-up ends that is answered with these values. -/
def given (realm : String) : Option RawText → Option RawText → Except Failure Credentials
  | none, _ => .error (.noUsername realm (Config.userKey realm))
  | some _, none => .error (.noPassword realm (Config.passwordKey realm))
  | some username, some password => make realm username password

/-- The end of a look-up is the end of asking for the username, or with a username that of asking
for the password. -/
theorem fromConfig_result (realm : String) (config : Config World) (world : World) :
    (fromConfig realm config world).result =
      match (askUsername realm config world).result with
      | .error failure => .error failure
      | .ok username =>
          (askPassword realm config (askUsername realm config world).state).result.bind
            fun password => make realm username password := by
  cases asked : (askUsername realm config world).result with
  | error failure => rw [fromConfig, Action.bind_of_error asked]
  | ok username =>
      rw [fromConfig, Action.bind_of_ok asked, Action.bind_ofResult_apply]
      rfl

/-- What a configuration is asked in the look-up of a realm, and how the look-up ends. -/
inductive LookUp (realm : String) (config : Config World) (world : World) :
    Outcome World Credentials → Prop
  | failedFirst {first : Outcome World (Option RawText)} {failure : Failure} :
      config (Config.userKey realm) world = first → first.result = .error failure →
      LookUp realm config world
        { result := .error failure, state := first.state
          events := .asked (Config.userKey realm) :: first.events }
  | noUsername {first : Outcome World (Option RawText)} :
      config (Config.userKey realm) world = first → first.result = .ok none →
      LookUp realm config world
        { result := .error (.noUsername realm (Config.userKey realm)), state := first.state
          events := .asked (Config.userKey realm) :: first.events }
  | failedThen {first second : Outcome World (Option RawText)} {username : RawText}
      {failure : Failure} :
      config (Config.userKey realm) world = first → first.result = .ok (some username) →
      config (Config.passwordKey realm) first.state = second → second.result = .error failure →
      LookUp realm config world
        { result := .error failure, state := second.state
          events := .asked (Config.userKey realm) :: first.events ++
            .asked (Config.passwordKey realm) :: second.events }
  | noPassword {first second : Outcome World (Option RawText)} {username : RawText} :
      config (Config.userKey realm) world = first → first.result = .ok (some username) →
      config (Config.passwordKey realm) first.state = second → second.result = .ok none →
      LookUp realm config world
        { result := .error (.noPassword realm (Config.passwordKey realm)), state := second.state
          events := .asked (Config.userKey realm) :: first.events ++
            .asked (Config.passwordKey realm) :: second.events }
  | found {first second : Outcome World (Option RawText)} {username password : RawText} :
      config (Config.userKey realm) world = first → first.result = .ok (some username) →
      config (Config.passwordKey realm) first.state = second →
      second.result = .ok (some password) →
      LookUp realm config world
        { result := make realm username password, state := second.state
          events := .asked (Config.userKey realm) :: first.events ++
            .asked (Config.passwordKey realm) :: second.events }

/-- Every look-up goes one of these ways, also in a configuration that fails. -/
theorem fromConfig_lookUp (realm : String) (config : Config World) (world : World) :
    LookUp realm config world (fromConfig realm config world) := by
  have asked := askUsername_apply realm config world
  rcases answered : (config (Config.userKey realm) world).result with failure | _ | username
  · rw [answered] at asked
    rw [fromConfig, Action.bind_of_error (by rw [asked]; rfl), asked]
    exact .failedFirst rfl answered
  · rw [answered] at asked
    rw [fromConfig, Action.bind_of_error (by rw [asked]; rfl), asked]
    exact .noUsername rfl answered
  · rw [answered] at asked
    rw [fromConfig, Action.bind_of_ok (by rw [asked]; rfl), asked, Action.bind_ofResult_apply,
      askPassword_apply]
    rcases continued : (config (Config.passwordKey realm)
        (config (Config.userKey realm) world).state).result with failure | _ | password
    · exact .failedThen rfl answered rfl continued
    · exact .noPassword rfl answered rfl continued
    · exact .found rfl answered rfl continued

/-- A look-up gives credentials of its realm. -/
theorem realm_of_fromConfig {realm : String} {config : Config World} {world : World}
    {credentials : Credentials}
    (found : (fromConfig realm config world).result = .ok credentials) :
    credentials.realm = realm := by
  have lookUp := fromConfig_lookUp realm config world
  generalize fromConfig realm config world = outcome at found lookUp
  cases lookUp with
  | found => exact (of_make_ok found).2.2
  | _ => cases found

end Credentials
end Countersign
