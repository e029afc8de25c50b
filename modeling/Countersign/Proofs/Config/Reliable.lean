import Countersign.Proofs.Config.Candid

/-!
# Reliable configurations

A reliable configuration always answers, and while it does so, nothing can be observed but the lines
that it logs.  Looking the credentials of a realm up in one asks for the username first and for the
password if there is a username.  If moreover the configuration gives the realm no username with a
password of which one cannot be written, this ends with credentials or with a missing value.
-/

namespace Countersign

namespace Event

@[simp]
theorem askedKeys_append (early late : List Event) :
    askedKeys (early ++ late) = askedKeys early ++ askedKeys late :=
  List.filterMap_append ..

@[simp]
theorem askedKeys_asked (key : String) (events : List Event) :
    askedKeys (.asked key :: events) = key :: askedKeys events := rfl

end Event

namespace Config

variable {World : Type}

/-- Whether nothing can be observed of a configuration but the lines that it logs. -/
def IsQuiet (config : Config World) : Prop :=
  ∀ key world, ∀ event ∈ (config key world).events, ∃ notice, event = .noted notice

/-- A configuration that always answers and of which only lines can be observed. -/
structure IsReliable (config : Config World) : Prop where
  /-- There is an answer to every key, in every world. -/
  answers : ∀ key world, ∃ value, (config key world).result = .ok value
  /-- Nothing can be observed but lines. -/
  quiet : config.IsQuiet

theorem IsQuiet.askedKeys_eq_nil {config : Config World} (quiet : config.IsQuiet) (key : String)
    (world : World) : Event.askedKeys (config key world).events = [] := by
  rw [Event.askedKeys, List.filterMap_eq_nil_iff]
  intro event observed
  obtain ⟨notice, rfl⟩ := quiet key world event observed
  rfl

/-- Whether the username and the password of a realm are texts wherever a configuration gives both.
-/
def IsWritable (config : Config World) (realm : String) : Prop :=
  ∀ early late username password,
    (config (userKey realm) early).result = .ok (some username) →
      (config (passwordKey realm) late).result = .ok (some password) →
        username.isText ∧ password.isText

theorem IsReliable.failure?_eq_none {config : Config World} (reliable : config.IsReliable)
    {realm : String} (writable : config.IsWritable realm) (world : World) :
    config.failure? realm world = none := by
  obtain ⟨_ | username, answered⟩ := reliable.answers (userKey realm) world
  · simp [failure?, answered]
  · obtain ⟨_ | password, answered'⟩ :=
      reliable.answers (passwordKey realm) (config (userKey realm) world).state
    · simp [failure?, answered, answered']
    · obtain ⟨isName, isSecret⟩ := writable _ _ username password answered answered'
      simp [failure?, answered, answered', Credentials.make_of_isText isName isSecret]

/-- A table is reliable. -/
theorem isReliable_ofTable (values : Table String RawText) :
    (ofTable values : Config World).IsReliable :=
  { answers := fun key _ => ⟨values.find? key, rfl⟩
    quiet := fun _ _ _ observed => absurd observed List.not_mem_nil }

end Config

namespace Credentials

variable {World : Type} {config : Config World}

theorem askedKeys_askUsername (quiet : config.IsQuiet) (realm : String) (world : World) :
    Event.askedKeys (askUsername realm config world).events = [Config.userKey realm] := by
  simp [askUsername_apply, quiet.askedKeys_eq_nil]

theorem askedKeys_askPassword (quiet : config.IsQuiet) (realm : String) (world : World) :
    Event.askedKeys (askPassword realm config world).events = [Config.passwordKey realm] := by
  simp [askPassword_apply, quiet.askedKeys_eq_nil]

/-- In a reliable configuration there is a username or it is missing. -/
theorem askUsername_cases (reliable : config.IsReliable) (realm : String) (world : World) :
    (∃ username, (config (Config.userKey realm) world).result = .ok (some username) ∧
        (askUsername realm config world).result = .ok username) ∨
      (askUsername realm config world).result =
        .error (.noUsername realm (Config.userKey realm)) := by
  obtain ⟨_ | username, answered⟩ := reliable.answers (Config.userKey realm) world
  · exact .inr (by simp [askUsername_apply, answered, Config.required])
  · exact .inl ⟨username, answered, by simp [askUsername_apply, answered, Config.required]⟩

/-- In a reliable configuration there is a password or it is missing. -/
theorem askPassword_cases (reliable : config.IsReliable) (realm : String) (world : World) :
    (∃ password, (config (Config.passwordKey realm) world).result = .ok (some password) ∧
        (askPassword realm config world).result = .ok password) ∨
      (askPassword realm config world).result =
        .error (.noPassword realm (Config.passwordKey realm)) := by
  obtain ⟨_ | password, answered⟩ := reliable.answers (Config.passwordKey realm) world
  · exact .inr (by simp [askPassword_apply, answered, Config.required])
  · exact .inl ⟨password, answered, by simp [askPassword_apply, answered, Config.required]⟩

end Credentials
end Countersign
