import Countersign.Config.Surroundings
import Countersign.Proofs.Credentials
import Countersign.Proofs.Agreement
import Countersign.Proofs.Config.Keys

/-!
# Configurations that differ in passwords

Two answers to a key are alike if they are the same, or if both are passwords that are texts.
Looking a realm up in a configuration that answers the keys of realms alike in two worlds gives
credentials that look the same.  Providers answer alike in surroundings that differ in nothing but
the passwords they hold: no variable of a username is the variable of a password, so this holds of
the environment too.
-/

namespace Countersign

variable {World : Type}

namespace Config

/-- Whether two answers to a key are the same, or the key is that of a password and both are texts.
-/
inductive AlikeFor (key : String) : Option RawText → Option RawText → Prop
  | same (value : Option RawText) : AlikeFor key value value
  | passwords (realm left right : String) : key = passwordKey realm →
      AlikeFor key (some (.ofText left)) (some (.ofText right))

/-- Whether a key is that of the username or the password of a realm. -/
def IsRealmKey (key : String) : Prop :=
  ∃ realm, key = userKey realm ∨ key = passwordKey realm

/-- Whether a configuration answers the keys of all realms alike in related worlds. -/
def IsAlike (worlds : World → World → Prop) (config : Config World) : Prop :=
  ∀ key, IsRealmKey key → Action.Agree worlds (fun _ _ => AlikeFor key) (config key) (config key)

/-- Tables that differ in the password of a realm answer alike. -/
theorem alikeFor_insert (values : Table String RawText) (realm left right key : String) :
    AlikeFor key ((values.insert (passwordKey realm) (.ofText left)).find? key)
      ((values.insert (passwordKey realm) (.ofText right)).find? key) := by
  rw [Table.find?_insert, Table.find?_insert]
  split
  next is_password => exact .passwords realm left right is_password
  next => exact .same _

theorem AlikeFor.eq_of_userKey {realm : String} {left right : Option RawText}
    (alike : AlikeFor (userKey realm) left right) : left = right := by
  cases alike with
  | same => rfl
  | passwords other _ _ same => exact absurd same (userKey_ne_passwordKey realm other)

theorem AlikeFor.eq_none_iff {key : String} {left right : Option RawText}
    (alike : AlikeFor key left right) : left = none ↔ right = none := by
  cases alike with
  | same => exact Iff.rfl
  | passwords => simp only [reduceCtorEq]

end Config

namespace Credentials

/-- Whether credentials look the same to whoever does not see the passwords. -/
structure LookAlike (left right : Credentials) : Prop where
  realm : left.realm = right.realm
  username : left.username = right.username
  description : left.description = right.description

theorem LookAlike.refl (credentials : Credentials) : LookAlike credentials credentials :=
  { realm := rfl, username := rfl, description := rfl }

/-- Of passwords that are texts credentials are made that look the same, or none for the same
reason. -/
theorem make_endsAlike (realm : String) (username : RawText) (password other : String) :
    EndsAlike LookAlike (make realm username (.ofText password))
      (make realm username (.ofText other)) := by
  by_cases isName : username.isText
  · rw [make_of_isText isName (RawText.isText_ofText password),
      make_of_isText isName (RawText.isText_ofText other)]
    exact .ok { realm := rfl, username := rfl, description := rfl }
  · rw [make_of_not_isText isName (.ofText password) (.ofText other)]
    exact .refl .refl _

variable {worlds : World → World → Prop} {config : Config World}

theorem askUsername_agree {realm : String}
    (agree : Action.Agree worlds (fun _ _ => Eq) (config (Config.userKey realm))
      (config (Config.userKey realm))) :
    Action.Agree worlds (fun _ _ => Eq) (askUsername realm config) (askUsername realm config) := by
  refine (Config.ask_agree agree).bind ?_
  rintro answer _ before also held rfl
  cases answer with
  | none => exact { events := rfl, state := held, result := .error _ }
  | some username => exact { events := rfl, state := held, result := .ok rfl }

theorem askPassword_agree (alike : config.IsAlike worlds) (realm : String) :
    Action.Agree worlds
      (fun _ _ password other => Config.AlikeFor (Config.passwordKey realm) (some password)
        (some other))
      (askPassword realm config) (askPassword realm config) := by
  have asked := Config.ask_agree (alike _ ⟨realm, .inr rfl⟩)
  refine asked.bind fun answer other before also held related => ?_
  cases related with
  | same answer =>
      cases answer with
      | none => exact { events := rfl, state := held, result := .error _ }
      | some password => exact { events := rfl, state := held, result := .ok (.same _) }
  | passwords other left right same =>
      exact { events := rfl, state := held, result := .ok (.passwords other left right same) }

/-- Looking a realm up gives credentials that look the same. -/
theorem fromConfig_agree (alike : config.IsAlike worlds) (realm : String) :
    Action.Agree worlds (fun _ _ => LookAlike) (fromConfig realm config)
      (fromConfig realm config) := by
  have named := (alike _ ⟨realm, .inl rfl⟩).imp fun _ _ _ _ same => same.eq_of_userKey
  refine (askUsername_agree named).bind ?_
  rintro username _ before also held rfl
  refine (askPassword_agree alike realm).bind ?_ before also held
  intro password other before also held related
  refine Action.Agree.ofResult (fun _ _ _ => ?_) before also held
  cases related with
  | passwords _ left right => exact make_endsAlike realm username left right
  | same => exact .refl .refl _

end Credentials

namespace Environment

theorem getLast?_variableName_userKey (lead realm : String) :
    (variableName lead (Config.userKey realm)).toList.getLast? = some 'R' := by
  have letter : Text.uppercaseChar 'r' = ['R'] := rfl
  simp [variableName, underscored, Text.uppercase, Config.userKey, letter]

theorem getLast?_variableName_passwordKey (lead realm : String) :
    (variableName lead (Config.passwordKey realm)).toList.getLast? = some 'D' := by
  have letter : Text.uppercaseChar 'd' = ['D'] := rfl
  simp [variableName, underscored, Text.uppercase, Config.passwordKey, letter]

/-- No variable of a username is the variable of a password. -/
theorem variableName_userKey_ne (lead realm other another : String) :
    variableName lead (Config.userKey realm) ≠ variableName other (Config.passwordKey another) := by
  intro same
  have last := getLast?_variableName_userKey lead realm
  rw [same, getLast?_variableName_passwordKey] at last
  simp at last

/-- Environments that differ in the variable of a password answer alike. -/
theorem alikeFor_insert (environment : Environment) (realm left right : String)
    {lead other key : String} (isRealmKey : Config.IsRealmKey key) :
    Config.AlikeFor key
      ((environment.insert (variableName other (Config.passwordKey realm)) (.ofText left)).find?
        (variableName lead key))
      ((environment.insert (variableName other (Config.passwordKey realm)) (.ofText right)).find?
        (variableName lead key)) := by
  obtain ⟨another, rfl | rfl⟩ := isRealmKey
  · have different := variableName_userKey_ne lead another other realm
    rw [Table.find?_insert, Table.find?_insert, if_neg different, if_neg different]
    exact .same _
  · rw [Table.find?_insert, Table.find?_insert]
    split
    next => exact .passwords another left right rfl
    next => exact .same _

end Environment

/-- Whether providers in two environments are of one kind and answer the keys of realms alike. -/
inductive Provider.Alike (left right : Environment) : Provider → Provider → Prop
  | table (values others : Table String RawText) :
      (∀ key, Config.IsRealmKey key → Config.AlikeFor key (values.find? key) (others.find? key)) →
      Alike left right (.table values) (.table others)
  | recorder (values others : Table String RawText) (requested : List String) :
      (∀ key, Config.IsRealmKey key → Config.AlikeFor key (values.find? key) (others.find? key)) →
      Alike left right (.recorder values requested) (.recorder others requested)
  | faulty (values others : Table String RawText) (failing message : String) (remaining : Nat) :
      (∀ key, Config.IsRealmKey key → Config.AlikeFor key (values.find? key) (others.find? key)) →
      Alike left right (.faulty values failing message remaining)
        (.faulty others failing message remaining)
  | environment (lead : String) (place elsewhere : Option String) (loaded also : Bool) :
      (∀ key, Config.IsRealmKey key →
        Config.AlikeFor key (left.find? (Environment.variableName lead key))
          (right.find? (Environment.variableName lead key))) →
      Alike left right (.environment lead place loaded) (.environment lead elsewhere also)
  | chain (members : List Nat) : Alike left right (.chain members) (.chain members)

/-- Whether surroundings have the same providers but for the passwords that these hold. -/
structure Surroundings.Alike (left right : Surroundings) : Prop where
  count : left.count = right.count
  providers : ∀ number, Provider.Alike left.environment right.environment (left.providers number)
    (right.providers number)

namespace Surroundings

variable {left right : Surroundings}

theorem Alike.setProvider (alike : left.Alike right) (number : Nat) {provider other : Provider}
    (same : Provider.Alike left.environment right.environment provider other) :
    (left.setProvider number provider).Alike (right.setProvider number other) where
  count := alike.count
  providers := by
    intro asked
    simp only [Surroundings.setProvider]
    by_cases equal : asked = number
    · subst equal
      simpa only [assign_self] using same
    · simpa only [assign_of_ne _ _ equal] using alike.providers asked

theorem read_agree (number : Nat) : Config.IsAlike Alike (read number) := by
  intro key isRealmKey
  refine Action.Agree.current.bind ?_
  rintro before also _ _ alike ⟨rfl, rfl⟩
  have provider := alike.providers number
  generalize before.providers number = held at provider
  generalize also.providers number = other at provider
  cases provider with
  | table values others same =>
      exact { events := rfl, state := alike, result := .ok (same key isRealmKey) }
  | recorder values others requested same =>
      exact
        { events := rfl
          state := alike.setProvider number (.recorder values others (requested ++ [key]) same)
          result := .ok (same key isRealmKey) }
  | faulty values others failing message remaining same =>
      dsimp only
      generalize (if key = failing then remaining else 0) = left
      cases left with
      | zero => exact { events := rfl, state := alike, result := .ok (same key isRealmKey) }
      | succ left =>
          exact
            { events := rfl
              state := alike.setProvider number (.faulty values others failing message left same)
              result := .error _ }
  | environment lead place elsewhere loaded again same =>
      have answers := same key isRealmKey
      dsimp only
      generalize before.environment.find? (Environment.variableName lead key) = answer at answers
      generalize also.environment.find? (Environment.variableName lead key) = other at answers
      cases answers with
      | same answer =>
          cases answer with
          | none => exact { events := rfl, state := alike, result := .ok (.same none) }
          | some value => exact { events := rfl, state := alike, result := .ok (.same value) }
      | passwords realm left right is_password =>
          exact
            { events := rfl, state := alike
              result := .ok (.passwords realm left right is_password) }
  | chain members => exact { events := rfl, state := alike, result := .error _ }

theorem value_agree (alike : left.Alike right) (depth number : Nat) {key : String}
    (isRealmKey : Config.IsRealmKey key) :
    Action.Agree Alike (fun _ _ => Config.AlikeFor key) (left.value depth number key)
      (right.value depth number key) := by
  induction depth generalizing number with
  | zero => exact read_agree number key isRealmKey
  | succ depth induction =>
      have provider := alike.providers number
      simp only [value]
      generalize left.providers number = held at provider
      generalize right.providers number = other at provider
      cases provider with
      | chain members =>
          exact Config.first_agree (.same none) (fun _ _ alike => alike.eq_none_iff)
            fun member _ => induction member
      | table | recorder | faulty | environment => exact read_agree number key isRealmKey

/-- A provider answers alike in surroundings that are alike. -/
theorem config_isAlike (number : Nat) : Config.IsAlike Alike (config number) := by
  intro key isRealmKey
  refine Action.Agree.current.bind ?_
  rintro before also _ _ alike ⟨rfl, rfl⟩
  rw [alike.count]
  exact value_agree alike also.count number isRealmKey before also alike

end Surroundings
end Countersign
