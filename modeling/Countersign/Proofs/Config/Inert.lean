import Countersign.Proofs.Config.Alike
import Countersign.Proofs.Config.Providers

/-!
# Configurations that asking does not change

An inert configuration answers the same in worlds that are taken for the same, and asking it leaves
a world that is taken for the same as before.  Providers are inert in surroundings that are the same
but for the keys that have been asked, unless one of them has failures left.
-/

namespace Countersign

open Countersign.Action (Agree Keeps)

variable {World : Type}

/-- Whether a configuration answers the same in related worlds, and asking it in one of them leaves
it related to the other. -/
structure Config.IsInert (worlds : World → World → Prop) (config : Config World) : Prop where
  agrees : ∀ key, Agree worlds (fun _ _ => Eq) (config key) (config key)
  still : ∀ key also, (config key).Keeps (worlds · also) (fun _ => True) fun _ => True

namespace Credentials

variable {worlds : World → World → Prop} {config : Config World}

/-- A realm is looked up alike in worlds in which the configuration answers the same. -/
theorem fromConfig_agree_eq
    (agrees : ∀ key, Agree worlds (fun _ _ => Eq) (config key) (config key)) (realm : String) :
    Agree worlds (fun _ _ => Eq) (fromConfig realm config) (fromConfig realm config) := by
  have password : Agree worlds (fun _ _ => Eq) (askPassword realm config)
      (askPassword realm config) := by
    refine (Config.ask_agree (agrees (Config.passwordKey realm))).bind ?_
    rintro (_ | answer) _ before also held rfl
    · exact { events := rfl, state := held, result := .error _ }
    · exact { events := rfl, state := held, result := .ok rfl }
  refine (askUsername_agree (agrees _)).bind ?_
  rintro name _ before also held rfl
  refine password.bind ?_ before also held
  rintro secret _ before also held rfl
  exact Agree.ofResult (fun _ _ _ => .refl (fun _ => rfl) _) before also held

/-- Looking a realm up keeps what asking keeps. -/
theorem fromConfig_keeps {held : World → Prop}
    (keeps : ∀ key, (config key).Keeps held (fun _ => True) fun _ => True) (realm : String) :
    (fromConfig realm config).Keeps held (fun _ => True) fun _ => True := by
  have asks : ∀ key, (config.ask key).Keeps held (fun _ => True) fun _ => True :=
    fun key => (Keeps.emit trivial).bind fun _ _ => keeps key
  have username : (askUsername realm config).Keeps held (fun _ => True) fun _ => True := by
    refine (asks (Config.userKey realm)).bind fun answer _ => ?_
    cases answer with
    | none => exact .fail _
    | some username => exact .pure trivial
  have password : (askPassword realm config).Keeps held (fun _ => True) fun _ => True := by
    refine (asks (Config.passwordKey realm)).bind fun answer _ => ?_
    cases answer with
    | none => exact .fail _
    | some password => exact .pure trivial
  exact username.bind fun _ _ => password.bind fun _ _ => .ofResult fun _ _ => trivial

end Credentials

/-- Whether two providers are the same but for the keys that have been asked, have no failures left,
and are made of providers in use. -/
inductive Provider.SameBut (used : Nat → Prop) : Provider → Provider → Prop
  | table (values : Table String RawText) : SameBut used (.table values) (.table values)
  | recorder (values : Table String RawText) (requested others : List String) :
      SameBut used (.recorder values requested) (.recorder values others)
  | spent (values : Table String RawText) (key message : String) :
      SameBut used (.faulty values key message 0) (.faulty values key message 0)
  | environment (lead : String) (place : Option String) (loaded : Bool) :
      SameBut used (.environment lead place loaded) (.environment lead place loaded)
  | chain (members : List Nat) : (∀ member ∈ members, used member) →
      SameBut used (.chain members) (.chain members)

/-- Whether surroundings have the same variables and, among those in use, the same providers but for
the keys that these have been asked. -/
structure Surroundings.SameBut (used : Nat → Prop) (left right : Surroundings) : Prop where
  count : left.count = right.count
  environment : left.environment = right.environment
  providers : ∀ number, used number →
    (left.providers number).SameBut used (right.providers number)

namespace Surroundings

variable {used : Nat → Prop} {left right : Surroundings} {number : Nat}

theorem SameBut.setProvider (same : left.SameBut used right) {provider other : Provider}
    (also : used number → provider.SameBut used other) :
    (left.setProvider number provider).SameBut used (right.setProvider number other) where
  count := same.count
  environment := same.environment
  providers := by
    intro asked isUsed
    rw [Surroundings.setProvider, Surroundings.setProvider]
    by_cases equal : asked = number
    · subst equal
      simpa only [assign_self] using also isUsed
    · simpa only [assign_of_ne _ _ equal] using same.providers asked isUsed

/-- A provider in use answers the same on both sides. -/
theorem read_agree_eq (isUsed : used number) (key : String) :
    Agree (SameBut used) (fun _ _ => Eq) (read number key) (read number key) := by
  refine Agree.current.bind ?_
  rintro before also _ _ same ⟨rfl, rfl⟩
  have provided := same.providers number isUsed
  rw [same.environment]
  generalize before.providers number = provider at provided
  generalize also.providers number = other at provided
  cases provided with
  | table values => exact { events := rfl, state := same, result := .ok rfl }
  | recorder values requested others =>
      exact
        { events := rfl
          state := same.setProvider fun _ => .recorder values (requested ++ [key]) (others ++ [key])
          result := .ok rfl }
  | spent values failing message =>
      dsimp only
      rw [ite_self]
      exact { events := rfl, state := same, result := .ok rfl }
  | environment lead place loaded =>
      dsimp only
      cases also.environment.find? (Environment.variableName lead key) with
      | none => exact { events := rfl, state := same, result := .ok rfl }
      | some value => exact { events := rfl, state := same, result := .ok rfl }
  | chain members => exact { events := rfl, state := same, result := .error _ }

/-- Reading a provider in use on one side leaves the sides the same but for the keys asked. -/
theorem read_still (isUsed : used number) (key : String) (also : Surroundings) :
    (read number key).Keeps (SameBut used · also) (fun _ => True) fun _ => True := by
  refine Keeps.current.bind fun before same => ?_
  have provided := same.providers number isUsed
  generalize before.providers number = provider at provided
  generalize there : also.providers number = other at provided
  cases provided with
  | table values => exact .pure trivial
  | recorder values requested others =>
      refine Keeps.bind (.change fun state held => ?_) fun _ _ => .pure trivial
      have recorded : (state.setProvider number (.recorder values (requested ++ [key]))).SameBut
          used (also.setProvider number (.recorder values others)) :=
        held.setProvider fun _ => .recorder values (requested ++ [key]) others
      have kept : also.setProvider number (.recorder values others) = also := by
        rw [Surroundings.setProvider, ← there, assign_same]
      rwa [kept] at recorded
  | spent values failing message =>
      dsimp only
      rw [ite_self]
      exact .pure trivial
  | environment lead place loaded =>
      dsimp only
      cases before.environment.find? (Environment.variableName lead key) with
      | none => exact .pure trivial
      | some value => exact .note_bind trivial (.pure trivial)
  | chain members => exact .fail _

theorem value_agree_eq (same : left.SameBut used right) (isUsed : used number) (key : String)
    (depth : Nat) :
    Agree (SameBut used) (fun _ _ => Eq) (left.value depth number key)
      (right.value depth number key) := by
  induction depth generalizing number with
  | zero => exact read_agree_eq isUsed key
  | succ depth induction =>
      have provided := same.providers number isUsed
      simp only [value]
      generalize left.providers number = provider at provided
      generalize right.providers number = other at provided
      cases provided with
      | chain members areUsed =>
          exact Config.first_agree rfl (fun _ _ same => same ▸ Iff.rfl)
            fun member isMember => induction (areUsed member isMember)
      | table | recorder | spent | environment => exact read_agree_eq isUsed key

/-- So does asking a provider in use, which reads providers in use alone. -/
theorem value_still {also : Surroundings} (same : left.SameBut used right) (isUsed : used number)
    (key : String) (depth : Nat) :
    (left.value depth number key).Keeps (SameBut used · also) (fun _ => True) fun _ => True := by
  have closed : ∀ number, used number → ∀ members, left.providers number = .chain members →
      ∀ member ∈ members, used member := by
    intro number isUsed members is_chain
    have provided := same.providers number isUsed
    generalize right.providers number = other at provided
    rw [is_chain] at provided
    cases provided with
    | chain _ areUsed => exact areUsed
  exact value_keeps_of_read trivial (fun _ isUsed => read_still isUsed key also) closed isUsed depth

/-- A provider in use is inert. -/
theorem config_isInert (isUsed : used number) : (config number).IsInert (SameBut used) where
  agrees key := by
    refine Agree.current.bind ?_
    rintro before also _ _ same ⟨rfl, rfl⟩
    rw [same.count]
    exact value_agree_eq same isUsed key also.count before also same
  still key also := Keeps.current.bind fun before same =>
    value_still same isUsed key before.count

end Surroundings
end Countersign
