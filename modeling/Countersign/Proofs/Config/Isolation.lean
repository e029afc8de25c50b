import Countersign.Proofs.Credentials
import Countersign.Proofs.Config.Keys
import Countersign.Session.Setup

/-!
# Realms do not meet in a configuration

Looking a realm up asks for its username and, if there is one, for its password, and for nothing
else; of both it makes credentials if both can be written.  The keys of different realms differ,
whatever the realms are spelled like, so that what a table says of one realm is out of reach of the
look-up of another.
-/

namespace Countersign

namespace Credentials

/-- The keys that a look-up asks for if this is its username. -/
def keysGiven (realm : String) : Option RawText → List Event
  | none => [.asked (Config.userKey realm)]
  | some _ => [.asked (Config.userKey realm), .asked (Config.passwordKey realm)]

end Credentials

/-- Whether a configuration does nothing but read a table, in worlds of a kind that it stays in. -/
structure Config.Reads {World : Type} (config : Config World) (values : Table String RawText)
    (held : World → Prop) : Prop where
  result : ∀ key world, held world → (config key world).result = .ok (values.find? key)
  state : ∀ key world, held world → held (config key world).state
  events : ∀ key world, held world → (config key world).events = []

namespace Config.Reads

open Countersign.Credentials

variable {World : Type} {config : Config World} {values : Table String RawText}
  {held : World → Prop} {world : World}

/-- A look-up in a table is answered with the values of the two keys of the realm. -/
theorem fromConfig_eq (reads : config.Reads values held) (holds : held world) (realm : String) :
    (fromConfig realm config world).result =
        given realm (values.find? (userKey realm)) (values.find? (passwordKey realm)) ∧
      (fromConfig realm config world).events = keysGiven realm (values.find? (userKey realm)) := by
  have lookUp := fromConfig_lookUp realm config world
  have first_result := reads.result (userKey realm) world holds
  have first_events := reads.events (userKey realm) world holds
  have between := reads.state (userKey realm) world holds
  have second_result := reads.result (passwordKey realm) _ between
  have second_events := reads.events (passwordKey realm) _ between
  generalize fromConfig realm config world = outcome at lookUp ⊢
  cases lookUp with
  | failedFirst asked failed =>
      subst asked
      rw [first_result] at failed
      cases failed
  | noUsername asked absent =>
      subst asked
      rw [first_result, Except.ok.injEq] at absent
      simp [first_events, absent, given, keysGiven]
  | failedThen asked answered continued failed =>
      subst asked continued
      rw [second_result] at failed
      cases failed
  | noPassword asked answered continued absent =>
      subst asked continued
      rw [first_result, Except.ok.injEq] at answered
      rw [second_result, Except.ok.injEq] at absent
      simp [first_events, second_events, answered, absent, given, keysGiven]
  | found asked answered continued ended =>
      subst asked continued
      rw [first_result, Except.ok.injEq] at answered
      rw [second_result, Except.ok.injEq] at ended
      simp [first_events, second_events, answered, ended, given, keysGiven]

end Config.Reads

/-- Whether a provider answers from a table. -/
inductive Provider.Holds (values : Table String RawText) : Provider → Prop
  | table : Holds values (.table values)
  | recorder (requested : List String) : Holds values (.recorder values requested)

namespace Surroundings

/-- A provider that is not a chain is read by itself. -/
theorem config_eq_read {surroundings : Surroundings} {number : Nat}
    (single : ∀ members, surroundings.providers number ≠ .chain members) (key : String) :
    config number key surroundings = read number key surroundings := by
  have value_eq_read : surroundings.value surroundings.count number key = read number key := by
    cases surroundings.count with
    | zero => rfl
    | succ depth =>
        rw [value]
        split
        next members is_chain => exact absurd is_chain (single members)
        next => rfl
  exact congrFun value_eq_read surroundings

theorem read_of_holds {surroundings : Surroundings} {number : Nat} {values : Table String RawText}
    (holds : (surroundings.providers number).Holds values) (key : String) :
    ∃ after, read number key surroundings =
        { result := .ok (values.find? key), state := after, events := [] } ∧
      (after.providers number).Holds values := by
  generalize provided : surroundings.providers number = provider at holds
  cases holds with
  | table =>
      refine ⟨surroundings, ?_, provided ▸ .table⟩
      simp [read, Action.bind_apply, provided, Action.pure_apply]
  | recorder requested =>
      refine ⟨surroundings.setProvider number (.recorder values (requested ++ [key])), ?_, ?_⟩
      · simp [read, Action.bind_apply, provided, Except.map]
      · simpa [setProvider] using .recorder (requested ++ [key])

theorem config_reads (number : Nat) (values : Table String RawText) :
    (config number).Reads values fun surroundings =>
      (surroundings.providers number).Holds values := by
  have outcome : ∀ key surroundings, (surroundings.providers number).Holds values →
      ∃ after, config number key surroundings =
          { result := .ok (values.find? key), state := after, events := [] } ∧
        (after.providers number).Holds values := by
    intro key surroundings holds
    have single : ∀ members, surroundings.providers number ≠ .chain members := by
      intro members is_chain
      rw [is_chain] at holds
      cases holds
    rw [config_eq_read single]
    exact read_of_holds holds key
  constructor <;> intro key surroundings holds
  all_goals obtain ⟨after, same, kept⟩ := outcome key surroundings holds
  · rw [same]
  · rwa [same]
  · rw [same]

end Surroundings

namespace Setup

/-- What the provider that is made for a realm has under the key of a username. -/
theorem find?_userKey_ofOptions (prepared realm : String) (username password : Option RawText) :
    (Table.ofOptions [(Config.userKey prepared, username),
      (Config.passwordKey prepared, password)]).find? (Config.userKey realm) =
        if realm = prepared then username else none := by
  cases username <;> cases password <;>
    simp [Table.ofOptions, Table.ofList, Table.find?_insert, Config.userKey_inj,
      Config.userKey_ne_passwordKey]

/-- What the provider that is made for a realm has under the key of a password. -/
theorem find?_passwordKey_ofOptions (prepared realm : String) (username password : Option RawText) :
    (Table.ofOptions [(Config.userKey prepared, username),
      (Config.passwordKey prepared, password)]).find? (Config.passwordKey realm) =
        if realm = prepared then password else none := by
  have different := (Config.userKey_ne_passwordKey prepared realm).symm
  cases username <;> cases password <;>
    simp [Table.ofOptions, Table.ofList, Table.find?_insert, Config.passwordKey_inj, different]

/-- Making a provider adds it to the surroundings under the next number. -/
theorem addProvider_apply (provider : Provider) (session : Session) :
    (addProvider provider session).result =
        .ok (.provider session.client.vaults.world.count) ∧
      (addProvider provider session).state.client.vaults.world =
        session.client.vaults.world.addProvider provider := ⟨rfl, rfl⟩

end Setup

namespace Credentials

variable {realm : String} {left right : Table String RawText}

/-- Whether looking a realm up comes to the same in any two providers that hold these tables. -/
def AgreeOn (realm : String) (left right : Table String RawText) : Prop :=
  ∀ {number other : Nat} {surroundings others : Surroundings},
    (surroundings.providers number).Holds left → (others.providers other).Holds right →
    (fromConfig realm (Surroundings.config number) surroundings).result =
        (fromConfig realm (Surroundings.config other) others).result ∧
      (fromConfig realm (Surroundings.config number) surroundings).events =
        (fromConfig realm (Surroundings.config other) others).events

theorem agreeOn_of_keys
    (same_username : left.find? (Config.userKey realm) = right.find? (Config.userKey realm))
    (same_password :
      left.find? (Config.passwordKey realm) = right.find? (Config.passwordKey realm)) :
    AgreeOn realm left right := by
  intro number other surroundings others holds holds'
  obtain ⟨result, events⟩ := (Surroundings.config_reads number left).fromConfig_eq holds realm
  obtain ⟨result', events'⟩ := (Surroundings.config_reads other right).fromConfig_eq holds' realm
  rw [result, result', events, events', same_username, same_password]
  exact ⟨rfl, rfl⟩

/-- Tables that differ at keys of other realms agree at the keys of a realm. -/
theorem find?_eq_of_differ_elsewhere {key : String}
    (of_realm : key = Config.userKey realm ∨ key = Config.passwordKey realm)
    (elsewhere : ∀ key, left.find? key ≠ right.find? key →
      ∃ other, other ≠ realm ∧ (key = Config.userKey other ∨ key = Config.passwordKey other)) :
    left.find? key = right.find? key := by
  refine Decidable.byContradiction fun different => ?_
  obtain ⟨other, other_realm, of_other⟩ := elsewhere key different
  exact other_realm (Config.eq_of_key of_other of_realm)

theorem fromConfig_recorderFor (session : Session) (realm owner : String)
    (username password : Option RawText) :
    ∃ number,
      (Setup.make (.recorderFor owner username password) session).result =
          .ok (.provider number) ∧
        (fromConfig realm (Surroundings.config number)
          (Setup.make (.recorderFor owner username password) session).state.client.vaults.world
          ).result =
            given realm (if realm = owner then username else none)
              (if realm = owner then password else none) := by
  let values := Table.ofOptions
    [(Config.userKey owner, username), (Config.passwordKey owner, password)]
  obtain ⟨made, world⟩ := Setup.addProvider_apply (.recorder values []) session
  refine ⟨_, made, ?_⟩
  rw [Setup.make, world]
  have holds : ((session.client.vaults.world.addProvider (.recorder values [])).providers
      session.client.vaults.world.count).Holds values := by
    simpa [Surroundings.addProvider, Surroundings.setProvider] using .recorder []
  rw [((Surroundings.config_reads _ values).fromConfig_eq holds realm).1,
    Setup.find?_userKey_ofOptions, Setup.find?_passwordKey_ofOptions]

/-- How a realm is kept apart from all others: by what its look-up asks for, by how its keys are
spelled, and so by what the values of a provider can change about its look-up. -/
structure IsIsolated (realm : String) : Prop where
  lookUp : ∀ {World : Type} (config : Config World) (world : World),
    LookUp realm config world (fromConfig realm config world)
  /-- A username and a password that are texts make credentials, also if they are empty. -/
  makes : ∀ username password, make realm (.ofText username) (.ofText password) =
    .ok { realm, username, password }
  /-- A username and a password of which one is no text make none. -/
  refuses : ∀ username password : RawText, ¬(username.isText ∧ password.isText) →
    ∃ fault, make realm username password = .error (.unencodable fault)
  userKey_ne_passwordKey : ∀ other, Config.userKey realm ≠ Config.passwordKey other
  eq_of_userKey : ∀ other, Config.userKey realm = Config.userKey other → realm = other
  eq_of_passwordKey : ∀ other, Config.passwordKey realm = Config.passwordKey other → realm = other
  /-- Two tables that agree at the keys of the realm cannot be told apart. -/
  agreeing : ∀ left right : Table String RawText,
    left.find? (Config.userKey realm) = right.find? (Config.userKey realm) →
    left.find? (Config.passwordKey realm) = right.find? (Config.passwordKey realm) →
    AgreeOn realm left right
  /-- What a table says of other realms makes no difference. -/
  unaffected : ∀ left right : Table String RawText,
    (∀ key, left.find? key ≠ right.find? key →
      ∃ other, other ≠ realm ∧ (key = Config.userKey other ∨ key = Config.passwordKey other)) →
    AgreeOn realm left right
  /-- The provider that is made for one realm answers the look-up of that realm alone. -/
  prepared : ∀ (session : Session) (owner : String) (username password : Option RawText),
    ∃ number,
      (Setup.make (.recorderFor owner username password) session).result =
          .ok (.provider number) ∧
        (fromConfig realm (Surroundings.config number)
          (Setup.make (.recorderFor owner username password) session).state.client.vaults.world
          ).result =
            given realm (if realm = owner then username else none)
              (if realm = owner then password else none)

/-- Every realm is kept apart from all others. -/
theorem isIsolated (realm : String) : IsIsolated realm where
  lookUp := fromConfig_lookUp realm
  makes := make_ofText realm
  refuses _ _ := exists_make_error realm
  userKey_ne_passwordKey := Config.userKey_ne_passwordKey realm
  eq_of_userKey _ := Config.userKey_inj.mp
  eq_of_passwordKey _ := Config.passwordKey_inj.mp
  agreeing _ _ := agreeOn_of_keys
  unaffected _ _ elsewhere :=
    agreeOn_of_keys (find?_eq_of_differ_elsewhere (.inl rfl) elsewhere)
      (find?_eq_of_differ_elsewhere (.inr rfl) elsewhere)
  prepared session := fromConfig_recorderFor session realm

/-- A username and a password do not make credentials if the password is a byte that no character
starts with.  A configuration that breaks has the look-up end with its failure, which is not that a
key is missing. -/
theorem fromConfig_garbled :
    let values := Table.ofList
      [(Config.userKey "a", .ofText "u"), (Config.passwordKey "a", .ofBytes [0xe9])]
    let sealed : Config Unit := fun _ => Action.fail (.broken "vault is sealed")
    (fromConfig "a" (Config.ofTable values : Config Unit) ()).result =
        .error (.unencodable { point := .escape 0xe9, position := 2, width := 1 }) ∧
      (fromConfig "a" sealed ()).result = .error (.broken "vault is sealed") :=
  ⟨rfl, rfl⟩

/-- An empty username and an empty password are credentials. -/
example : given "a" (some (.ofText "")) (some (.ofText "")) =
    .ok { realm := "a", username := "", password := "" } := rfl

end Credentials
end Countersign
