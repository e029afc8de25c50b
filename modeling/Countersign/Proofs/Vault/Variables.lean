import Countersign.Proofs.Config.Alike
import Countersign.Proofs.Config.Isolation
import Countersign.Proofs.Config.Naming
import Countersign.Proofs.Vault.Resolve

/-!
# Realms over one environment

Realms that share their variables are given the same username and the same password, or neither, but
each of them has an entry of its own in a cache.  Where the two values cannot be written both realms
are refused alike, and neither has an entry.  The variables of a realm are out of reach of the
look-up of any realm that is spelled with other letters.
-/

namespace Countersign

open Countersign.Challenge (IsRealm)
open Countersign.Config (userKey passwordKey)

namespace Environment

/-- The values that an environment has for the username and the password of a realm, if it has
both. -/
def login? (environment : Environment) (lead realm : String) : Option (RawText × RawText) := do
  let username ← environment.find? (variableName lead (userKey realm))
  let password ← environment.find? (variableName lead (passwordKey realm))
  pure (username, password)

theorem login?_eq_some {environment : Environment} {lead realm : String}
    {username password : RawText} :
    environment.login? lead realm = some (username, password) ↔
      environment.find? (variableName lead (userKey realm)) = some username ∧
        environment.find? (variableName lead (passwordKey realm)) = some password := by
  simp [login?, Option.bind_eq_some_iff]

theorem login?_eq_none {environment : Environment} {lead realm : String} :
    environment.login? lead realm = none ↔
      environment.find? (variableName lead (userKey realm)) = none ∨
        ∃ username, environment.find? (variableName lead (userKey realm)) = some username ∧
          environment.find? (variableName lead (passwordKey realm)) = none := by
  cases named : environment.find? (variableName lead (userKey realm)) with
  | none => simp [login?, named]
  | some username =>
      cases secret : environment.find? (variableName lead (passwordKey realm)) <;>
        simp [login?, named, secret]

/-- What an environment has for a realm are texts, unless it cannot be written. -/
theorem login?_cases (environment : Environment) (lead realm : String) :
    (∃ login : Option (String × String), environment.login? lead realm =
        login.map fun login => (.ofText login.1, .ofText login.2)) ∨
      ∃ username password fault, environment.login? lead realm = some (username, password) ∧
        (username ++ RawText.ofText ":" ++ password).fault? = some fault := by
  rcases given : environment.login? lead realm with _ | ⟨username, password⟩
  · exact .inl ⟨none, rfl⟩
  · cases refused : (username ++ RawText.ofText ":" ++ password).fault? with
    | some fault => exact .inr ⟨username, password, fault, rfl, refused⟩
    | none =>
        obtain ⟨isName, isSecret⟩ := Credentials.fault?_login_eq_none.mp refused
        refine .inl ⟨some (username.text, password.text), ?_⟩
        rw [Option.map_some, RawText.ofText_text isName, RawText.ofText_text isSecret]

/-- Whether two environments differ at most in the variables of a realm. -/
def AgreeBut (lead realm : String) (left right : Environment) : Prop :=
  ∀ name, name ≠ variableName lead (userKey realm) → name ≠ variableName lead (passwordKey realm) →
    left.find? name = right.find? name

theorem agreeBut_of_name {lead realm name : String} {left right : Environment}
    (own : name = variableName lead (userKey realm) ∨ name = variableName lead (passwordKey realm))
    (elsewhere : ∀ other, other ≠ name → left.find? other = right.find? other) :
    AgreeBut lead realm left right := by
  intro other notUser notPassword
  refine elsewhere other fun same => ?_
  rcases own with user | password
  · exact notUser (same.trans user)
  · exact notPassword (same.trans password)

theorem find?_set_of_ne {name other : String} {value : RawText} {environment : Environment}
    (different : other ≠ name) :
    environment.find? other = (set name value environment).state.find? other := by
  cases refused : Variable.refusal? value with
  | some fault => simp [set, refused]
  | none =>
      cases faulty : Variable.fault? name value with
      | some fault => simp [set, refused, faulty]
      | none => simp [set, refused, faulty, Table.find?_insert, different]

end Environment

namespace Surroundings

variable {surroundings : Surroundings} {number : Nat} {lead : String} {place : Option String}
  {loaded : Bool}

/-- A provider of variables answers with the value of the variable, and logs that it has one. -/
theorem config_of_variables
    (provided : surroundings.providers number = .environment lead place loaded) (key : String) :
    config number key surroundings =
      { result := .ok (surroundings.environment.find? (Environment.variableName lead key))
        state := surroundings
        events := ((surroundings.environment.find? (Environment.variableName lead key)).map
          fun _ => .noted (.fromVariable key (Environment.variableName lead key))).toList } := by
  have single : ∀ members, surroundings.providers number ≠ .chain members := by simp [provided]
  rw [config_eq_read single]
  cases found : surroundings.environment.find? (Environment.variableName lead key) with
  | none => simp [read, Action.bind_apply, provided, found, Action.pure_apply]
  | some value => simp [read, Action.bind_apply, provided, found, Except.map]

end Surroundings

namespace Credentials

/-- What looking a realm up lets be observed if this is what the environment has for it. -/
def traces (lead realm : String) : Option RawText → Option RawText → List Event
  | none, _ => [.asked (userKey realm)]
  | some _, password =>
      [.asked (userKey realm),
        .noted (.fromVariable (userKey realm)
          (Environment.variableName lead (userKey realm))),
        .asked (passwordKey realm)] ++
      (password.map fun _ => .noted (.fromVariable (passwordKey realm)
        (Environment.variableName lead (passwordKey realm)))).toList

/-- Looking a realm up in a provider of variables depends on its two variables alone. -/
theorem fromConfig_of_variables {surroundings : Surroundings} {number : Nat} {lead : String}
    {place : Option String} {loaded : Bool}
    (provided : surroundings.providers number = .environment lead place loaded) (realm : String) :
    let username := surroundings.environment.find?
      (Environment.variableName lead (userKey realm))
    let password := surroundings.environment.find?
      (Environment.variableName lead (passwordKey realm))
    fromConfig realm (Surroundings.config number) surroundings =
      { result := given realm username password, state := surroundings
        events := traces lead realm username password } := by
  intro username password
  have asked := askUsername_apply realm (Surroundings.config number) surroundings
  rw [Surroundings.config_of_variables provided] at asked
  cases named : surroundings.environment.find?
      (Environment.variableName lead (userKey realm)) with
  | none =>
      rw [named] at asked
      rw [fromConfig, Action.bind_of_error (by rw [asked]; rfl), asked]
      simp [username, named, given, traces]
  | some name =>
      rw [named] at asked
      rw [fromConfig, Action.bind_of_ok (by rw [asked]; rfl), asked, Action.bind_ofResult_apply,
        askPassword_apply, Surroundings.config_of_variables provided]
      cases secret : surroundings.environment.find?
          (Environment.variableName lead (passwordKey realm)) with
      | none => simp [username, password, named, secret, given, traces, Config.required,
          Except.bind, Outcome.after]
      | some word => simp [username, password, named, secret, given, traces, Config.required,
          Except.bind, Outcome.after]

end Credentials

namespace Vault

variable {fallback config : Option (Config Surroundings)} {vault : Vault Surroundings}
  {challenge : Option String} {lead realm other : String}

/-- Whether challenges are answered from a provider of variables. -/
def ReadsVariables (lead : String) (fallback config : Option (Config Surroundings))
    (vault : Vault Surroundings) : Prop :=
  ∃ number place loaded, config.or fallback = some (Surroundings.config number) ∧
    vault.world.providers number = .environment lead place loaded

/-- What answering a challenge for an unknown realm comes to if this is what the environment has for
it. -/
def answered (lead realm : String) (vault : Vault Surroundings)
    (username password : Option RawText) : Outcome (Vault Surroundings) (Option Record) :=
  let traces := Credentials.traces lead realm username password
  match Credentials.given realm username password with
  | .ok credentials =>
      let record := vault.cache.nextRecord credentials
      { result := .ok (some record)
        state := { vault with cache := vault.cache.afterRecord.store realm (some record) }
        events := traces ++ [.noted (.resolved realm credentials.username)] }
  | .error (.notFound _ _ key) =>
      { result := .ok none
        state := { vault with cache := vault.cache.store realm none }
        events := traces ++ [.noted (.unavailable realm key)] }
  | .error failure => { result := .error failure, state := vault, events := traces }

theorem resolve_of_variables (reads : ReadsVariables lead fallback config vault)
    (parsed : Challenge.parse challenge = .ok realm) (unknown : vault.cache.find? realm = none) :
    resolve fallback challenge config vault =
      answered lead realm vault
        (vault.world.environment.find? (Environment.variableName lead (userKey realm)))
        (vault.world.environment.find?
          (Environment.variableName lead (passwordKey realm))) := by
  obtain ⟨number, place, loaded, available, provided⟩ := reads
  have looked := Credentials.fromConfig_of_variables provided realm
  rw [resolve_unknown parsed unknown, available, consult_some]
  generalize vault.world.environment.find?
    (Environment.variableName lead (userKey realm)) = username at looked
  generalize vault.world.environment.find?
    (Environment.variableName lead (passwordKey realm)) = password at looked
  rw [answered]
  split
  next credentials found => rw [lookUp_found (by rw [looked, found]), looked]
  next key absent => rw [lookUp_missing (by rw [looked, absent]), looked]
  next failure other failed =>
    rw [lookUp_failed (by rw [looked, failed]) fun message missing key => other message missing key,
      looked]

/-- Whether a challenge for a realm is answered with what the environment has for it, and this is
kept for the realm alone. -/
structure Learns (realm : String) (vault : Vault Surroundings) (entry : Option Record)
    (login : Option (String × String)) (outcome : Outcome (Vault Surroundings) (Option Record)) :
    Prop where
  result : outcome.result = .ok entry
  stored : outcome.state.cache.find? realm = some entry
  elsewhere : ∀ other, other ≠ realm →
    outcome.state.cache.find? other = vault.cache.find? other
  world : outcome.state.world = vault.world
  credentials : entry.map (·.credentials) =
    login.map fun login => { realm, username := login.1, password := login.2 }

theorem learns_of_store {cache : Cache} {entry : Option Record} {login : Option (String × String)}
    {events : List Event} (same : ∀ other, cache.find? other = vault.cache.find? other)
    (credentials : entry.map (·.credentials) =
      login.map fun login => { realm, username := login.1, password := login.2 }) :
    Learns realm vault entry login
      { result := .ok entry, state := { vault with cache := cache.store realm entry }
        events } where
  result := rfl
  stored := by simp [Cache.find?_store]
  elsewhere other different := by simp [Cache.find?_store, different, same]
  world := rfl
  credentials := credentials

/-- An unknown realm is learnt from the environment if what this has for it are texts. -/
theorem exists_learns (reads : ReadsVariables lead fallback config vault)
    (parsed : Challenge.parse challenge = .ok realm) (unknown : vault.cache.find? realm = none)
    {login : Option (String × String)}
    (given : vault.world.environment.login? lead realm =
      login.map fun login => (.ofText login.1, .ofText login.2)) :
    ∃ entry, Learns realm vault entry login (resolve fallback challenge config vault) := by
  rw [resolve_of_variables reads parsed unknown]
  cases login with
  | none =>
      refine ⟨none, ?_⟩
      rcases Environment.login?_eq_none.mp given with absent | ⟨username, named, absent⟩
      · rw [answered, absent]
        exact learns_of_store (fun _ => rfl) rfl
      · rw [answered, named, absent]
        exact learns_of_store (fun _ => rfl) rfl
  | some login =>
      obtain ⟨named, secret⟩ := Environment.login?_eq_some.mp given
      simp only [answered, named, secret, Credentials.given, Credentials.make_ofText]
      exact ⟨_, learns_of_store vault.cache.find?_afterRecord rfl⟩

/-- An unknown realm is refused if what the environment has for it cannot be written. -/
theorem refuses_resolve (reads : ReadsVariables lead fallback config vault)
    (parsed : Challenge.parse challenge = .ok realm) (unknown : vault.cache.find? realm = none)
    {username password : RawText} {fault : RawText.Fault}
    (given : vault.world.environment.login? lead realm = some (username, password))
    (refused : (username ++ RawText.ofText ":" ++ password).fault? = some fault) :
    let outcome := resolve fallback challenge config vault
    outcome.result = .error (.unencodable fault) ∧ outcome.state = vault := by
  intro outcome
  obtain ⟨named, secret⟩ := Environment.login?_eq_some.mp given
  have resolved : outcome = _ := resolve_of_variables reads parsed unknown
  rw [resolved, named, secret]
  simp [answered, Credentials.given, Credentials.make, refused]

/-- What the answer to a challenge and the entry for it depend on. -/
theorem answered_congr (username password : Option RawText) (world : Surroundings) :
    (answered lead realm { vault with world } username password).result =
        (answered lead realm vault username password).result ∧
      (answered lead realm { vault with world } username password).state.cache =
        (answered lead realm vault username password).state.cache ∧
      (answered lead realm { vault with world } username password).events =
        (answered lead realm vault username password).events := by
  rw [answered, answered]
  split <;> exact ⟨rfl, rfl, rfl⟩

end Vault

namespace Environment

/-- What becomes of two challenges, one after the other, for realms that share their variables. -/
inductive Share (lead realm other : String) (vault : Vault Surroundings)
    (first second : Outcome (Vault Surroundings) (Option Record)) : Prop
  /-- Both realms are given the same username and the same password, or neither, in entries of their
  own. -/
  | entries {entry twin : Option Record} {login : Option (String × String)} :
      (vault.world.environment.login? lead realm =
        login.map fun login => (.ofText login.1, .ofText login.2)) →
      first.result = .ok entry → second.result = .ok twin →
      second.state.cache.find? realm = some entry → second.state.cache.find? other = some twin →
      (entry.map (·.credentials) =
        login.map fun login => { realm, username := login.1, password := login.2 }) →
      (twin.map (·.credentials) =
        login.map fun login => { realm := other, username := login.1, password := login.2 }) →
      Share lead realm other vault first second
  /-- The username and the password cannot be written, so that both challenges are refused alike and
  nothing is kept. -/
  | refused {username password : RawText} {fault : RawText.Fault} :
      vault.world.environment.login? lead realm = some (username, password) →
      (username ++ RawText.ofText ":" ++ password).fault? = some fault →
      first.result = .error (.unencodable fault) → second.result = .error (.unencodable fault) →
      second.state = vault → Share lead realm other vault first second

/-- Which realms share the variables that begin in one way, and what this means for answering
challenges from them. -/
structure SharesVariables (lead : String) : Prop where
  username : ∀ realm other, IsRealm realm → IsRealm other →
    (variableName lead (userKey realm) = variableName lead (userKey other) ↔
      Ascii.SameLetters realm.toList other.toList)
  password : ∀ realm other, IsRealm realm → IsRealm other →
    (variableName lead (passwordKey realm) = variableName lead (passwordKey other) ↔
      Ascii.SameLetters realm.toList other.toList)
  apart : ∀ realm other, variableName lead (userKey realm) ≠ variableName lead (passwordKey other)
  /-- Realms that differ in case alone are given the same, in entries of their own. -/
  shared : ∀ fallback config vault, Vault.ReadsVariables lead fallback config vault →
    ∀ challenge another realm other, Challenge.parse challenge = .ok realm →
    Challenge.parse another = .ok other → realm ≠ other →
    Ascii.SameLetters realm.toList other.toList →
    vault.cache.find? realm = none → vault.cache.find? other = none →
    let first := Vault.resolve fallback challenge config vault
    Share lead realm other vault first (Vault.resolve fallback another config first.state)
  /-- Setting and unsetting the variables of a realm changes no others. -/
  written : ∀ environment realm key value, key = userKey realm ∨ key = passwordKey realm →
    AgreeBut lead realm environment (set (variableName lead key) value environment).state ∧
      AgreeBut lead realm environment (environment.erase (variableName lead key))
  /-- The variables of a realm make no difference to what is answered, kept and observed of an
  unknown realm that is spelled with other letters. -/
  unaffected : ∀ fallback config vault, Vault.ReadsVariables lead fallback config vault →
    ∀ challenge realm other, Challenge.parse challenge = .ok realm → IsRealm other →
    ¬Ascii.SameLetters realm.toList other.toList → vault.cache.find? realm = none →
    ∀ environment, AgreeBut lead other vault.world.environment environment →
    let before := Vault.resolve fallback challenge config vault
    let after := Vault.resolve fallback challenge config
      { vault with world := { vault.world with environment } }
    after.result = before.result ∧ after.state.cache = before.state.cache ∧
      after.events = before.events

/-- Realms that share their variables have the same username and the same password. -/
theorem login?_eq {realm other : String} (isRealm : IsRealm realm) (isOther : IsRealm other)
    (alike : Ascii.SameLetters realm.toList other.toList) (environment : Environment)
    (lead : String) : environment.login? lead realm = environment.login? lead other := by
  have user : variableName lead (userKey realm) = variableName lead (userKey other) :=
    (variableName_inj isRealm isOther lead _).mpr alike
  have password : variableName lead (passwordKey realm) = variableName lead (passwordKey other) :=
    (variableName_inj isRealm isOther lead _).mpr alike
  rw [login?, login?, user, password]

/-- The variables of a realm are the same if nothing but those of other letters differ. -/
theorem AgreeBut.find?_eq {lead realm other : String} {left right : Environment}
    (agree : AgreeBut lead other left right) (isRealm : IsRealm realm) (isOther : IsRealm other)
    (different : ¬Ascii.SameLetters realm.toList other.toList) :
    left.find? (variableName lead (userKey realm)) =
        right.find? (variableName lead (userKey realm)) ∧
      left.find? (variableName lead (passwordKey realm)) =
        right.find? (variableName lead (passwordKey realm)) := by
  constructor
  · apply agree
    · exact fun same => different ((variableName_inj isRealm isOther lead _).mp same)
    · exact variableName_userKey_ne lead realm lead other
  · apply agree
    · exact (variableName_userKey_ne lead other lead realm).symm
    · exact fun same => different ((variableName_inj isRealm isOther lead _).mp same)

/-- Realms share their variables exactly if they are spelled with the same letters. -/
theorem sharesVariables (lead : String) : SharesVariables lead := by
  constructor
  case username => exact fun realm other isRealm isOther => variableName_inj isRealm isOther lead _
  case password => exact fun realm other isRealm isOther => variableName_inj isRealm isOther lead _
  case apart => exact fun realm other => variableName_userKey_ne lead realm lead other
  case shared =>
    intro fallback config vault reads challenge another realm other parsed also different alike
      unknown unheard first
    obtain ⟨_, -, isFor⟩ := Challenge.parse_eq_ok_iff.mp parsed
    obtain ⟨_, -, isForOther⟩ := Challenge.parse_eq_ok_iff.mp also
    have shared := login?_eq isFor.1 isForOther.1 alike vault.world.environment lead
    rcases login?_cases vault.world.environment lead realm with
      ⟨login, given⟩ | ⟨username, password, fault, given, refused⟩
    · obtain ⟨entry, learns⟩ := Vault.exists_learns reads parsed unknown given
      have reads_then : Vault.ReadsVariables lead fallback config first.state := by
        rwa [Vault.ReadsVariables, learns.world]
      have unheard_then : first.state.cache.find? other = none := by
        rw [learns.elsewhere other different.symm, unheard]
      obtain ⟨twin, learns_then⟩ := Vault.exists_learns reads_then also unheard_then
        (by rw [learns.world, ← shared, given])
      refine .entries given learns.result learns_then.result ?_ learns_then.stored
        learns.credentials learns_then.credentials
      rw [learns_then.elsewhere realm different, learns.stored]
    · obtain ⟨result, same⟩ := Vault.refuses_resolve reads parsed unknown given refused
      have same_first : first.state = vault := same
      rw [same_first]
      obtain ⟨result_then, same_then⟩ :=
        Vault.refuses_resolve reads also unheard (by rw [← shared, given]) refused
      exact .refused given refused result result_then same_then
  case written =>
    intro environment realm key value ofRealm
    have own : variableName lead key = variableName lead (userKey realm) ∨
        variableName lead key = variableName lead (passwordKey realm) :=
      ofRealm.imp (congrArg _) (congrArg _)
    constructor
    · exact agreeBut_of_name own fun other different => find?_set_of_ne different
    · refine agreeBut_of_name own fun other different => ?_
      rw [Table.find?_erase, if_neg different]
  case unaffected =>
    intro fallback config vault reads challenge realm other parsed isOther different unknown
      environment agree before after
    obtain ⟨_, -, isFor⟩ := Challenge.parse_eq_ok_iff.mp parsed
    obtain ⟨user, password⟩ := agree.find?_eq isFor.1 isOther different
    have reads_then : Vault.ReadsVariables lead fallback config
        { vault with world := { vault.world with environment } } := reads
    have before_eq : before = _ := Vault.resolve_of_variables reads parsed unknown
    have after_eq : after = _ := Vault.resolve_of_variables reads_then parsed unknown
    rw [before_eq, after_eq, user, password]
    exact Vault.answered_congr _ _ _

/-- A provider of variables over an environment in which the password of a realm is a byte that no
character starts with. -/
def garbled : Vault Surroundings :=
  { cache := .empty
    world := (Surroundings.start loader
      (.ofList [("HTTP_AUTH_BASIC_A_USER", .ofText "u"),
        ("HTTP_AUTH_BASIC_A_PASSWORD", .ofBytes [0xe9])]) .empty).addProvider
          (.environment "" none true) }

/-- Two realms that differ in case alone need not have entries; and they need not be given the same
if one of them is known already. -/
theorem garbled_unshared :
    let fallback := some (Surroundings.config 0)
    let first := Vault.resolve fallback (some "Basic realm=\"a\"") none garbled
    let second := Vault.resolve fallback (some "Basic realm=\"A\"") none first.state
    let refusal := Failure.unencodable { point := .escape 0xe9, position := 2, width := 1 }
    Vault.ReadsVariables "" fallback none garbled ∧ Ascii.SameLetters ['a'] ['A'] ∧
      first.result = .error refusal ∧ second.result = .error refusal ∧
      second.state.cache.find? "a" = none ∧ second.state.cache.find? "A" = none ∧
      (Vault.resolve fallback (some "Basic realm=\"a\"") none
        { garbled with cache := garbled.cache.store "a" none }).result = .ok none := by
  intro fallback first second refusal
  have reads : Vault.ReadsVariables "" fallback none garbled := ⟨0, none, true, rfl, rfl⟩
  refine ⟨reads, Ascii.sameLetters_iff.mpr (by decide), ?_⟩
  decide +kernel

end Environment
end Countersign
