import Countersign.Proofs.Client.Layers
import Countersign.Proofs.Vault.Alike
import Mathlib.Data.List.Forall2

/-!
# What passwords do not show in

Two clients of Basic resolvers that differ in nothing but the passwords of their configurations do
the same errands alike: they log the same lines, ask for the same keys, fail at the same errands for
the same reason, and what they return looks the same.
-/

namespace Countersign

open Countersign.Action (Agree)

variable {World Value : Type}

namespace Vaults

/-- Whether vaults have alike caches and related worlds. -/
structure Alike (worlds : World → World → Prop) (left right : Vaults World) : Prop where
  caches : ∀ number, (left.caches number).Alike (right.caches number)
  world : worlds left.world right.world

/-- Whether two values are related in the vaults with one of the caches. -/
def InSome (values : Vault World → Vault World → Value → Value → Prop) (left right : Vaults World)
    (value other : Value) : Prop :=
  ∃ number, values (left.vault number) (right.vault number) value other

/-- Whether two records are known for one realm in the same cache and look the same. -/
def BothKnow (left right : Vaults World) (record other : Record) : Prop :=
  ∃ number, (left.caches number).BothKnow (right.caches number) record other

/-- Whether two handles are those of records that both know. -/
def BothHand (left right : Vaults World) (handle other : Handle) : Prop :=
  ∃ record also, BothKnow left right record also ∧ handle = record.credentials.handle ∧
    other = also.credentials.handle

/-- Whether two answers are none, or records that both know for one realm. -/
def Found (left right : Vaults World) : Option Record → Option Record → Prop :=
  Option.Rel (BothKnow left right)

/-- Whether two answers are none, or the handles of records that both know for one realm. -/
def Handed (left right : Vaults World) : Option Handle → Option Handle → Prop :=
  Option.Rel (BothHand left right)

variable {left right : Vaults World}

theorem InSome.found {answer other : Option Record}
    (found : InSome Vault.Found left right answer other) : Found left right answer other := by
  obtain ⟨number, found⟩ := found
  cases found with
  | none => exact .none
  | some known => exact .some ⟨number, known⟩

theorem BothHand.realm_eq {handle other : Handle} (handed : BothHand left right handle other) :
    handle.realm = other.realm := by
  obtain ⟨record, also, ⟨number, realm, -, -, same⟩, rfl, rfl⟩ := handed
  exact same.credentials.realm

variable {worlds : World → World → Prop}

theorem onVault_agree (number : Nat) {values : Vault World → Vault World → Value → Value → Prop}
    {left right : Action (Vault World) Value}
    (agree : Agree (Vault.Alike worlds) values left right) :
    Agree (Alike worlds) (InSome values) (onVault number left) (onVault number right) := by
  refine agree.within (fun before also held => ?_) (fun before also vault other held same => ?_)
    (fun before also vault other value answer related => ⟨number, ?_⟩)
  · exact { cache := held.caches number, world := held.world }
  · refine { caches := fun asked => ?_, world := same.world }
    by_cases equal : asked = number
    · subst equal
      simpa only [assign_self] using same.cache
    · simpa only [assign_of_ne _ _ equal] using held.caches asked
  · simpa only [Vaults.vault, assign_self] using related

end Vaults

theorem Vault.onCache_agree {worlds : World → World → Prop} {change : Cache → Cache}
    (keeps : ∀ before also, Cache.Alike before also → (change before).Alike (change also)) :
    Agree (Vault.Alike worlds) (fun _ _ _ _ => True) (onCache change) (onCache change) :=
  .change fun _ _ held => { cache := keeps _ _ held.cache, world := held.world }

/-- Whether a configuration is that of a provider, if there is one. -/
def Config.IsAbsentOrProvider (config : Option (Config Surroundings)) : Prop :=
  ∃ provider : Option Nat, config = provider.map Surroundings.config

theorem Config.IsAbsentOrProvider.isAlike {config fallback : Option (Config Surroundings)}
    (isProvider : IsAbsentOrProvider config) (isFallback : IsAbsentOrProvider fallback)
    (given : Config Surroundings) (available : config.or fallback = some given) :
    given.IsAlike Surroundings.Alike := by
  obtain ⟨provider, rfl⟩ := isProvider
  obtain ⟨other, rfl⟩ := isFallback
  rcases Option.or_eq_some_iff.mp available with configured | ⟨-, configured⟩
  · obtain ⟨number, -, rfl⟩ := Option.map_eq_some_iff.mp configured
    exact Surroundings.config_isAlike number
  · obtain ⟨number, -, rfl⟩ := Option.map_eq_some_iff.mp configured
    exact Surroundings.config_isAlike number

/-- A resolver as a scheme hands over handles of records that look the same. -/
theorem Resolver.scheme_agree {worlds : World → World → Prop} {resolver : Resolver World}
    {config : Option (Config World)}
    (alike : ∀ given, config.or resolver.config = some given → given.IsAlike worlds)
    (challenge : Option String) :
    Agree (Vaults.Alike worlds) Vaults.Handed (resolver.scheme.resolve challenge config)
      (resolver.scheme.resolve challenge config) := by
  have resolves : Agree (Vaults.Alike worlds) (Vaults.InSome Vault.Found)
      (resolver.resolve challenge config) (resolver.resolve challenge config) :=
    Vaults.onVault_agree resolver.cache (Vault.resolve_agree alike challenge)
  refine resolves.map fun before also record other found => ?_
  cases found.found with
  | none => exact .none
  | some known => exact .some ⟨_, _, known, rfl, rfl⟩

namespace Client

/-- Whether a client has no schemes but resolvers, and these fall back on providers at most. -/
structure IsBasic (client : Client Surroundings) : Prop where
  fallback : ∀ number, Config.IsAbsentOrProvider (client.resolvers number).config
  members : ∀ dispatcher, ∀ member ∈ client.dispatchers dispatcher, ∃ number,
    member = .basic number

/-- Whether two clients differ in nothing but passwords. -/
structure Alike (left right : Client Surroundings) : Prop extends left.IsBasic where
  resolvers : left.resolvers = right.resolvers
  dispatchers : left.dispatchers = right.dispatchers
  vaults : left.vaults.Alike Surroundings.Alike right.vaults

variable {left right client : Client Surroundings}

/-- A client whose caches are empty is alike in surroundings that are. -/
theorem IsBasic.alike_of_empty (basic : client.IsBasic)
    (empty : ∀ number realm, (client.vaults.caches number).find? realm = none)
    {world : Surroundings} (alike : client.vaults.world.Alike world) :
    client.Alike { client with vaults := { client.vaults with world } } where
  toIsBasic := basic
  resolvers := rfl
  dispatchers := rfl
  vaults :=
    { world := alike
      caches := fun number =>
        { made := rfl
          entries := fun realm => by
            rw [empty number realm]
            exact .none } }

theorem Alike.dispatcher_eq (alike : left.Alike right) (number : Nat) :
    left.dispatcher number = right.dispatcher number := by
  simp only [dispatcher, alike.dispatchers]
  refine List.map_congr_left fun member isMember => ?_
  rw [← alike.dispatchers] at isMember
  obtain ⟨resolver, rfl⟩ := alike.members number member isMember
  simp only [scheme, alike.resolvers]

theorem IsBasic.scheme_agree (basic : client.IsBasic) {dispatcher : Nat}
    {config : Option (Config Surroundings)} (isProvider : Config.IsAbsentOrProvider config)
    {scheme : Scheme (Vaults Surroundings) (Config Surroundings)}
    (isScheme : scheme ∈ client.dispatcher dispatcher) (challenge : Option String) :
    Agree (Vaults.Alike Surroundings.Alike) Vaults.Handed (scheme.resolve challenge config)
      (scheme.resolve challenge config) := by
  obtain ⟨member, isMember, rfl⟩ := List.mem_map.mp isScheme
  obtain ⟨resolver, rfl⟩ := basic.members dispatcher member isMember
  exact Resolver.scheme_agree (isProvider.isAlike (basic.fallback resolver)) challenge

theorem onVaults_agree {values : Vaults Surroundings → Vaults Surroundings → Value → Value → Prop}
    {action other : Action (Vaults Surroundings) Value}
    (agree : Agree (Vaults.Alike Surroundings.Alike) values action other) :
    Agree Alike (fun before also => values before.vaults also.vaults) (onVaults action)
      (onVaults other) :=
  agree.within (fun _ _ alike => alike.vaults)
    (fun _ _ _ _ alike same => { alike with vaults := same }) fun _ _ _ _ _ _ related => related

/-- What is done with the caches and the world agrees if it does for clients that are alike. -/
theorem current_onVaults_agree
    {values : Vaults Surroundings → Vaults Surroundings → Value → Value → Prop}
    {action : Client Surroundings → Action (Vaults Surroundings) Value}
    (agree : ∀ before also : Client Surroundings, before.Alike also →
      Agree (Vaults.Alike Surroundings.Alike) values (action before) (action also)) :
    Agree Alike (fun before also => values before.vaults also.vaults)
      (Action.current >>= fun client => onVaults (action client))
      (Action.current >>= fun client => onVaults (action client)) := by
  refine Agree.current.bind ?_
  rintro before also _ _ alike ⟨rfl, rfl⟩
  exact onVaults_agree (agree before also alike) before also alike

theorem onResolver_agree (number : Nat)
    {values : Vault Surroundings → Vault Surroundings → Value → Value → Prop}
    {action : Option (Config Surroundings) → Action (Vault Surroundings) Value}
    (agree : ∀ fallback, Config.IsAbsentOrProvider fallback →
      Agree (Vault.Alike Surroundings.Alike) values (action fallback) (action fallback)) :
    Agree Alike (fun before also => Vaults.InSome values before.vaults also.vaults)
      (onResolver number action) (onResolver number action) := by
  refine current_onVaults_agree fun before also alike => ?_
  rw [← alike.resolvers]
  exact Vaults.onVault_agree _ (agree _ (alike.fallback number))

theorem resolve_agree (number : Nat) (challenge : Option String)
    {config : Option (Config Surroundings)} (isProvider : Config.IsAbsentOrProvider config) :
    Agree Alike (fun before also => Vaults.Found before.vaults also.vaults)
      (resolve number challenge config) (resolve number challenge config) :=
  (onResolver_agree number fun _ isFallback =>
    Vault.resolve_agree (isProvider.isAlike isFallback) challenge).imp fun _ _ _ _ => (·.found)

theorem authorize_agree (number : Nat) (challenge : Option String)
    {config : Option (Config Surroundings)} (isProvider : Config.IsAbsentOrProvider config) :
    Agree Alike (fun before also => Vaults.Handed before.vaults also.vaults)
      (authorize number challenge config) (authorize number challenge config) := by
  refine current_onVaults_agree fun before also alike => ?_
  rw [← alike.dispatcher_eq]
  exact Dispatcher.authorize_agree (fun _ _ _ _ => (·.realm_eq))
    (fun _ => alike.scheme_agree isProvider) challenge

theorem authorizeAny_agree (number : Nat) (challenges : List (Option String))
    {config : Option (Config Surroundings)} (isProvider : Config.IsAbsentOrProvider config) :
    Agree Alike (fun before also => Vaults.Handed before.vaults also.vaults)
      (authorizeAny number challenges config) (authorizeAny number challenges config) := by
  refine current_onVaults_agree fun before also alike => ?_
  rw [← alike.dispatcher_eq]
  exact Dispatcher.authorizeAny_agree (fun _ _ _ _ => (·.realm_eq))
    (fun _ => alike.scheme_agree isProvider) challenges

theorem mutate_agree {update change : Surroundings → Surroundings}
    (keeps : ∀ before also, Surroundings.Alike before also →
      (update before).Alike (change also)) :
    Agree Alike (fun _ _ _ _ => True) (onWorld (Action.change update))
      (onWorld (Action.change change)) := by
  have world : Agree (Vaults.Alike Surroundings.Alike) (fun _ _ _ _ => True)
      (Vaults.onWorld (Action.change update)) (Vaults.onWorld (Action.change change)) :=
    (Agree.change keeps).within (fun _ _ held => held.world)
      (fun _ _ _ _ held same => { held with world := same }) fun _ _ _ _ _ _ _ => trivial
  exact onVaults_agree world

end Client

/-- Something that is asked of resolvers and of dispatchers over them, with a provider to look
credentials up in; or a change of what the providers hold. -/
inductive Errand where
  | resolve (resolver : Nat) (challenge : Option String) (provider : Option Nat)
  | forget (resolver : Nat) (realm : String)
  | clear (resolver : Nat)
  | authorize (dispatcher : Nat) (challenge : Option String) (provider : Option Nat)
  | authorizeAny (dispatcher : Nat) (challenges : List (Option String)) (provider : Option Nat)
  | mutate (change : Surroundings → Surroundings)

namespace Errand

/-- What an errand brings back. -/
inductive Answer where
  | nothing
  | record (record : Option Record)
  | handle (handle : Option Handle)

/-- Does an errand. -/
def perform : Errand → Action (Client Surroundings) Answer
  | resolve resolver challenge provider => do
      let record ← Client.resolve resolver challenge (provider.map Surroundings.config)
      pure (.record record)
  | forget resolver realm => do
      Client.forget resolver realm
      pure .nothing
  | clear resolver => do
      Client.clear resolver
      pure .nothing
  | authorize dispatcher challenge provider => do
      let handle ← Client.authorize dispatcher challenge (provider.map Surroundings.config)
      pure (.handle handle)
  | authorizeAny dispatcher challenges provider => do
      let handle ← Client.authorizeAny dispatcher challenges (provider.map Surroundings.config)
      pure (.handle handle)
  | mutate change => do
      Client.onWorld (Action.change change)
      pure .nothing

/-- Whether two errands are the same, or change alike surroundings into alike ones. -/
inductive Alike : Errand → Errand → Prop
  | resolve (resolver : Nat) (challenge : Option String) (provider : Option Nat) :
      Alike (.resolve resolver challenge provider) (.resolve resolver challenge provider)
  | forget (resolver : Nat) (realm : String) :
      Alike (.forget resolver realm) (.forget resolver realm)
  | clear (resolver : Nat) : Alike (.clear resolver) (.clear resolver)
  | authorize (dispatcher : Nat) (challenge : Option String) (provider : Option Nat) :
      Alike (.authorize dispatcher challenge provider) (.authorize dispatcher challenge provider)
  | authorizeAny (dispatcher : Nat) (challenges : List (Option String)) (provider : Option Nat) :
      Alike (.authorizeAny dispatcher challenges provider)
        (.authorizeAny dispatcher challenges provider)
  | mutate {update change : Surroundings → Surroundings} :
      (∀ before also, before.Alike also → (update before).Alike (change also)) →
      Alike (.mutate update) (.mutate change)

/-- Whether what two clients brought back looks the same: nothing, records for one realm that look
the same, or the handles of such records. -/
inductive Answer.Alike (left right : Client Surroundings) : Answer → Answer → Prop
  | nothing : Alike left right .nothing .nothing
  | record {record other : Option Record} : Vaults.Found left.vaults right.vaults record other →
      Alike left right (.record record) (.record other)
  | handle {handle other : Option Handle} : Vaults.Handed left.vaults right.vaults handle other →
      Alike left right (.handle handle) (.handle other)

/-- Clients that are alike do an errand alike, and are alike afterwards. -/
theorem perform_agree {errand other : Errand} (alike : errand.Alike other) :
    Agree Client.Alike Answer.Alike errand.perform other.perform := by
  cases alike with
  | resolve resolver challenge provider =>
      exact (Client.resolve_agree resolver challenge ⟨provider, rfl⟩).map fun _ _ _ _ => .record
  | forget resolver realm =>
      exact (Client.onResolver_agree resolver fun _ _ =>
        Vault.onCache_agree fun _ _ held => held.forget realm).map fun _ _ _ _ _ => .nothing
  | clear resolver =>
      exact (Client.onResolver_agree resolver fun _ _ =>
        Vault.onCache_agree fun _ _ held => held.clear).map fun _ _ _ _ _ => .nothing
  | authorize dispatcher challenge provider =>
      exact (Client.authorize_agree dispatcher challenge ⟨provider, rfl⟩).map fun _ _ _ _ => .handle
  | authorizeAny dispatcher challenges provider =>
      exact (Client.authorizeAny_agree dispatcher challenges ⟨provider, rfl⟩).map
        fun _ _ _ _ => .handle
  | mutate keeps =>
      exact (Client.mutate_agree keeps).map fun _ _ _ _ _ => .nothing

end Errand

namespace Client

/-- How several errands end, each begun where the one before it ended, also if that failed. -/
def outcomes (client : Client Surroundings) :
    List Errand → List (Outcome (Client Surroundings) Errand.Answer)
  | [] => []
  | errand :: errands =>
      errand.perform client :: (errand.perform client).state.outcomes errands

/-- Clients that differ in nothing but passwords do errands alike. -/
theorem outcomes_agree {left right : Client Surroundings} (alike : left.Alike right)
    {errands others : List Errand} (same : List.Forall₂ Errand.Alike errands others) :
    List.Forall₂ (Outcome.Agree Client.Alike Errand.Answer.Alike) (left.outcomes errands)
      (right.outcomes others) := by
  induction same generalizing left right with
  | nil => exact .nil
  | cons same _ induction =>
      have agree := Errand.perform_agree same left right alike
      exact .cons agree (induction agree.state)

/-- A client of one resolver, and of providers that hold a table behind a key that fails at first,
and variables; realm a has its password in the table and realm b in a variable. -/
def porter (secret : String) : Client Surroundings :=
  { start
      { environment := (Table.empty.insert "HTTP_AUTH_BASIC_B_USER" (.ofText "v")).insert
          (Environment.variableName "" (Config.passwordKey "b")) (.ofText secret)
        files := .empty
        loader := Environment.loader
        count := 3
        providers := fun
          | 0 => .faulty
              ((Table.empty.insert (Config.userKey "a") (.ofText "u")).insert
                (Config.passwordKey "a") (.ofText secret))
              (Config.userKey "a") "vault is sealed" 1
          | 1 => .environment "" none false
          | _ => .chain [0, 1]
        schemes := fun _ => .silent } with
    dispatchers := fun _ => [.basic 0] }

/-- The realms a and b are asked for, with a failure at first, and dropped and given a password. -/
def rounds (secret : String) : List Errand :=
  [.authorize 0 (some "Basic realm=\"a\"") (some 2),
    .authorizeAny 0 [none, some "Basic realm=\"a\""] (some 2),
    .resolve 0 (some "Basic realm=\"b\"") (some 2), .forget 0 "a",
    .mutate (·.setProvider 2
      (.table (Table.empty.insert (Config.passwordKey "a") (.ofText secret)))),
    .resolve 0 (some "Basic realm=\"a\"") (some 2), .clear 0]

theorem outcomes_agree_rounds :
    List.Forall₂ (Outcome.Agree Client.Alike Errand.Answer.Alike)
        ((porter "open").outcomes (rounds "open")) ((porter "sesame").outcomes (rounds "sesame")) ∧
      ((porter "open").outcomes (rounds "open")).map (fun outcome =>
          ((outcome.state.vaults.caches 0).find? "a").map (·.map (·.credentials.password))) =
        [none, some (some "open"), some (some "open"), none, none, some none, none] ∧
      ((porter "sesame").outcomes (rounds "sesame")).map (fun outcome =>
          ((outcome.state.vaults.caches 0).find? "a").map (·.map (·.credentials.password))) =
        [none, some (some "sesame"), some (some "sesame"), none, none, some none, none] := by
  have basic : (porter "open").IsBasic :=
    { fallback := fun _ => ⟨none, rfl⟩
      members := by
        intro dispatcher member isMember
        exact ⟨0, List.mem_singleton.mp isMember⟩ }
  have world : (porter "open").vaults.world.Alike (porter "sesame").vaults.world :=
    { count := rfl
      providers := fun
        | 0 => .faulty _ _ _ _ _ fun key _ => Config.alikeFor_insert _ "a" _ _ key
        | 1 => .environment _ _ _ _ _ fun key isRealmKey =>
            Environment.alikeFor_insert _ "b" _ _ isRealmKey
        | _ + 2 => .chain _ }
  have errands : List.Forall₂ Errand.Alike (rounds "open") (rounds "sesame") := by
    refine .cons (.authorize ..) <| .cons (.authorizeAny ..) <| .cons (.resolve ..) <|
      .cons (.forget ..) <| .cons (.mutate fun before also alike => ?_) <| .cons (.resolve ..) <|
      .cons (.clear ..) .nil
    exact alike.setProvider 2 (.table _ _ fun key _ => Config.alikeFor_insert _ "a" _ _ key)
  have alike := basic.alike_of_empty (fun _ _ => rfl) world
  exact ⟨outcomes_agree alike errands, by decide +kernel, by decide +kernel⟩

/-- A client of one resolver, and of a provider that holds the password of a realm, over variables
that hold another one. -/
def courier (secret : RawText) : Client Surroundings :=
  { start (((Surroundings.start Environment.loader
      (.ofList [("HTTP_AUTH_BASIC_A_USER", .ofText "u"),
        ("HTTP_AUTH_BASIC_A_PASSWORD", .ofText "pass")]) .empty).addProvider
      (.table ((Table.empty.insert (Config.userKey "a") (.ofText "u")).insert
        (Config.passwordKey "a") secret))).addProvider (.environment "" none true)) with
    dispatchers := fun _ => [.basic 0] }

/-- A password that cannot be written shows: where another one is returned and a line tells so,
there are no credentials and no line, but a failure that holds the part that cannot be written.  And
of the same values it shows whether a provider has them from variables. -/
theorem outcomes_apart :
    let errands := [Errand.resolve 0 (some "Basic realm=\"a\"") (some 0)]
    let legible := courier (.ofText "pass")
    let garbled := courier (.ofBytes [0xe9])
    (∀ key, key ≠ Config.passwordKey "a" →
        (Surroundings.config 0 key legible.vaults.world).result =
          (Surroundings.config 0 key garbled.vaults.world).result) ∧
      (legible.outcomes errands).map (·.result) =
        [.ok (.record (some
          { serial := 0
            credentials := { realm := "a", username := "u", password := "pass" } }))] ∧
      (legible.outcomes errands).map (Event.notices ·.events) = [[.resolved "a" "u"]] ∧
      (garbled.outcomes errands).map (·.result) =
        [.error (.unencodable { point := .escape 0xe9, position := 2, width := 1 })] ∧
      (garbled.outcomes errands).map (Event.notices ·.events) = [[]] ∧
      (legible.outcomes [.resolve 0 (some "Basic realm=\"a\"") (some 1)]).map
          (Event.notices ·.events) =
        [[.fromVariable "http.auth.basic.a.user" "HTTP_AUTH_BASIC_A_USER",
          .fromVariable "http.auth.basic.a.password" "HTTP_AUTH_BASIC_A_PASSWORD",
          .resolved "a" "u"]] := by
  refine ⟨fun key different => ?_, rfl, by decide +kernel, rfl, by decide +kernel,
    by decide +kernel⟩
  have same (secret : RawText) : (Surroundings.config 0 key (courier secret).vaults.world).result =
      .ok ((Table.empty.insert (Config.userKey "a") (.ofText "u")).find? key) := by
    change Except.ok (Table.find? (Table.insert _ _ secret) key) = _
    rw [Table.find?_insert, if_neg different]
  rw [same, same]

end Client
end Countersign
