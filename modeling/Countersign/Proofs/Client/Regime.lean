import Countersign.Client
import Countersign.Proofs.Vault.Sound

/-!
# Clients under a regime

A regime says which configurations may be used, what they keep of the world, and what may be
observed.  Under a fair one, everything that is asked of resolvers and of dispatchers over them
keeps the caches sound, shows nothing else, and gives none but the credentials of the realm that was
asked for.
-/

namespace Countersign

open Countersign.Action (Keeps)

variable {World : Type}

/-- Which configurations may be used, what they keep of the world, and what may be observed. -/
structure Regime (World : Type) where
  /-- The configurations that may be used. -/
  apt : Config World → Prop
  /-- What is kept of the world. -/
  held : World → Prop
  /-- What may be observed. -/
  shows : Event → Prop

/-- Whether the use of configurations under a regime keeps to it, and so do the lines that tell of
it. -/
structure Regime.IsFair (regime : Regime World) : Prop where
  serves : ∀ config, regime.apt config → ∀ realm, Challenge.IsRealm realm →
    config.Serves regime.held regime.shows realm
  ignored : ∀ challenge failure, Challenge.parse challenge = .error failure →
    regime.shows (.noted (.ignored failure))
  unconfigured : ∀ realm, Challenge.IsRealm realm → regime.shows (.noted (.unconfigured realm))
  unmatched : ∀ challenge, regime.shows (.noted (.unmatched challenge))
  withheld : ∀ challenge, regime.shows (.noted (.withheld Resolver.schemeName challenge))
  provided : ∀ realm, Challenge.IsRealm realm →
    regime.shows (.noted (.provided Resolver.schemeName realm))

/-- Whether a configuration may be used under a regime, if there is one. -/
def Regime.Allows (regime : Regime World) (config : Option (Config World)) : Prop :=
  ∀ given, config = some given → regime.apt given

theorem Regime.Allows.or {regime : Regime World} {config fallback : Option (Config World)}
    (allowed : regime.Allows config) (also : regime.Allows fallback) :
    regime.Allows (config.or fallback) := by
  intro given available
  rcases Option.or_eq_some_iff.mp available with configured | ⟨-, configured⟩
  · exact allowed given configured
  · exact also given configured

/-- Whether a handle is that of credentials for the realm that a challenge asks for. -/
def Handle.Answers (challenge : Option String) (handle : Handle) : Prop :=
  ∃ (realm : String) (credentials : Credentials), Challenge.parse challenge = .ok realm ∧
    credentials.IsOf realm ∧ credentials.handle = handle

theorem Handle.Answers.parse_eq {challenge : Option String} {handle : Handle}
    (answers : handle.Answers challenge) : Challenge.parse challenge = .ok handle.realm := by
  obtain ⟨realm, credentials, parsed, isOf, rfl⟩ := answers
  rw [parsed, ← isOf.realm]
  rfl

theorem Challenge.isRealm_of_parse {challenge : Option String} {realm : String}
    (parsed : parse challenge = .ok realm) : IsRealm realm := by
  obtain ⟨text, -, isFor⟩ := parse_eq_ok_iff.mp parsed
  exact isFor.1

/-- Whether all caches are sound and the world is as a regime has it. -/
structure Vaults.IsSound (regime : Regime World) (kept : Nat → String → Option Record → Prop)
    (vaults : Vaults World) : Prop where
  caches : ∀ number, (vaults.caches number).IsSound (kept number)
  world : regime.held vaults.world

variable {regime : Regime World} {kept : Nat → String → Option Record → Prop}
  {challenge : Option String} {config : Option (Config World)}

theorem Vaults.onVault_keeps {Value : Type} (number : Nat) {shows : Event → Prop}
    {gives : Value → Prop} {action : Action (Vault World) Value}
    (keeps : action.Keeps (Vault.IsSound (kept number) regime.held) shows gives) :
    (onVault number action).Keeps (IsSound regime kept) shows gives := by
  refine keeps.within (fun vaults sound => ⟨sound.caches number, sound.world⟩) ?_
  intro vaults vault sound changed
  exact
    { caches := assign_forall (fun number (cache : Cache) => cache.IsSound (kept number))
        changed.cache fun other _ => sound.caches other
      world := changed.world }

theorem Vaults.resolve_keeps (fair : regime.IsFair) {fallback : Option (Config World)}
    (allowed : regime.Allows (config.or fallback)) (number : Nat) :
    (onVault number (Vault.resolve fallback challenge config)).Keeps (IsSound regime kept)
      regime.shows fun answer => ∀ record ∈ answer, ∃ realm,
        Challenge.parse challenge = .ok realm ∧ record.credentials.IsOf realm :=
  onVault_keeps number <| Vault.resolve_keeps (fair.ignored challenge) fair.unconfigured
    fun given available => fair.serves given (allowed given available)

/-- A resolver as a scheme gives handles that answer the challenge. -/
theorem Resolver.scheme_keeps (fair : regime.IsFair) {resolver : Resolver World}
    (allowed : regime.Allows (config.or resolver.config)) (challenge : Option String) :
    (resolver.scheme.resolve challenge config).Keeps (Vaults.IsSound regime kept) regime.shows
      fun answer => ∀ handle ∈ answer, handle.Answers challenge := by
  refine (Vaults.resolve_keeps fair allowed resolver.cache).bind fun answer given => ?_
  refine .pure fun handle isHandle => ?_
  obtain ⟨record, isRecord, rfl⟩ := Option.map_eq_some_iff.mp isHandle
  obtain ⟨realm, parsed, isOf⟩ := given record isRecord
  exact ⟨realm, record.credentials, parsed, isOf, rfl⟩

namespace Client

/-- Whether all dispatchers are over resolvers alone, the resolvers have certain caches and may use
what they fall back on, and the caches are sound. -/
structure IsSound (regime : Regime World) (owned : Nat → Nat)
    (kept : Nat → String → Option Record → Prop) (client : Client World) : Prop where
  owned : ∀ resolver, (client.resolvers resolver).cache = owned resolver
  fallback : ∀ resolver, regime.Allows (client.resolvers resolver).config
  members : ∀ dispatcher, ∀ member ∈ client.dispatchers dispatcher, ∃ resolver,
    member = .basic resolver
  vaults : client.vaults.IsSound regime kept

variable {Value : Type} {owned : Nat → Nat} {client : Client World}

theorem onVaults_keeps {shows : Event → Prop} {gives : Value → Prop}
    {action : Action (Vaults World) Value}
    (keeps : action.Keeps (Vaults.IsSound regime kept) shows gives) :
    (onVaults action).Keeps (IsSound regime owned kept) shows gives :=
  keeps.within (fun _ sound => sound.vaults) fun _ _ sound changed =>
    { sound with vaults := changed }

theorem onResolver_keeps (number : Nat) {shows : Event → Prop} {gives : Value → Prop}
    {action : Option (Config World) → Action (Vault World) Value}
    (keeps : ∀ fallback, regime.Allows fallback →
      (action fallback).Keeps (Vault.IsSound (kept (owned number)) regime.held) shows gives) :
    (onResolver number action).Keeps (IsSound regime owned kept) shows gives := by
  refine Keeps.current.bind fun client sound => ?_
  dsimp only
  rw [sound.owned number]
  exact onVaults_keeps (Vaults.onVault_keeps _ (keeps _ (sound.fallback number)))

/-- A resolver answers a challenge with credentials of its realm alone. -/
theorem resolve_keeps (fair : regime.IsFair) (resolver : Nat) (challenge : Option String)
    (allowed : regime.Allows config) :
    (resolve resolver challenge config).Keeps (IsSound regime owned kept) regime.shows
      fun answer => ∀ record ∈ answer, ∃ realm, Challenge.parse challenge = .ok realm ∧
        record.credentials.IsOf realm :=
  onResolver_keeps resolver fun _ also =>
    Vault.resolve_keeps (fair.ignored challenge) fair.unconfigured
      fun given available => fair.serves given (allowed.or also given available)

theorem forget_keeps {resolver : Nat} {realm : String}
    (free : ∀ entry, ¬kept (owned resolver) realm entry) :
    (forget resolver realm).Keeps (IsSound regime owned kept) regime.shows fun _ => True :=
  onResolver_keeps resolver fun _ _ => Vault.forget_keeps free

theorem clear_keeps {resolver : Nat} (free : ∀ realm entry, ¬kept (owned resolver) realm entry) :
    (clear resolver).Keeps (IsSound regime owned kept) regime.shows fun _ => True :=
  onResolver_keeps resolver fun _ _ => Vault.clear_keeps free

theorem IsSound.scheme_keeps (sound : client.IsSound regime owned kept) (fair : regime.IsFair)
    (allowed : regime.Allows config) {dispatcher : Nat}
    {scheme : Scheme (Vaults World) (Config World)}
    (isScheme : scheme ∈ client.dispatcher dispatcher) (challenge : Option String) :
    (scheme.resolve challenge config).Keeps (Vaults.IsSound regime kept) regime.shows
      fun answer => ∀ handle ∈ answer, handle.Answers challenge := by
  obtain ⟨member, isMember, rfl⟩ := List.mem_map.mp isScheme
  obtain ⟨resolver, rfl⟩ := sound.members dispatcher member isMember
  exact Resolver.scheme_keeps fair (allowed.or (sound.fallback resolver)) challenge

theorem IsSound.reports (sound : client.IsSound regime owned kept) (fair : regime.IsFair)
    (dispatcher : Nat) :
    (client.dispatcher dispatcher).Reports regime.shows fun challenge handle =>
      handle.Answers challenge := by
  have name_eq : ∀ scheme ∈ client.dispatcher dispatcher, scheme.name = Resolver.schemeName := by
    intro scheme isScheme
    obtain ⟨member, isMember, rfl⟩ := List.mem_map.mp isScheme
    obtain ⟨resolver, rfl⟩ := sound.members dispatcher member isMember
    rfl
  refine { unmatched := fair.unmatched, withheld := ?_, provided := ?_ }
  · intro scheme isScheme challenge
    rw [name_eq scheme isScheme]
    exact fair.withheld challenge
  · intro scheme isScheme challenge handle answers
    rw [name_eq scheme isScheme]
    exact fair.provided handle.realm (Challenge.isRealm_of_parse answers.parse_eq)

/-- A dispatcher answers a challenge with the handle of credentials of its realm alone. -/
theorem authorize_keeps (fair : regime.IsFair) (dispatcher : Nat) (challenge : Option String)
    (allowed : regime.Allows config) :
    (authorize dispatcher challenge config).Keeps (IsSound regime owned kept) regime.shows
      fun answer => ∀ handle ∈ answer, handle.Answers challenge :=
  Keeps.current.bind fun _ sound => onVaults_keeps <|
    Dispatcher.authorize_keeps (sound.reports fair dispatcher)
      (fun _ isScheme => sound.scheme_keeps fair allowed isScheme) challenge

/-- A dispatcher answers several challenges with the handle of credentials of the realm of one. -/
theorem authorizeAny_keeps (fair : regime.IsFair) (dispatcher : Nat)
    (challenges : List (Option String)) (allowed : regime.Allows config) :
    (authorizeAny dispatcher challenges config).Keeps (IsSound regime owned kept) regime.shows
      fun answer => ∀ handle ∈ answer, ∃ challenge ∈ challenges, handle.Answers challenge :=
  Keeps.current.bind fun _ sound => onVaults_keeps <|
    Dispatcher.authorizeAny_keeps (sound.reports fair dispatcher)
      (fun _ isScheme => sound.scheme_keeps fair allowed isScheme) challenges

theorem mutate_keeps {change : World → World}
    (keeps : ∀ world, regime.held world → regime.held (change world)) :
    (onWorld (Action.change change)).Keeps (IsSound regime owned kept) regime.shows
      fun _ => True := by
  refine onVaults_keeps ((Keeps.change keeps).within (fun vaults sound => sound.world) ?_)
  exact fun vaults world sound held => { sound with world := held }

theorem configureResolver_keeps (resolver : Nat) (allowed : regime.Allows config) :
    (configureResolver resolver config).Keeps (IsSound regime owned kept) regime.shows
      fun _ => True := by
  refine .change fun client sound => ?_
  refine { sound with owned := ?_, fallback := ?_ }
  · exact assign_forall (fun number (changed : Resolver World) => changed.cache = owned number)
      (sound.owned resolver) fun other _ => sound.owned other
  · exact assign_forall (fun _ (changed : Resolver World) => regime.Allows changed.config)
      allowed fun other _ => sound.fallback other

theorem register_keeps (dispatcher resolver : Nat) :
    (register dispatcher (.basic resolver)).Keeps (IsSound regime owned kept) regime.shows
      fun _ => True := by
  refine .change fun client sound => { sound with members := ?_ }
  refine assign_forall
    (fun _ (members : List (Member World)) => ∀ member ∈ members, ∃ resolver,
      member = .basic resolver) ?_ fun other _ => sound.members other
  intro member isMember
  rcases List.mem_append.mp isMember with before | new
  · exact sound.members dispatcher member before
  · exact ⟨resolver, List.mem_singleton.mp new⟩

end Client

/-- Something that is asked of resolvers and of dispatchers over them, or that happens to them or to
what their configurations read. -/
inductive Deed (World : Type) where
  | resolve (resolver : Nat) (challenge : Option String) (config : Option (Config World))
  | forget (resolver : Nat) (realm : String)
  | clear (resolver : Nat)
  | authorize (dispatcher : Nat) (challenge : Option String) (config : Option (Config World))
  | authorizeAny (dispatcher : Nat) (challenges : List (Option String))
      (config : Option (Config World))
  | configure (resolver : Nat) (config : Option (Config World))
  | register (dispatcher resolver : Nat)
  | mutate (change : World → World)

/-- What an outcome leaves and what could be observed, without the result. -/
def Outcome.trace {State Value : Type} (outcome : Outcome State Value) : State × List Event :=
  (outcome.state, outcome.events)

theorem Outcome.Meets.trace {State Value : Type} {holds : State → Prop} {shows : Event → Prop}
    {gives : Value → Prop} {outcome : Outcome State Value}
    (meets : outcome.Meets holds shows gives) :
    holds outcome.trace.1 ∧ ∀ event ∈ outcome.trace.2, shows event :=
  ⟨meets.state, meets.events⟩

namespace Deed

/-- What a deed leaves of a client, also where it fails, and what can be observed. -/
def perform (client : Client World) : Deed World → Client World × List Event
  | resolve resolver challenge config => (Client.resolve resolver challenge config client).trace
  | forget resolver realm => (Client.forget resolver realm client).trace
  | clear resolver => (Client.clear resolver client).trace
  | authorize dispatcher challenge config =>
      (Client.authorize dispatcher challenge config client).trace
  | authorizeAny dispatcher challenges config =>
      (Client.authorizeAny dispatcher challenges config client).trace
  | configure resolver config => (Client.configureResolver resolver config client).trace
  | register dispatcher resolver => (Client.register dispatcher (.basic resolver) client).trace
  | mutate change => (Client.onWorld (Action.change change) client).trace

/-- What deeds leave of a client, one after the other, and all that can be observed. -/
def performAll (client : Client World) : List (Deed World) → Client World × List Event
  | [] => (client, [])
  | deed :: deeds =>
      let first := deed.perform client
      let rest := performAll first.1 deeds
      (rest.1, first.2 ++ rest.2)

/-- Whether a deed drops what a cache knows about a realm, where resolvers have certain caches. -/
def Drops (owned : Nat → Nat) (number : Nat) (realm : String) : Deed World → Prop
  | forget resolver other => owned resolver = number ∧ other = realm
  | clear resolver => owned resolver = number
  | resolve _ _ _ | authorize _ _ _ | authorizeAny _ _ _ => False
  | configure _ _ | register _ _ | mutate _ => False

/-- Whether a deed brings no configuration but an allowed one, and changes the world as a regime has
it. -/
def IsAllowed (regime : Regime World) : Deed World → Prop
  | resolve _ _ config | authorize _ _ config | authorizeAny _ _ config | configure _ config =>
      regime.Allows config
  | mutate change => ∀ world, regime.held world → regime.held (change world)
  | forget _ _ | clear _ | register _ _ => True

variable {owned : Nat → Nat} {client : Client World}

/-- A deed keeps to a fair regime, and drops no entry that has to stay. -/
theorem perform_keeps (fair : regime.IsFair) (sound : client.IsSound regime owned kept)
    {deed : Deed World} (allowed : deed.IsAllowed regime)
    (spares : ∀ number realm entry, kept number realm entry → ¬deed.Drops owned number realm) :
    (deed.perform client).1.IsSound regime owned kept ∧
      ∀ event ∈ (deed.perform client).2, regime.shows event := by
  cases deed with
  | resolve resolver challenge config =>
      exact (Client.resolve_keeps fair resolver challenge allowed client sound).trace
  | forget resolver realm =>
      have free : ∀ entry, ¬kept (owned resolver) realm entry :=
        fun entry isKept => spares _ _ entry isKept ⟨rfl, rfl⟩
      exact (Client.forget_keeps free client sound).trace
  | clear resolver =>
      have free : ∀ realm entry, ¬kept (owned resolver) realm entry :=
        fun realm entry isKept => spares _ realm entry isKept rfl
      exact (Client.clear_keeps free client sound).trace
  | authorize dispatcher challenge config =>
      exact (Client.authorize_keeps fair dispatcher challenge allowed client sound).trace
  | authorizeAny dispatcher challenges config =>
      exact (Client.authorizeAny_keeps fair dispatcher challenges allowed client sound).trace
  | configure resolver config =>
      exact (Client.configureResolver_keeps resolver allowed client sound).trace
  | register dispatcher resolver =>
      exact (Client.register_keeps dispatcher resolver client sound).trace
  | mutate change => exact (Client.mutate_keeps allowed client sound).trace

/-- So do all deeds of a run, where no entry has to stay. -/
theorem performAll_keeps (fair : regime.IsFair)
    (sound : client.IsSound regime owned fun _ _ _ => False) {deeds : List (Deed World)}
    (allowed : ∀ deed ∈ deeds, deed.IsAllowed regime) :
    (performAll client deeds).1.IsSound regime owned (fun _ _ _ => False) ∧
      ∀ event ∈ (performAll client deeds).2, regime.shows event := by
  induction deeds generalizing client with
  | nil => exact ⟨sound, fun _ observed => absurd observed List.not_mem_nil⟩
  | cons deed deeds induction =>
      obtain ⟨next, shown⟩ := perform_keeps fair sound (allowed deed (.head _)) nofun
      obtain ⟨last, rest⟩ := induction next fun other isDeed => allowed other (.tail _ isDeed)
      exact ⟨last, List.forall_mem_append.mpr ⟨shown, rest⟩⟩

end Deed
end Countersign
