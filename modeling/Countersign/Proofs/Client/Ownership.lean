import Countersign.Proofs.Client.Replies
import Countersign.Session.Configure

/-!
# Whose a cache is

Resolvers that are made over a named cache use this cache, whatever it knows, and are
interchangeable if they fall back on the same configuration.  A resolver that is made without a
cache gets an empty one that no other resolver has.  All the same, calls on one resolver can affect
another through a configuration that does not answer the same a second time.
-/

namespace Countersign

namespace Session

variable {Value : Type} {session built : Session}

/-- Whether a name, if there is one, stands for a provider, if there is one. -/
inductive Provides (session : Session) : Option String → Option Nat → Prop
  | nothing : Provides session none none
  | provider {name : String} {number : Nat} :
      session.names.find? name = some (.provider number) →
      Provides session (some name) (some number)

theorem Provides.of_names {config : Option String} {provider : Option Nat}
    (provides : session.Provides config provider) (names : built.names = session.names) :
    built.Provides config provider := by
  cases provides with
  | nothing => exact .nothing
  | provider named => exact .provider (names ▸ named)

theorem find_of_eq_some {name : String} {kind : Part → Option Value} {part : Part} {value : Value}
    (named : session.names.find? name = some part) (isKind : kind part = some value) :
    find name kind session = { result := .ok value, state := session, events := [] } := by
  rw [find, Action.bind_of_ok rfl]
  simp only [Action.current_apply, named, Option.bind_some, isKind]
  rfl

theorem cache_of_named {name : String} {number : Nat}
    (named : session.names.find? name = some (.cache number)) :
    cache name session = { result := .ok number, state := session, events := [] } :=
  find_of_eq_some named rfl

theorem Provides.config {name : Option String} {provider : Option Nat}
    (provides : session.Provides name provider) :
    Session.config name session =
      { result := .ok (provider.map Surroundings.config), state := session, events := [] } := by
  cases provides with
  | nothing => rfl
  | provider named =>
      have found : Session.provider _ session = _ := find_of_eq_some named rfl
      rw [Session.config, Action.bind_of_ok (congrArg Outcome.result found), found]
      rfl

end Session

namespace Setup

variable {session : Session} {config : Option String} {provider : Option Nat}

/-- The session with one more resolver. -/
def withResolver (session : Session) (resolver : Resolver Surroundings) : Session :=
  { session with
    client :=
      { session.client with
        resolvers := assign session.client.resolvers session.fresh resolver }
    fresh := session.fresh + 1 }

/-- The session with one more resolver, with an empty cache of its own. -/
def withPrivateResolver (session : Session) (config : Option (Config Surroundings)) : Session :=
  withResolver
    { session with
      client :=
        { session.client with
          vaults :=
            { session.client.vaults with
              caches := assign session.client.vaults.caches session.fresh .empty } } }
    { cache := session.fresh, config }

theorem make_shared_resolver (provides : session.Provides config provider) {shared : String}
    {number : Nat} (named : session.names.find? shared = some (.cache number)) :
    make (.resolver config (some shared)) session =
      { result := .ok (.resolver session.fresh)
        state := withResolver session
          { cache := number, config := provider.map Surroundings.config }
        events := [] } := by
  have found : Session.cache shared { session with fresh := session.fresh + 1 } = _ :=
    Session.cache_of_named named
  simp [make, Action.bind_apply, provides.config, Session.freshNumber, found, Session.onClient,
    withResolver, Except.map]

theorem make_private_resolver (provides : session.Provides config provider) :
    make (.resolver config none) session =
      { result := .ok (.resolver session.fresh)
        state := withPrivateResolver session (provider.map Surroundings.config)
        events := [] } := by
  simp [make, Action.bind_apply, provides.config, Session.freshNumber, Session.onClient,
    Client.onVaults, fillCache, withResolver, withPrivateResolver, Except.map]

/-- The numbers of the next parts of a session, apart from providers. -/
def next (session : Session) (count : Nat) : List Nat :=
  List.range' session.fresh count

/-- Whether making parts adds as many resolvers to a session, and what this leaves. -/
def Adds (setups : List Setup) (session built : Session) : Prop :=
  setups.mapM make session =
    { result := .ok ((next session setups.length).map .resolver), state := built, events := [] }

/-- A resolver is added before the rest is. -/
theorem Adds.cons {setup : Setup} {setups : List Setup} {session after built : Session}
    (first : setup.make session =
      { result := .ok (.resolver session.fresh), state := after, events := [] })
    (fresh : after.fresh = session.fresh + 1) (rest : Adds setups after built) :
    Adds (setup :: setups) session built := by
  rw [Adds, next, fresh] at rest
  rw [Adds, List.mapM_cons, Action.bind_of_ok (congrArg Outcome.result first), first,
    Action.bind_of_ok (congrArg Outcome.result rest), rest]
  rfl

/-- Resolvers that are made over a named cache are over this cache, as it is. -/
theorem exists_adds_shared (provides : session.Provides config provider) {shared : String}
    {number : Nat} (named : session.names.find? shared = some (.cache number)) (count : Nat) :
    ∃ built, Adds (List.replicate count (.resolver config (some shared))) session built ∧
      built.client.vaults = session.client.vaults ∧
      (∀ member ∈ next session count, built.client.resolvers member =
        { cache := number, config := provider.map Surroundings.config }) ∧
      ∀ other < session.fresh, built.client.resolvers other = session.client.resolvers other := by
  induction count generalizing session with
  | zero => exact ⟨session, rfl, rfl, nofun, fun _ _ => rfl⟩
  | succ count induction =>
      let resolver : Resolver Surroundings :=
        { cache := number, config := provider.map Surroundings.config }
      have again : (withResolver session resolver).Provides config provider := provides.of_names rfl
      -- the resolver that is made first is below all numbers that the rest takes
      obtain ⟨built, rest, vaults, members, others⟩ := induction again named
      refine ⟨built, .cons (make_shared_resolver provides named) rfl rest, vaults, ?_, ?_⟩
      · rw [next, List.range'_succ, List.forall_mem_cons]
        refine ⟨?_, members⟩
        rw [others session.fresh (Nat.lt_succ_self _)]
        exact assign_self ..
      · intro other isOld
        rw [others other (Nat.lt_succ_of_lt isOld)]
        exact assign_of_ne _ _ (Nat.ne_of_lt isOld)

/-- Each resolver that is made without a cache gets an empty one of its own. -/
theorem exists_adds_private {configs : List (Option String)}
    (provided : ∀ config ∈ configs, ∃ provider, session.Provides config provider) :
    ∃ built, Adds (configs.map (.resolver · none)) session built ∧
      built.client.vaults.world = session.client.vaults.world ∧
      (∀ member ∈ next session configs.length,
        (built.client.resolvers member).cache = member ∧
        built.client.vaults.caches member = .empty ∧
        ∃ config ∈ configs, ∃ provider, session.Provides config provider ∧
          built.client.fallback member = provider.map Surroundings.config) ∧
      ∀ other < session.fresh, built.client.resolvers other = session.client.resolvers other ∧
        built.client.vaults.caches other = session.client.vaults.caches other := by
  induction configs generalizing session with
  | nil => exact ⟨session, rfl, rfl, nofun, fun _ _ => ⟨rfl, rfl⟩⟩
  | cons config configs induction =>
      obtain ⟨provider, provides⟩ := provided config (.head _)
      let after := withPrivateResolver session (provider.map Surroundings.config)
      have again : ∀ later ∈ configs, ∃ provider, after.Provides later provider := by
        intro later isConfig
        obtain ⟨also, provides⟩ := provided later (.tail _ isConfig)
        exact ⟨also, provides.of_names rfl⟩
      obtain ⟨built, rest, world, members, others⟩ := induction again
      refine ⟨built, .cons (make_private_resolver provides) rfl rest, world, ?_, ?_⟩
      · rw [next, List.length_cons, List.range'_succ, List.forall_mem_cons]
        obtain ⟨resolver, cache⟩ := others session.fresh (Nat.lt_succ_self _)
        have resolver : built.client.resolvers session.fresh =
            { cache := session.fresh, config := provider.map Surroundings.config } :=
          resolver.trans (assign_self ..)
        refine ⟨⟨congrArg Resolver.cache resolver, cache.trans (assign_self ..), ?_⟩, ?_⟩
        · exact ⟨config, .head _, provider, provides, congrArg Resolver.config resolver⟩
        · intro member isMember
          obtain ⟨own, empty, later, isConfig, also, laterProvides, fallback⟩ :=
            members member isMember
          exact ⟨own, empty, later, .tail _ isConfig, also, laterProvides.of_names rfl, fallback⟩
      · intro other isOld
        obtain ⟨resolver, cache⟩ := others other (Nat.lt_succ_of_lt isOld)
        have isOther : other ≠ session.fresh := Nat.ne_of_lt isOld
        exact ⟨resolver.trans (assign_of_ne _ _ isOther), cache.trans (assign_of_ne _ _ isOther)⟩

end Setup

namespace Session

/-- Giving a key of a provider another value is an inert change. -/
theorem isInert_putInto (used : Nat → Prop) (number : Nat) (key : String) (value : Option RawText) :
    Input.IsInert (Surroundings.SameBut used) (.mutate fun surroundings =>
      surroundings.setProvider number
        (ConfigStep.putInto key value (surroundings.providers number))) := by
  intro left right same
  refine same.setProvider fun isUsed => ?_
  have provided := same.providers number isUsed
  generalize left.providers number = provider at provided
  generalize right.providers number = other at provided
  cases provided with
  | table values => exact .table _
  | recorder values requested others => exact .recorder _ requested others
  | spent values failing message => exact .spent _ failing message
  | environment lead place loaded => exact .environment lead place loaded
  | chain members areUsed => exact .chain members areUsed

/-- Changing the variables of the environment is an inert change. -/
theorem isInert_onEnvironment (used : Nat → Prop) (action : Action Environment Unit) :
    Input.IsInert (Surroundings.SameBut used) (.mutate fun surroundings =>
      (Surroundings.onEnvironment action surroundings).state) := by
  intro left right same
  exact
    { count := same.count
      environment := congrArg (fun environment => (action environment).state) same.environment
      providers := same.providers }

/-- Resolvers that are made over a named cache and fall back on the same configuration are
interchangeable.  Resolvers that are made without a cache start with empty ones and do not notice
the calls on each other, but for what these do to the world, and not even that if the configurations
are inert, which providers without failures left are. -/
theorem ownership (session : Session) :
    (∀ config provider shared number, session.Provides config provider →
      session.names.find? shared = some (.cache number) → ∀ count, ∃ built,
        Setup.Adds (List.replicate count (.resolver config (some shared))) session built ∧
        built.client.vaults = session.client.vaults ∧
        (∀ member ∈ Setup.next session count, built.client.resolvers member =
          { cache := number, config := provider.map Surroundings.config }) ∧
        built.client.AreInterchangeable (Setup.next session count)) ∧
    (∀ configs : List (Option String),
      (∀ config ∈ configs, ∃ provider, session.Provides config provider) → ∃ built,
        Setup.Adds (configs.map (.resolver · none)) session built ∧
        built.client.vaults.world = session.client.vaults.world ∧
        (∀ member ∈ Setup.next session configs.length,
          (built.client.vault member).cache = .empty ∧
          ∃ config ∈ configs, ∃ provider, session.Provides config provider ∧
            built.client.fallback member = provider.map Surroundings.config) ∧
        built.client.AreApart (Setup.next session configs.length) ∧
        ∀ worlds, worlds session.client.vaults.world session.client.vaults.world →
          built.client.AreInert worlds (Setup.next session configs.length) →
          built.client.AreUnaffected worlds (Setup.next session configs.length)) ∧
    ∀ used : Nat → Prop,
      (∀ number, used number →
        (Surroundings.config number).IsInert (Surroundings.SameBut used)) ∧
      (∀ number key value, Input.IsInert (Surroundings.SameBut used) (.mutate fun surroundings =>
        surroundings.setProvider number
          (ConfigStep.putInto key value (surroundings.providers number)))) ∧
      ∀ action : Action Environment Unit,
        Input.IsInert (Surroundings.SameBut used) (.mutate fun surroundings =>
          (Surroundings.onEnvironment action surroundings).state) := by
  refine ⟨?_, ?_, ?_⟩
  · intro config provider shared number provides named count
    obtain ⟨built, adds, vaults, members, -⟩ := Setup.exists_adds_shared provides named count
    exact ⟨built, adds, vaults, members, Client.areInterchangeable_of_same members⟩
  · intro configs provided
    obtain ⟨built, adds, world, members, -⟩ := Setup.exists_adds_private provided
    have caches : ∀ member ∈ Setup.next session configs.length,
        (built.client.resolvers member).cache = member := fun member isMember =>
      (members member isMember).1
    have owns : ∀ number ∈ Setup.next session configs.length,
        built.client.Owns number (Setup.next session configs.length) := by
      intro number isNumber other isOther different
      rwa [caches number isNumber, caches other isOther]
    refine ⟨built, adds, world, fun member isMember => ⟨?_, ?_⟩, ?_, ?_⟩
    · rw [Client.vault, caches member isMember]
      exact (members member isMember).2.1
    · exact (members member isMember).2.2
    · exact Client.areApart_of_owns owns
    · intro worlds start inert
      exact Client.areUnaffected_of_owns owns inert (by rwa [world])
  · intro used
    exact ⟨fun _ isUsed => Surroundings.config_isInert isUsed, isInert_putInto used,
      isInert_onEnvironment used⟩

/-- A session with an empty cache and a provider of credentials. -/
def furnished : Session :=
  ((do
    let _ ← Setup.perform "k" (.cache [])
    Setup.perform "c" (.table [("http.auth.basic.a.user", some (.ofText "u"))]) :
      Action Session Answer)
    (.start .empty .empty)).state

/-- Two resolvers over the cache, and two with caches of their own. -/
theorem ownership_furnished :
    (∃ built, Setup.Adds [.resolver (some "c") (some "k"), .resolver (some "c") (some "k")]
        furnished built ∧
      built.client.AreInterchangeable [1, 2]) ∧
    ∃ built, Setup.Adds [.resolver (some "c") none, .resolver none none] furnished built ∧
      built.client.AreApart [1, 2] ∧
      built.client.AreUnaffected (Surroundings.SameBut (· = 0)) [1, 2] := by
  have named : furnished.names.find? "c" = some (.provider 0) := rfl
  obtain ⟨shared, separate, inert⟩ := ownership furnished
  refine ⟨?_, ?_⟩
  · obtain ⟨built, adds, -, -, interchangeable⟩ := shared _ _ "k" 0 (.provider named) rfl 2
    exact ⟨built, adds, interchangeable⟩
  · have provided : ∀ config ∈ [some "c", none],
        ∃ provider, furnished.Provides config provider := by
      simp only [List.forall_mem_cons, List.not_mem_nil, false_implies, implies_true, and_true]
      exact ⟨⟨_, .provider named⟩, ⟨_, .nothing⟩⟩
    obtain ⟨built, adds, -, members, apart, unaffected⟩ := separate _ provided
    refine ⟨built, adds, apart, unaffected _ ?_ ?_⟩
    · refine { count := rfl, environment := rfl, providers := ?_ }
      rintro _ rfl
      exact .table _
    · intro member isMember config isFallback
      obtain ⟨name, isName, provider, provides, fallback⟩ := (members member isMember).2
      rw [fallback] at isFallback
      cases provides with
      | nothing => cases isFallback
      | provider found =>
          simp only [List.mem_cons, Option.some.injEq, reduceCtorEq, List.not_mem_nil, or_self,
            or_false] at isName
          subst isName
          cases named.symm.trans found
          cases isFallback
          exact (inert (· = 0)).1 0 rfl

/-- A session with two resolvers and a provider whose first look-up of a username fails. -/
def sealed : Session :=
  ((do
    let _ ← Setup.perform "c" (.faulty
      [("http.auth.basic.a.user", some (.ofText "u")),
        ("http.auth.basic.a.password", some (.ofText "p"))]
      "http.auth.basic.a.user" "vault is sealed" 1)
    let _ ← Setup.perform "first" (.resolver none none)
    Setup.perform "second" (.resolver none none) : Action Session Answer)
    (.start .empty .empty)).state

/-- A call on one resolver may use up the failure that a call on another would meet. -/
theorem sealed_affected :
    let calls : List (Input Surroundings) :=
      [.call (.resolve 1 (some "Basic realm=\"a\"") (some (Surroundings.config 0))),
        .call (.resolve 0 (some "Basic realm=\"a\"") (some (Surroundings.config 0)))]
    (sealed.client.resolvers 0).cache ≠ (sealed.client.resolvers 1).cache ∧
    ((sealed.client.replies calls).filter (·.resolver = 0)).map (·.result) =
      [.ok (some
        { serial := 0, credentials := { realm := "a", username := "u", password := "p" } })] ∧
    (sealed.client.replies (calls.filter (·.concerns 0))).map (·.result) =
      [.error (.broken "vault is sealed")] := by
  refine ⟨by decide, ?_, ?_⟩
  · rfl
  · rfl

end Session
end Countersign
