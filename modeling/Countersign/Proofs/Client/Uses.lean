import Countersign.Config.Surroundings
import Countersign.Proofs.Client.Layers
import Countersign.Proofs.Client.Preemption

/-!
# One resolver in every use

A resolver is used directly, by dispatchers and by transports over these, and in between its
surroundings may change.  Whichever way a challenge takes, what happens to the resolver is a passage
of its vault, and what the user gets is what became of the challenges in it.  So however often and
in whatever order the resolver is used, it looks each realm up at most once, if all that can be
found there can be written.
-/

namespace Countersign

variable {World : Type}

namespace Client

/-- Runs an action on what a transport and its schemes act on. -/
def onCarrier {Value : Type} (number : Nat)
    (action : Exchange.Schemes (Config World) (Vaults World) →
      Action (Exchange.Scene (Config World) (Vaults World)) Value) :
    Action (Client World) Value := do
  let client ← Action.current
  (action (client.schemes number)).within (·.scene number) (·.setScene number)

theorem onCarrier_apply {Value : Type} (number : Nat)
    (action : Exchange.Schemes (Config World) (Vaults World) →
      Action (Exchange.Scene (Config World) (Vaults World)) Value) (client : Client World) :
    onCarrier number action client =
      { result := (action (client.schemes number) (client.scene number)).result
        state := client.setScene number
          (action (client.schemes number) (client.scene number)).state
        events := (action (client.schemes number) (client.scene number)).events } := rfl

end Client

/-- A way in which a resolver, or something that it depends on, is used. -/
inductive Use (World : Type) where
  | resolve (challenge : Option String) (config : Option (Config World))
  | authorize (dispatcher : Nat) (challenge : Option String) (config : Option (Config World))
  | authorizeAny (dispatcher : Nat) (challenges : List (Option String))
      (config : Option (Config World))
  | request (carrier : Nat) (wire : Wire) (request : Request)
  /-- A request among others that wait begins. -/
  | begin (carrier : Nat) (request : Request)
  /-- A request among others that wait goes on. -/
  | resume (carrier : Nat) (exchange : Exchange) (reply : Exchange.Reply)
  | configure (config : Option (Config World))
  | adjust (carrier : Nat) (change : Transport (Config World) → Transport (Config World))
  | register (dispatcher : Nat) (member : Member World)
  | mutate (change : World → World)

namespace Use

/-- What a user gets. -/
inductive Answer where
  | record (record : Option Record)
  | handle (handle : Option Handle)
  | exchange (exchange : Exchange)
  | nothing

/-- Uses a resolver. -/
def perform (number : Nat) : Use World → Action (Client World) Answer
  | resolve challenge config => .record <$> Client.resolve number challenge config
  | authorize dispatcher challenge config =>
      .handle <$> Client.authorize dispatcher challenge config
  | authorizeAny dispatcher challenges config =>
      .handle <$> Client.authorizeAny dispatcher challenges config
  | request carrier wire original => .exchange <$> Client.request carrier wire original
  | begin carrier original =>
      .exchange <$> Client.onCarrier carrier fun _ => Exchange.begin original
  | resume carrier exchange reply =>
      .exchange <$> Client.onCarrier carrier fun schemes => exchange.resume schemes reply
  | configure config => (fun _ => .nothing) <$> Client.configureResolver number config
  | adjust carrier change => (fun _ => .nothing) <$> Client.changeTransport carrier change
  | register dispatcher member => (fun _ => .nothing) <$> Client.register dispatcher member
  | mutate change => (fun _ => .nothing) <$> Client.onWorld (Action.change change)

/-- A resolver that is used directly does what becomes of the challenge, and returns that. -/
theorem perform_resolve_apply (number : Nat) (challenge : Option String)
    (config : Option (Config World)) (client : Client World) :
    let outcome := ((client.resolvers number).resolution challenge config client.vaults).outcome
    perform number (.resolve challenge config) client =
      { result := outcome.result.map .record, state := client.setVault number outcome.state
        events := outcome.events } := by
  rw [perform, Action.map_apply, Client.resolve, Client.onResolver_apply]
  rfl

/-- Whether a use brings no configuration but one of a kind, and no other resolver. -/
def IsGood (number : Nat) (good : Config World → Prop) : Use World → Prop
  | resolve _ config | authorize _ _ config | authorizeAny _ _ config | configure config =>
      Config.IsAbsentOrGood good config
  | adjust _ change => ∀ transport, Config.IsAbsentOrGood good transport.config →
      Config.IsAbsentOrGood good (change transport).config
  | register _ member => member.IsSole number
  | request _ _ _ | begin _ _ | resume _ _ _ | mutate _ => True

/-- Whether a use changes settings alone. -/
def isSetting : Use World → Bool
  | configure _ | adjust _ _ | register _ _ | mutate _ => true
  | _ => false

end Use

namespace Client

/-- The challenges that the schemes of a transport bring to a resolver when they are asked. -/
inductive Asked (client : Client World) (number carrier : Nat) :
    List (List String) → List (Resolution World) → Prop
  | nothing : Asked client number carrier [] []
  | challenges (challenges : List String) (resolutions : List (Resolution World))
      (final : Vaults World) :
      client.Dispatched number (client.dispatchers (client.carriers carrier).dispatcher)
        (client.scene carrier).1.config (challenges.map some) client.vaults resolutions
        (client.schemes carrier challenges (client.scene carrier).1.config client.vaults).result
        final →
      Asked client number carrier [challenges] resolutions

/-- How a use of a resolver is served: with the challenges that it brings to the resolver, and with
what the user gets. -/
inductive Served (client : Client World) (number : Nat) :
    Use World → List (Resolution World) → Except Failure Use.Answer → Prop
  | resolve {challenge : Option String} {config : Option (Config World)}
      (resolution : Resolution World) :
      (client.resolvers number).resolution challenge config client.vaults = resolution →
      Served client number (.resolve challenge config) [resolution]
        (resolution.outcome.result.map .record)
  | authorize {dispatcher : Nat} {challenge : Option String} {config : Option (Config World)}
      {resolutions : List (Resolution World)} {answer : Except Failure (Option Handle)}
      (final : Vaults World) :
      client.Tried number (client.dispatchers dispatcher) config challenge client.vaults resolutions
        answer final →
      Served client number (.authorize dispatcher challenge config) resolutions
        (answer.map .handle)
  | authorizeAny {dispatcher : Nat} {challenges : List (Option String)}
      {config : Option (Config World)} {resolutions : List (Resolution World)}
      {answer : Except Failure (Option Handle)} (final : Vaults World) :
      client.Dispatched number (client.dispatchers dispatcher) config challenges client.vaults
        resolutions answer final →
      Served client number (.authorizeAny dispatcher challenges config) resolutions
        (answer.map .handle)
  | request {carrier : Nat} {wire : Wire} {original : Request}
      {resolutions : List (Resolution World)}
      (account : Exchange.Account (Config World) (Vaults World)) :
      Exchange.perform (client.schemes carrier) wire original (client.scene carrier) =
        account.outcome →
      Exchange.IsBounded (client.schemes carrier) wire (client.scene carrier) original account →
      client.Asked number carrier (Event.consultations account.own) resolutions →
      Served client number (.request carrier wire original) resolutions
        (account.outcome.result.map .exchange)
  | begin {carrier : Nat} {original : Request} :
      Served client number (.begin carrier original) []
        ((Exchange.begin original (client.scene carrier)).result.map .exchange)
  | resume {carrier : Nat} {exchange : Exchange} {reply : Exchange.Reply}
      {resolutions : List (Resolution World)}
      (outcome : Outcome (Exchange.Scene (Config World) (Vaults World)) Exchange) :
      Exchange.Resumed (client.schemes carrier) (client.scene carrier) exchange reply outcome →
      client.Asked number carrier (exchange.asks reply) resolutions →
      Served client number (.resume carrier exchange reply) resolutions
        (outcome.result.map .exchange)
  | setting {use : Use World} : use.isSetting → Served client number use [] (.ok .nothing)

/-- How several uses are served, one after the other. -/
inductive ServedAll (number : Nat) :
    Client World → List (Use World) → List (Resolution World) →
      List (Except Failure Use.Answer) → Prop
  | nil (client : Client World) : ServedAll number client [] [] []
  | cons {client : Client World} {use : Use World} {uses : List (Use World)}
      {now later : List (Resolution World)} {answer : Except Failure Use.Answer}
      {answers : List (Except Failure Use.Answer)} :
      client.Served number use now answer →
      ServedAll number (use.perform number client).state uses later answers →
      ServedAll number client (use :: uses) (now ++ later) (answer :: answers)

variable {number : Nat} {good : Config World → Prop} {client : Client World} {use : Use World}
  {uses : List (Use World)}

/-! ## One use -/

/-- Asking the schemes of a transport at most once is a passage of the resolver. -/
theorem IsSole.exists_asked (sole : client.IsSole number good) (carrier : Nat)
    {consulted : List (List String)} (once : consulted.length ≤ 1) :
    let scene := client.scene carrier
    ∃ resolutions, client.Asked number carrier consulted resolutions ∧
      Passage good (client.vault number) resolutions
        (consulted.flatMap fun challenges =>
          (client.schemes carrier challenges scene.1.config scene.2).events)
        ((consulted.foldl (fun vaults challenges =>
          (client.schemes carrier challenges scene.1.config vaults).state) scene.2).vault
            (client.resolvers number).cache) := by
  rcases consulted with _ | ⟨challenges, _ | ⟨more, rest⟩⟩
  · exact ⟨[], .nothing, .done _⟩
  · obtain ⟨resolutions, dispatched, passage⟩ := sole.exists_dispatched (sole.configs carrier)
      (sole.members (client.carriers carrier).dispatcher) (challenges.map some) client.vaults
    refine ⟨resolutions, .challenges challenges resolutions _ dispatched, ?_⟩
    rw [List.flatMap_singleton]
    exact passage
  · exact absurd once (by simp)

/-- A whole exchange is a passage of the resolver. -/
theorem IsSole.exists_account (sole : client.IsSole number good) (carrier : Nat) (wire : Wire)
    (original : Request) :
    ∃ account resolutions,
      Exchange.perform (client.schemes carrier) wire original (client.scene carrier) =
          account.outcome ∧
        Exchange.IsBounded (client.schemes carrier) wire (client.scene carrier) original account ∧
        account.scene.1.config = (client.scene carrier).1.config ∧
        client.Asked number carrier (Event.consultations account.own) resolutions ∧
        Passage good (client.vault number) resolutions account.outcome.events
          (account.scene.2.vault (client.resolvers number).cache) := by
  obtain ⟨account, performed, performs⟩ :=
    Exchange.exists_performed (client.schemes carrier) wire (client.scene carrier) original
  have bounded := performed.isBounded
  obtain ⟨before_aside, after_aside⟩ := performed.aside
  obtain ⟨resolutions, asked, passage⟩ := sole.exists_asked carrier bounded.once
  rw [← bounded.meanwhile, ← bounded.held] at passage
  exact ⟨account, resolutions, performs, bounded, performed.config_eq, asked,
    passage.between before_aside after_aside⟩

/-- An exchange that begins does nothing to the resolver. -/
theorem passage_begin (number : Nat) (good : Config World → Prop) (client : Client World)
    (carrier : Nat) (original : Request) :
    let outcome := Exchange.begin original (client.scene carrier)
    outcome.state.1.config = (client.scene carrier).1.config ∧
      Passage good (client.vault number) [] outcome.events
        (outcome.state.2.vault (client.resolvers number).cache) := by
  have begun := Exchange.begin_spec (client.scene carrier) original
  generalize Exchange.begin original (client.scene carrier) = outcome at begun
  cases begun <;> exact ⟨rfl, .of_still _ (by simp [Event.isAside, Notice.channel])⟩

/-- An exchange that goes on does nothing to the resolver but ask its schemes. -/
theorem IsSole.exists_resumed (sole : client.IsSole number good) {carrier : Nat}
    {exchange : Exchange} {reply : Exchange.Reply}
    {outcome : Outcome (Exchange.Scene (Config World) (Vaults World)) Exchange}
    (resumed : Exchange.Resumed (client.schemes carrier) (client.scene carrier) exchange reply
      outcome) :
    outcome.state.1.config = (client.scene carrier).1.config ∧
      ∃ resolutions, client.Asked number carrier (exchange.asks reply) resolutions ∧
        Passage good (client.vault number) resolutions outcome.events
          (outcome.state.2.vault (client.resolvers number).cache) := by
  obtain ⟨early, late, parts⟩ := resumed.exists_parts
  obtain ⟨resolutions, asked, passage⟩ := sole.exists_asked carrier (exchange.asks_length reply)
  rw [← parts.held] at passage
  rw [parts.events]
  exact ⟨parts.config, resolutions, asked, passage.between parts.early_aside parts.late_aside⟩

/-- A transport may be replaced by one with a configuration of the kind. -/
theorem IsSole.configs_assign (sole : client.IsSole number good) (carrier : Nat)
    {changed : Carrier World} (isGood : Config.IsAbsentOrGood good changed.transport.config)
    (other : Nat) :
    Config.IsAbsentOrGood good (assign client.carriers carrier changed other).transport.config :=
  assign_forall (fun _ (carrier : Carrier World) =>
    Config.IsAbsentOrGood good carrier.transport.config) isGood (fun other _ => sole.configs other)
    other

/-- An exchange leaves a resolver the only one. -/
theorem IsSole.setScene (sole : client.IsSole number good) {carrier : Nat}
    {scene : Exchange.Scene (Config World) (Vaults World)}
    (same : scene.1.config = (client.scene carrier).1.config) :
    (client.setScene carrier scene).IsSole number good := by
  refine ⟨sole.fallback, sole.members, sole.configs_assign carrier ?_⟩
  rw [same]
  exact sole.configs carrier

/-- Settings leave a resolver the only one, and do nothing to its cache. -/
theorem IsSole.exists_set (sole : client.IsSole number good) (isGood : use.IsGood number good)
    (setting : use.isSetting) :
    ∃ changed world, use.perform number client =
        { result := .ok .nothing, state := changed, events := [] } ∧
      changed.vault number = { client.vault number with world } ∧ changed.IsSole number good := by
  cases use with
  | configure config =>
      have configured : Config.IsAbsentOrGood good config := isGood
      refine ⟨(configureResolver number config client).state, client.vaults.world, rfl, ?_, ?_⟩
      · simp [configureResolver, vault]
      · exact ⟨by simpa [configureResolver] using configured, sole.members, sole.configs⟩
  | adjust carrier change =>
      exact ⟨_, client.vaults.world, rfl, rfl, sole.fallback, sole.members,
        sole.configs_assign carrier (isGood _ (sole.configs carrier))⟩
  | register dispatcher member =>
      refine ⟨_, client.vaults.world, rfl, rfl, sole.fallback, ?_, sole.configs⟩
      refine assign_forall (fun _ members => ∀ member ∈ members, Member.IsSole number member)
        ?_ fun other _ => sole.members other
      intro other isMember
      rcases List.mem_append.mp isMember with isMember | isMember
      · exact sole.members dispatcher other isMember
      · rwa [List.mem_singleton.mp isMember]
  | mutate change =>
      exact ⟨_, change client.vaults.world, rfl, rfl, sole.fallback, sole.members, sole.configs⟩
  | resolve | authorize | authorizeAny | request | begin | resume => cases setting

/-- Whichever way a resolver is used, what happens to it is a passage, and what the user gets is
what became of the challenges in it. -/
theorem IsSole.exists_served (sole : client.IsSole number good)
    (isGood : use.IsGood number good) :
    let outcome := use.perform number client
    ∃ resolutions, client.Served number use resolutions outcome.result ∧
      Passage good (client.vault number) resolutions outcome.events
        (outcome.state.vault number) ∧
      outcome.state.IsSole number good := by
  cases use with
  | resolve challenge config =>
      rw [Use.perform_resolve_apply]
      dsimp only
      rw [vault_setVault]
      exact ⟨_, .resolve _ rfl, .of_resolution (sole.resolution_isGood isGood challenge _),
        sole.fallback, sole.members, sole.configs⟩
  | authorize dispatcher challenge config =>
      obtain ⟨resolutions, tried, passage⟩ :=
        sole.exists_tried isGood (sole.members dispatcher) challenge client.vaults
      rw [Use.perform, Action.map_apply]
      exact ⟨resolutions, .authorize _ tried, passage, sole.fallback, sole.members, sole.configs⟩
  | authorizeAny dispatcher challenges config =>
      obtain ⟨resolutions, dispatched, passage⟩ :=
        sole.exists_dispatched isGood (sole.members dispatcher) challenges client.vaults
      rw [Use.perform, Action.map_apply]
      exact ⟨resolutions, .authorizeAny _ dispatched, passage, sole.fallback, sole.members,
        sole.configs⟩
  | request carrier wire original =>
      obtain ⟨account, resolutions, performs, bounded, same, asked, passage⟩ :=
        sole.exists_account carrier wire original
      rw [Use.perform, Action.map_apply, request_apply, performs]
      exact ⟨resolutions, .request account performs bounded asked, passage, sole.setScene same⟩
  | begin carrier original =>
      rw [Use.perform, Action.map_apply, onCarrier_apply]
      obtain ⟨same, passage⟩ := passage_begin number good client carrier original
      exact ⟨[], .begin, passage, sole.setScene same⟩
  | resume carrier exchange reply =>
      rw [Use.perform, Action.map_apply, onCarrier_apply]
      have resumed := Exchange.resume_spec (client.schemes carrier) (client.scene carrier) exchange
        reply
      obtain ⟨same, resolutions, asked, passage⟩ := sole.exists_resumed resumed
      exact ⟨resolutions, .resume _ resumed asked, passage, sole.setScene same⟩
  | configure | adjust | register | mutate =>
      obtain ⟨changed, world, performs, same, changed_sole⟩ := sole.exists_set isGood rfl
      rw [performs]
      dsimp only
      rw [same]
      exact ⟨[], .setting rfl, .of_aside _ world (List.forall_mem_nil _), changed_sole⟩

/-! ## Several uses -/

/-- Uses a resolver in several ways, one after the other, also after one that failed, and gives what
the user gets each time. -/
def useAll (number : Nat) :
    List (Use World) → Action (Client World) (List (Except Failure Use.Answer))
  | [] => pure []
  | use :: uses => do
      let answer ← Action.attempt (use.perform number)
      let answers ← useAll number uses
      pure (answer :: answers)

theorem useAll_cons (number : Nat) (use : Use World) (uses : List (Use World))
    (client : Client World) :
    useAll number (use :: uses) client =
      { result := (useAll number uses (use.perform number client).state).result.map
          ((use.perform number client).result :: ·)
        state := (useAll number uses (use.perform number client).state).state
        events := (use.perform number client).events ++
          (useAll number uses (use.perform number client).state).events } := by
  rw [useAll, Action.bind_of_ok rfl, Action.attempt_apply, bind_pure_comp, Action.map_apply]
  rfl

/-- However often and in whatever ways a resolver is used, what happens to it is one passage, and
what the user gets each time is what became of the challenges in it. -/
theorem IsSole.exists_servedAll (sole : client.IsSole number good)
    (allGood : ∀ use ∈ uses, use.IsGood number good) :
    ∃ resolutions answers, (useAll number uses client).result = .ok answers ∧
      ServedAll number client uses resolutions answers ∧
      Passage good (client.vault number) resolutions (useAll number uses client).events
        ((useAll number uses client).state.vault number) := by
  induction uses generalizing client with
  | nil => exact ⟨[], [], rfl, .nil client, .done _⟩
  | cons use uses induction =>
      obtain ⟨isGood, allGood⟩ := List.forall_mem_cons.mp allGood
      obtain ⟨now, served, passage, next_sole⟩ := sole.exists_served isGood
      obtain ⟨later, answers, ended, served_later, passage_later⟩ := induction next_sole allGood
      rw [useAll_cons, ended]
      exact ⟨now ++ later, _ :: answers, rfl, .cons served served_later,
        passage.append passage_later⟩

/-- Through every layer and in any order of use, one resolver looks each realm up at most once, if
all that can be found there can be written: the first challenge for it that has a configuration at
hand while it is unknown asks for its username, and for its password if there is a username, has one
line tell what was found, and all challenges for it from then on return that. -/
theorem useAll_fares (discreet : ∀ given, good given → given.IsDiscreet)
    (sole : client.IsSole number good) (allGood : ∀ use ∈ uses, use.IsGood number good) :
    ∃ resolutions answers, (useAll number uses client).result = .ok answers ∧
      ServedAll number client uses resolutions answers ∧
      Passage good (client.vault number) resolutions (useAll number uses client).events
        ((useAll number uses client).state.vault number) ∧
      (∀ key ∈ Event.askedKeys (useAll number uses client).events,
        ∃ realm, key = Config.userKey realm ∨ key = Config.passwordKey realm) ∧
      ∀ realm, (∀ given, good given → given.IsWritable realm) →
        Fares realm (client.vault number) resolutions (useAll number uses client).events
          ((useAll number uses client).state.vault number) := by
  obtain ⟨resolutions, answers, ended, served, passage⟩ := sole.exists_servedAll allGood
  exact ⟨resolutions, answers, ended, served, passage,
    fun _ => passage.exists_of_mem_askedKeys discreet, fun _ => passage.fares discreet⟩

/-- A challenge in capitals to a dispatcher, a request, and a challenge to the resolver itself. -/
def errands : List (Use Unit) :=
  [.authorize 0 (some "BASIC REALM=\"a\"") none, .request 0 (guard "Basic dTpw").wire visit,
    .resolve (some "Basic realm=\"a\"") none]

theorem useAll_fares_errands :
    ∃ resolutions answers, (useAll 0 errands guest).result = .ok answers ∧
      ServedAll 0 guest errands resolutions answers ∧
      Fares "a" (guest.vault 0) resolutions (useAll 0 errands guest).events
        ((useAll 0 errands guest).state.vault 0) ∧
      Event.askedKeys (useAll 0 errands guest).events =
        [Config.userKey "a", Config.passwordKey "a"] ∧
      Event.verdicts "a" (useAll 0 errands guest).events = [.resolved "a" "u"] := by
  have sole : guest.IsSole 0 fun given => given.IsDiscreet ∧ given.IsWritable "a" :=
    { fallback := by
        rintro _ ⟨⟩
        refine ⟨Config.isDiscreet_ofTable _, ?_⟩
        rintro _ _ username password ⟨⟩ ⟨⟩
        exact ⟨rfl, rfl⟩
      members := by
        intro dispatcher member isMember
        obtain rfl := List.mem_singleton.mp isMember
        rfl
      configs := nofun }
  have allGood : ∀ use ∈ errands,
      use.IsGood 0 fun given => given.IsDiscreet ∧ given.IsWritable "a" := by
    simp only [errands, List.forall_mem_cons]
    exact ⟨nofun, trivial, nofun, List.forall_mem_nil _⟩
  obtain ⟨resolutions, answers, ended, served, -, -, fares⟩ :=
    useAll_fares (fun _ isGood => isGood.1) sole allGood
  exact ⟨resolutions, answers, ended, served, fares "a" fun _ isGood => isGood.2,
    by decide +kernel, by decide +kernel⟩

/-- A client whose provider is twice in a chain. -/
def doubled : Client Surroundings :=
  start (((Surroundings.start Environment.loader .empty .empty).addProvider
    (.recorder .empty [])).addProvider (.chain [0, 0]))

/-- A password that cannot be written is asked for each time, and no line tells what was found.  A
chain may ask a provider twice that is also given by itself, though the resolver asks once. -/
theorem useAll_illegible :
    let table : Config Unit := .ofTable
      { entries := [("http.auth.basic.a.user", .ofText "u"),
          ("http.auth.basic.a.password", .ofBytes [0xe9])] }
    let client := { guest with resolvers := fun _ => { cache := 0, config := some table } }
    let uses : List (Use Unit) := [.authorize 0 (some "Basic realm=\"a\"") none,
      .resolve (some "Basic realm=\"a\"") none]
    let refusal := Failure.unencodable { point := .escape 0xe9, position := 2, width := 1 }
    table.IsDiscreet ∧
      (useAll 0 uses client).result = .ok [.error refusal, .error refusal] ∧
      Event.askedKeys (useAll 0 uses client).events =
        [Config.userKey "a", Config.passwordKey "a", Config.userKey "a", Config.passwordKey "a"] ∧
      Event.verdicts "a" (useAll 0 uses client).events = [] ∧
      (useAll 0 [.resolve (some "Basic realm=\"a\"") (some (Surroundings.config 1)),
        .resolve (some "Basic realm=\"a\"") (some (Surroundings.config 0))]
          doubled).state.vaults.world.providers 0 =
        .recorder .empty [Config.userKey "a", Config.userKey "a"] :=
  ⟨Config.isDiscreet_ofTable _, rfl, by decide +kernel, by decide +kernel, rfl⟩

end Client
end Countersign
