import Countersign.Proofs.Scheme.Course
import Countersign.Proofs.Transport.Answering
import Countersign.Proofs.Vault.Passage

/-!
# Passages through the layers

Dispatchers and exchanges bring challenges to a resolver and do nothing else to its vault.  Which
challenges these are, and what the answers make of it, is told layer by layer: for one challenge to
a dispatcher, for several, and for those of an exchange.
-/

namespace Countersign

variable {World : Type}

namespace Vaults

/-- The vault with one of several caches. -/
def vault (number : Nat) (vaults : Vaults World) : Vault World :=
  { cache := vaults.caches number, world := vaults.world }

/-- Replaces one of several caches, and the world. -/
def setVault (number : Nat) (vaults : Vaults World) (vault : Vault World) : Vaults World :=
  { caches := assign vaults.caches number vault.cache, world := vault.world }

@[simp]
theorem vault_setVault (number : Nat) (vaults : Vaults World) (changed : Vault World) :
    (vaults.setVault number changed).vault number = changed := by
  simp [setVault, vault]

end Vaults

namespace Resolver

variable (resolver : Resolver World) (challenge : Option String) (config : Option (Config World))
  (vaults : Vaults World)

/-- A challenge brought to a resolver. -/
def resolution : Resolution World :=
  { fallback := resolver.config, challenge, config, vault := vaults.vault resolver.cache }

/-- What a resolver comes to as a scheme is what becomes of the challenge. -/
theorem scheme_apply :
    let outcome := (resolver.resolution challenge config vaults).outcome
    resolver.scheme.resolve challenge config vaults =
      { result := outcome.result.map (Option.map (·.credentials.handle))
        state := vaults.setVault resolver.cache outcome.state
        events := outcome.events } := by
  simp only [scheme, resolve, Vaults.onVault, bind_pure_comp, Action.map_apply,
    Action.within_apply]
  rfl

end Resolver

/-- A dispatcher does what the scheme does that it selects, and logs under its own name. -/
theorem Dispatcher.exists_lines {State Conf : Type} {dispatcher : Dispatcher State Conf}
    {challenge : Option String} {scheme : Scheme State Conf}
    (selected : dispatcher.select challenge = some scheme) (config : Option Conf) (state : State) :
    ∃ lines, (∀ event ∈ lines, event.isAside) ∧
      dispatcher.authorize challenge config state =
        { scheme.resolve challenge config state with
          events := (scheme.resolve challenge config state).events ++ lines } := by
  refine ⟨_, ?_, authorize_of_some selected state⟩
  split <;> simp [Event.isAside, Notice.channel]

/-- Whether nothing that a scheme does can be taken for the work of a resolver. -/
def Scheme.IsApart (scheme : Scheme World (Config World)) : Prop :=
  ∀ challenge config world, ∀ event ∈ (scheme.resolve challenge config world).events, event.isAside

/-- Whether a member of a dispatcher is a certain resolver or does nothing that could be taken for
its work. -/
def Member.IsSole (number : Nat) : Member World → Prop
  | .basic resolver => resolver = number
  | .other scheme => scheme.IsApart

/-- Whether a configuration is of a kind, if there is one. -/
def Config.IsAbsentOrGood (good : Config World → Prop) (config : Option (Config World)) : Prop :=
  ∀ given, config = some given → good given

namespace Client

/-- The first of several members of a dispatcher that accepts a challenge. -/
def chosen? (client : Client World) (members : List (Member World)) (challenge : Option String) :
    Option (Member World) :=
  members.find? fun member => (client.scheme member).accepts challenge

theorem select_map_scheme (client : Client World) (members : List (Member World))
    (challenge : Option String) :
    Dispatcher.select (members.map client.scheme) challenge =
      (client.chosen? members challenge).map client.scheme :=
  List.find?_map ..

/-- How members of a dispatcher, of which one may be a resolver, come to their answer to a
challenge: with the challenges that this brings to the resolver, the answer, and what is left. -/
inductive Tried (client : Client World) (number : Nat) (members : List (Member World))
    (config : Option (Config World)) (challenge : Option String) (vaults : Vaults World) :
    List (Resolution World) → Except Failure (Option Handle) → Vaults World → Prop
  | unmatched : client.chosen? members challenge = none →
      Tried client number members config challenge vaults [] (.ok none) vaults
  | basic (resolution : Resolution World) :
      client.chosen? members challenge = some (.basic number) →
      (client.resolvers number).resolution challenge config vaults = resolution →
      Tried client number members config challenge vaults [resolution]
        (resolution.outcome.result.map (Option.map (·.credentials.handle)))
        (vaults.setVault (client.resolvers number).cache resolution.outcome.state)
  | other (scheme : Scheme World (Config World)) (outcome : Outcome World (Option Handle)) :
      client.chosen? members challenge = some (.other scheme) →
      scheme.resolve challenge config vaults.world = outcome →
      Tried client number members config challenge vaults [] outcome.result
        { vaults with world := outcome.state }

/-- How members of a dispatcher come to their answer to several challenges: one after the other
until there is an answer or a failure. -/
inductive Dispatched (client : Client World) (number : Nat) (members : List (Member World))
    (config : Option (Config World)) :
    List (Option String) → Vaults World → List (Resolution World) →
      Except Failure (Option Handle) → Vaults World → Prop
  | finished (vaults : Vaults World) :
      Dispatched client number members config [] vaults [] (.ok none) vaults
  | stopped {challenge : Option String} {challenges : List (Option String)}
      {vaults final : Vaults World} {now : List (Resolution World)}
      {answer : Except Failure (Option Handle)} :
      Tried client number members config challenge vaults now answer final → answer ≠ .ok none →
      Dispatched client number members config (challenge :: challenges) vaults now answer final
  | passed {challenge : Option String} {challenges : List (Option String)}
      {vaults middle final : Vaults World} {now later : List (Resolution World)}
      {answer : Except Failure (Option Handle)} :
      Tried client number members config challenge vaults now (.ok none) middle →
      Dispatched client number members config challenges middle later answer final →
      Dispatched client number members config (challenge :: challenges) vaults (now ++ later) answer
        final

/-- Whether one resolver is the only one that is used, and all configurations are of a kind. -/
structure IsSole (number : Nat) (good : Config World → Prop) (client : Client World) : Prop where
  fallback : Config.IsAbsentOrGood good (client.resolvers number).config
  members : ∀ dispatcher, ∀ member ∈ client.dispatchers dispatcher, member.IsSole number
  configs : ∀ carrier, Config.IsAbsentOrGood good (client.carriers carrier).transport.config

variable {number : Nat} {good : Config World → Prop} {client : Client World}
  {config : Option (Config World)} {members : List (Member World)}

theorem IsSole.resolution_isGood (sole : client.IsSole number good)
    (isGood : Config.IsAbsentOrGood good config) (challenge : Option String)
    (vaults : Vaults World) :
    ((client.resolvers number).resolution challenge config vaults).IsGood good := by
  intro given available
  rcases Option.or_eq_some_iff.mp available with configured | ⟨-, configured⟩
  · exact isGood given configured
  · exact sole.fallback given configured

/-- A challenge to a dispatcher is brought to the resolver if that is chosen for it, and its answer
is then what becomes of it there. -/
theorem IsSole.exists_tried (sole : client.IsSole number good)
    (isGood : Config.IsAbsentOrGood good config) (isSole : ∀ member ∈ members, member.IsSole number)
    (challenge : Option String) (vaults : Vaults World) :
    let outcome := Dispatcher.authorize (members.map client.scheme) challenge config vaults
    ∃ resolutions,
      client.Tried number members config challenge vaults resolutions outcome.result outcome.state ∧
        Passage good (vaults.vault (client.resolvers number).cache) resolutions outcome.events
          (outcome.state.vault (client.resolvers number).cache) := by
  have selected := client.select_map_scheme members challenge
  rcases chosen : client.chosen? members challenge with _ | member
  · rw [chosen, Option.map_none] at selected
    rw [Dispatcher.authorize_of_none selected]
    exact ⟨[], .unmatched chosen, .of_still _ (by simp [Event.isAside, Notice.channel])⟩
  · rw [chosen, Option.map_some] at selected
    have member_isSole := isSole member (List.mem_of_find?_eq_some chosen)
    obtain ⟨lines, aside, authorized⟩ := Dispatcher.exists_lines selected config vaults
    rw [authorized]
    cases member with
    | basic resolver =>
        obtain rfl : resolver = number := member_isSole
        rw [Client.scheme, Resolver.scheme_apply]
        dsimp only
        rw [Vaults.vault_setVault]
        have passage := Passage.of_resolution (sole.resolution_isGood isGood challenge vaults)
        exact ⟨_, .basic _ chosen rfl, passage.append (.of_still _ aside)⟩
    | other scheme =>
        have passage : Passage good (vaults.vault (client.resolvers number).cache) []
            (scheme.resolve challenge config vaults.world).events _ :=
          .of_aside _ (scheme.resolve challenge config vaults.world).state
            (member_isSole challenge config vaults.world)
        exact ⟨[], .other scheme _ chosen rfl, passage.append (.of_still _ aside)⟩

/-- Several challenges are brought to the resolver one after the other, until there is an answer. -/
theorem IsSole.exists_dispatched (sole : client.IsSole number good)
    (isGood : Config.IsAbsentOrGood good config) (isSole : ∀ member ∈ members, member.IsSole number)
    (challenges : List (Option String)) (vaults : Vaults World) :
    let outcome := Dispatcher.authorizeAny (members.map client.scheme) config challenges vaults
    ∃ resolutions,
      client.Dispatched number members config challenges vaults resolutions outcome.result
          outcome.state ∧
        Passage good (vaults.vault (client.resolvers number).cache) resolutions outcome.events
          (outcome.state.vault (client.resolvers number).cache) := by
  induction challenges generalizing vaults with
  | nil => exact ⟨[], .finished vaults, .done _⟩
  | cons challenge challenges induction =>
      obtain ⟨now, tried, passage⟩ := sole.exists_tried isGood isSole challenge vaults
      -- the later challenges are brought to what the earlier ones have left
      by_cases ended : (Dispatcher.authorize (members.map client.scheme) challenge config
          vaults).result = .ok none
      · obtain ⟨later, dispatched, passage_later⟩ := induction
          (Dispatcher.authorize (members.map client.scheme) challenge config vaults).state
        rw [Dispatcher.authorizeAny_cons_of_none ended]
        rw [ended] at tried
        exact ⟨now ++ later, .passed tried dispatched, passage.append passage_later⟩
      · rw [Dispatcher.authorizeAny_cons_of_ne ended]
        exact ⟨now, .stopped tried ended, passage⟩

end Client

namespace Exchange

variable {Conf State : Type} {schemes : Schemes Conf State} {wire : Wire}
  {scene : Scene Conf State} {request : Request} {account : Account Conf State}

/-- What an exchange does itself cannot be taken for the work of a resolver. -/
theorem Performed.aside (performed : Performed schemes wire scene request account) :
    (∀ event ∈ account.before, event.isAside) ∧ ∀ event ∈ account.after, event.isAside := by
  have opens : ∀ event ∈ opening scene request, event.isAside := by
    intro event opened
    obtain ⟨value, -, rfl⟩ := Option.map_eq_some_iff.mp (Option.mem_toList.mp opened)
    rfl
  cases performed with
  | resent _ _ _ _ _ _ _ _ resent =>
      cases resent <;> simp only [challenge, List.forall_mem_append, List.forall_mem_cons] <;>
        and_intros <;> first | exact opens | rfl | exact List.forall_mem_nil _
  | _ =>
      simp only [challenge, List.forall_mem_append, List.forall_mem_cons]
      and_intros <;> first | exact opens | rfl | exact List.forall_mem_nil _

theorem Performed.config_eq (performed : Performed schemes wire scene request account) :
    account.scene.1.config = scene.1.config := by
  cases performed with
  | resent _ _ _ _ _ _ _ _ resent => cases resent <;> rfl
  | _ => rfl

/-- The challenges that a reply brings to the schemes of an exchange. -/
def asks (exchange : Exchange) (reply : Reply) : List (List String) :=
  match exchange.stage, reply with
  | .sending _, .response response =>
      if response.isUnauthorized && !response.challenges.isEmpty then [response.challenges] else []
  | _, _ => []

theorem asks_length (exchange : Exchange) (reply : Reply) : (exchange.asks reply).length ≤ 1 := by
  simp only [asks]
  split
  · split <;> simp
  · exact Nat.zero_le 1

theorem asks_of_isUnauthorized (request : Request) (origin : Origin) (attached : Option String)
    {response : Response} (unauthorized : response.isUnauthorized)
    (challenged : response.challenges ≠ []) :
    asks { request, origin, stage := .sending attached } (.response response) =
      [response.challenges] := by
  simp [asks, unauthorized, challenged]

theorem asks_of_plain (request : Request) (origin : Origin) (attached : Option String)
    {response : Response} (plain : response.isUnauthorized = false ∨ response.challenges = []) :
    asks { request, origin, stage := .sending attached } (.response response) = [] := by
  rcases plain with welcome | unchallenged
  · simp [asks, welcome]
  · simp [asks, unchallenged]

theorem asks_of_not_awaits {exchange : Exchange} {reply : Reply}
    (waits : exchange.stage.awaits reply = false) : exchange.asks reply = [] := by
  obtain ⟨request, origin, stage⟩ := exchange
  cases stage <;> cases reply <;> first | rfl | cases waits

/-- How an exchange that goes on is made up of what the schemes do that it asks, and of what it does
itself before and after that, which cannot be taken for the work of a resolver. -/
structure Parts (schemes : Schemes Conf State) (scene : Scene Conf State) (exchange : Exchange)
    (reply : Reply) (outcome : Outcome (Scene Conf State) Exchange)
    (early late : List Event) : Prop where
  early_aside : ∀ event ∈ early, event.isAside
  late_aside : ∀ event ∈ late, event.isAside
  events : outcome.events = early ++ ((exchange.asks reply).flatMap (fun challenges =>
    (schemes challenges scene.1.config scene.2).events) ++ late)
  held : outcome.state.2 = (exchange.asks reply).foldl (fun state challenges =>
    (schemes challenges scene.1.config state).state) scene.2
  config : outcome.state.1.config = scene.1.config

theorem Parts.of_still {exchange next : Exchange} {reply : Reply} {transport : Transport Conf}
    {events : List Event} (none_asked : exchange.asks reply = [])
    (aside : ∀ event ∈ events, event.isAside) (config : transport.config = scene.1.config) :
    Parts schemes scene exchange reply
      { result := .ok next, state := (transport, scene.2), events } events [] where
  early_aside := aside
  late_aside := List.forall_mem_nil _
  events := by simp [none_asked]
  held := by simp [none_asked]
  config := config

theorem Parts.of_consulted {request : Request} {origin : Origin} {attached : Option String}
    {response : Response} {result : Except Failure (Option Handle)} {left : State}
    {events late : List Event} {next : Exchange} (unauthorized : response.isUnauthorized)
    (challenged : response.challenges ≠ [])
    (consulted : schemes response.challenges scene.1.config scene.2 =
      { result, state := left, events })
    (aside : ∀ event ∈ late, event.isAside) :
    Parts schemes scene { request, origin, stage := .sending attached } (.response response)
      { result := .ok next, state := (scene.1, left)
        events := .answered .first response :: .consulted response.challenges ::
          (events ++ late) }
      [.answered .first response, .consulted response.challenges] late where
  early_aside := by simp [Event.isAside]
  late_aside := aside
  events := by simp [asks_of_isUnauthorized _ _ _ unauthorized challenged, consulted]
  held := by simp [asks_of_isUnauthorized _ _ _ unauthorized challenged, consulted]
  config := rfl

/-- An exchange that goes on does nothing that could be taken for the work of a resolver but ask its
schemes. -/
theorem Resumed.exists_parts {exchange : Exchange} {reply : Reply}
    {outcome : Outcome (Scene Conf State) Exchange}
    (resumed : Resumed schemes scene exchange reply outcome) :
    ∃ early late, Parts schemes scene exchange reply outcome early late := by
  cases resumed with
  | rest exchange reply waits =>
      exact ⟨_, _, .of_still (asks_of_not_awaits waits) (List.forall_mem_nil _) rfl⟩
  | failed request origin stage failure =>
      have none_asked : asks { request, origin, stage } (.failed failure) = [] := by
        cases stage <;> rfl
      exact ⟨_, _, .of_still none_asked (List.forall_mem_nil _) rfl⟩
  | settled request origin attached response plain =>
      exact ⟨_, _, .of_still (asks_of_plain _ _ _ plain) (by simp [Event.isAside]) rfl⟩
  | passed | read | unsendable | resent | rejected | accepted =>
      exact ⟨_, _, .of_still rfl (by simp [Event.isAside, Notice.channel]) rfl⟩
  | broken request origin attached response failure left events unauthorized challenged consulted =>
      rw [← List.append_nil events]
      exact ⟨_, _, .of_consulted unauthorized challenged consulted (List.forall_mem_nil _)⟩
  | unanswered request origin attached response left events unauthorized challenged consulted =>
      rw [← List.append_nil events]
      exact ⟨_, _, .of_consulted unauthorized challenged consulted (List.forall_mem_nil _)⟩
  | repeated request origin handle response left events unauthorized challenged consulted =>
      exact ⟨_, _, .of_consulted unauthorized challenged consulted (by simp [Event.isAside])⟩
  | answering request origin attached handle response left events unauthorized challenged
      consulted =>
      exact ⟨_, _, .of_consulted unauthorized challenged consulted
        (by simp [Event.isAside, Notice.channel])⟩

end Exchange
end Countersign
