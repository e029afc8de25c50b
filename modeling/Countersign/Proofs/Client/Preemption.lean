import Countersign.Proofs.Client.History
import Countersign.Proofs.Config.Steady
import Countersign.Proofs.Text.Ascii
import Countersign.Proofs.Transport.Course

/-!
# Sending remembered credentials unasked

A dispatcher of Basic resolvers with steady configurations has a settled answer to any challenges,
whatever its caches already hold.  Two runs of the same requests on one transport, one of which
sends remembered credentials unasked and one of which does not, can therefore be compared request by
request.
-/

namespace Countersign
namespace Client

variable {World : Type}

/-- What a transport and its schemes act on. -/
def scene (client : Client World) (number : Nat) :
    Exchange.Scene (Config World) (Vaults World) :=
  ((client.carriers number).transport, client.vaults)

/-- Replaces what a transport and its schemes act on. -/
def setScene (client : Client World) (number : Nat)
    (scene : Exchange.Scene (Config World) (Vaults World)) : Client World :=
  { client with
    vaults := scene.2
    carriers :=
      assign client.carriers number { client.carriers number with transport := scene.1 } }

@[simp]
theorem scene_setScene (client : Client World) (number : Nat)
    (scene : Exchange.Scene (Config World) (Vaults World)) :
    (client.setScene number scene).scene number = scene := by
  simp [Client.scene, setScene]

@[simp]
theorem schemes_setScene (client : Client World) (number : Nat)
    (scene : Exchange.Scene (Config World) (Vaults World)) :
    (client.setScene number scene).schemes number = client.schemes number := by
  have same : (client.setScene number scene).scheme = client.scheme := by
    funext member
    cases member <;> rfl
  have carried : ((client.setScene number scene).carriers number).dispatcher =
      (client.carriers number).dispatcher := by
    simp [setScene]
  funext challenges config
  rw [schemes, schemes, dispatcher, dispatcher, same, carried]
  rfl

theorem request_apply (number : Nat) (wire : Wire) (request : Request) (client : Client World) :
    Client.request number wire request client =
      { result :=
          (Exchange.perform (client.schemes number) wire request (client.scene number)).result
        state := client.setScene number
          (Exchange.perform (client.schemes number) wire request (client.scene number)).state
        events :=
          (Exchange.perform (client.schemes number) wire request (client.scene number)).events } :=
  rfl

/-- A client one of whose transports sends remembered credentials unasked, or does not. -/
def withPreemptive (client : Client World) (number : Nat) (preemptive : Bool) : Client World :=
  (changeTransport number ({ · with preemptive }) client).state

/-- Has a server answer requests, one after the other. -/
def serve (number : Nat) (server : Server) (client : Client World) (requests : List Request) :
    Client World :=
  requests.foldl (fun client request => (Client.request number server.wire request client).state)
    client

/-- Whether a transport has a dispatcher of Basic resolvers, all configurations are steady, and
nothing is known or remembered yet. -/
structure IsFresh (number : Nat) (client : Client World) : Prop where
  basic : ∀ member ∈ client.dispatchers (client.carriers number).dispatcher,
    ∃ resolver, member = .basic resolver ∧
      (∀ realm, (client.vault resolver).cache.find? realm = none) ∧
        ∀ config, client.fallback resolver = some config → ∃ values, config.Gives values
  steady : ∀ config, (client.carriers number).transport.config = some config →
    ∃ values, config.Gives values
  unknown : ∀ origin, (client.carriers number).transport.remembered.find? origin = none

section Schemes

variable {known : String → Except Failure (Option Credentials)} {config : Option (Config World)}

theorem resolver_yields {resolver : Resolver World}
    (supplies : Config.Supplies known (config.or resolver.config)) (challenge : Option String) :
    Action.Yields (fun vaults : Vaults World => (vaults.caches resolver.cache).Agrees known)
      (resolver.scheme.resolve challenge config)
      ((Challenge.answer known challenge).map (Option.map (·.handle))) where
  result vaults agrees := by
    have ended : (Vault.resolve resolver.config challenge config
        { cache := vaults.caches resolver.cache, world := vaults.world }).result.map _ = _ :=
      Vault.resolve_of_supplies supplies agrees
    rw [← ended]
    simp only [Resolver.scheme, Resolver.resolve, Vaults.onVault, bind_pure_comp, Action.map_apply,
      Action.within_apply]
    rcases (Vault.resolve resolver.config challenge config
      { cache := vaults.caches resolver.cache, world := vaults.world }).result with
        failure | _ | record <;> rfl
  keeps vaults agrees := by
    simp only [Resolver.scheme, Resolver.resolve, Vaults.onVault, bind_pure_comp, Action.map_apply,
      Action.within_apply, assign_self]
    exact Vault.agrees_resolve supplies agrees

theorem resolver_isSilent {resolver : Resolver World}
    (quiet : ∀ given, config.or resolver.config = some given → given.IsQuiet)
    (challenge : Option String) : (resolver.scheme.resolve challenge config).IsSilent :=
  .bind ((Vault.resolve_isSilent quiet challenge).within _ _) fun _ => .pure _

/-- The handle that a dispatcher of Basic resolvers gives for a challenge. -/
def basicAnswer (known : String → Except Failure (Option Credentials))
    (challenge : Option String) : Except Failure (Option Handle) :=
  if Challenge.isBasic challenge then
    (Challenge.answer known challenge).map (Option.map (·.handle))
  else .ok none

theorem fault?_basicAnswer {challenges : List (Option String)} {handle : Handle}
    (answers : Dispatcher.firstAnswer (basicAnswer known) challenges = .ok (some handle)) :
    Ascii.fault? handle.headerValue = none := by
  obtain ⟨challenge, -, answered⟩ := Dispatcher.exists_of_firstAnswer answers
  rw [basicAnswer] at answered
  split at answered
  · rcases found : Challenge.answer known challenge with failure | _ | credentials <;>
      rw [found] at answered <;> cases answered
    exact credentials.fault?_headerValue
  · cases answered

end Schemes

variable {number : Nat} {client : Client World}

theorem IsFresh.available_steady (fresh : client.IsFresh number) {resolver : Nat}
    (member : .basic resolver ∈ client.dispatchers (client.carriers number).dispatcher)
    (given : Config World)
    (available :
      (client.carriers number).transport.config.or (client.fallback resolver) = some given) :
    ∃ values, given.Gives values := by
  obtain ⟨same, isMember, -, steady⟩ := fresh.basic _ member
  cases isMember
  rcases Option.or_eq_some_iff.mp available with configured | ⟨-, configured⟩
  · exact fresh.steady given configured
  · exact steady given configured

theorem IsFresh.accepts_eq (fresh : client.IsFresh number)
    {scheme : Scheme (Vaults World) (Config World)}
    (isScheme : scheme ∈ client.dispatcher (client.carriers number).dispatcher) :
    scheme.accepts = Challenge.isBasic := by
  obtain ⟨member, isMember, rfl⟩ := List.mem_map.mp isScheme
  obtain ⟨resolver, rfl, -, -⟩ := fresh.basic member isMember
  rfl

/-- The first resolver of a dispatcher answers for all of them. -/
theorem IsFresh.authorize_yields (fresh : client.IsFresh number) :
    ∃ known holds, holds client.vaults ∧ ∀ challenge,
      Action.Yields holds
        ((client.dispatcher (client.carriers number).dispatcher).authorize challenge
          (client.carriers number).transport.config)
        (basicAnswer known challenge) := by
  rcases members : client.dispatchers (client.carriers number).dispatcher with _ | ⟨member, rest⟩
  · refine ⟨fun _ => .ok none, fun _ => True, trivial, fun challenge => ?_⟩
    have unanswered : basicAnswer (fun _ => .ok none) challenge = .ok none := by
      rw [basicAnswer, Challenge.answer]
      split
      · split <;> rfl
      · rfl
    rw [unanswered]
    exact Dispatcher.authorize_yields_none (by rw [dispatcher, members]; rfl)
  · have isMember : member ∈ client.dispatchers (client.carriers number).dispatcher := by
      rw [members]
      exact .head _
    obtain ⟨resolver, rfl, unknown, -⟩ := fresh.basic member isMember
    obtain ⟨known, supplies⟩ := Config.exists_supplies (fresh.available_steady isMember)
    refine ⟨known, fun vaults =>
      (vaults.caches (client.resolvers resolver).cache).Agrees known, ?_, fun challenge => ?_⟩
    · intro realm entry found
      have absent : (client.vaults.caches (client.resolvers resolver).cache).find? realm = none :=
        unknown realm
      rw [absent] at found
      cases found
    · cases basic : Challenge.isBasic challenge with
      | true =>
          have selected : (client.dispatcher (client.carriers number).dispatcher).select challenge =
              some (client.resolvers resolver).scheme := by
            rw [dispatcher, members]
            exact List.find?_cons_of_pos basic
          rw [basicAnswer, basic, if_pos rfl]
          exact Dispatcher.authorize_yields selected (resolver_yields supplies challenge)
      | false =>
          have unselected : (client.dispatcher (client.carriers number).dispatcher).select
              challenge = none := by
            rw [Dispatcher.select, List.find?_eq_none]
            intro scheme isScheme
            rw [fresh.accepts_eq isScheme, basic]
            exact Bool.false_ne_true
          rw [basicAnswer, basic]
          exact Dispatcher.authorize_yields_none unselected

theorem IsFresh.settled (fresh : client.IsFresh number) :
    ∃ holds answer, holds client.vaults ∧
      Exchange.Settled (client.schemes number) (client.carriers number).transport.config holds
        answer := by
  obtain ⟨known, holds, held, authorizes⟩ := fresh.authorize_yields
  refine ⟨holds, fun challenges => Dispatcher.firstAnswer (basicAnswer known) (challenges.map some),
    held,
    { yields := fun challenges => Dispatcher.authorizeAny_yields authorizes _
      silent := fun challenges => Dispatcher.authorizeAny_isSilent ?_ _
      sendable := fun challenges handle answers => fault?_basicAnswer answers }⟩
  intro scheme isScheme challenge
  obtain ⟨member, isMember, rfl⟩ := List.mem_map.mp isScheme
  obtain ⟨resolver, rfl, -, -⟩ := fresh.basic member isMember
  refine resolver_isSilent (fun given available => ?_) challenge
  obtain ⟨values, gives⟩ := fresh.available_steady isMember given available
  exact gives.quiet

/-- Whether the schemes of a transport are certain ones, and what they act on is ready. -/
structure IsReady (number : Nat) (schemes : Exchange.Schemes (Config World) (Vaults World))
    (config : Option (Config World)) (preemptive : Bool) (holds : Vaults World → Prop)
    (client : Client World) : Prop where
  schemes : client.schemes number = schemes
  ready : Exchange.Ready config preemptive holds (client.scene number)

section Serving

variable {schemes : Exchange.Schemes (Config World) (Vaults World)}
  {config : Option (Config World)} {preemptive : Bool} {holds : Vaults World → Prop}
  {answer : List String → Except Failure (Option Handle)}

theorem IsReady.request (isReady : client.IsReady number schemes config preemptive holds)
    (settled : Exchange.Settled schemes config holds answer) (server : Server) (request : Request) :
    (Client.request number server.wire request client).state.IsReady number schemes config
        preemptive holds ∧
      ∃ attached, (preemptive = false → attached = none) ∧
        Exchange.granted (Client.request number server.wire request client) =
          (server.course answer attached request).1 ∧
        Exchange.sendings (Client.request number server.wire request client) =
          (server.course answer attached request).2 := by
  rw [request_apply, isReady.schemes]
  have ends : Exchange.Ends config preemptive holds _
      (Exchange.perform schemes server.wire request (client.scene number)) :=
    Exchange.ends_perform settled isReady.ready request
  refine ⟨⟨?_, ?_⟩, _, ?_, ends.granted, ends.sent⟩
  · rw [schemes_setScene, isReady.schemes]
  · rw [scene_setScene]
    exact ends.ready
  · intro unasked
    rw [Exchange.attachment, isReady.ready.preemptive, unasked]
    rfl

theorem IsReady.serve (isReady : client.IsReady number schemes config preemptive holds)
    (settled : Exchange.Settled schemes config holds answer) (server : Server)
    (requests : List Request) :
    (client.serve number server requests).IsReady number schemes config preemptive holds := by
  induction requests generalizing client with
  | nil => exact isReady
  | cons request requests induction => exact induction (isReady.request settled server request).1

end Serving

theorem IsFresh.isReady (fresh : client.IsFresh number) {holds : Vaults World → Prop}
    (held : holds client.vaults) (preemptive : Bool) :
    (client.withPreemptive number preemptive).IsReady number (client.schemes number)
      (client.carriers number).transport.config preemptive holds := by
  have same : client.withPreemptive number preemptive = client.setScene number
      ({ (client.carriers number).transport with preemptive }, client.vaults) := rfl
  rw [same]
  refine ⟨schemes_setScene .., ?_⟩
  rw [scene_setScene]
  refine { config := rfl, preemptive := rfl, holds := held, sendable := ?_ }
  intro origin handle known
  rw [fresh.unknown] at known
  cases known

/-- Whatever requests came before, sending remembered credentials unasked never makes a request fail
that is granted without, and never makes it be sent more often. -/
theorem preemptive_le (fresh : client.IsFresh number) (server : Server) (earlier : List Request)
    (request : Request) :
    let preemptive := Client.request number server.wire request
      ((client.withPreemptive number true).serve number server earlier)
    let plain := Client.request number server.wire request
      ((client.withPreemptive number false).serve number server earlier)
    (Exchange.granted plain → Exchange.granted preemptive) ∧
      Exchange.sendings preemptive ≤ Exchange.sendings plain := by
  intro preemptive plain
  obtain ⟨holds, answer, held, settled⟩ := fresh.settled
  obtain ⟨-, attached, -, granted, sent⟩ :=
    ((fresh.isReady held true).serve settled server earlier).request settled server request
  obtain ⟨-, unattached, unasked, plain_granted, plain_sent⟩ :=
    ((fresh.isReady held false).serve settled server earlier).request settled server request
  rw [unasked rfl] at plain_granted plain_sent
  rw [granted, sent, plain_granted, plain_sent]
  exact server.course_attached answer attached request

/-- A server that everywhere asks for the credentials of one realm and accepts one value. -/
def guard (value : String) : Server where
  accepts _ values := values == [value]
  challenges _ := ["Basic realm=\"a\""]
  respond _ request :=
    if request.authorization == [value] then { status := 200, headers := [] }
    else { status := 401, headers := [(challengeHeader, "Basic realm=\"a\"")] }
  isUnauthorized_respond attempt request := by
    by_cases accepted : request.authorization = [value]
    · simp [accepted, Response.isUnauthorized]
    · simp [accepted, Response.isUnauthorized]
  challenges_respond attempt request refused := by
    rw [refused]
    decide +kernel
  challenges_ne url := nofun
  accepts_any url any := by cases any

/-- A client with one resolver, which finds the credentials of one realm. -/
def guest : Client Unit :=
  { start () with
    resolvers := fun _ =>
      { cache := 0
        config := some (.ofTable
          { entries :=
              [("http.auth.basic.a.user", .ofText "u"),
                ("http.auth.basic.a.password", .ofText "p")] }) }
    dispatchers := fun _ => [.basic 0] }

/-- A request without credentials. -/
def visit : Request :=
  { method := "GET"
    url :=
      { origin := { scheme := "http", host := "h", port := none }, host := "h", user := ""
        path := "/", query := none, fragment := none, fault := none }
    headers := []
    body := .whole [] }

/-- On the second visit the remembered credentials are sent at once, and without them the visit is
sent twice; both visits are granted. -/
theorem preemptive_le_second_visit :
    let preemptive := Client.request 0 (guard "Basic dTpw").wire visit
      ((guest.withPreemptive 0 true).serve 0 (guard "Basic dTpw") [visit])
    let plain := Client.request 0 (guard "Basic dTpw").wire visit
      ((guest.withPreemptive 0 false).serve 0 (guard "Basic dTpw") [visit])
    (Exchange.granted preemptive ∧ Exchange.sendings preemptive ≤ Exchange.sendings plain) ∧
      Exchange.granted plain ∧ Exchange.sendings preemptive = 1 ∧ Exchange.sendings plain = 2 := by
  have fresh : guest.IsFresh 0 :=
    { basic := by
        intro member isMember
        obtain rfl := List.mem_singleton.mp isMember
        refine ⟨0, rfl, fun _ => rfl, ?_⟩
        rintro _ ⟨⟩
        exact ⟨_, Config.gives_ofTable _⟩
      steady := nofun
      unknown := fun _ => rfl }
  have compared := preemptive_le fresh (guard "Basic dTpw") [visit] visit
  have plain_granted : Exchange.granted (Client.request 0 (guard "Basic dTpw").wire visit
      ((guest.withPreemptive 0 false).serve 0 (guard "Basic dTpw") [visit])) := by decide +kernel
  exact ⟨⟨compared.1 plain_granted, compared.2⟩, plain_granted, by decide +kernel,
    by decide +kernel⟩

end Client
end Countersign
