import Countersign.Proofs.Client.Preemption
import Countersign.Proofs.Client.Regime
import Countersign.Proofs.Transport.Handles

/-!
# What a client stores

A client over Basic resolvers stores credentials in caches, in what its transports remember, and in
the exchanges that are about to answer a refusal.  In any run of tasks, in which exchanges of all
transports may interleave and tasks may fail, every cache stays well formed and loses an entry only
where it is told to, and every handle is that of credentials for a realm that a challenge can name.
-/

namespace Countersign

open Countersign.Action (Keeps)

variable {World : Type}

/-- Whether a handle is that of credentials for some realm. -/
def Handle.IsGenuine (handle : Handle) : Prop :=
  ∃ (realm : String) (credentials : Credentials), Challenge.IsRealm realm ∧
    credentials.IsOf realm ∧ credentials.handle = handle

theorem Handle.Answers.isGenuine {challenge : Option String} {handle : Handle}
    (answers : handle.Answers challenge) : handle.IsGenuine := by
  obtain ⟨realm, credentials, parsed, isOf, same⟩ := answers
  exact ⟨realm, credentials, Challenge.isRealm_of_parse parsed, isOf, same⟩

/-- The regime under which everything is allowed. -/
def Regime.lax : Regime World :=
  { apt := fun _ => True, held := fun _ => True, shows := fun _ => True }

theorem Regime.isFair_lax : (lax : Regime World).IsFair where
  serves _ _ _ _ :=
    { keeps := fun _ _ =>
        { state := trivial, events := fun _ _ => trivial, value := fun _ _ => trivial }
      unavailable := fun _ _ _ _ _ _ => trivial }
  ignored _ _ _ := trivial
  unconfigured _ _ := trivial
  unmatched _ := trivial
  withheld _ := trivial
  provided _ _ := trivial

theorem Regime.allows_lax (config : Option (Config World)) : (lax : Regime World).Allows config :=
  fun _ _ => trivial

theorem Deed.isAllowed_lax (deed : Deed World) : deed.IsAllowed .lax := by
  cases deed with
  | resolve | authorize | authorizeAny | configure => exact Regime.allows_lax _
  | mutate => exact fun _ _ => trivial
  | forget | clear | register => trivial

/-- An exchange in progress on one of several transports. -/
structure Pending where
  /-- The number of the transport. -/
  carrier : Nat
  /-- The exchange as it is now. -/
  exchange : Exchange

/-- A client with the exchanges that its transports have in progress. -/
structure Station (World : Type) where
  /-- The client. -/
  client : Client World
  /-- The exchanges by number. -/
  pending : Nat → Option Pending

/-- Something that is asked of a client with transports, or that happens to it. -/
inductive Task (World : Type) where
  | ask (deed : Deed World)
  | request (carrier : Nat) (wire : Wire) (request : Request)
  | begin (call carrier : Nat) (request : Request)
  | resume (call : Nat) (reply : Exchange.Reply)
  | adjust (carrier : Nat) (config : Option (Config World)) (preemptive : Bool)

/-- Whether a task drops what a cache knows about a realm, where resolvers have certain caches. -/
def Task.Drops (owned : Nat → Nat) (number : Nat) (realm : String) : Task World → Prop
  | ask deed => deed.Drops owned number realm
  | request _ _ _ | begin _ _ _ | resume _ _ | adjust _ _ _ => False

namespace Station

/-- A client without exchanges in progress. -/
def start (client : Client World) : Station World :=
  { client, pending := fun _ => none }

/-- What becomes of an exchange by an action on what its transport and its schemes hold. -/
def proceed (station : Station World) (call carrier : Nat)
    (action : Action (Exchange.Scene (Config World) (Vaults World)) Exchange) : Station World :=
  let outcome := action (station.client.scene carrier)
  { client := station.client.setScene carrier outcome.state
    pending := assign station.pending call
      (outcome.result.toOption.map fun exchange => { carrier, exchange }) }

/-- Does a task.  A number stands for one exchange for good, and only an exchange that has begun
goes on. -/
def perform (station : Station World) : Task World → Station World
  | .ask deed => { station with client := (deed.perform station.client).1 }
  | .request carrier wire request =>
      { station with client := (Client.request carrier wire request station.client).state }
  | .begin call carrier request =>
      match station.pending call with
      | some _ => station
      | none => station.proceed call carrier (Exchange.begin request)
  | .resume call reply =>
      match station.pending call with
      | none => station
      | some { carrier, exchange } =>
          station.proceed call carrier (exchange.resume (station.client.schemes carrier) reply)
  | .adjust carrier config preemptive =>
      let change := Client.changeTransport carrier ({ · with config, preemptive })
      { station with client := (change station.client).state }

/-- Does tasks one after the other. -/
def performAll (station : Station World) (tasks : List (Task World)) : Station World :=
  tasks.foldl perform station

/-- Whether a client over resolvers with certain caches stores nothing but credentials where they
belong, and its caches have certain entries. -/
structure IsOrderly (owned : Nat → Nat) (kept : Nat → String → Option Record → Prop)
    (station : Station World) : Prop where
  client : station.client.IsSound .lax owned kept
  remembered : ∀ carrier origin handle,
    (station.client.carriers carrier).transport.remembered.find? origin = some handle →
    handle.IsGenuine
  pending : ∀ call pending, station.pending call = some pending →
    pending.exchange.AnswersWith Handle.IsGenuine

variable {owned : Nat → Nat} {kept : Nat → String → Option Record → Prop}
  {station : Station World}

/-- What transports ask gives genuine handles. -/
theorem IsOrderly.schemes_keep (orderly : station.IsOrderly owned kept) (carrier : Nat)
    (challenges : List String) (config : Option (Config World)) :
    (station.client.schemes carrier challenges config).Keeps (Vaults.IsSound .lax kept)
      (fun _ => True) fun answer => ∀ handle ∈ answer, handle.IsGenuine := by
  have keeps := Dispatcher.authorizeAny_keeps
    (orderly.client.reports Regime.isFair_lax (station.client.carriers carrier).dispatcher)
    (fun _ isScheme =>
      orderly.client.scheme_keeps Regime.isFair_lax (Regime.allows_lax config) isScheme)
    (challenges.map some)
  refine keeps.imp fun answer given handle isAnswer => ?_
  obtain ⟨challenge, -, answers⟩ := given handle isAnswer
  exact answers.isGenuine

theorem IsOrderly.scene (orderly : station.IsOrderly owned kept) (carrier : Nat) :
    (station.client.scene carrier).IsSound Handle.IsGenuine (Vaults.IsSound .lax kept) where
  remembered := orderly.remembered carrier
  state := orderly.client.vaults

theorem IsOrderly.setScene (orderly : station.IsOrderly owned kept) {carrier : Nat}
    {scene : Exchange.Scene (Config World) (Vaults World)}
    (sound : scene.IsSound Handle.IsGenuine (Vaults.IsSound .lax kept)) :
    IsOrderly owned kept { station with client := station.client.setScene carrier scene } where
  client :=
    { owned := orderly.client.owned
      fallback := orderly.client.fallback
      members := orderly.client.members
      vaults := sound.state }
  remembered := by
    apply assign_forall fun _ (carrier : Carrier World) => ∀ origin handle,
      carrier.transport.remembered.find? origin = some handle → handle.IsGenuine
    · exact sound.remembered
    · intro other _
      exact orderly.remembered other
  pending := orderly.pending

/-- What an exchange does leaves a client orderly. -/
theorem IsOrderly.proceed (orderly : station.IsOrderly owned kept) (call carrier : Nat)
    {action : Action (Exchange.Scene (Config World) (Vaults World)) Exchange}
    (keeps : action.Keeps (Exchange.Scene.IsSound Handle.IsGenuine (Vaults.IsSound .lax kept))
      (fun _ => True) (Exchange.AnswersWith Handle.IsGenuine)) :
    (station.proceed call carrier action).IsOrderly owned kept := by
  have meets := keeps _ (orderly.scene carrier)
  have settled : IsOrderly owned kept
      { station with client := station.client.setScene carrier _ } := orderly.setScene meets.state
  refine { client := settled.client, remembered := settled.remembered, pending := ?_ }
  apply assign_forall fun _ (pending : Option Pending) => ∀ found, pending = some found →
    found.exchange.AnswersWith Handle.IsGenuine
  · intro found isFound
    cases ended : (action (station.client.scene carrier)).result with
    | error failure =>
        rw [ended] at isFound
        cases isFound
    | ok exchange =>
        rw [ended] at isFound
        cases isFound
        exact meets.value exchange ended
  · intro other _
    exact orderly.pending other

/-- Every task leaves a client orderly, given that it drops no entry that has to stay. -/
theorem IsOrderly.perform (orderly : station.IsOrderly owned kept) {task : Task World}
    (spares : ∀ number realm entry, kept number realm entry → ¬task.Drops owned number realm) :
    (station.perform task).IsOrderly owned kept := by
  cases task with
  | ask deed =>
      have remembered : ∀ carrier, ((deed.perform station.client).1.carriers carrier) =
          station.client.carriers carrier := by
        intro carrier
        cases deed <;> rfl
      obtain ⟨sound, -⟩ := Deed.perform_keeps Regime.isFair_lax orderly.client
        deed.isAllowed_lax spares
      refine { client := sound, remembered := fun carrier => ?_, pending := orderly.pending }
      simp only [Station.perform, remembered]
      exact orderly.remembered carrier
  | request carrier wire request =>
      have keeps := Exchange.perform_keeps (orderly.schemes_keep carrier) wire request
      exact orderly.setScene (keeps _ (orderly.scene carrier)).state
  | begin call carrier request =>
      rw [Station.perform]
      split
      next => exact orderly
      next => exact orderly.proceed call carrier (Exchange.begin_keeps request)
  | resume call reply =>
      rw [Station.perform]
      split
      next => exact orderly
      next carrier exchange inProgress =>
        exact orderly.proceed call carrier
          (Exchange.resume_keeps (orderly.schemes_keep carrier)
            (orderly.pending call _ inProgress) reply)
  | adjust carrier config preemptive =>
      refine
        { client := ?_
          remembered := ?_
          pending := orderly.pending }
      · exact
          { owned := orderly.client.owned
            fallback := orderly.client.fallback
            members := orderly.client.members
            vaults := orderly.client.vaults }
      · apply assign_forall fun _ (carrier : Carrier World) => ∀ origin handle,
          carrier.transport.remembered.find? origin = some handle → handle.IsGenuine
        · exact orderly.remembered carrier
        · intro other _
          exact orderly.remembered other

/-- Every run of tasks leaves a client orderly. -/
theorem IsOrderly.performAll (orderly : station.IsOrderly owned kept) {tasks : List (Task World)}
    (spares : ∀ task ∈ tasks, ∀ number realm entry, kept number realm entry →
      ¬task.Drops owned number realm) :
    (station.performAll tasks).IsOrderly owned kept := by
  induction tasks generalizing station with
  | nil => exact orderly
  | cons task tasks induction =>
      have next := orderly.perform (spares task (.head _))
      exact induction next fun other isTask => spares other (.tail _ isTask)

/-- A client stays orderly with regard to any entries that its caches have. -/
theorem IsOrderly.of_known (orderly : station.IsOrderly owned kept)
    {present : Nat → String → Option Record → Prop}
    (known : ∀ number realm entry, present number realm entry →
      (station.client.vaults.caches number).find? realm = some entry) :
    station.IsOrderly owned present where
  client :=
    { owned := orderly.client.owned
      fallback := orderly.client.fallback
      members := orderly.client.members
      vaults :=
        { caches := fun number =>
            { toIsWellFormed := (orderly.client.vaults.caches number).toIsWellFormed
              kept := known number }
          world := trivial } }
  remembered := orderly.remembered
  pending := orderly.pending

/-- Whether the stores of a client are as they should be: the caches are well formed, the transports
remember genuine handles, whatever the client is asked now is answered with credentials of the realm
that the challenge is for, and what the caches know stays until it is dropped. -/
structure KeepsStores (station : Station World) : Prop where
  caches : ∀ number, (station.client.vaults.caches number).IsWellFormed
  remembered : ∀ carrier origin handle,
    (station.client.carriers carrier).transport.remembered.find? origin = some handle →
    handle.IsGenuine
  resolves : ∀ resolver challenge config record,
    (Client.resolve resolver challenge config station.client).result = .ok (some record) →
    ∃ realm, Challenge.parse challenge = .ok realm ∧ record.credentials.IsOf realm
  authorizes : ∀ dispatcher challenge config handle,
    (Client.authorize dispatcher challenge config station.client).result = .ok (some handle) →
    handle.Answers challenge
  /-- Of several challenges the one that is answered is the first that can be. -/
  authorizesAny : ∀ dispatcher challenges config handle,
    (Client.authorizeAny dispatcher challenges config station.client).result =
      .ok (some handle) →
    ∃ early challenge late, challenges = early ++ challenge :: late ∧
      (Client.authorizeAny dispatcher early config station.client).result = .ok none ∧
      (Client.authorize dispatcher challenge config
        (Client.authorizeAny dispatcher early config station.client).state).result =
          .ok (some handle) ∧
      handle.Answers challenge
  grows : ∀ tasks number realm entry,
    (station.client.vaults.caches number).find? realm = some entry →
    (∀ task ∈ tasks,
      ¬task.Drops (fun resolver => (station.client.resolvers resolver).cache) number realm) →
    ((station.performAll tasks).client.vaults.caches number).find? realm = some entry

theorem IsOrderly.authorizesAny (orderly : station.IsOrderly owned kept) {dispatcher : Nat}
    {challenges : List (Option String)} {config : Option (Config World)} {handle : Handle}
    (answered : (Client.authorizeAny dispatcher challenges config station.client).result =
      .ok (some handle)) :
    ∃ early challenge late, challenges = early ++ challenge :: late ∧
      (Client.authorizeAny dispatcher early config station.client).result = .ok none ∧
      (Client.authorize dispatcher challenge config
        (Client.authorizeAny dispatcher early config station.client).state).result =
          .ok (some handle) ∧
      handle.Answers challenge := by
  have fair : (Regime.lax : Regime World).IsFair := Regime.isFair_lax
  have answered : ((station.client.dispatcher dispatcher).authorizeAny config challenges
    station.client.vaults).result = .ok (some handle) := answered
  obtain ⟨early, challenge, late, split, unanswered, last⟩ :=
    Dispatcher.exists_of_authorizeAny answered
  refine ⟨early, challenge, late, split, unanswered, last, ?_⟩
  have between := (Client.authorizeAny_keeps fair dispatcher early (Regime.allows_lax config)
    station.client orderly.client).state
  exact (Client.authorize_keeps fair dispatcher challenge (Regime.allows_lax config) _
    between).value _ last handle rfl

theorem IsOrderly.keepsStores (orderly : station.IsOrderly owned kept) : station.KeepsStores where
  caches number := (orderly.client.vaults.caches number).toIsWellFormed
  remembered := orderly.remembered
  resolves resolver challenge config record answered :=
    (Client.resolve_keeps Regime.isFair_lax resolver challenge (Regime.allows_lax config) _
      orderly.client).value _ answered record rfl
  authorizes dispatcher challenge config handle answered :=
    (Client.authorize_keeps Regime.isFair_lax dispatcher challenge (Regime.allows_lax config) _
      orderly.client).value _ answered handle rfl
  authorizesAny _ _ _ _ := orderly.authorizesAny
  grows tasks number realm entry known undropped := by
    let present : Nat → String → Option Record → Prop := fun other asked found =>
      other = number ∧ asked = realm ∧ found = entry
    have stays : station.IsOrderly owned present := by
      refine orderly.of_known ?_
      rintro _ _ _ ⟨rfl, rfl, rfl⟩
      exact known
    have owners : (fun resolver => (station.client.resolvers resolver).cache) = owned :=
      funext orderly.client.owned
    have later : (station.performAll tasks).IsOrderly owned present := by
      refine stays.performAll fun task isTask => ?_
      rintro _ _ _ ⟨rfl, rfl, rfl⟩
      exact owners ▸ undropped task isTask
    exact (later.client.vaults.caches number).kept realm entry ⟨rfl, rfl, rfl⟩

/-- A client over Basic resolvers with well-formed caches, none of whose transports remembers
anything yet, keeps its stores as they should be whatever tasks it is given. -/
theorem performAll_keepsStores (client : Client World)
    (members : ∀ dispatcher, ∀ member ∈ client.dispatchers dispatcher, ∃ resolver,
      member = .basic resolver)
    (wellFormed : ∀ number, (client.vaults.caches number).IsWellFormed)
    (empty : ∀ carrier origin,
      (client.carriers carrier).transport.remembered.find? origin = none)
    (tasks : List (Task World)) : ((start client).performAll tasks).KeepsStores := by
  have orderly : (start client).IsOrderly (fun resolver => (client.resolvers resolver).cache)
      fun _ _ _ => False :=
    { client :=
        { owned := fun _ => rfl
          fallback := fun _ => Regime.allows_lax _
          members
          vaults :=
            { caches := fun number => { toIsWellFormed := wellFormed number, kept := nofun }
              world := trivial } }
      remembered := by
        intro carrier origin handle found
        rw [start, empty carrier origin] at found
        cases found
      pending := by
        intro call pending found
        cases found }
  have later : ((start client).performAll tasks).IsOrderly _ _ :=
    orderly.performAll fun _ _ _ _ _ isKept => isKept.elim
  exact later.keepsStores

/-- A cache that knows one realm with credentials and one without. -/
def priorCache : Cache :=
  .ofList [("a", some { realm := "a", username := "alice", password := "s3cret" }), ("b", none)]

theorem isWellFormed_priorCache : priorCache.IsWellFormed := by
  refine Cache.isWellFormed_ofList fun entry isEntry => ?_
  rw [List.mem_cons, List.mem_singleton] at isEntry
  rcases isEntry with rfl | rfl
  · refine ⟨by decide, ?_⟩
    rintro _ ⟨⟩
    rfl
  · exact ⟨by decide, nofun⟩

/-- Two resolvers over that cache, of which one falls back on a configuration that fails. -/
def partners : Client Unit :=
  { Client.start () with
    vaults := { caches := fun _ => priorCache, world := () }
    resolvers :=
      assign (fun _ => { cache := 0, config := none }) 1
        { cache := 0, config := some fun _ => Action.fail (.broken "vault is sealed") }
    dispatchers := fun _ => [.basic 0, .basic 1] }

theorem performAll_keepsStores_partners :
    (Client.resolve 1 (some "Basic realm=\"c\"") none partners).result =
        .error (.broken "vault is sealed") ∧
      ((start partners).performAll
        [.ask (.resolve 1 (some "Basic realm=\"c\"") none), .ask (.forget 0 "b"),
          .ask (.authorizeAny 0 [none, some "Basic realm=\"a\""] none)]).KeepsStores := by
  refine ⟨rfl, performAll_keepsStores partners ?_ ?_ ?_ _⟩
  · intro dispatcher member isMember
    rcases List.mem_cons.mp isMember with rfl | isMember
    · exact ⟨0, rfl⟩
    · exact ⟨1, List.mem_singleton.mp isMember⟩
  · exact fun _ => isWellFormed_priorCache
  · exact fun _ _ => rfl

end Station
end Countersign
