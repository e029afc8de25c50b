import Countersign.Transport.Basic
import Countersign.Vault.Threads

/-!
# Clients

A client holds everything that takes part in answering challenges: caches, resolvers over them,
dispatchers over resolvers and other schemes, and transports over dispatchers.  All of them are
numbered, several resolvers may share a cache and several dispatchers a resolver, and the world that
configurations read is left open.
-/

namespace Countersign

/-- The caches by number, and the world that configurations read. -/
structure Vaults (World : Type) where
  /-- The caches. -/
  caches : Nat → Cache
  /-- What configurations read. -/
  world : World

namespace Vaults

variable {World Value : Type}

/-- Runs an action on one cache and the world. -/
def onVault (number : Nat) (action : Action (Vault World) Value) : Action (Vaults World) Value :=
  action.within (fun vaults => { cache := vaults.caches number, world := vaults.world })
    fun vaults vault =>
      { caches := assign vaults.caches number vault.cache, world := vault.world }

/-- Runs an action on the world alone. -/
def onWorld (action : Action World Value) : Action (Vaults World) Value :=
  action.within (·.world) fun vaults world => { vaults with world }

end Vaults

/-- Resolves Basic challenges from a cache. -/
structure Resolver (World : Type) where
  /-- The number of the cache. -/
  cache : Nat
  /-- The configuration for challenges that come without one. -/
  config : Option (Config World)

namespace Resolver

variable {World : Type}

/-- What Basic authentication is called. -/
def schemeName : String := "basic"

/-- The record that answers a challenge. -/
def resolve (resolver : Resolver World) (challenge : Option String)
    (config : Option (Config World)) : Action (Vaults World) (Option Record) :=
  Vaults.onVault resolver.cache (Vault.resolve resolver.config challenge config)

/-- A resolver as a scheme. -/
def scheme (resolver : Resolver World) : Scheme (Vaults World) (Config World) :=
  { name := schemeName
    accepts := Challenge.isBasic
    resolve := fun challenge config => do
      let record ← resolver.resolve challenge config
      pure (record.map (·.credentials.handle)) }

end Resolver

/-- A scheme that a dispatcher has. -/
inductive Member (World : Type) where
  /-- The resolver with a number. -/
  | basic (resolver : Nat)
  /-- A scheme that uses no cache. -/
  | other (scheme : Scheme World (Config World))

/-- A transport and the number of its dispatcher. -/
structure Carrier (World : Type) where
  /-- The number of the dispatcher that answers challenges. -/
  dispatcher : Nat
  /-- What the transport holds. -/
  transport : Transport (Config World)

/-- Everything that takes part in answering challenges. -/
structure Client (World : Type) where
  /-- The caches and the world. -/
  vaults : Vaults World
  /-- The resolvers by number. -/
  resolvers : Nat → Resolver World
  /-- The schemes of the dispatchers by number, in order. -/
  dispatchers : Nat → List (Member World)
  /-- The transports by number. -/
  carriers : Nat → Carrier World

namespace Client

variable {World Value : Type}

/-- A client in which nothing has been set up. -/
def start (world : World) : Client World :=
  { vaults := { caches := fun _ => .empty, world }
    resolvers := fun _ => { cache := 0, config := none }
    dispatchers := fun _ => []
    carriers := fun _ =>
      { dispatcher := 0
        transport := { config := none, preemptive := true, remembered := .empty } } }

/-- Runs an action on the caches and the world. -/
def onVaults (action : Action (Vaults World) Value) : Action (Client World) Value :=
  action.within (·.vaults) fun client vaults => { client with vaults }

/-- Runs an action on the world alone. -/
def onWorld (action : Action World Value) : Action (Client World) Value :=
  onVaults (Vaults.onWorld action)

/-- Runs an action on the vault of a resolver. -/
def onResolver (number : Nat)
    (action : Option (Config World) → Action (Vault World) Value) : Action (Client World) Value :=
  do
    let client ← Action.current
    let resolver := client.resolvers number
    onVaults (Vaults.onVault resolver.cache (action resolver.config))

/-- A member of a dispatcher as a scheme. -/
def scheme (client : Client World) : Member World → Scheme (Vaults World) (Config World)
  | .basic resolver => (client.resolvers resolver).scheme
  | .other scheme =>
      { scheme with
        resolve := fun challenge config => Vaults.onWorld (scheme.resolve challenge config) }

/-- A dispatcher with its schemes as they are now. -/
def dispatcher (client : Client World) (number : Nat) :
    Dispatcher (Vaults World) (Config World) :=
  (client.dispatchers number).map client.scheme

/-- The record with which a resolver answers a challenge. -/
def resolve (resolver : Nat) (challenge : Option String) (config : Option (Config World)) :
    Action (Client World) (Option Record) :=
  onResolver resolver fun fallback => Vault.resolve fallback challenge config

/-- Drops what a resolver knows about a realm. -/
def forget (resolver : Nat) (realm : String) : Action (Client World) Unit :=
  onResolver resolver fun _ => Vault.forget realm

/-- Drops everything that a resolver knows. -/
def clear (resolver : Nat) : Action (Client World) Unit :=
  onResolver resolver fun _ => Vault.clear

/-- The answers that several threads get that ask a resolver the same thing at once. -/
def resolveTogether (resolver : Nat) (challenge : Option String)
    (config : Option (Config World)) (threads : Nat) :
    Action (Client World) (List (Option Record)) :=
  onResolver resolver fun fallback vault =>
    let calls := fun thread =>
      if thread < threads then [Threads.Call.resolve resolver challenge config] else []
    let final := (Threads.State.start vault calls).run (fun _ => fallback) (Threads.crowd threads)
    { result := ((List.range threads).flatMap fun thread => (final.threads thread).returned).mapM id
      state := final.vault
      events := final.events.map (·.2) }

/-- The answer of a dispatcher to a challenge. -/
def authorize (number : Nat) (challenge : Option String) (config : Option (Config World)) :
    Action (Client World) (Option Handle) := do
  let client ← Action.current
  onVaults ((client.dispatcher number).authorize challenge config)

/-- The answer of a dispatcher to the first of several challenges that is answered. -/
def authorizeAny (number : Nat) (challenges : List (Option String))
    (config : Option (Config World)) : Action (Client World) (Option Handle) := do
  let client ← Action.current
  onVaults ((client.dispatcher number).authorizeAny config challenges)

/-- The schemes that a transport asks, given the challenges of an answer. -/
def schemes (client : Client World) (number : Nat) :
    Exchange.Schemes (Config World) (Vaults World) := fun challenges config =>
  (client.dispatcher (client.carriers number).dispatcher).authorizeAny config (challenges.map some)

/-- A whole exchange of a transport. -/
def request (number : Nat) (wire : Wire) (request : Request) :
    Action (Client World) Exchange := do
  let client ← Action.current
  (Exchange.perform (client.schemes number) wire request).within
    (fun client => ((client.carriers number).transport, client.vaults))
    fun client scene =>
      { client with
        vaults := scene.2
        carriers :=
          assign client.carriers number { client.carriers number with transport := scene.1 } }

/-- Gives a resolver another configuration to fall back on. -/
def configureResolver (number : Nat) (config : Option (Config World)) :
    Action (Client World) Unit :=
  Action.change fun client =>
    { client with
      resolvers := assign client.resolvers number { client.resolvers number with config } }

/-- Changes what a transport holds. -/
def changeTransport (number : Nat)
    (change : Transport (Config World) → Transport (Config World)) :
    Action (Client World) Unit :=
  Action.change fun client =>
    let carrier := client.carriers number
    { client with
      carriers :=
        assign client.carriers number { carrier with transport := change carrier.transport } }

/-- Gives a dispatcher one more scheme. -/
def register (number : Nat) (member : Member World) : Action (Client World) Unit :=
  Action.change fun client =>
    { client with
      dispatchers := assign client.dispatchers number (client.dispatchers number ++ [member]) }

end Client
end Countersign
