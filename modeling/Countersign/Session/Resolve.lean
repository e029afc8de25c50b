import Countersign.Session.Basic

/-!
# Answering challenges in a session

Steps on resolvers, caches, fixed schemes and dispatchers.
-/

namespace Countersign

/-- A step that answers challenges, or that looks at what takes part in that. -/
inductive ResolveStep where
  /-- The answer of a resolver to a challenge. -/
  | resolve (resolver : String) (challenge config : Option String)
  /-- The answers of a resolver to several threads at once. -/
  | resolveTogether (resolver : String) (challenge config : Option String) (threads : Nat)
  /-- Whether a resolver is for a challenge. -/
  | accepts (resolver : String) (challenge : Option String)
  /-- Drops what a resolver knows about a realm. -/
  | forget (resolver realm : String)
  /-- Drops everything that a resolver knows. -/
  | clear (resolver : String)
  /-- What a cache knows, or the cache of a resolver. -/
  | entries (name : String)
  /-- Gives a resolver or a transport another configuration. -/
  | configure (name : String) (config : Option String)
  /-- Gives a dispatcher one more scheme. -/
  | register (dispatcher scheme : String)
  /-- The schemes of a dispatcher. -/
  | schemes (dispatcher : String)
  /-- The scheme of a dispatcher for a challenge. -/
  | select (dispatcher : String) (challenge : Option String)
  /-- The answer of a dispatcher to a challenge. -/
  | authorize (dispatcher : String) (challenge config : Option String)
  /-- The answer of a dispatcher to the first of several challenges that is answered. -/
  | authorizeAny (dispatcher : String) (challenges : List (Option String)) (config : Option String)
  /-- How many challenges a fixed scheme has been given. -/
  | calls (scheme : String)

namespace ResolveStep

/-- What a cache knows, by realm. -/
def listing (cache : Cache) : List (String × Option Handle) :=
  (cache.entries.entries.map fun entry =>
    (entry.1, entry.2.map (·.credentials.handle))).mergeSort fun left right => left.1 ≤ right.1

/-- The cache that a name stands for, or the cache of the resolver that it stands for. -/
def cacheNamed (name : String) : Action Session Cache := do
  let session ← Action.current
  let number ← Session.find name fun
    | .cache number => some number
    | .resolver number => some (session.client.resolvers number).cache
    | _ => none
  pure (session.client.vaults.caches number)

/-- The schemes of a dispatcher, each with the name it was added under. -/
def labelled (name : String) :
    Action Session (List (String × Scheme (Vaults Surroundings) (Config Surroundings))) := do
  let number ← Session.dispatcher name
  let session ← Action.current
  pure ((session.labels number).zip (session.client.dispatcher number))

/-- Performs a step. -/
def perform : ResolveStep → Action Session Answer
  | resolve name challenge config => do
      let number ← Session.resolver name
      let config ← Session.config config
      let record ← Session.onClient (Client.resolve number challenge config)
      pure (.handle (record.map (·.credentials.handle)))
  | resolveTogether name challenge config threads => do
      let number ← Session.resolver name
      let config ← Session.config config
      let (records, events) ←
        (Session.onClient (Client.resolveTogether number challenge config threads)).observed
      let lookups := if config.isSome then (Event.askedKeys events).length else 0
      pure (.gathered records lookups)
  | accepts name challenge => do
      let _ ← Session.resolver name
      pure (.flag (Challenge.isBasic challenge))
  | forget name realm => do
      let number ← Session.resolver name
      Session.onClient (Client.forget number realm)
      pure .nothing
  | clear name => do
      let number ← Session.resolver name
      Session.onClient (Client.clear number)
      pure .nothing
  | entries name => do
      let cache ← cacheNamed name
      pure (.entries (listing cache))
  | configure name config => do
      let config ← Session.config config
      let change ← Session.find name fun
        | .resolver number => some (Client.configureResolver number config)
        | .transport number => some (Client.changeTransport number ({ · with config }))
        | _ => none
      Session.onClient change
      pure .nothing
  | register dispatcher scheme => do
      let number ← Session.dispatcher dispatcher
      let member ← Session.member scheme
      Session.onClient (Client.register number member)
      Action.change fun session =>
        { session with labels := assign session.labels number (session.labels number ++ [scheme]) }
      pure .nothing
  | schemes name => do
      let schemes ← labelled name
      pure (.schemes (schemes.map fun entry => (entry.1, entry.2.name)))
  | select name challenge => do
      let schemes ← labelled name
      let found := schemes.find? fun entry => entry.2.accepts challenge
      pure (.chosen (found.map fun entry => (entry.1, entry.2.name)))
  | authorize name challenge config => do
      let number ← Session.dispatcher name
      let config ← Session.config config
      let handle ← Session.onClient (Client.authorize number challenge config)
      pure (.handle handle)
  | authorizeAny name challenges config => do
      let number ← Session.dispatcher name
      let config ← Session.config config
      let handle ← Session.onClient (Client.authorizeAny number challenges config)
      pure (.handle handle)
  | calls name => do
      let number ← Session.fixedScheme name
      let surroundings ← Session.surroundings
      pure (.count (surroundings.schemes number).calls)

end ResolveStep
end Countersign
