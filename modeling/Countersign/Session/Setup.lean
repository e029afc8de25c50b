import Countersign.Session.Basic

/-!
# Setting a session up

Every part of a session is described by what it is made of, its own parts being given by name.
-/

namespace Countersign

/-- A table without the keys that have no value. -/
def Table.ofOptions (pairs : List (String × Option RawText)) : Table String RawText :=
  Table.ofList (pairs.filterMap fun pair => pair.2.map fun value => (pair.1, value))

/-- What a part of a session is made of. -/
inductive Setup where
  /-- A provider of the given values. -/
  | table (values : List (String × Option RawText))
  /-- A provider of the values that another provider has now. -/
  | copy (source : String)
  /-- A provider that keeps the keys it is asked. -/
  | recorder (values : List (String × Option RawText))
  /-- A provider of the username and the password of a realm that keeps the keys it is asked. -/
  | recorderFor (realm : String) (username password : Option RawText)
  /-- A provider behind a key whose first look-ups fail. -/
  | faulty (values : List (String × Option RawText)) (key message : String) (times : Nat)
  /-- A provider of environment variables. -/
  | environment (lead : String) (place : Option String) (loads : Bool)
  /-- A chain of providers. -/
  | chain (providers : List String)
  /-- A cache. -/
  | cache (entries : List (String × Option Credentials))
  /-- A resolver over a cache, or over one of its own. -/
  | resolver (config cache : Option String)
  /-- A fixed scheme. -/
  | scheme (scheme : FixedScheme)
  /-- A dispatcher. -/
  | dispatcher (schemes : List String)
  /-- A transport. -/
  | transport (dispatcher : String) (config : Option String) (preemptive suppresses : Bool)

namespace Setup

/-- The values that a provider has. -/
def valuesOf : Provider → Table String RawText
  | .table values | .recorder values _ | .faulty values _ _ _ => values
  | .environment _ _ _ | .chain _ => .empty

/-- Adds a provider. -/
def addProvider (provider : Provider) : Action Session Part := do
  let surroundings ← Session.surroundings
  Session.onSurroundings (Action.change (·.addProvider provider))
  pure (.provider surroundings.count)

/-- Gives a cache its entries. -/
def fillCache (number : Nat) (cache : Cache) : Action Session Unit :=
  Session.onClient <| Client.onVaults <| Action.change fun vaults =>
    { vaults with caches := assign vaults.caches number cache }

/-- Makes a part. -/
def make : Setup → Action Session Part
  | table values => addProvider (.table (.ofOptions values))
  | copy source => do
      let number ← Session.provider source
      let surroundings ← Session.surroundings
      addProvider (.table (valuesOf (surroundings.providers number)))
  | recorder values => addProvider (.recorder (.ofOptions values) [])
  | recorderFor realm username password =>
      addProvider
        (.recorder
          (.ofOptions [(Config.userKey realm, username), (Config.passwordKey realm, password)]) [])
  | faulty values key message times => addProvider (.faulty (.ofOptions values) key message times)
  | environment lead place loads => do
      let surroundings ← Session.surroundings
      Session.onSurroundings (Surroundings.addVariables lead place loads)
      pure (.provider surroundings.count)
  | chain providers => do
      let members ← providers.mapM Session.provider
      addProvider (.chain members)
  | cache entries => do
      let number ← Session.freshNumber
      fillCache number (.ofList entries)
      pure (.cache number)
  | resolver config shared => do
      let config ← Session.config config
      let number ← Session.freshNumber
      let cache ← match shared with
        | some name => Session.cache name
        | none => do
            fillCache number .empty
            pure number
      Session.onClient <| Action.change fun client =>
        { client with resolvers := assign client.resolvers number { cache, config } }
      pure (.resolver number)
  | scheme fixed => do
      let number ← Session.freshNumber
      Session.onSurroundings <| Action.change fun surroundings =>
        { surroundings with schemes := assign surroundings.schemes number fixed }
      pure (.scheme number)
  | dispatcher schemes => do
      let members ← schemes.mapM Session.member
      let number ← Session.freshNumber
      Action.change fun session =>
        { session with
          client :=
            { session.client with
              dispatchers := assign session.client.dispatchers number members }
          labels := assign session.labels number schemes }
      pure (.dispatcher number)
  | transport asked config preemptive suppresses => do
      let dispatcher ← Session.dispatcher asked
      let config ← Session.config config
      let number ← Session.freshNumber
      Action.change fun session =>
        { session with
          client :=
            { session.client with
              carriers :=
                assign session.client.carriers number
                  { dispatcher, transport := { config, preemptive, remembered := .empty } } }
          suppresses := assign session.suppresses number suppresses }
      pure (.transport number)

/-- Makes a part and gives it a name. -/
def perform (name : String) (setup : Setup) : Action Session Answer := do
  let part ← setup.make
  Session.setName name part
  pure .nothing

end Setup
end Countersign
