import Countersign.Client
import Countersign.Config.Surroundings

/-!
# Sessions

A session is a client over concrete surroundings whose parts have names.  A name stands for the
part it was last given to; parts keep working for others when their name goes to another part.
-/

namespace Countersign

/-- A part of a session. -/
inductive Part where
  /-- A provider of configuration values. -/
  | provider (number : Nat)
  /-- A cache. -/
  | cache (number : Nat)
  /-- A resolver of Basic challenges. -/
  | resolver (number : Nat)
  /-- A fixed scheme. -/
  | scheme (number : Nat)
  /-- A dispatcher. -/
  | dispatcher (number : Nat)
  /-- A transport. -/
  | transport (number : Nat)
  deriving DecidableEq, Repr

/-- A client whose parts have names. -/
structure Session where
  /-- The parts. -/
  client : Client Surroundings
  /-- The part that each name stands for. -/
  names : Table String Part
  /-- A number that no part has, apart from providers, nor any number above it. -/
  fresh : Nat
  /-- The names of the schemes of the dispatchers, as they were when the schemes were added. -/
  labels : Nat → List String
  /-- Whether what carries the requests of a transport holds back the failure that it is left
  with. -/
  suppresses : Nat → Bool

/-- What a step of a session answers. -/
inductive Answer where
  /-- Nothing. -/
  | nothing
  /-- A truth value. -/
  | flag (value : Bool)
  /-- A text. -/
  | text (value : String)
  /-- A value, if there is one. -/
  | value (value : Option RawText)
  /-- A number. -/
  | count (value : Nat)
  /-- An answer to a challenge, if there is one. -/
  | handle (value : Option Handle)
  /-- The keys that a provider has been asked. -/
  | keys (keys : List String)
  /-- What a cache knows, by realm. -/
  | entries (entries : List (String × Option Handle))
  /-- What several threads got, and how often they asked the given configuration. -/
  | gathered (records : List (Option Record)) (lookups : Nat)
  /-- The names of schemes with what the schemes are called. -/
  | schemes (schemes : List (String × String))
  /-- The name of a scheme with what the scheme is called, if there is one. -/
  | chosen (scheme : Option (String × String))
  /-- An exchange that is over, and the header values remembered after it by origin. -/
  | exchanged (exchange : Exchange) (remembered : List (Origin × String))
  /-- What came back from what carries requests, if anything did. -/
  | returned (value : Option Bool)

namespace Answer

/-- How many different records there are among several, the absence of a record being one. -/
def distinct (records : List (Option Record)) : Nat :=
  (records.map fun record => record.map (·.serial)).eraseDups.length

end Answer

namespace Session

/-- A session without parts. -/
def start (environment : Environment) (files : Files) : Session :=
  { client := .start (.start Environment.loader environment files)
    names := .empty
    fresh := 0
    labels := fun _ => []
    suppresses := fun _ => false }

variable {Value : Type}

/-- Runs an action on the client alone. -/
def onClient (action : Action (Client Surroundings) Value) : Action Session Value :=
  action.within (·.client) fun session client => { session with client }

/-- Runs an action on the surroundings alone. -/
def onSurroundings (action : Action Surroundings Value) : Action Session Value :=
  onClient (Client.onWorld action)

/-- The surroundings as they are now. -/
def surroundings : Action Session Surroundings :=
  onSurroundings Action.current

/-- The part of a kind that a name stands for. -/
def find (name : String) (kind : Part → Option Value) : Action Session Value := do
  let session ← Action.current
  match (session.names.find? name).bind kind with
  | some value => pure value
  | none => Action.fail (.unknown name)

/-- The number of the provider that a name stands for. -/
def provider (name : String) : Action Session Nat :=
  find name fun
    | .provider number => some number
    | _ => none

/-- The number of the cache that a name stands for. -/
def cache (name : String) : Action Session Nat :=
  find name fun
    | .cache number => some number
    | _ => none

/-- The number of the resolver that a name stands for. -/
def resolver (name : String) : Action Session Nat :=
  find name fun
    | .resolver number => some number
    | _ => none

/-- The number of the fixed scheme that a name stands for. -/
def fixedScheme (name : String) : Action Session Nat :=
  find name fun
    | .scheme number => some number
    | _ => none

/-- The number of the dispatcher that a name stands for. -/
def dispatcher (name : String) : Action Session Nat :=
  find name fun
    | .dispatcher number => some number
    | _ => none

/-- The number of the transport that a name stands for. -/
def transport (name : String) : Action Session Nat :=
  find name fun
    | .transport number => some number
    | _ => none

/-- The configuration that a name stands for, if a name is given. -/
def config : Option String → Action Session (Option (Config Surroundings))
  | none => pure none
  | some name => do
      let number ← provider name
      pure (some (Surroundings.config number))

/-- The scheme that a name stands for, as a dispatcher has it. -/
def member (name : String) : Action Session (Member Surroundings) := do
  let surroundings ← surroundings
  find name fun
    | .resolver number => some (.basic number)
    | .scheme number => some (.other (surroundings.scheme number))
    | _ => none

/-- Lets a name stand for a part. -/
def setName (name : String) (part : Part) : Action Session Unit :=
  Action.change fun session => { session with names := session.names.insert name part }

/-- A number that no part has, apart from providers. -/
def freshNumber : Action Session Nat := do
  let session ← Action.current
  Action.change fun session => { session with fresh := session.fresh + 1 }
  pure session.fresh

end Session
end Countersign
