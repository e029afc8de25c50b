import Countersign.Session.Setup

/-!
# Working on the configuration of a session

Steps that read and change providers, environment variables and files.
-/

namespace Countersign

/-- A step that reads or changes configuration. -/
inductive ConfigStep where
  /-- The value of a key in a provider. -/
  | get (provider key : String)
  /-- Gives a key of a provider a value, or none. -/
  | set (provider key : String) (value : Option RawText)
  /-- The keys that a provider has been asked. -/
  | keysAsked (provider : String)
  /-- Adds a provider at the end of a chain. -/
  | extend (chain provider : String)
  /-- Sets a variable, or unsets it. -/
  | setVariable (name : String) (value : Option RawText)
  /-- The value of a variable. -/
  | readVariable (name : String)
  /-- Puts something at a place in the file system. -/
  | write (place : String) (file : File)
  /-- The name of the variable in which a provider looks for a key. -/
  | variableName (provider key : String)
  /-- Whether a provider has taken its file over. -/
  | isLoaded (provider : String)
  /-- Lets a provider take its file over, in one call or in one call by each of several threads. -/
  | ensureLoaded (provider : String) (threads : Nat)

namespace ConfigStep

/-- A table in which a key has a value, or none. -/
def put (values : Table String RawText) (key : String) : Option RawText → Table String RawText
  | some value => values.insert key value
  | none => values.erase key

/-- A provider in whose table a key has a value, or none. -/
def putInto (key : String) (value : Option RawText) : Provider → Provider
  | .table values => .table (put values key value)
  | .recorder values requested => .recorder (put values key value) requested
  | .faulty values failing message remaining =>
      .faulty (put values key value) failing message remaining
  | .environment lead place loaded => .environment lead place loaded
  | .chain members => .chain members

/-- The provider that a name stands for, as it is now. -/
def providerNamed (name : String) : Action Session Provider := do
  let number ← Session.provider name
  let surroundings ← Session.surroundings
  pure (surroundings.providers number)

/-- Changes the provider that a name stands for. -/
def changeProvider (name : String) (change : Provider → Provider) : Action Session Unit := do
  let number ← Session.provider name
  Session.onSurroundings <| Action.change fun surroundings =>
    surroundings.setProvider number (change (surroundings.providers number))

/-- Performs a step. -/
def perform : ConfigStep → Action Session Answer
  | get name key => do
      let number ← Session.provider name
      let value ← Session.onSurroundings (Surroundings.config number key)
      pure (.value value)
  | set name key value => do
      changeProvider name (putInto key value)
      pure .nothing
  | keysAsked name => do
      match ← providerNamed name with
      | .recorder _ requested => pure (.keys requested)
      | _ => Action.fail (.unknown name)
  | extend chain provider => do
      let number ← Session.provider provider
      changeProvider chain fun
        | .chain members => .chain (members ++ [number])
        | other => other
      pure .nothing
  | setVariable name value => do
      Session.onSurroundings <| Surroundings.onEnvironment <|
        match value with
        | some value => Environment.set name value
        | none => Action.change (·.erase name)
      pure .nothing
  | readVariable name => do
      let surroundings ← Session.surroundings
      pure (.value (surroundings.environment.find? name))
  | write place file => do
      Session.onSurroundings <| Action.change fun surroundings =>
        { surroundings with files := surroundings.files.insert place file }
      pure .nothing
  | variableName name key => do
      match ← providerNamed name with
      | .environment lead _ _ => pure (.text (Environment.variableName lead key))
      | _ => Action.fail (.unknown name)
  | isLoaded name => do
      match ← providerNamed name with
      | .environment _ _ loaded => pure (.flag loaded)
      | _ => Action.fail (.unknown name)
  | ensureLoaded name threads => do
      let number ← Session.provider name
      Session.onSurroundings <|
        if threads = 0 then Surroundings.ensureLoaded number
        else Surroundings.ensureLoadedTogether number threads
      match ← providerNamed name with
      | .environment _ _ loaded => pure (.flag loaded)
      | _ => Action.fail (.unknown name)

end ConfigStep
end Countersign
