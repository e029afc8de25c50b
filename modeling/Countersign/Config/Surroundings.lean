import Countersign.Config.Environment
import Countersign.Config.Loading
import Countersign.Config.Source
import Countersign.Numbered
import Countersign.Scheme.Fixed

/-!
# Surroundings

The world that the providers of configuration live in: the environment variables, the files and what
takes them over, the providers themselves by number, and the fixed schemes with their counts.
Reading a provider is an action on the surroundings, and a chain of providers is read like the tree
of its members.
-/

namespace Countersign

/-- A provider of configuration values. -/
inductive Provider where
  /-- Values in a table. -/
  | table (values : Table String RawText)
  /-- Values in a table, with the keys that have been asked. -/
  | recorder (values : Table String RawText) (requested : List String)
  /-- Values in a table behind a key whose next look-ups fail. -/
  | faulty (values : Table String RawText) (key message : String) (remaining : Nat)
  /-- The environment, with the beginning of its variables' names, the file to take over, and
  whether that has been done. -/
  | environment (lead : String) (place : Option String) (loaded : Bool)
  /-- Other providers, by number, in order of priority. -/
  | chain (members : List Nat)

/-- What configurations read. -/
structure Surroundings where
  /-- The variables that are set. -/
  environment : Environment
  /-- The files. -/
  files : Files
  /-- What takes a file over into the environment. -/
  loader : Loader
  /-- The providers by number. -/
  providers : Nat → Provider
  /-- How many providers there are. -/
  count : Nat
  /-- The fixed schemes by number. -/
  schemes : Nat → FixedScheme

namespace Surroundings

/-- Surroundings without providers and schemes. -/
def start (loader : Loader) (environment : Environment) (files : Files) : Surroundings :=
  { environment, files, loader, count := 0
    providers := fun _ => .table .empty
    schemes := fun _ => .silent }

/-- The surroundings in which a number has another provider. -/
def setProvider (surroundings : Surroundings) (number : Nat) (provider : Provider) : Surroundings :=
  { surroundings with providers := assign surroundings.providers number provider }

/-- The surroundings with one more provider. -/
def addProvider (surroundings : Surroundings) (provider : Provider) : Surroundings :=
  { surroundings.setProvider surroundings.count provider with count := surroundings.count + 1 }

/-- The value of a key in a provider other than a chain. -/
def read (number : Nat) : Config Surroundings := fun key => do
  let surroundings ← Action.current
  match surroundings.providers number with
  | .table values => pure (values.find? key)
  | .recorder values requested => do
      Action.change (·.setProvider number (.recorder values (requested ++ [key])))
      pure (values.find? key)
  | .faulty values failing message remaining =>
      match if key = failing then remaining else 0 with
      | 0 => pure (values.find? key)
      | remaining + 1 => do
          Action.change (·.setProvider number (.faulty values failing message remaining))
          Action.fail (.broken message)
  | .environment lead _ _ =>
      let name := Environment.variableName lead key
      match surroundings.environment.find? name with
      | some value => do
          Action.note (.fromVariable key name)
          pure (some value)
      | none => pure none
  | .chain _ => Action.fail .endless

/-- The value of a key in a provider, of which no chain of chains is longer than the given depth.
-/
def value (surroundings : Surroundings) : Nat → Nat → Config Surroundings
  | 0, number, key => read number key
  | depth + 1, number, key =>
      match surroundings.providers number with
      | .chain members => Config.first (members.map (surroundings.value depth)) key
      | _ => read number key

/-- The tree of a provider, of which no branch is longer than the given depth. -/
def source (surroundings : Surroundings) : Nat → Nat → Source Surroundings
  | 0, number => .leaf (read number)
  | depth + 1, number =>
      match surroundings.providers number with
      | .chain members => .chain (members.map (surroundings.source depth))
      | _ => .leaf (read number)

theorem value_eq_get_source (surroundings : Surroundings) (depth number : Nat) :
    surroundings.value depth number = (surroundings.source depth number).get := by
  induction depth generalizing number with
  | zero => rfl
  | succ depth induction =>
      funext key
      simp only [value, source]
      split
      · simp only [Source.get, Source.firstValue_eq_first, List.map_map]
        congr 2
        funext member
        exact induction member
      · rfl

/-- A provider as a configuration.  A tree deeper than there are providers contains itself. -/
def config (number : Nat) : Config Surroundings := fun key => do
  let surroundings ← Action.current
  surroundings.value surroundings.count number key

/-- Runs an action on the environment alone. -/
def onEnvironment {Value : Type} (action : Action Environment Value) :
    Action Surroundings Value :=
  action.within (·.environment) fun surroundings environment => { surroundings with environment }

/-- Takes a file over into the environment. -/
def load (place : Option String) : Action Surroundings Unit := fun surroundings =>
  let (result, environment) :=
    surroundings.loader surroundings.files place surroundings.environment
  { result, state := { surroundings with environment }, events := [] }

/-- Takes the file of a provider over unless that has been done. -/
def ensureLoaded (number : Nat) : Action Surroundings Unit := do
  let surroundings ← Action.current
  match surroundings.providers number with
  | .environment lead place false => do
      Loading.reported (load place)
      Action.change (·.setProvider number (.environment lead place true))
  | _ => pure ()

/-- Takes the file of a provider over by several threads that all find that it has not been done.
-/
def ensureLoadedTogether (number threads : Nat) : Action Surroundings Unit := fun surroundings =>
  match surroundings.providers number with
  | .environment lead place loaded =>
      let calls := fun thread => if thread < threads then 1 else 0
      let final := (Loading.State.start surroundings loaded calls).run (load place)
        (Loading.crowd threads)
      { result := .ok ()
        state := final.world.setProvider number (.environment lead place final.loaded)
        events := final.events }
  | _ => { result := .ok (), state := surroundings, events := [] }

/-- Adds a provider of environment variables, which takes its file over at once if asked to. -/
def addVariables (lead : String) (place : Option String) (loads : Bool) :
    Action Surroundings Unit := do
  let surroundings ← Action.current
  Action.change (·.addProvider (.environment lead place false))
  if loads then ensureLoaded surroundings.count

/-- A fixed scheme as a scheme that counts the challenges it is given. -/
def scheme (surroundings : Surroundings) (number : Nat) :
    Scheme Surroundings (Config Surroundings) :=
  { name := (surroundings.schemes number).name
    accepts := (surroundings.schemes number).accepts
    resolve := fun _ _ => do
      Action.change fun surroundings =>
        { surroundings with
          schemes := assign surroundings.schemes number (surroundings.schemes number).counted }
      let surroundings ← Action.current
      Action.ofResult (surroundings.schemes number).answer }

end Surroundings
end Countersign
