import Countersign.Action
import Countersign.Table

/-!
# Configurations

A configuration answers keys with values, which are raw texts: what the environment has need not be
UTF-8.  Answering is an action on the world that the configuration reads: it may leave traces there,
log, and fail.
-/

namespace Countersign

/-- A source of values for keys. -/
abbrev Config (World : Type) : Type :=
  String → Action World (Option RawText)

namespace Config

/-- What the keys of all realms start with. -/
def keyRoot : String := "http.auth.basic"

/-- The key of the username of a realm. -/
def userKey (realm : String) : String :=
  keyRoot ++ "." ++ realm ++ ".user"

/-- The key of the password of a realm. -/
def passwordKey (realm : String) : String :=
  keyRoot ++ "." ++ realm ++ ".password"

/-- The configuration with the values of a table. -/
def ofTable {World : Type} (values : Table String RawText) : Config World := fun key =>
  pure (values.find? key)

/-- The value of a key in the first of several configurations that has one. -/
def first {World : Type} : List (Config World) → Config World
  | [], _ => pure none
  | config :: configs, key => do
      match ← config key with
      | some value => pure (some value)
      | none => first configs key

/-- Asks a configuration for the value of a key, for all to see. -/
def ask {World : Type} (config : Config World) (key : String) : Action World (Option RawText) := do
  Action.emit (.asked key)
  config key

end Config
end Countersign
