import Countersign.Challenge
import Countersign.Vault.Cache

/-!
# Resolving Basic challenges

A challenge for a realm is answered from the cache if the realm is known there.  Otherwise the
realm is looked up and the outcome is stored, also if the credentials are unavailable.  Without
anything to look the realm up in, and where the look-up fails for another reason, the cache stays
as it is.
-/

namespace Countersign

/-- A cache and the world that configurations read. -/
structure Vault (World : Type) where
  /-- What is known about realms. -/
  cache : Cache
  /-- What configurations read. -/
  world : World

namespace Vault

variable {World Value : Type}

/-- Runs an action on the world alone. -/
def onWorld (action : Action World Value) : Action (Vault World) Value :=
  action.within (·.world) fun vault world => { vault with world }

/-- Changes the cache alone. -/
def onCache (change : Cache → Cache) : Action (Vault World) Unit :=
  Action.change fun vault => { vault with cache := change vault.cache }

/-- What is known about a realm. -/
def entryFor (realm : String) : Action (Vault World) (Option (Option Record)) := do
  let vault ← Action.current
  pure (vault.cache.find? realm)

/-- Makes a record. -/
def makeRecord (credentials : Credentials) : Action (Vault World) Record := do
  let vault ← Action.current
  onCache Cache.afterRecord
  pure (vault.cache.nextRecord credentials)

/-- Turns the outcome of looking a realm up into the entry for it: a missing value makes the
credentials unavailable, and any other failure remains one. -/
def settle (realm : String) : Except Failure Credentials → Action (Vault World) (Option Record)
  | .ok credentials => do
      Action.note (.resolved realm credentials.username)
      let record ← makeRecord credentials
      pure (some record)
  | .error (.notFound _ _ key) => do
      Action.note (.unavailable realm key)
      pure none
  | .error failure => Action.fail failure

/-- Looks a realm up and stores the outcome. -/
def lookUp (realm : String) (config : Config World) : Action (Vault World) (Option Record) := do
  let outcome ← Action.attempt (onWorld (Credentials.fromConfig realm config))
  let entry ← settle realm outcome
  onCache (·.store realm entry)
  pure entry

/-- The record for a realm that is not known, looked up in the configuration at hand. -/
def consult (realm : String) : Option (Config World) → Action (Vault World) (Option Record)
  | some config => lookUp realm config
  | none => do
      Action.note (.unconfigured realm)
      pure none

/-- The record that answers a challenge, with a configuration for this challenge or else the one
to fall back on. -/
def resolve (fallback : Option (Config World)) (challenge : Option String)
    (config : Option (Config World)) : Action (Vault World) (Option Record) := do
  match Challenge.parse challenge with
  | .error failure => do
      Action.note (.ignored failure)
      pure none
  | .ok realm => do
      match ← entryFor realm with
      | some entry => pure entry
      | none => consult realm (config.or fallback)

/-- Drops what is known about a realm. -/
def forget (realm : String) : Action (Vault World) Unit :=
  onCache (·.forget realm)

/-- Drops everything that is known. -/
def clear : Action (Vault World) Unit :=
  onCache Cache.clear

end Vault
end Countersign
