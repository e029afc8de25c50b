import Countersign.Credentials
import Countersign.Table

/-!
# Caches

A cache holds for a realm either a record of its credentials or the fact that they are
unavailable.  Records are numbered as they are made, so two records of one cache are the same if
their numbers are.
-/

namespace Countersign

/-- Credentials with the number that tells them from other records of their cache. -/
structure Record where
  /-- How many records had been made before. -/
  serial : Nat
  /-- The credentials. -/
  credentials : Credentials
  deriving DecidableEq, Repr

/-- What is known about realms. -/
structure Cache where
  /-- The record of each known realm, or `none` if its credentials are unavailable. -/
  entries : Table String (Option Record)
  /-- How many records have been made. -/
  made : Nat

namespace Cache

/-- The cache that knows nothing. -/
def empty : Cache :=
  { entries := .empty, made := 0 }

/-- What is known about a realm. -/
def find? (cache : Cache) (realm : String) : Option (Option Record) :=
  cache.entries.find? realm

/-- The cache with knowledge about a realm. -/
def store (cache : Cache) (realm : String) (entry : Option Record) : Cache :=
  { cache with entries := cache.entries.insert realm entry }

/-- The cache without knowledge about a realm. -/
def forget (cache : Cache) (realm : String) : Cache :=
  { cache with entries := cache.entries.erase realm }

/-- The cache without knowledge. -/
def clear (cache : Cache) : Cache :=
  { cache with entries := .empty }

/-- The next record of a cache. -/
def nextRecord (cache : Cache) (credentials : Credentials) : Record :=
  { serial := cache.made, credentials }

/-- The cache after its next record has been made. -/
def afterRecord (cache : Cache) : Cache :=
  { cache with made := cache.made + 1 }

/-- The cache of a list of realms with their credentials, where those are available. -/
def ofList (entries : List (String × Option Credentials)) : Cache :=
  entries.foldl (fun cache entry =>
    match entry.2 with
    | some credentials => (cache.store entry.1 (some (cache.nextRecord credentials))).afterRecord
    | none => cache.store entry.1 none) empty

end Cache
end Countersign
