import Countersign.Proofs.Config.Alike
import Countersign.Proofs.Vault.Resolve

/-!
# Caches that differ in passwords

Resolving the same challenge with alike caches and configurations gives records that look the same,
and leaves alike caches: what is looked up, logged and stored does not depend on a password.
-/

namespace Countersign

variable {World : Type}

/-- Whether two records were made at the same time and look the same. -/
structure Record.LookAlike (left right : Record) : Prop where
  serial : left.serial = right.serial
  credentials : left.credentials.LookAlike right.credentials

/-- Whether two caches know the same realms, with records that look the same. -/
structure Cache.Alike (left right : Cache) : Prop where
  made : left.made = right.made
  entries : ∀ realm,
    Option.Rel (Option.Rel Record.LookAlike) (left.find? realm) (right.find? realm)

namespace Cache

variable {left right : Cache}

theorem Alike.store (alike : left.Alike right) (realm : String) {entry other : Option Record}
    (same : Option.Rel Record.LookAlike entry other) :
    (left.store realm entry).Alike (right.store realm other) where
  made := alike.made
  entries := by
    intro asked
    rw [find?_store, find?_store]
    split
    · exact .some same
    · exact alike.entries asked

theorem Alike.forget (alike : left.Alike right) (realm : String) :
    (left.forget realm).Alike (right.forget realm) where
  made := alike.made
  entries := by
    intro asked
    rw [find?_forget, find?_forget]
    split
    · exact .none
    · exact alike.entries asked

theorem Alike.clear (alike : left.Alike right) : left.clear.Alike right.clear where
  made := alike.made
  entries := fun _ => .none

theorem Alike.afterRecord (alike : left.Alike right) :
    left.afterRecord.Alike right.afterRecord where
  made := congrArg (· + 1) alike.made
  entries := alike.entries

theorem Alike.nextRecord (alike : left.Alike right) {credentials other : Credentials}
    (same : credentials.LookAlike other) :
    (left.nextRecord credentials).LookAlike (right.nextRecord other) where
  serial := alike.made
  credentials := same

/-- Whether two records are known for one realm and look the same. -/
def BothKnow (left right : Cache) (record other : Record) : Prop :=
  ∃ realm, left.find? realm = some (some record) ∧ right.find? realm = some (some other) ∧
    record.LookAlike other

theorem bothKnow_of_entries {realm : String} {entry other : Option Record}
    (known : left.find? realm = some entry) (also : right.find? realm = some other)
    (same : Option.Rel Record.LookAlike entry other) :
    Option.Rel (BothKnow left right) entry other := by
  cases same with
  | none => exact .none
  | some alike => exact .some ⟨realm, known, also, alike⟩

end Cache

namespace Vault

open Countersign.Action (Agree)

/-- Whether two vaults have alike caches and related worlds. -/
structure Alike (worlds : World → World → Prop) (left right : Vault World) : Prop where
  cache : left.cache.Alike right.cache
  world : worlds left.world right.world

variable {worlds : World → World → Prop} {config : Config World}

/-- Whether two answers are none, or records that both vaults know for one realm. -/
def Found (left right : Vault World) : Option Record → Option Record → Prop :=
  Option.Rel (Cache.BothKnow left.cache right.cache)

theorem settle_agree (realm : String) {outcome other : Except Failure Credentials}
    (ends : EndsAlike Credentials.LookAlike outcome other) :
    Agree (Alike worlds) (fun _ _ => Option.Rel Record.LookAlike) (settle realm outcome)
      (settle realm other) := by
  intro before also alike
  cases ends with
  | ok same =>
      rw [settle_ok, settle_ok, same.username]
      exact
        { events := rfl
          state := { cache := alike.cache.afterRecord, world := alike.world }
          result := .ok (.some (alike.cache.nextRecord same)) }
  | error failure =>
      by_cases missing : ∃ message realm key, failure = .notFound message realm key
      · obtain ⟨message, about, key, rfl⟩ := missing
        exact { events := rfl, state := alike, result := .ok .none }
      · have other : ∀ message realm key, failure ≠ .notFound message realm key :=
          fun message realm key same => missing ⟨message, realm, key, same⟩
        rw [settle_error other, settle_error other]
        exact { events := rfl, state := alike, result := .error failure }

/-- A look-up logs the same, whatever the password, and stores records that look the same. -/
theorem lookUp_agree (alike : config.IsAlike worlds) (realm : String) :
    Agree (Alike worlds) Found (lookUp realm config) (lookUp realm config) := by
  have asks : Agree (Alike worlds) (fun _ _ => Credentials.LookAlike)
      (onWorld (Credentials.fromConfig realm config))
      (onWorld (Credentials.fromConfig realm config)) :=
    (Credentials.fromConfig_agree alike realm).within (fun _ _ alike => alike.world)
      (fun _ _ _ _ alike related => { alike with world := related })
      (fun _ _ _ _ _ _ same => same)
  have stored (cache : Cache) (entry : Option Record) :
      (cache.store realm entry).find? realm = some entry := by
    rw [Cache.find?_store, if_pos rfl]
  refine asks.attempt.bind fun outcome other before also held ends => ?_
  refine (settle_agree realm ends).bind ?_ before also held
  intro entry known before also held same
  exact
    { events := rfl
      state := { cache := held.cache.store realm same, world := held.world }
      result := .ok (Cache.bothKnow_of_entries (stored _ entry) (stored _ known) same) }

/-- The same challenge is answered with records that look the same. -/
theorem resolve_agree {fallback given : Option (Config World)}
    (alike : ∀ config, given.or fallback = some config → config.IsAlike worlds)
    (challenge : Option String) :
    Agree (Alike worlds) Found (resolve fallback challenge given)
      (resolve fallback challenge given) := by
  intro before also held
  cases parsed : Challenge.parse challenge with
  | error failure =>
      rw [resolve_malformed parsed, resolve_malformed parsed]
      exact { events := rfl, state := held, result := .ok .none }
  | ok realm =>
      have entries := held.cache.entries realm
      generalize known : before.cache.find? realm = entry at entries
      generalize known' : also.cache.find? realm = other at entries
      cases entries with
      | some same =>
          rw [resolve_known parsed known, resolve_known parsed known']
          exact
            { events := rfl, state := held
              result := .ok (Cache.bothKnow_of_entries known known' same) }
      | none =>
          rw [resolve_unknown parsed known, resolve_unknown parsed known']
          cases available : given.or fallback with
          | none => exact { events := rfl, state := held, result := .ok .none }
          | some config => exact lookUp_agree (alike config available) realm before also held

end Vault
end Countersign
