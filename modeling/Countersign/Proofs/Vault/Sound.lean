import Countersign.Proofs.Challenge
import Countersign.Proofs.Keeping
import Countersign.Proofs.Vault.Resolve

/-!
# Caches stay well formed

What is stored for a realm is a record of that realm or the fact that there is none, and the realm
is one that a challenge can name.  Resolving, whatever it does and however it ends, keeps a cache in
this form, drops nothing from it and replaces nothing in it.
-/

namespace Countersign

/-- Whether credentials are those of a realm, and their header line carries them. -/
structure Credentials.IsOf (realm : String) (credentials : Credentials) : Prop where
  realm : credentials.realm = realm
  header : credentials.credentialHeader =
    "Authorization: Basic " ++ encode credentials.username credentials.password

theorem Credentials.isOf_of_realm {realm : String} {credentials : Credentials}
    (same : credentials.realm = realm) : credentials.IsOf realm where
  realm := same
  header := by
    rw [credentialHeader, headerValue, ← String.append_assoc]
    rfl

namespace Cache

/-- Whether a cache knows realms alone that a challenge can name, and for each of them its own
credentials if any. -/
structure IsWellFormed (cache : Cache) : Prop where
  realms : ∀ realm entry, cache.find? realm = some entry → Challenge.IsRealm realm
  records : ∀ realm record, cache.find? realm = some (some record) → record.credentials.IsOf realm

/-- Whether a cache is well formed and has certain entries. -/
structure IsSound (kept : String → Option Record → Prop) (cache : Cache) : Prop
    extends cache.IsWellFormed where
  kept : ∀ realm entry, kept realm entry → cache.find? realm = some entry

variable {kept : String → Option Record → Prop} {cache : Cache}

theorem isWellFormed_of_empty (empty : ∀ realm, cache.find? realm = none) : cache.IsWellFormed where
  realms realm entry known := by
    rw [empty realm] at known
    cases known
  records realm record known := by
    rw [empty realm] at known
    cases known

theorem IsWellFormed.store (wellFormed : cache.IsWellFormed) {realm : String}
    {entry : Option Record} (isRealm : Challenge.IsRealm realm)
    (isOf : ∀ record ∈ entry, record.credentials.IsOf realm) :
    (cache.store realm entry).IsWellFormed where
  realms other found known := by
    rw [find?_store] at known
    split at known
    next same => exact same ▸ isRealm
    next => exact wellFormed.realms other found known
  records other record known := by
    rw [find?_store] at known
    split at known
    next same =>
      cases known
      exact same ▸ isOf record rfl
    next => exact wellFormed.records other record known

/-- A cache that is made of realms with their own credentials is well formed. -/
theorem isWellFormed_ofList {entries : List (String × Option Credentials)}
    (own : ∀ entry ∈ entries, Challenge.IsRealm entry.1 ∧
      ∀ credentials ∈ entry.2, credentials.realm = entry.1) : (ofList entries).IsWellFormed := by
  have start : empty.IsWellFormed := isWellFormed_of_empty fun _ => rfl
  rw [ofList]
  generalize empty = cache at start
  induction entries generalizing cache with
  | nil => exact start
  | cons entry entries induction =>
      obtain ⟨realm, found⟩ := entry
      obtain ⟨isRealm, own_realm⟩ := own _ (.head _)
      rw [List.foldl_cons]
      refine induction (fun other isEntry => own other (.tail _ isEntry)) _ ?_
      cases found with
      | none => exact start.store isRealm nofun
      | some credentials =>
          have stored : ∀ record ∈ some (cache.nextRecord credentials),
              record.credentials.IsOf realm := by
            rintro _ ⟨⟩
            exact Credentials.isOf_of_realm (own_realm credentials rfl)
          have wellFormed := start.store isRealm stored
          exact { realms := wellFormed.realms, records := wellFormed.records }

/-- Storing an entry for an unknown realm keeps all others. -/
theorem IsSound.store (sound : cache.IsSound kept) {realm : String} {entry : Option Record}
    (isRealm : Challenge.IsRealm realm) (unknown : cache.find? realm = none)
    (isOf : ∀ record ∈ entry, record.credentials.IsOf realm) :
    (cache.store realm entry).IsSound kept where
  toIsWellFormed := sound.toIsWellFormed.store isRealm isOf
  kept other found isKept := by
    have known := sound.kept other found isKept
    have different : other ≠ realm := by
      rintro rfl
      rw [unknown] at known
      cases known
    rwa [find?_store, if_neg different]

/-- Dropping a realm of which no entry has to stay keeps all others. -/
theorem IsSound.forget (sound : cache.IsSound kept) {realm : String}
    (free : ∀ entry, ¬kept realm entry) : (cache.forget realm).IsSound kept where
  realms other found known := by
    rw [find?_forget] at known
    split at known
    next => cases known
    next => exact sound.realms other found known
  records other record known := by
    rw [find?_forget] at known
    split at known
    next => cases known
    next => exact sound.records other record known
  kept other found isKept := by
    have different : other ≠ realm := by
      rintro rfl
      exact free found isKept
    rw [find?_forget, if_neg different]
    exact sound.kept other found isKept

/-- A cache may be emptied if no entry has to stay. -/
theorem isSound_clear (free : ∀ realm entry, ¬kept realm entry) : cache.clear.IsSound kept where
  toIsWellFormed := isWellFormed_of_empty (find?_clear cache)
  kept realm entry isKept := absurd isKept (free realm entry)

end Cache

/-- Whether looking a realm up in a configuration keeps a condition on the world and shows certain
events at most, and so do the lines that tell of its outcome. -/
structure Config.Serves {World : Type} (held : World → Prop) (shows : Event → Prop)
    (realm : String) (config : Config World) : Prop where
  keeps : (Credentials.fromConfig realm config).Keeps held shows
    fun credentials => shows (.noted (.resolved realm credentials.username))
  unavailable : ∀ world, held world → ∀ message missing key,
    (Credentials.fromConfig realm config world).result = .error (.notFound message missing key) →
    shows (.noted (.unavailable realm key))

namespace Vault

open Countersign.Action (Keeps)

variable {World : Type} {held : World → Prop} {shows : Event → Prop}
  {kept : String → Option Record → Prop} {fallback config : Option (Config World)}
  {challenge : Option String} {realm : String} {vault : Vault World}

/-- Whether a vault has a sound cache and meets a condition on the world. -/
structure IsSound (kept : String → Option Record → Prop) (held : World → Prop)
    (vault : Vault World) : Prop where
  cache : vault.cache.IsSound kept
  world : held vault.world

/-- A look-up of an unknown realm stores what it gives, if it does not break off. -/
theorem lookUp_meets {config : Config World} (sound : vault.IsSound kept held)
    (serves : config.Serves held shows realm) (isRealm : Challenge.IsRealm realm)
    (unknown : vault.cache.find? realm = none) :
    (lookUp realm config vault).Meets (IsSound kept held) shows
      fun answer => ∀ record ∈ answer, record.credentials.IsOf realm := by
  have looked := serves.keeps vault.world sound.world
  have shown : ∀ notice, shows (.noted notice) →
      ∀ event ∈ (Credentials.fromConfig realm config vault.world).events ++ [.noted notice],
        shows event := by
    intro notice also
    refine List.forall_mem_append.mpr ⟨looked.events, fun event observed => ?_⟩
    rwa [List.mem_singleton.mp observed]
  rcases ended : (Credentials.fromConfig realm config vault.world).result with failure | credentials
  · by_cases missing : ∃ message missing key, failure = .notFound message missing key
    · obtain ⟨message, missing, key, rfl⟩ := missing
      rw [lookUp_missing ended]
      have unavailable := serves.unavailable vault.world sound.world message missing key ended
      exact
        { state := ⟨sound.cache.store isRealm unknown nofun, looked.state⟩
          events := shown _ unavailable
          value := by
            rintro _ ⟨⟩
            nofun }
    · rw [lookUp_failed ended fun message other key same => missing ⟨message, other, key, same⟩]
      exact
        { state := ⟨sound.cache, looked.state⟩
          events := looked.events
          value := nofun }
  · have isOf := Credentials.isOf_of_realm (Credentials.realm_of_fromConfig ended)
    have stored : ∀ record ∈ some (vault.cache.nextRecord credentials),
        record.credentials.IsOf realm := by
      rintro _ ⟨⟩
      exact isOf
    have counted : vault.cache.afterRecord.IsSound kept :=
      { realms := sound.cache.realms, records := sound.cache.records, kept := sound.cache.kept }
    rw [lookUp_found ended]
    exact
      { state := ⟨counted.store isRealm unknown stored, looked.state⟩
        events := shown _ (looked.value credentials ended)
        value := by
          rintro _ ⟨⟩
          exact stored }

/-- Resolving gives credentials of the realm that the challenge is for, if any. -/
theorem resolve_keeps
    (ignored : ∀ failure, Challenge.parse challenge = .error failure →
      shows (.noted (.ignored failure)))
    (unconfigured : ∀ realm, Challenge.IsRealm realm → shows (.noted (.unconfigured realm)))
    (serves : ∀ given, config.or fallback = some given → ∀ realm, Challenge.IsRealm realm →
      given.Serves held shows realm) :
    (resolve fallback challenge config).Keeps (IsSound kept held) shows
      fun answer => ∀ record ∈ answer, ∃ realm, Challenge.parse challenge = .ok realm ∧
        record.credentials.IsOf realm := by
  intro vault sound
  cases parsed : Challenge.parse challenge with
  | error failure =>
      rw [resolve_malformed parsed]
      exact Keeps.note_bind (ignored failure parsed) (.pure nofun) vault sound
  | ok realm =>
      have isRealm : Challenge.IsRealm realm := by
        obtain ⟨text, -, isFor⟩ := Challenge.parse_eq_ok_iff.mp parsed
        exact isFor.1
      suffices meets : (resolve fallback challenge config vault).Meets (IsSound kept held) shows
          fun answer => ∀ record ∈ answer, record.credentials.IsOf realm from
        { meets with
          value := fun answer ended record isAnswer =>
            ⟨realm, rfl, meets.value answer ended record isAnswer⟩ }
      cases looked : vault.cache.find? realm with
      | some entry =>
          rw [resolve_known parsed looked]
          refine Keeps.pure (fun record isEntry => ?_) vault sound
          cases isEntry
          exact sound.cache.records realm record looked
      | none =>
          rw [resolve_unknown parsed looked]
          cases available : config.or fallback with
          | none => exact Keeps.note_bind (unconfigured realm isRealm) (.pure nofun) vault sound
          | some given =>
              exact lookUp_meets sound (serves given available realm isRealm) isRealm looked

theorem forget_keeps (free : ∀ entry, ¬kept realm entry) :
    (forget realm : Action (Vault World) Unit).Keeps (IsSound kept held) shows fun _ => True :=
  .change fun _ sound => ⟨sound.cache.forget free, sound.world⟩

theorem clear_keeps (free : ∀ realm entry, ¬kept realm entry) :
    (clear : Action (Vault World) Unit).Keeps (IsSound kept held) shows fun _ => True :=
  .change fun _ sound => ⟨Cache.isSound_clear free, sound.world⟩

end Vault
end Countersign
