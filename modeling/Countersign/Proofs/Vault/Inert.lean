import Countersign.Proofs.Config.Inert
import Countersign.Proofs.Threads.Sequential

/-!
# Calls with inert configurations

In vaults with the same cache and worlds that are taken for the same, a call with an inert
configuration comes to the same.  In whichever vault it is made, the world is afterwards taken for
the same as before.
-/

namespace Countersign

open Countersign.Action (Agree Keeps)

variable {World : Type} {worlds : World → World → Prop} {fallback : Option (Config World)}

namespace Vault

/-- Whether two vaults have the same cache, and related worlds. -/
structure SameBut (worlds : World → World → Prop) (left right : Vault World) : Prop where
  cache : left.cache = right.cache
  world : worlds left.world right.world

/-- What is done comes to the same in the same vault. -/
theorem agree_self {Value : Type} (action : Action (Vault World) Value) :
    Agree (SameBut Eq) (fun _ _ => Eq) action action := by
  rintro ⟨cache, world⟩ ⟨_, _⟩ ⟨rfl, rfl⟩
  refine { events := rfl, state := ⟨rfl, rfl⟩, result := ?_ }
  cases (action { cache, world }).result with
  | ok value => exact .ok rfl
  | error failure => exact .error failure

theorem onCache_agree_eq (change : Cache → Cache) :
    Agree (SameBut worlds) (fun _ _ => Eq) (onCache change) (onCache change) :=
  (Agree.change fun _ _ same => { same with cache := congrArg change same.cache }).imp
    fun _ _ _ _ _ => rfl

theorem settle_agree_eq (realm : String) (outcome : Except Failure Credentials) :
    Agree (SameBut worlds) (fun _ _ => Eq) (settle realm outcome) (settle realm outcome) := by
  have made (credentials : Credentials) :
      Agree (SameBut worlds) (fun _ _ => Eq) (makeRecord credentials) (makeRecord credentials) := by
    refine Agree.current.bind ?_
    rintro before also _ _ same ⟨rfl, rfl⟩
    rw [same.cache]
    exact ((onCache_agree_eq _).map fun _ _ _ _ _ => rfl) before also same
  unfold settle
  split
  · refine .note_bind _ ((made _).bind ?_)
    rintro record _ before also same rfl
    exact { events := rfl, state := same, result := .ok rfl }
  · exact .note_bind _ (.pure fun _ _ _ => rfl)
  · exact fun _ _ same => { events := rfl, state := same, result := .error _ }

theorem lookUp_agree_eq {config : Config World}
    (agrees : ∀ key, Agree worlds (fun _ _ => Eq) (config key) (config key)) (realm : String) :
    Agree (SameBut worlds) (fun _ _ => Eq) (lookUp realm config) (lookUp realm config) := by
  have asks : Agree (SameBut worlds) (fun _ _ => Eq)
      (onWorld (Credentials.fromConfig realm config))
      (onWorld (Credentials.fromConfig realm config)) :=
    (Credentials.fromConfig_agree_eq agrees realm).within (fun _ _ same => same.world)
      (fun _ _ _ _ same related => { same with world := related })
      (fun _ _ _ _ _ _ same => same)
  refine asks.attempt.bind fun outcome other before also held ends => ?_
  obtain rfl := EndsAlike.eq ends
  refine (settle_agree_eq realm outcome).bind ?_ before also held
  rintro entry _ before also same rfl
  exact ((onCache_agree_eq _).map fun _ _ _ _ _ => rfl) before also same

/-- A challenge is answered the same in vaults that are taken for the same. -/
theorem resolve_agree_eq {given : Option (Config World)}
    (agrees : ∀ config, given.or fallback = some config →
      ∀ key, Agree worlds (fun _ _ => Eq) (config key) (config key)) (challenge : Option String) :
    Agree (SameBut worlds) (fun _ _ => Eq) (resolve fallback challenge given)
      (resolve fallback challenge given) := by
  intro before also same
  cases parsed : Challenge.parse challenge with
  | error failure =>
      rw [resolve_malformed parsed, resolve_malformed parsed]
      exact { events := rfl, state := same, result := .ok rfl }
  | ok realm =>
      cases known : before.cache.find? realm with
      | some entry =>
          rw [resolve_known parsed known, resolve_known parsed (same.cache ▸ known)]
          exact { events := rfl, state := same, result := .ok rfl }
      | none =>
          rw [resolve_unknown parsed known, resolve_unknown parsed (same.cache ▸ known)]
          cases available : given.or fallback with
          | none => exact { events := rfl, state := same, result := .ok rfl }
          | some config => exact lookUp_agree_eq (agrees config available) realm before also same

variable {held : World → Prop}

theorem onCache_keeps_world (held : World → Prop) (change : Cache → Cache) :
    (onCache change).Keeps (fun vault => held vault.world) (fun _ => True) fun _ => True :=
  .change fun _ kept => kept

theorem settle_keeps_world (realm : String) (outcome : Except Failure Credentials) :
    (settle realm outcome).Keeps (fun vault => held vault.world) (fun _ => True)
      fun _ => True := by
  have made (credentials : Credentials) :
      (makeRecord credentials).Keeps (fun vault : Vault World => held vault.world) (fun _ => True)
        fun _ => True :=
    Keeps.current.bind fun _ _ => (onCache_keeps_world held _).bind fun _ _ => .pure trivial
  unfold settle
  split
  · exact .note_bind trivial ((made _).bind fun _ _ => .pure trivial)
  · exact .note_bind trivial (.pure trivial)
  · exact .fail _

theorem lookUp_keeps_world {config : Config World}
    (keeps : ∀ key, (config key).Keeps held (fun _ => True) fun _ => True) (realm : String) :
    (lookUp realm config).Keeps (fun vault => held vault.world) (fun _ => True)
      fun _ => True := by
  have asks : (onWorld (Credentials.fromConfig realm config)).Keeps
      (fun vault : Vault World => held vault.world) (fun _ => True) fun _ => True :=
    (Credentials.fromConfig_keeps keeps realm).within (fun _ kept => kept) fun _ _ _ kept => kept
  exact asks.attempt.bind fun outcome _ => (settle_keeps_world realm outcome).bind fun entry _ =>
    (onCache_keeps_world held _).bind fun _ _ => .pure trivial

/-- Answering a challenge keeps what asking keeps. -/
theorem resolve_keeps_world {given : Option (Config World)}
    (keeps : ∀ config, given.or fallback = some config →
      ∀ key, (config key).Keeps held (fun _ => True) fun _ => True) (challenge : Option String) :
    (resolve fallback challenge given).Keeps (fun vault => held vault.world) (fun _ => True)
      fun _ => True := by
  unfold resolve
  cases Challenge.parse challenge with
  | error failure => exact .note_bind trivial (.pure trivial)
  | ok realm =>
      have looked : (entryFor realm).Keeps (fun vault : Vault World => held vault.world)
          (fun _ => True) fun _ => True := Keeps.current.bind fun _ _ => .pure trivial
      refine looked.bind ?_
      rintro (_ | entry) -
      · cases available : given.or fallback with
        | none => exact .note_bind trivial (.pure trivial)
        | some config => exact lookUp_keeps_world (keeps config available) realm
      · exact .pure trivial

end Vault

namespace Threads.Call

/-- Whether a call brings no configuration but an inert one. -/
def IsInert (worlds : World → World → Prop) : Call World → Prop
  | resolve _ _ config => ∀ given ∈ config, given.IsInert worlds
  | forget _ _ | clear _ => True

variable {call : Call World}

theorem IsInert.isInert_or (inert : ∀ given ∈ fallback, given.IsInert worlds)
    {given : Option (Config World)} (brings : ∀ config ∈ given, config.IsInert worlds)
    {config : Config World} (available : given.or fallback = some config) :
    config.IsInert worlds := by
  cases given with
  | none => exact inert config available
  | some other => exact brings config available

theorem IsInert.agree (isInert : call.IsInert worlds)
    (inert : ∀ given ∈ fallback, given.IsInert worlds) :
    Agree (Vault.SameBut worlds) (fun _ _ => Eq) (call.perform fallback) (call.perform fallback) :=
  match call with
  | resolve _ challenge _ =>
      Vault.resolve_agree_eq (fun _ available => (isInert_or inert isInert available).agrees)
        challenge
  | forget _ realm => (Vault.onCache_agree_eq (·.forget realm)).map fun _ _ _ _ _ => rfl
  | clear _ => (Vault.onCache_agree_eq Cache.clear).map fun _ _ _ _ _ => rfl

theorem IsInert.still (isInert : call.IsInert worlds)
    (inert : ∀ given ∈ fallback, given.IsInert worlds) (also : World) :
    (call.perform fallback).Keeps (fun vault => worlds vault.world also) (fun _ => True)
      fun _ => True := by
  cases call with
  | resolve _ challenge _ =>
      exact Vault.resolve_keeps_world
        (fun _ available key => (isInert_or inert isInert available).still key also) challenge
  | forget _ realm =>
      exact (Vault.onCache_keeps_world (worlds · also) _).bind fun _ _ => .pure trivial
  | clear => exact (Vault.onCache_keeps_world (worlds · also) _).bind fun _ _ => .pure trivial

end Threads.Call
end Countersign
