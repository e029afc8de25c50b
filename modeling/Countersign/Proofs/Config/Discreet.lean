import Countersign.Proofs.Config.Keys
import Countersign.Proofs.Config.Reliable

/-!
# Discreet configurations

A discreet configuration is reliable and logs under its own name alone.  Looking a realm up in one
asks for the username, and for the password exactly if there is a username; nothing else that could
be taken for the work of a resolver can be observed.
-/

namespace Countersign

namespace Event

/-- Whether an event has nothing to do with resolving Basic challenges. -/
def isAside : Event → Bool
  | asked _ => false
  | noted notice => notice.channel ≠ .basic
  | _ => true

/-- The asked keys among events that are keys of a realm. -/
def keysOf (realm : String) (events : List Event) : List String :=
  (askedKeys events).filter fun key =>
    key = Config.userKey realm || key = Config.passwordKey realm

@[simp]
theorem keysOf_append (realm : String) (early late : List Event) :
    keysOf realm (early ++ late) = keysOf realm early ++ keysOf realm late := by
  simp [keysOf]

theorem askedKeys_of_aside {events : List Event} (aside : ∀ event ∈ events, event.isAside) :
    askedKeys events = [] := by
  rw [askedKeys, List.filterMap_eq_nil_iff]
  intro event observed
  have apart := aside event observed
  cases event with
  | asked key => cases apart
  | _ => rfl

end Event

namespace Config

variable {World : Type}

/-- A reliable configuration that logs under its own name alone. -/
structure IsDiscreet (config : Config World) : Prop extends config.IsReliable where
  channel : ∀ key world notice, .noted notice ∈ (config key world).events →
    notice.channel = .config

theorem IsDiscreet.aside {config : Config World} (discreet : config.IsDiscreet) {key : String}
    {world : World} : ∀ event ∈ (config key world).events, event.isAside := by
  intro event observed
  obtain ⟨notice, rfl⟩ := discreet.quiet key world event observed
  simp [Event.isAside, discreet.channel key world notice observed]

/-- A table is discreet. -/
theorem isDiscreet_ofTable (values : Table String RawText) :
    (ofTable values : Config World).IsDiscreet :=
  { isReliable_ofTable values with
    channel := fun _ _ _ observed => absurd observed List.not_mem_nil }

/-- The keys that looking a realm up in a configuration asks for. -/
def keysFor (config : Config World) (realm : String) (world : World) : List String :=
  match (config (userKey realm) world).result with
  | .ok none => [userKey realm]
  | _ => [userKey realm, passwordKey realm]

theorem mem_keysFor {config : Config World} {realm : String} {world : World} {key : String}
    (asked : key ∈ config.keysFor realm world) : key = userKey realm ∨ key = passwordKey realm := by
  rw [keysFor] at asked
  split at asked
  · exact .inl (List.mem_singleton.mp asked)
  · simpa using asked

/-- The keys that looking a realm up asks for are all keys of that realm and none of another. -/
theorem filter_keysFor (config : Config World) (realm other : String) (world : World) :
    ((config.keysFor realm world).filter fun key =>
      key = userKey other || key = passwordKey other) =
        if realm = other then config.keysFor realm world else [] := by
  split
  case isTrue same =>
    subst same
    rw [List.filter_eq_self]
    intro key asked
    simpa using mem_keysFor asked
  case isFalse different =>
    rw [List.filter_eq_nil_iff]
    intro key asked
    rcases mem_keysFor asked with rfl | rfl
    · simp [userKey_inj, userKey_ne_passwordKey, different]
    · simp [passwordKey_inj, (userKey_ne_passwordKey other realm).symm, different]

end Config

namespace Credentials

variable {World : Type} {config : Config World}

/-- What a look-up in a discreet configuration asks for, and how it ends. -/
inductive LookedUp (config : Config World) (realm : String) (world : World) :
    Outcome World Credentials → Prop
  | found (username password : RawText) (after : World) (early late : List Event) :
      config.keysFor realm world = [Config.userKey realm, Config.passwordKey realm] →
      (∀ event ∈ early ++ late, event.isAside) →
      LookedUp config realm world
        { result := make realm username password, state := after
          events := .asked (Config.userKey realm) :: early ++
            .asked (Config.passwordKey realm) :: late }
  | noPassword (after : World) (early late : List Event) :
      config.keysFor realm world = [Config.userKey realm, Config.passwordKey realm] →
      (∀ event ∈ early ++ late, event.isAside) →
      LookedUp config realm world
        { result := .error (.noPassword realm (Config.passwordKey realm)), state := after
          events := .asked (Config.userKey realm) :: early ++
            .asked (Config.passwordKey realm) :: late }
  | noUsername (after : World) (events : List Event) :
      config.keysFor realm world = [Config.userKey realm] →
      (∀ event ∈ events, event.isAside) →
      LookedUp config realm world
        { result := .error (.noUsername realm (Config.userKey realm)), state := after
          events := .asked (Config.userKey realm) :: events }

theorem fromConfig_spec (discreet : config.IsDiscreet) (realm : String) (world : World) :
    LookedUp config realm world (fromConfig realm config world) := by
  obtain ⟨_ | username, answered⟩ := discreet.answers (Config.userKey realm) world
  · have asked : (askUsername realm config world).result =
        .error (.noUsername realm (Config.userKey realm)) := by
      simp [askUsername_apply, answered, Config.required]
    rw [fromConfig, Action.bind_of_error asked, askUsername_apply]
    exact .noUsername _ _ (by simp [Config.keysFor, answered]) discreet.aside
  · have keys : config.keysFor realm world =
        [Config.userKey realm, Config.passwordKey realm] := by
      simp [Config.keysFor, answered]
    have asked : (askUsername realm config world).result = .ok username := by
      simp [askUsername_apply, answered, Config.required]
    have aside : ∀ event ∈ (config (Config.userKey realm) world).events ++
        (config (Config.passwordKey realm)
          (config (Config.userKey realm) world).state).events, event.isAside := by
      intro event observed
      rcases List.mem_append.mp observed with early | late
      · exact discreet.aside event early
      · exact discreet.aside event late
    rw [fromConfig, Action.bind_of_ok asked, Action.bind_ofResult_apply, askUsername_apply]
    obtain ⟨_ | password, answered'⟩ := discreet.answers (Config.passwordKey realm)
      (config (Config.userKey realm) world).state
    · simp only [askPassword_apply, answered', Config.required, Except.bind]
      exact .noPassword _ _ _ keys aside
    · simp only [askPassword_apply, answered', Config.required, Except.bind]
      exact .found username password _ _ _ keys aside

end Credentials
end Countersign
