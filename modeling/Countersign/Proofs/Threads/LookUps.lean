import Countersign.Proofs.Config.Keys
import Countersign.Proofs.Config.Reliable
import Countersign.Proofs.Threads.Linearization

/-!
# Threads look a realm up at most once

With reliable configurations a thread that asks for the username of a realm has found the realm
unknown under the lock, and nobody else can make it known before that thread stores its entry.
Until what is known about the realm is dropped, each of its keys is therefore asked at most once.
This needs that the configurations give the realm what can be written, since nothing is stored
otherwise.  Of other realms it is not asked: those of which it is asked are the sure ones.
-/

namespace Countersign

/-- Whether a configuration is reliable and, for a realm that is a sure one, gives what can be
written. -/
structure Config.Provides {World : Type} (sure : String → Prop) (realm : String)
    (config : Config World) : Prop where
  reliable : config.IsReliable
  writable : sure realm → config.IsWritable realm

namespace Threads

variable {World : Type}

/-- Whether a call brings no configuration for a realm but a good one for it. -/
def Call.Brings (good : String → Config World → Prop) : Call World → Prop
  | .resolve _ challenge config =>
      ∀ realm, Challenge.parse challenge = .ok realm → ∀ given ∈ config, good realm given
  | .forget _ _ | .clear _ => True

theorem Call.Brings.imp {good better : String → Config World → Prop} {call : Call World}
    (brings : call.Brings good)
    (implies : ∀ realm config, good realm config → better realm config) :
    call.Brings better := by
  cases call with
  | resolve resolver challenge config =>
      exact fun realm parsed given available => implies _ _ (brings realm parsed given available)
  | forget | clear => trivial

theorem Call.Brings.provides {call : Call World} {realm : String}
    (reliable : call.Brings fun _ config => config.IsReliable)
    (writable : call.Brings fun other config => other = realm → config.IsWritable realm) :
    call.Brings (Config.Provides (· = realm)) := by
  cases call with
  | resolve resolver challenge config =>
      intro other parsed given available
      refine ⟨reliable other parsed given available, fun same => ?_⟩
      exact same ▸ writable other parsed given available same
  | forget | clear => trivial

namespace Work

/-- Whether a realm has been found unknown and is being looked up. -/
def IsLookingUp (realm : String) : Work World → Prop
  | askUsername other _ | askPassword other _ _ | store other _ => other = realm
  | look _ _ | remove _ | removeAll | leave _ => False

/-- Whether what is left to be done brings no configuration but one to be relied on, and no username
but one that it gave. -/
def IsProvided (sure : String → Prop) : Work World → Prop
  | look realm config => ∀ given ∈ config, given.Provides sure realm
  | askUsername realm config => config.Provides sure realm
  | askPassword realm config username => config.Provides sure realm ∧
      ∃ world, (config (Config.userKey realm) world).result = .ok (some username)
  | store _ _ | remove _ | removeAll | leave _ => True

/-- Whether what is left to be done is in order: it brings what can be relied on, and a realm that
is looked up is unknown. -/
structure Fits (sure : String → Prop) (vault : Vault World) (work : Work World) : Prop where
  provided : work.IsProvided sure
  unknown : ∀ realm, work.IsLookingUp realm → vault.cache.find? realm = none

/-- Whether a look-up of a realm has come past the asking of a key. -/
def HasAsked (realm key : String) : Work World → Prop
  | askPassword other _ _ => other = realm ∧ key = Config.userKey realm
  | store other _ => other = realm
  | look _ _ | askUsername _ _ | remove _ | removeAll | leave _ => False

theorem isLookingUp_of_hasAsked {work : Work World} {realm key : String}
    (asked : work.HasAsked realm key) : work.IsLookingUp realm := by
  cases work with
  | askPassword => exact asked.1
  | store => exact asked
  | look | askUsername | remove | removeAll | leave => cases asked

variable {sure : String → Prop} {fallback : Option (Config World)} {vault after : Vault World}
  {realm : String} {username : RawText} {config : Config World} {work next : Work World}
  {events : List Event}

/-- The end of a look-up in a reliable configuration is stored. -/
theorem conclude_of_reliable (realm : String) (outcome : Except Failure Credentials)
    (vault : Vault World)
    (ended : ∀ failure, outcome = .error failure →
      ∃ message missing key, failure = .notFound message missing key) :
    ∃ entry after events,
      conclude realm outcome vault = { result := .ok (store realm entry), state := after, events } ∧
        after.cache.entries = vault.cache.entries ∧ Event.askedKeys events = [] := by
  cases outcome with
  | ok credentials =>
      rw [conclude_apply, Vault.settle_ok]
      exact ⟨_, _, _, rfl, rfl, rfl⟩
  | error failure =>
      obtain ⟨message, missing, key, rfl⟩ := ended failure rfl
      rw [conclude_apply, Vault.settle_notFound]
      exact ⟨_, _, _, rfl, rfl, rfl⟩

theorem proceed_askUsername_of_reliable (reliable : config.IsReliable)
    (proceeded : (askUsername realm config).proceed fallback vault =
      { result := .ok next, state := after, events }) :
    ((∃ username, next = askPassword realm config username ∧
        (config (Config.userKey realm) vault.world).result = .ok (some username)) ∨
      ∃ entry, next = store realm entry) ∧
      after.cache.entries = vault.cache.entries ∧
        Event.askedKeys events = [Config.userKey realm] := by
  have keys := Credentials.askedKeys_askUsername reliable.quiet realm vault.world
  rcases Credentials.askUsername_cases reliable realm vault.world with
    ⟨username, answered, asked⟩ | asked
  · rw [proceed_askUsername_ok asked] at proceeded
    cases proceeded
    exact ⟨.inl ⟨username, rfl, answered⟩, rfl, keys⟩
  · rw [proceed_askUsername_error asked] at proceeded
    obtain ⟨entry, after', events', concluded, same, silent⟩ :=
      conclude_of_reliable realm (.error (.noUsername realm (Config.userKey realm)))
        { vault with world := (Credentials.askUsername realm config vault.world).state }
        (by rintro _ ⟨⟩; exact ⟨_, _, _, rfl⟩)
    rw [concluded] at proceeded
    cases proceeded
    exact ⟨.inr ⟨entry, rfl⟩, same, by rw [Event.askedKeys_append, keys, silent]; rfl⟩

/-- A turn that asks for the password goes on to store an entry unless what it has found cannot be
written. -/
theorem proceed_askPassword_of_reliable (reliable : config.IsReliable) {world : World}
    (given : (config (Config.userKey realm) world).result = .ok (some username))
    (proceeded : (askPassword realm config username).proceed fallback vault =
      { result := .ok next, state := after, events }) :
    ((∃ entry, next = store realm entry) ∨
      ¬config.IsWritable realm ∧ ∃ failure, next = leave (.error failure)) ∧
      after.cache.entries = vault.cache.entries ∧
        Event.askedKeys events = [Config.passwordKey realm] := by
  have keys := Credentials.askedKeys_askPassword reliable.quiet realm vault.world
  rw [proceed_askPassword] at proceeded
  have stores (ended : ∀ failure, (Credentials.askPassword realm config vault.world).result.bind
        (Credentials.make realm username) = .error failure →
      ∃ message missing key, failure = .notFound message missing key) :
      (∃ entry, next = store realm entry) ∧ after.cache.entries = vault.cache.entries ∧
        Event.askedKeys events = [Config.passwordKey realm] := by
    obtain ⟨entry, after', events', concluded, same, silent⟩ :=
      conclude_of_reliable realm _
        { vault with world := (Credentials.askPassword realm config vault.world).state } ended
    rw [concluded] at proceeded
    cases proceeded
    exact ⟨⟨entry, rfl⟩, same, by rw [Event.askedKeys_append, keys, silent]; rfl⟩
  rcases Credentials.askPassword_cases reliable realm vault.world with
    ⟨password, answered, asked⟩ | asked
  · by_cases texts : username.isText ∧ password.isText
    · obtain ⟨isStored, rest⟩ := stores fun failure failed => by
        rw [asked, Except.bind, Credentials.make_of_isText texts.1 texts.2] at failed
        cases failed
      exact ⟨.inl isStored, rest⟩
    · obtain ⟨fault, refused⟩ := Credentials.exists_make_error realm texts
      rw [asked, Except.bind, refused, conclude_apply,
        Vault.settle_error (by rintro _ _ _ ⟨⟩)] at proceeded
      cases proceeded
      refine ⟨.inr ⟨fun writable => texts ?_, _, rfl⟩, rfl, ?_⟩
      · exact writable _ _ _ _ given answered
      · rw [Event.askedKeys_append, keys]
        rfl
  · obtain ⟨isStored, rest⟩ := stores fun failure failed => by
      rw [asked] at failed
      cases failed
      exact ⟨_, _, _, rfl⟩
    exact ⟨.inl isStored, rest⟩

/-- What a turn under the lock makes of the work and the vault, and the keys that it asks, when
configurations are reliable. -/
inductive Progress (sure : String → Prop) (fallback : Option (Config World)) (vault : Vault World) :
    Work World → Work World → Vault World → List String → Prop
  | known (realm : String) (config : Option (Config World)) (entry : Option Record) :
      vault.cache.find? realm = some entry →
      Progress sure fallback vault (look realm config) (leave (.ok entry)) vault []
  | unknown (realm : String) (config : Option (Config World)) (given : Config World) :
      given.Provides sure realm → vault.cache.find? realm = none →
      Progress sure fallback vault (look realm config) (askUsername realm given) vault []
  | unconfigured (realm : String) (config : Option (Config World)) : config.or fallback = none →
      Progress sure fallback vault (look realm config) (leave (.ok none)) vault []
  | username (realm : String) (username : RawText) (config : Config World) (after : Vault World) :
      (config (Config.userKey realm) vault.world).result = .ok (some username) →
      after.cache.entries = vault.cache.entries →
      Progress sure fallback vault (askUsername realm config)
        (askPassword realm config username) after [Config.userKey realm]
  | noUsername (realm : String) (config : Config World) (entry : Option Record)
      (after : Vault World) :
      after.cache.entries = vault.cache.entries →
      Progress sure fallback vault (askUsername realm config) (store realm entry) after
        [Config.userKey realm]
  | password (realm : String) (username : RawText) (config : Config World) (entry : Option Record)
      (after : Vault World) :
      after.cache.entries = vault.cache.entries →
      Progress sure fallback vault (askPassword realm config username) (store realm entry) after
        [Config.passwordKey realm]
  | refused (realm : String) (username : RawText) (config : Config World) (failure : Failure)
      (after : Vault World) :
      ¬sure realm → after.cache.entries = vault.cache.entries →
      Progress sure fallback vault (askPassword realm config username)
        (leave (.error failure)) after [Config.passwordKey realm]
  | stored (realm : String) (entry : Option Record) :
      Progress sure fallback vault (store realm entry) (leave (.ok entry))
        { vault with cache := vault.cache.store realm entry } []
  | removed (realm : String) :
      Progress sure fallback vault (remove realm) (leave (.ok none))
        { vault with cache := vault.cache.forget realm } []
  | removedAll :
      Progress sure fallback vault removeAll (leave (.ok none))
        { vault with cache := vault.cache.clear } []

theorem progress_of_proceed (provides : ∀ given ∈ fallback, ∀ realm, given.Provides sure realm)
    (provided : work.IsProvided sure) (isOpen : work.IsOpen)
    (proceeded : work.proceed fallback vault = { result := .ok next, state := after, events }) :
    Progress sure fallback vault work next after (Event.askedKeys events) := by
  cases work with
  | look realm config =>
      cases known : vault.cache.find? realm with
      | some entry =>
          simp only [proceed, Action.bind_apply, Vault.entryFor_apply, known, Action.pure_apply]
            at proceeded
          cases proceeded
          exact .known realm config entry known
      | none =>
          cases available : config.or fallback with
          | none =>
              simp only [proceed, Action.bind_apply, Vault.entryFor_apply, known, available,
                Action.note_apply, Action.pure_apply] at proceeded
              cases proceeded
              exact .unconfigured realm config available
          | some given =>
              simp only [proceed, Action.bind_apply, Vault.entryFor_apply, known, available,
                Action.pure_apply] at proceeded
              cases proceeded
              refine .unknown realm config given ?_ known
              cases config with
              | none => exact provides given available realm
              | some config => exact provided given available
  | askUsername realm config =>
      obtain ⟨⟨username, rfl, given⟩ | ⟨entry, rfl⟩, same, keys⟩ :=
        proceed_askUsername_of_reliable provided.reliable proceeded
      · rw [keys]
        exact .username realm username config after given same
      · rw [keys]
        exact .noUsername realm config entry after same
  | askPassword realm config username =>
      obtain ⟨provides, world, given⟩ := provided
      obtain ⟨⟨entry, rfl⟩ | ⟨unwritable, failure, rfl⟩, same, keys⟩ :=
        proceed_askPassword_of_reliable provides.reliable given proceeded
      · rw [keys]
        exact .password realm username config entry after same
      · rw [keys]
        exact .refused realm username config failure after (mt provides.writable unwritable) same
  | store realm entry =>
      cases proceeded
      exact .stored realm entry
  | remove realm =>
      cases proceeded
      exact .removed realm
  | removeAll =>
      cases proceeded
      exact .removedAll
  | leave result => exact absurd rfl (isOpen result)

variable {keys : List String}

theorem Progress.isProvided (progress : Progress sure fallback vault work next after keys)
    (provided : work.IsProvided sure) : next.IsProvided sure := by
  cases progress with
  | known | unconfigured | noUsername | password | refused | stored | removed | removedAll =>
      trivial
  | unknown realm config given provides => exact provides
  | username realm username config after given => exact ⟨provided, vault.world, given⟩

theorem Progress.fits (progress : Progress sure fallback vault work next after keys)
    (fits : work.Fits sure vault) : next.Fits sure after := by
  refine ⟨progress.isProvided fits.provided, fun realm isLooking => ?_⟩
  cases progress with
  | known | unconfigured | refused | stored | removed | removedAll => cases isLooking
  | unknown other config given provides unknown =>
      obtain rfl : other = realm := isLooking
      exact unknown
  | username _ _ _ _ _ same | noUsername _ _ _ _ same | password _ _ _ _ _ same =>
      rw [Cache.find?, same]
      exact fits.unknown realm isLooking

/-- Past the asking of a key a look-up stays there until its realm is known. -/
theorem Progress.hasAsked {key : String}
    (progress : Progress sure fallback vault work next after keys) (isSure : sure realm)
    (asked : work.HasAsked realm key) :
    next.HasAsked realm key ∨ after.cache.find? realm ≠ none := by
  cases progress with
  | password other username config entry after same => exact .inl asked.1
  | refused other username config failure after unsure =>
      obtain rfl : other = realm := asked.1
      exact absurd isSure unsure
  | stored other entry =>
      obtain rfl : other = realm := asked
      exact .inr (by simp [Cache.find?_store])
  | known | unknown | unconfigured | username | noUsername | removed | removedAll => cases asked

/-- The turn that asks for a key of a realm is past it. -/
theorem Progress.hasAsked_of_mem (progress : Progress sure fallback vault work next after keys)
    (isSure : sure realm) {key : String}
    (of_realm : key = Config.userKey realm ∨ key = Config.passwordKey realm)
    (asked : key ∈ keys) : next.HasAsked realm key := by
  cases progress with
  | known | unknown | unconfigured | stored | removed | removedAll => cases asked
  | username other username config after given same =>
      obtain rfl := List.mem_singleton.mp asked
      rcases of_realm with same_key | same_key
      · exact ⟨Config.userKey_inj.mp same_key, same_key⟩
      · exact absurd same_key (Config.userKey_ne_passwordKey other realm)
  | noUsername other config entry after same =>
      obtain rfl := List.mem_singleton.mp asked
      rcases of_realm with same_key | same_key
      · exact Config.userKey_inj.mp same_key
      · exact absurd same_key (Config.userKey_ne_passwordKey other realm)
  | password other username config entry after same =>
      obtain rfl := List.mem_singleton.mp asked
      rcases of_realm with same_key | same_key
      · exact absurd same_key.symm (Config.userKey_ne_passwordKey realm other)
      · exact Config.passwordKey_inj.mp same_key
  | refused other username config failure after unsure =>
      obtain rfl := List.mem_singleton.mp asked
      obtain rfl : other = realm := Config.eq_of_key (.inr rfl) of_realm
      exact absurd isSure unsure

/-- A realm of which a key is asked is unknown, and the key has not been asked. -/
theorem Progress.unknown_of_mem (progress : Progress sure fallback vault work next after keys)
    (fits : work.Fits sure vault) {key : String}
    (of_realm : key = Config.userKey realm ∨ key = Config.passwordKey realm)
    (asked : key ∈ keys) : vault.cache.find? realm = none ∧ ¬work.HasAsked realm key := by
  cases progress with
  | known | unknown | unconfigured | stored | removed | removedAll => cases asked
  | username other | noUsername other =>
      obtain rfl := List.mem_singleton.mp asked
      exact ⟨fits.unknown realm (Config.eq_of_key (.inl rfl) of_realm), id⟩
  | password other | refused other =>
      obtain rfl := List.mem_singleton.mp asked
      obtain rfl : other = realm := Config.eq_of_key (.inr rfl) of_realm
      exact ⟨fits.unknown other rfl,
        fun past => Config.userKey_ne_passwordKey other other past.2.symm⟩

theorem Progress.keys_length (progress : Progress sure fallback vault work next after keys) :
    keys.length ≤ 1 := by
  cases progress <;> simp

end Work

/-- Whether a thread is in order: it brings what can be relied on, and what is left to be done under
the lock is in order, before the lock whatever becomes of the vault. -/
def Thread.Fits (sure : String → Prop) (vault : Vault World) (thread : Thread World) : Prop :=
  (∀ call ∈ thread.pending, call.Brings (Config.Provides sure)) ∧
    match thread.stage with
    | .idle => True
    | .waiting _ work => ∀ vault : Vault World, work.Fits sure vault
    | .holding _ work => work.Fits sure vault

theorem Thread.Fits.elsewhere {sure : String → Prop} {vault vault' : Vault World}
    {thread : Thread World} (fits : thread.Fits sure vault) (away : ¬thread.stage.IsHolding) :
    thread.Fits sure vault' := by
  obtain ⟨stage, pending, returned⟩ := thread
  cases stage with
  | idle | waiting => exact fits
  | holding => exact absurd trivial away

/-- A call that returns at once asks for nothing. -/
theorem Call.askedKeys_of_answer {call : Call World} {vault : Vault World} {entry : Option Record}
    {events : List Event}
    (answered : call.begin vault = { result := .ok (.ok entry), state := vault, events }) :
    Event.askedKeys events = [] := by
  rw [Event.askedKeys, List.filterMap_eq_nil_iff]
  intro event observed
  have ignoring := (Call.perform_of_answer answered).1 event observed
  cases event <;> first | rfl | cases ignoring

/-- A call that wants the lock looks an unknown realm up, or drops what is known. -/
theorem Call.want_cases {call : Call World} {vault : Vault World} {work : Work World}
    (wanted : call.begin vault = { result := .ok (.error work), state := vault, events := [] }) :
    (∃ resolver challenge config realm, call = .resolve resolver challenge config ∧
        Challenge.parse challenge = .ok realm ∧ vault.cache.find? realm = none ∧
          work = .look realm config) ∨
      (∃ resolver realm, call = .forget resolver realm ∧ work = .remove realm) ∨
        ∃ resolver, call = .clear resolver ∧ work = .removeAll := by
  cases call with
  | forget resolver realm =>
      cases wanted
      exact .inr (.inl ⟨resolver, realm, rfl, rfl⟩)
  | clear resolver =>
      cases wanted
      exact .inr (.inr ⟨resolver, rfl, rfl⟩)
  | resolve resolver challenge config =>
      cases parsed : Challenge.parse challenge with
      | error failure =>
          simp only [Call.begin, parsed, Action.bind_apply, Action.note_apply, Action.pure_apply]
            at wanted
          cases wanted
      | ok realm =>
          cases known : vault.cache.find? realm with
          | some entry =>
              simp only [Call.begin, parsed, Action.bind_apply, Vault.entryFor_apply, known,
                Action.pure_apply] at wanted
              cases wanted
          | none =>
              simp only [Call.begin, parsed, Action.bind_apply, Vault.entryFor_apply, known,
                Action.pure_apply] at wanted
              cases wanted
              exact .inl ⟨resolver, challenge, config, realm, rfl, parsed, known, rfl⟩

theorem Call.fits_of_want {sure : String → Prop} {call : Call World} {vault : Vault World}
    {work : Work World} (brings : call.Brings (Config.Provides sure))
    (wanted : call.begin vault = { result := .ok (.error work), state := vault, events := [] })
    (other : Vault World) : work.Fits sure other := by
  rcases Call.want_cases wanted with
    ⟨resolver, challenge, config, realm, rfl, parsed, -, rfl⟩ | ⟨_, _, -, rfl⟩ | ⟨_, -, rfl⟩
  · exact ⟨brings realm parsed, nofun⟩
  · exact ⟨trivial, nofun⟩
  · exact ⟨trivial, nofun⟩

namespace State

/-- How often a key was asked. -/
def askings (state : State World) (key : String) : Nat :=
  (Event.askedKeys (state.events.map (·.2))).count key

/-- Whether a turn drops what is known about a realm. -/
def Drops (fallback : Nat → Option (Config World)) (realm : String) (state : State World)
    (number : Nat) : Prop :=
  state.vault.cache.find? realm ≠ none ∧
    (state.turn fallback number).vault.cache.find? realm = none

instance (fallback : Nat → Option (Config World)) (realm : String) (state : State World)
    (number : Nat) : Decidable (state.Drops fallback realm number) :=
  inferInstanceAs (Decidable (_ ∧ _))

/-- Whether no turn of a schedule drops what is known about a realm. -/
def Keeps (fallback : Nat → Option (Config World)) (realm : String) :
    State World → List Nat → Prop
  | _, [] => True
  | state, number :: schedule =>
      ¬state.Drops fallback realm number ∧
        Keeps fallback realm (state.turn fallback number) schedule

instance decidableKeeps (fallback : Nat → Option (Config World)) (realm : String) :
    (state : State World) → (schedule : List Nat) → Decidable (Keeps fallback realm state schedule)
  | _, [] => isTrue trivial
  | state, number :: schedule =>
      have := decidableKeeps fallback realm (state.turn fallback number) schedule
      inferInstanceAs (Decidable (_ ∧ _))

/-- Whether a key of a realm will not be asked before what is known about the realm is dropped. -/
def Spent (realm key : String) (state : State World) : Prop :=
  state.vault.cache.find? realm ≠ none ∨
    ∃ number resolver work, (state.threads number).stage = .holding resolver work ∧
      work.HasAsked realm key

/-- Whether a state of threads on one resolver is in order. -/
structure Orderly (sure : String → Prop) (fallback : Nat → Option (Config World)) (resolver : Nat)
    (state : State World) : Prop where
  /-- A sequential state stands beside it. -/
  simulated : ∃ serial begun, Simulates fallback resolver state serial begun
  /-- Each thread is in order. -/
  fits : ∀ number, (state.threads number).Fits sure state.vault

variable {sure : String → Prop} {fallback : Nat → Option (Config World)} {resolver : Nat}
  {state : State World} {number : Nat} {realm key : String}

theorem fits_assign {vault : Vault World} {threads : Nat → Thread World} {thread : Thread World}
    (new : thread.Fits sure vault)
    (others : ∀ other, other ≠ number → (threads other).Fits sure vault) :
    ∀ other, (assign threads number thread other).Fits sure vault :=
  assign_forall (fun _ (thread : Thread World) => thread.Fits sure vault) new others

theorem Orderly.turn (provides : ∀ given ∈ fallback resolver, ∀ realm, given.Provides sure realm)
    (orderly : Orderly sure fallback resolver state) (number : Nat) :
    Orderly sure fallback resolver (state.turn fallback number) := by
  obtain ⟨serial, begun, simulates⟩ := orderly.simulated
  refine ⟨?_, ?_⟩
  · obtain ⟨begun', waits | makes⟩ := simulates.turn number
    · exact ⟨_, _, waits⟩
    · exact ⟨_, _, makes⟩
  · have fits := orderly.fits number
    have turned := turn_spec fallback state number
    generalize state.turn fallback number = next at turned
    cases turned with
    | rest => exact orderly.fits
    | answer call pending returned entry events threaded answered =>
        rw [threaded] at fits
        exact fits_assign ⟨fun call called => fits.1 call (.tail _ called), trivial⟩
          fun other _ => orderly.fits other
    | want call pending returned work threaded wanted =>
        rw [threaded] at fits
        exact fits_assign
          ⟨fun call called => fits.1 call (.tail _ called),
            Call.fits_of_want (fits.1 call (.head _)) wanted⟩
          fun other _ => orderly.fits other
    | take wanted work pending returned threaded free =>
        rw [threaded] at fits
        exact fits_assign ⟨fits.1, fits.2 _⟩ fun other _ => orderly.fits other
    | work held work next pending returned after events threaded isOpen proceeded =>
        obtain rfl := (threaded ▸ simulates.follows number).resolver_of_holding
        have holding : (state.threads number).stage.IsHolding := by
          rw [threaded]
          trivial
        rw [threaded] at fits
        have progress := Work.progress_of_proceed provides fits.2.provided isOpen proceeded
        exact fits_assign ⟨fits.1, progress.fits fits.2⟩ fun other different =>
          (orderly.fits other).elsewhere (simulates.away_of_ne holding different)
    | release held result pending returned threaded =>
        rw [threaded] at fits
        exact fits_assign ⟨fits.1, trivial⟩ fun other _ => orderly.fits other

theorem askings_append {next : State World} {events : List Event}
    (observed : next.events = state.events ++ events.map fun event => (number, event)) :
    next.askings key = state.askings key + (Event.askedKeys events).count key := by
  simp [askings, observed, Function.comp_def]

/-- A spent key of a sure realm stays spent. -/
theorem Spent.turn (provides : ∀ given ∈ fallback resolver, ∀ realm, given.Provides sure realm)
    (orderly : Orderly sure fallback resolver state) (isSure : sure realm)
    (spent : state.Spent realm key)
    (keeps : ¬state.Drops fallback realm number) :
    (state.turn fallback number).Spent realm key := by
  rcases spent with known | ⟨holder, held, past, staged, asked⟩
  · exact .inl fun unknown => keeps ⟨known, unknown⟩
  by_cases same : holder = number
  · subst same
    have fits := orderly.fits holder
    obtain ⟨serial, begun, simulates⟩ := orderly.simulated
    have turned := turn_spec fallback state holder
    generalize state.turn fallback holder = next at turned
    cases turned with
    | rest => exact .inr ⟨holder, held, past, staged, asked⟩
    | answer _ _ _ _ _ threaded | want _ _ _ _ threaded | take _ _ _ _ threaded =>
        rw [threaded] at staged
        cases staged
    | work held work next pending returned after events threaded isOpen proceeded =>
        obtain rfl := (threaded ▸ simulates.follows holder).resolver_of_holding
        rw [threaded] at staged fits
        cases staged
        have progress := Work.progress_of_proceed provides fits.2.provided isOpen proceeded
        rcases progress.hasAsked isSure asked with asked | known
        · exact .inr ⟨holder, held, next, by simp, asked⟩
        · exact .inl known
    | release held result pending returned threaded =>
        rw [threaded] at staged
        cases staged
        cases asked
  · refine .inr ⟨holder, held, past, ?_, asked⟩
    rw [turn_threads_of_ne fallback state same]
    exact staged

/-- A turn asks for a key of a sure realm at most once, and only if the key was not spent and is
then. -/
theorem askings_turn (provides : ∀ given ∈ fallback resolver, ∀ realm, given.Provides sure realm)
    (orderly : Orderly sure fallback resolver state) (isSure : sure realm)
    (of_realm : key = Config.userKey realm ∨ key = Config.passwordKey realm) (number : Nat) :
    (state.turn fallback number).askings key = state.askings key ∨
      (state.turn fallback number).askings key = state.askings key + 1 ∧
        ¬state.Spent realm key ∧ (state.turn fallback number).Spent realm key := by
  have fits := orderly.fits number
  obtain ⟨serial, begun, simulates⟩ := orderly.simulated
  have turned := turn_spec fallback state number
  generalize state.turn fallback number = next at turned
  cases turned with
  | rest | want | take | release => exact .inl rfl
  | answer call pending returned entry events threaded answered =>
      left
      rw [askings_append rfl, Call.askedKeys_of_answer answered]
      rfl
  | work held work next pending returned after events threaded isOpen proceeded =>
      obtain rfl := (threaded ▸ simulates.follows number).resolver_of_holding
      have holding : (state.threads number).stage.IsHolding := by
        rw [threaded]
        trivial
      rw [threaded] at fits
      have progress := Work.progress_of_proceed provides fits.2.provided isOpen proceeded
      rw [askings_append rfl]
      by_cases asked : key ∈ Event.askedKeys events
      · right
        have once : (Event.askedKeys events).count key = 1 := by
          have at_least := List.count_pos_iff.mpr asked
          have at_most := List.count_le_length (a := key) (l := Event.askedKeys events)
          have single := progress.keys_length
          omega
        obtain ⟨unknown, not_past⟩ := progress.unknown_of_mem fits.2 of_realm asked
        refine ⟨by rw [once], ?_, .inr ⟨number, held, next, by simp,
          progress.hasAsked_of_mem isSure of_realm asked⟩⟩
        rintro (known | ⟨holder, held', past, staged, asked'⟩)
        · exact known unknown
        · by_cases same : holder = number
          · subst same
            rw [threaded] at staged
            cases staged
            exact not_past asked'
          · exact simulates.away_of_ne holding same (by rw [staged]; trivial)
      · left
        rw [List.count_eq_zero_of_not_mem asked]
        rfl

/-- Without dropping what is known about a sure realm, its keys are asked at most once. -/
theorem askings_run (provides : ∀ given ∈ fallback resolver, ∀ realm, given.Provides sure realm)
    (orderly : Orderly sure fallback resolver state) (isSure : sure realm)
    (of_realm : key = Config.userKey realm ∨ key = Config.passwordKey realm)
    {schedule : List Nat} (keeps : Keeps fallback realm state schedule) :
    (state.run fallback schedule).askings key ≤ state.askings key + 1 ∧
      (state.Spent realm key → (state.run fallback schedule).askings key = state.askings key) := by
  induction schedule generalizing state with
  | nil => exact ⟨Nat.le_succ _, fun _ => rfl⟩
  | cons number schedule induction =>
      obtain ⟨bound, stays⟩ := induction (orderly.turn provides number) keeps.2
      change (State.run fallback (state.turn fallback number) schedule).askings key ≤ _ ∧
        (_ → (State.run fallback (state.turn fallback number) schedule).askings key = _)
      rcases askings_turn provides orderly isSure of_realm number with same | ⟨more, fresh, spent⟩
      · rw [same] at bound stays
        exact ⟨bound, fun spent => stays (spent.turn provides orderly isSure keeps.1)⟩
      · rw [stays spent, more]
        exact ⟨Nat.le_refl _, fun spent => absurd spent fresh⟩

end State
end Threads
end Countersign
