import Countersign.Proofs.Config.Discreet
import Countersign.Proofs.Vault.Recall

/-!
# What passes between two moments of a vault

Between two moments a vault changes by the challenges that are brought to it, and only what it reads
changes otherwise.  In such a passage a realm whose username and password can be written is looked
up at most once, by the first challenge for it that has a configuration at hand while it is unknown,
and what this one finds is returned from then on.
-/

namespace Countersign

/-- Whether a line tells what was found about a realm. -/
def Notice.isVerdict (realm : String) : Notice → Bool
  | resolved other _ | unavailable other _ => other = realm
  | _ => false

/-- The lines about how looking a realm up ended. -/
def Notice.settling (realm : String) : Except Failure Credentials → List Notice
  | .ok credentials => [resolved realm credentials.username]
  | .error (.notFound _ _ key) => [unavailable realm key]
  | .error _ => []

/-- The line about what asking for some keys of a realm came to. -/
def Notice.verdict (realm : String) (keys : List String) : Option Record → Notice
  | some record => resolved realm record.credentials.username
  | none => unavailable realm keys.getLast?

namespace Event

/-- The lines among events that tell what was found about a realm. -/
def verdicts (realm : String) (events : List Event) : List Notice :=
  (notices events).filter (Notice.isVerdict realm)

@[simp]
theorem notices_append (early late : List Event) :
    notices (early ++ late) = notices early ++ notices late :=
  List.filterMap_append ..

@[simp]
theorem verdicts_append (realm : String) (early late : List Event) :
    verdicts realm (early ++ late) = verdicts realm early ++ verdicts realm late := by
  simp [verdicts]

@[simp]
theorem verdicts_asked (realm key : String) (events : List Event) :
    verdicts realm (.asked key :: events) = verdicts realm events := rfl

@[simp]
theorem askedKeys_nil : askedKeys [] = [] := rfl

@[simp]
theorem askedKeys_noted (notice : Notice) (events : List Event) :
    askedKeys (.noted notice :: events) = askedKeys events := rfl

theorem verdicts_of_aside {events : List Event} (realm : String)
    (aside : ∀ event ∈ events, event.isAside) : verdicts realm events = [] := by
  rw [verdicts, List.filter_eq_nil_iff]
  intro notice logged
  obtain ⟨event, observed, is_notice⟩ := List.mem_filterMap.mp logged
  have apart := aside event observed
  cases event with
  | noted other =>
      cases is_notice
      cases notice <;> simp_all [isAside, Notice.isVerdict, Notice.channel]
  | _ => cases is_notice

theorem askedKeys_map_noted (notices : List Notice) : askedKeys (notices.map .noted) = [] := by
  rw [askedKeys, List.filterMap_map, List.filterMap_eq_nil_iff]
  exact fun _ _ => rfl

theorem notices_map_noted (lines : List Notice) : notices (lines.map .noted) = lines := by
  rw [notices, List.filterMap_map]
  exact List.filterMap_some

end Event

namespace Credentials

variable {World : Type} {given : Config World}

/-- A look-up in a discreet configuration asks for the keys of its realm. -/
theorem askedKeys_fromConfig (discreet : given.IsDiscreet) (realm : String) (world : World) :
    Event.askedKeys (fromConfig realm given world).events = given.keysFor realm world := by
  have looked := fromConfig_spec discreet realm world
  generalize fromConfig realm given world = outcome at looked
  cases looked with
  | found _ _ _ early late keys aside | noPassword _ early late keys aside =>
      obtain ⟨early_aside, late_aside⟩ := List.forall_mem_append.mp aside
      rw [keys]
      simp [Event.askedKeys_of_aside early_aside, Event.askedKeys_of_aside late_aside]
  | noUsername _ _ keys aside =>
      rw [keys]
      simp [Event.askedKeys_of_aside aside]

/-- What a discreet configuration logs tells nothing that was found about a realm. -/
theorem verdicts_fromConfig (discreet : given.IsDiscreet) (realm other : String) (world : World) :
    Event.verdicts other (fromConfig realm given world).events = [] := by
  have looked := fromConfig_spec discreet realm world
  generalize fromConfig realm given world = outcome at looked
  cases looked with
  | found _ _ _ early late _ aside | noPassword _ early late _ aside =>
      obtain ⟨early_aside, late_aside⟩ := List.forall_mem_append.mp aside
      simp [Event.verdicts_of_aside other early_aside, Event.verdicts_of_aside other late_aside]
  | noUsername _ _ _ aside => simp [Event.verdicts_of_aside other aside]

/-- A look-up that ends without credentials although all can be written misses the last key that it
asked for. -/
theorem exists_missing {realm : String} (discreet : given.IsDiscreet)
    (writable : given.IsWritable realm) {world : World} {failure : Failure}
    (failed : (fromConfig realm given world).result = .error failure) :
    ∃ message key, failure = .notFound message (some realm) key ∧
      (given.keysFor realm world).getLast? = key := by
  rcases fromConfig_of_no_failure (discreet.failure?_eq_none writable world) with
    ⟨credentials, found⟩ | ⟨message, missing, key, absent⟩
  · rw [found] at failed
    cases failed
  · have looked := fromConfig_spec discreet realm world
    generalize fromConfig realm given world = outcome at looked failed absent
    cases looked with
    | found =>
        obtain ⟨_, ⟨⟩⟩ := eq_unencodable_of_make absent
    | noPassword _ _ _ keys | noUsername _ _ keys =>
        cases failed
        exact ⟨_, _, rfl, by rw [keys]; rfl⟩

end Credentials

namespace Vault

variable {World : Type} {vault : Vault World} {realm : String} {given : Config World}

/-- A look-up does what its configuration does, and logs how that ended. -/
theorem events_lookUp (realm : String) (given : Config World) (vault : Vault World) :
    (lookUp realm given vault).events =
      (Credentials.fromConfig realm given vault.world).events ++
        (Notice.settling realm (Credentials.fromConfig realm given vault.world).result).map
          .noted := by
  rcases ended : (Credentials.fromConfig realm given vault.world).result with
    failure | credentials
  · by_cases missing : ∃ message at_ key, failure = .notFound message at_ key
    · obtain ⟨message, at_, key, rfl⟩ := missing
      rw [lookUp_missing ended]
      rfl
    · have other : ∀ message at_ key, failure ≠ .notFound message at_ key :=
        fun message at_ key same => missing ⟨message, at_, key, same⟩
      rw [lookUp_failed ended other]
      cases failure with
      | notFound message at_ key => exact absurd rfl (other message at_ key)
      | _ => exact (List.append_nil _).symm
  · rw [lookUp_found ended]
    rfl

/-- A look-up in a discreet configuration asks for the keys of its realm. -/
theorem askedKeys_lookUp (discreet : given.IsDiscreet) (realm : String) (vault : Vault World) :
    Event.askedKeys (lookUp realm given vault).events = given.keysFor realm vault.world := by
  rw [events_lookUp, Event.askedKeys_append, Event.askedKeys_map_noted, List.append_nil,
    Credentials.askedKeys_fromConfig discreet]

/-- What a look-up in a discreet configuration logs is how it ended. -/
theorem verdicts_lookUp (discreet : given.IsDiscreet) (realm other : String)
    (vault : Vault World) :
    Event.verdicts other (lookUp realm given vault).events =
      (Notice.settling realm (Credentials.fromConfig realm given vault.world).result).filter
        (Notice.isVerdict other) := by
  rw [events_lookUp, Event.verdicts_append, Credentials.verdicts_fromConfig discreet,
    List.nil_append, Event.verdicts, Event.notices_map_noted]

/-- A look-up of another realm logs nothing about a realm. -/
theorem verdicts_lookUp_of_ne (discreet : given.IsDiscreet) {other : String}
    (different : realm ≠ other) (vault : Vault World) :
    Event.verdicts other (lookUp realm given vault).events = [] := by
  rw [verdicts_lookUp discreet]
  generalize (Credentials.fromConfig realm given vault.world).result = result
  unfold Notice.settling
  split <;> simp [Notice.isVerdict, different]

/-- A look-up in a discreet configuration that gives what can be written logs what it found, which
is then known. -/
theorem lookUp_of_discreet (discreet : given.IsDiscreet) (writable : given.IsWritable realm)
    (vault : Vault World) :
    ∃ entry, verdict? realm given vault = some entry ∧
      (lookUp realm given vault).result = .ok entry ∧
      (lookUp realm given vault).state.cache.find? realm = some entry ∧
      Event.verdicts realm (lookUp realm given vault).events =
        [Notice.verdict realm (given.keysFor realm vault.world) entry] := by
  obtain ⟨entry, judged, ended, known⟩ :=
    lookUp_of_no_failure (discreet.failure?_eq_none writable vault.world)
  refine ⟨entry, judged, ended, known, ?_⟩
  rw [verdicts_lookUp discreet]
  rcases found : (Credentials.fromConfig realm given vault.world).result with
    failure | credentials
  · obtain ⟨message, key, rfl, last⟩ := Credentials.exists_missing discreet writable found
    rw [lookUp_missing found, Except.ok.injEq] at ended
    rw [← ended, Notice.verdict, last]
    simp [Notice.settling, Notice.isVerdict]
  · rw [lookUp_found found, Except.ok.injEq] at ended
    rw [← ended]
    simp [Notice.settling, Notice.isVerdict, Notice.verdict, Cache.nextRecord]

end Vault

/-- A challenge that is brought to a resolver, with what it finds there. -/
structure Resolution (World : Type) where
  /-- The configuration that the resolver falls back on. -/
  fallback : Option (Config World)
  /-- The challenge. -/
  challenge : Option String
  /-- The configuration that comes with the challenge. -/
  config : Option (Config World)
  /-- What the resolver then knows, and what configurations then read. -/
  vault : Vault World

namespace Resolution

variable {World : Type} {realm : String}

/-- What becomes of the challenge. -/
def outcome (resolution : Resolution World) : Outcome (Vault World) (Option Record) :=
  Vault.resolve resolution.fallback resolution.challenge resolution.config resolution.vault

/-- Whether the challenge is for a realm. -/
def IsFor (realm : String) (resolution : Resolution World) : Prop :=
  Challenge.parse resolution.challenge = .ok realm

/-- The configuration at hand for a realm, if the challenge is for it. -/
def configFor? (realm : String) (resolution : Resolution World) : Option (Config World) :=
  Vault.configFor? realm resolution.fallback resolution.challenge resolution.config

/-- Whether the configuration at hand, if there is one, is of a kind. -/
def IsGood (good : Config World → Prop) (resolution : Resolution World) : Prop :=
  ∀ given, resolution.config.or resolution.fallback = some given → good given

/-- A challenge asks for the keys of a realm only. -/
theorem exists_of_mem_askedKeys {resolution : Resolution World}
    (discreet : resolution.IsGood Config.IsDiscreet) {key : String}
    (asked : key ∈ Event.askedKeys resolution.outcome.events) :
    ∃ realm, key = Config.userKey realm ∨ key = Config.passwordKey realm := by
  obtain ⟨fallback, challenge, config, vault⟩ := resolution
  cases parsed : Challenge.parse challenge with
  | error failure =>
      rw [outcome, Vault.resolve_malformed parsed] at asked
      cases asked
  | ok realm =>
      cases known : vault.cache.find? realm with
      | some entry =>
          rw [outcome, Vault.resolve_known parsed known] at asked
          cases asked
      | none =>
          rw [outcome, Vault.resolve_unknown parsed known] at asked
          cases available : config.or fallback with
          | none =>
              rw [available] at asked
              cases asked
          | some given =>
              rw [available, Vault.consult_some,
                Vault.askedKeys_lookUp (discreet given available)] at asked
              exact ⟨realm, Config.mem_keysFor asked⟩

/-- A challenge that does not make a realm known does nothing about it. -/
theorem still {resolution : Resolution World} (discreet : resolution.IsGood Config.IsDiscreet)
    (settled : resolution.vault.cache.find? realm = none → resolution.configFor? realm = none) :
    Event.keysOf realm resolution.outcome.events = [] ∧
      Event.verdicts realm resolution.outcome.events = [] ∧
      resolution.outcome.state.cache.find? realm = resolution.vault.cache.find? realm := by
  obtain ⟨fallback, challenge, config, vault⟩ := resolution
  cases parsed : Challenge.parse challenge with
  | error failure =>
      rw [outcome, Vault.resolve_malformed parsed]
      exact ⟨rfl, rfl, rfl⟩
  | ok other =>
      cases known : vault.cache.find? other with
      | some entry =>
          rw [outcome, Vault.resolve_known parsed known]
          exact ⟨rfl, rfl, rfl⟩
      | none =>
          rw [outcome, Vault.resolve_unknown parsed known]
          cases available : config.or fallback with
          | none => exact ⟨rfl, rfl, rfl⟩
          | some given =>
              have different : other ≠ realm := by
                rintro rfl
                have unavailable : Vault.configFor? other fallback challenge config = none :=
                  settled known
                simp [Vault.configFor?, parsed, available] at unavailable
              have isDiscreet := discreet given available
              rw [Vault.consult_some, Event.keysOf, Vault.askedKeys_lookUp isDiscreet,
                Config.filter_keysFor, if_neg different]
              exact ⟨rfl, Vault.verdicts_lookUp_of_ne isDiscreet different vault,
                Vault.find?_lookUp_of_ne different.symm⟩

/-- A challenge for a known realm returns what is known. -/
theorem result_of_known {resolution : Resolution World} {entry : Option Record}
    (isFor : resolution.IsFor realm)
    (known : resolution.vault.cache.find? realm = some entry) :
    resolution.outcome.result = .ok entry := by
  rw [outcome, Vault.resolve_known isFor known]

/-- A challenge for an unknown realm with a configuration at hand makes it known. -/
theorem learns {resolution : Resolution World} (discreet : resolution.IsGood Config.IsDiscreet)
    (writable : resolution.IsGood (·.IsWritable realm))
    {given : Config World} (available : resolution.configFor? realm = some given)
    (unknown : resolution.vault.cache.find? realm = none) :
    ∃ entry, Vault.verdict? realm given resolution.vault = some entry ∧
      resolution.outcome.result = .ok entry ∧
      resolution.outcome.state.cache.find? realm = some entry ∧
      Event.keysOf realm resolution.outcome.events =
        given.keysFor realm resolution.vault.world ∧
      Event.verdicts realm resolution.outcome.events =
        [.verdict realm (given.keysFor realm resolution.vault.world) entry] := by
  obtain ⟨fallback, challenge, config, vault⟩ := resolution
  rw [configFor?, Vault.configFor?] at available
  split at available
  case h_2 => cases available
  case h_1 other parsed =>
    split at available
    case isFalse => cases available
    case isTrue same =>
      subst same
      have isDiscreet := discreet given available
      obtain ⟨entry, judged, ended, known, lines⟩ :=
        Vault.lookUp_of_discreet isDiscreet (writable given available) vault
      refine ⟨entry, judged, ?_⟩
      rw [outcome, Vault.resolve_unknown parsed unknown, available, Vault.consult_some,
        Event.keysOf, Vault.askedKeys_lookUp isDiscreet, Config.filter_keysFor, if_pos rfl]
      exact ⟨ended, known, rfl, lines⟩

end Resolution

/-- A passage of a vault with configurations of a kind, the challenges that were brought to it, and
what could be observed. -/
inductive Passage {World : Type} (good : Config World → Prop) :
    Vault World → List (Resolution World) → List Event → Vault World → Prop
  | done (vault : Vault World) : Passage good vault [] [] vault
  | aside (vault final : Vault World) (world : World) (resolutions : List (Resolution World))
      (events later : List Event) : (∀ event ∈ events, event.isAside) →
      Passage good { vault with world } resolutions later final →
      Passage good vault resolutions (events ++ later) final
  | resolve (resolution : Resolution World) (final : Vault World)
      (resolutions : List (Resolution World)) (later : List Event) : resolution.IsGood good →
      Passage good resolution.outcome.state resolutions later final →
      Passage good resolution.vault (resolution :: resolutions)
        (resolution.outcome.events ++ later) final

namespace Passage

variable {World : Type} {good : Config World → Prop} {vault middle final : Vault World}
  {realm : String} {resolutions others : List (Resolution World)} {events later : List Event}

theorem of_aside (vault : Vault World) (world : World)
    (aside : ∀ event ∈ events, event.isAside) :
    Passage good vault [] events { vault with world } := by
  have passage : Passage good vault [] (events ++ []) _ :=
    .aside vault _ world [] events [] aside (.done _)
  rwa [List.append_nil] at passage

theorem of_still (vault : Vault World) (aside : ∀ event ∈ events, event.isAside) :
    Passage good vault [] events vault :=
  .of_aside vault vault.world aside

theorem of_resolution {resolution : Resolution World} (isGood : resolution.IsGood good) :
    Passage good resolution.vault [resolution] resolution.outcome.events
      resolution.outcome.state := by
  have passage : Passage good _ [resolution] (resolution.outcome.events ++ []) _ :=
    .resolve resolution _ [] [] isGood (.done _)
  rwa [List.append_nil] at passage

theorem append (first : Passage good vault resolutions events middle)
    (second : Passage good middle others later final) :
    Passage good vault (resolutions ++ others) (events ++ later) final := by
  induction first with
  | done => exact second
  | aside vault middle world resolutions events between aside _ induction =>
      rw [List.append_assoc]
      exact .aside vault final world _ events _ aside (induction second)
  | resolve resolution middle resolutions between isGood _ induction =>
      rw [List.append_assoc]
      exact .resolve resolution final _ _ isGood (induction second)

/-- What happens before and after a passage and cannot be taken for the work of a resolver belongs
to it. -/
theorem between {early late : List Event} (passage : Passage good vault resolutions events final)
    (early_aside : ∀ event ∈ early, event.isAside) (late_aside : ∀ event ∈ late, event.isAside) :
    Passage good vault resolutions (early ++ (events ++ late)) final := by
  have whole := (of_still vault early_aside).append (passage.append (of_still final late_aside))
  rwa [List.nil_append, List.append_nil] at whole

/-- Only keys of realms are asked. -/
theorem exists_of_mem_askedKeys (discreet : ∀ given, good given → given.IsDiscreet)
    (passage : Passage good vault resolutions events final) {key : String}
    (asked : key ∈ Event.askedKeys events) :
    ∃ realm, key = Config.userKey realm ∨ key = Config.passwordKey realm := by
  induction passage with
  | done => cases asked
  | aside vault final world resolutions events later aside _ induction =>
      rw [Event.askedKeys_append, Event.askedKeys_of_aside aside] at asked
      exact induction asked
  | resolve resolution final resolutions later isGood _ induction =>
      rw [Event.askedKeys_append, List.mem_append] at asked
      rcases asked with now | after
      · exact Resolution.exists_of_mem_askedKeys
          (fun given available => discreet given (isGood given available)) now
      · exact induction after

end Passage

/-- How a realm fares in a passage. -/
inductive Fares {World : Type} (realm : String) (vault : Vault World)
    (resolutions : List (Resolution World)) (events : List Event) (final : Vault World) : Prop
  /-- It is known from the start. -/
  | known (entry : Option Record) : vault.cache.find? realm = some entry →
      (∀ resolution ∈ resolutions, resolution.IsFor realm →
        resolution.outcome.result = .ok entry) →
      Event.keysOf realm events = [] → Event.verdicts realm events = [] →
      final.cache.find? realm = some entry → Fares realm vault resolutions events final
  /-- There is never a configuration at hand for it. -/
  | unknown : vault.cache.find? realm = none →
      (∀ resolution ∈ resolutions, resolution.configFor? realm = none) →
      Event.keysOf realm events = [] → Event.verdicts realm events = [] →
      final.cache.find? realm = none → Fares realm vault resolutions events final
  /-- The first challenge for it with a configuration at hand has it looked up. -/
  | learned (early late : List (Resolution World)) (resolution : Resolution World)
      (given : Config World) (entry : Option Record) : vault.cache.find? realm = none →
      resolutions = early ++ resolution :: late →
      (∀ earlier ∈ early, earlier.configFor? realm = none) →
      resolution.configFor? realm = some given →
      Vault.verdict? realm given resolution.vault = some entry →
      (∀ later ∈ resolution :: late, later.IsFor realm → later.outcome.result = .ok entry) →
      Event.keysOf realm events = given.keysFor realm resolution.vault.world →
      Event.verdicts realm events =
        [.verdict realm (given.keysFor realm resolution.vault.world) entry] →
      final.cache.find? realm = some entry → Fares realm vault resolutions events final

namespace Fares

variable {World : Type} {vault other final : Vault World} {realm : String}
  {resolutions : List (Resolution World)} {events later : List Event}

/-- A realm fares the same where it is known alike and the same could be observed of it. -/
theorem congr (fares : Fares realm vault resolutions later final)
    (same : other.cache.find? realm = vault.cache.find? realm)
    (keys : Event.keysOf realm events = Event.keysOf realm later)
    (lines : Event.verdicts realm events = Event.verdicts realm later) :
    Fares realm other resolutions events final := by
  cases fares with
  | known entry known answers no_keys no_lines stays =>
      exact .known entry (same.trans known) answers (keys.trans no_keys) (lines.trans no_lines)
        stays
  | unknown unknown unavailable no_keys no_lines stays =>
      exact .unknown (same.trans unknown) unavailable (keys.trans no_keys) (lines.trans no_lines)
        stays
  | learned early late resolution given entry unknown split before available judged answers
      its_keys its_line stays =>
      exact .learned early late resolution given entry (same.trans unknown) split before available
        judged answers (keys.trans its_keys) (lines.trans its_line) stays

/-- A challenge that does not make a realm known makes no difference to it. -/
theorem cons {resolution : Resolution World}
    (settled : resolution.vault.cache.find? realm = none → resolution.configFor? realm = none)
    (fares : Fares realm resolution.vault resolutions events final) :
    Fares realm resolution.vault (resolution :: resolutions) events final := by
  cases fares with
  | known entry known answers keys lines stays =>
      refine .known entry known ?_ keys lines stays
      intro member isMember isFor
      rcases List.mem_cons.mp isMember with rfl | isMember
      · exact Resolution.result_of_known isFor known
      · exact answers member isMember isFor
  | unknown unknown unavailable keys lines stays =>
      exact .unknown unknown (List.forall_mem_cons.mpr ⟨settled unknown, unavailable⟩) keys lines
        stays
  | learned early late first given entry unknown split before available judged answers keys line
      stays =>
      exact .learned (resolution :: early) late first given entry unknown (by rw [split]; rfl)
        (List.forall_mem_cons.mpr ⟨settled unknown, before⟩) available judged answers keys line
        stays

/-- A challenge that makes a realm known has all later ones return what it found. -/
theorem learn {resolution : Resolution World} (discreet : resolution.IsGood Config.IsDiscreet)
    (writable : resolution.IsGood (·.IsWritable realm))
    {given : Config World} (available : resolution.configFor? realm = some given)
    (unknown : resolution.vault.cache.find? realm = none)
    (fares : Fares realm resolution.outcome.state resolutions later final) :
    Fares realm resolution.vault (resolution :: resolutions)
      (resolution.outcome.events ++ later) final := by
  obtain ⟨entry, judged, ended, learned, keys, lines⟩ :=
    Resolution.learns discreet writable available unknown
  cases fares with
  | known entry' known answers later_keys later_lines stays =>
      obtain rfl : entry = entry' := Option.some.inj (learned.symm.trans known)
      refine .learned [] resolutions resolution given entry unknown rfl nofun available judged ?_
        ?_ ?_ stays
      · exact List.forall_mem_cons.mpr ⟨fun _ => ended, answers⟩
      · rw [Event.keysOf_append, keys, later_keys, List.append_nil]
      · rw [Event.verdicts_append, lines, later_lines, List.append_nil]
  | unknown still_unknown | learned _ _ _ _ _ still_unknown =>
      rw [learned] at still_unknown
      cases still_unknown

end Fares

/-- In a passage a realm is looked up at most once, and what was found is returned from then on, if
all that can be found can be written. -/
theorem Passage.fares {World : Type} {good : Config World → Prop} {vault final : Vault World}
    {resolutions : List (Resolution World)} {events : List Event}
    (passage : Passage good vault resolutions events final)
    (discreet : ∀ given, good given → given.IsDiscreet) {realm : String}
    (writable : ∀ given, good given → given.IsWritable realm) :
    Fares realm vault resolutions events final := by
  induction passage with
  | done vault =>
      cases known : vault.cache.find? realm with
      | some entry => exact .known entry known nofun rfl rfl known
      | none => exact .unknown known nofun rfl rfl known
  | aside vault final world resolutions events later aside _ induction =>
      have same : vault.cache.find? realm =
          ({ vault with world } : Vault World).cache.find? realm := rfl
      apply induction.congr same
      · rw [Event.keysOf_append, Event.keysOf, Event.askedKeys_of_aside aside]
        rfl
      · rw [Event.verdicts_append, Event.verdicts_of_aside realm aside]
        rfl
  | resolve resolution final resolutions later isGood _ induction =>
      have isDiscreet : resolution.IsGood Config.IsDiscreet :=
        fun given available => discreet given (isGood given available)
      have isWritable : resolution.IsGood (·.IsWritable realm) :=
        fun given available => writable given (isGood given available)
      -- only a challenge that finds the realm unknown and has a configuration can make it known
      by_cases settled : resolution.vault.cache.find? realm = none →
          resolution.configFor? realm = none
      · obtain ⟨keys, lines, same⟩ := Resolution.still isDiscreet settled
        apply Fares.cons settled
        apply induction.congr same.symm
        · rw [Event.keysOf_append, keys]
          rfl
        · rw [Event.verdicts_append, lines]
          rfl
      · obtain ⟨unknown, available⟩ := Classical.not_imp.mp settled
        obtain ⟨given, available⟩ := Option.ne_none_iff_exists'.mp available
        exact induction.learn isDiscreet isWritable available unknown

end Countersign
