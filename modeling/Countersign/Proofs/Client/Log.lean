import Countersign.Proofs.Client.Regime
import Countersign.Proofs.Config.Alike
import Countersign.Proofs.Config.Clean

/-!
# What servers can make a client log

A line that tells of a challenge shows it in quotes, or shows a realm that was read from it, and a
realm is plain.  So with clean configurations every line that resolvers and dispatchers log is
clean, whatever the challenges and the passwords are.
-/

namespace Countersign

/-- The failure to read a realm from a challenge has a clean wording. -/
theorem Challenge.isClean_message {challenge : Option String} {failure : Failure}
    (failed : parse challenge = .error failure) : Text.IsClean failure.message := by
  have empty : Text.IsClean "Challenge is empty" := by decide +kernel
  have opening : Text.IsClean "Not a Basic challenge: " := by decide +kernel
  cases challenge with
  | none =>
      cases failed
      exact empty
  | some challenge =>
      rw [parse] at failed
      split at failed
      · cases failed
        exact empty
      · split at failed
        · cases failed
        · cases failed
          exact opening.append (Text.isClean_quoted challenge)

namespace Notice

theorem isClean_ignored {challenge : Option String} {failure : Failure}
    (failed : Challenge.parse challenge = .error failure) :
    Text.IsClean (ignored failure).text := by
  have opening : Text.IsClean "Ignoring challenge: " := by decide +kernel
  exact opening.append (Challenge.isClean_message failed)

theorem isClean_unconfigured {realm : String} (isRealm : Challenge.IsRealm realm) :
    Text.IsClean (unconfigured realm).text := by
  have opening : Text.IsClean "No configuration available to resolve Basic realm '" := by
    decide +kernel
  have ending : Text.IsClean "'" := by decide +kernel
  exact (opening.append isRealm.isPlain.isClean).append ending

theorem isClean_unmatched (challenge : Option String) :
    Text.IsClean (unmatched challenge).text := by
  have opening : Text.IsClean "No authentication scheme matches challenge " := by decide +kernel
  exact opening.append (Text.isClean_quotedOrNone challenge)

theorem isClean_withheld (challenge : Option String) :
    Text.IsClean (withheld Resolver.schemeName challenge).text := by
  have opening : Text.IsClean ("Scheme '" ++ Resolver.schemeName) := by decide +kernel
  have middle : Text.IsClean "' could not provide credentials for " := by decide +kernel
  exact (opening.append middle).append (Text.isClean_quotedOrNone challenge)

theorem isClean_provided {realm : String} (isRealm : Challenge.IsRealm realm) :
    Text.IsClean (provided Resolver.schemeName realm).text := by
  have opening : Text.IsClean ("Scheme '" ++ Resolver.schemeName) := by decide +kernel
  have middle : Text.IsClean "' provided credentials for realm '" := by decide +kernel
  have ending : Text.IsClean "'" := by decide +kernel
  exact ((opening.append middle).append isRealm.isPlain.isClean).append ending

end Notice

/-- Whether a configuration is that of a provider in use, or a clean one of another kind. -/
def Config.IsFit (used : Nat → Prop) (config : Config Surroundings) : Prop :=
  (∃ number, used number ∧ config = Surroundings.config number) ∨
    config.IsClean (Surroundings.IsClean used)

theorem Config.IsFit.isClean {used : Nat → Prop} {config : Config Surroundings}
    (fit : config.IsFit used) : config.IsClean (Surroundings.IsClean used) := by
  rcases fit with ⟨number, isUsed, rfl⟩ | clean
  · exact Surroundings.isClean_config isUsed
  · exact clean

/-- The regime under which nothing but clean lines may be logged. -/
def Regime.clean (used : Nat → Prop) : Regime Surroundings :=
  { apt := Config.IsFit used, held := Surroundings.IsClean used, shows := Event.IsClean }

theorem Regime.isFair_clean (used : Nat → Prop) : (clean used).IsFair where
  serves _ fit _ isRealm := fit.isClean.serves isRealm
  ignored _ _ failed := Event.isClean_noted (Notice.isClean_ignored failed)
  unconfigured _ isRealm := Event.isClean_noted (Notice.isClean_unconfigured isRealm)
  unmatched challenge := Event.isClean_noted (Notice.isClean_unmatched challenge)
  withheld challenge := Event.isClean_noted (Notice.isClean_withheld challenge)
  provided _ isRealm := Event.isClean_noted (Notice.isClean_provided isRealm)

/-- A client over Basic resolvers that knows nothing at first logs clean lines alone, whatever it is
asked, given that the usernames of its providers and the names of their variables are clean.  So is
the wording of every failure to read a challenge. -/
theorem notices_performAll_isClean (used : Nat → Prop) (client : Client Surroundings)
    (members : ∀ dispatcher, ∀ member ∈ client.dispatchers dispatcher, ∃ resolver,
      member = .basic resolver)
    (empty : ∀ number realm, (client.vaults.caches number).find? realm = none)
    (fallback : ∀ resolver, (Regime.clean used).Allows (client.resolvers resolver).config)
    (surroundings : client.vaults.world.IsClean used) (deeds : List (Deed Surroundings))
    (allowed : ∀ deed ∈ deeds, deed.IsAllowed (Regime.clean used)) :
    (∀ notice ∈ Event.notices (Deed.performAll client deeds).2, Text.IsClean notice.text) ∧
      ∀ challenge failure, Challenge.parse challenge = .error failure →
        Text.IsClean failure.message := by
  have sound : client.IsSound (Regime.clean used)
      (fun resolver => (client.resolvers resolver).cache) fun _ _ _ => False :=
    { owned := fun _ => rfl
      fallback
      members
      vaults :=
        { caches := fun number =>
            { toIsWellFormed := Cache.isWellFormed_of_empty (empty number), kept := nofun }
          world := surroundings } }
  obtain ⟨-, shown⟩ := Deed.performAll_keeps (Regime.isFair_clean used) sound allowed
  refine ⟨fun notice logged => ?_, fun _ _ => Challenge.isClean_message⟩
  obtain ⟨event, observed, isNotice⟩ := List.mem_filterMap.mp logged
  cases event with
  | noted other =>
      cases isNotice
      exact shown _ observed notice rfl
  | _ => cases isNotice

namespace Client

/-- A username and a password in the environment, of which the password has a line break. -/
def brokenLine : Environment :=
  ((Table.empty.insert (Environment.variableName "APP_" (Config.userKey "a"))
    (.ofText "alice")).insert
    (Environment.variableName "APP_" (Config.passwordKey "a")) (.ofText "s3\ncret"))

/-- A client with a resolver that falls back on these variables, and a dispatcher over it. -/
def listener : Client Surroundings :=
  { start ((Surroundings.start Environment.loader brokenLine .empty).addProvider
      (.environment "APP_" none true)) with
    resolvers := fun _ => { cache := 0, config := some (Surroundings.config 0) }
    dispatchers := fun _ => [.basic 0] }

theorem notices_performAll_isClean_listener :
    (∀ notice ∈ Event.notices (Deed.performAll listener
        [.authorizeAny 0 [none, some "Digest\u2028\n", some "Basic realm=\"a\""] none,
          .resolve 0 (some "Basic realm=\"a\"\r\n") none]).2, Text.IsClean notice.text) ∧
      ∀ challenge failure, Challenge.parse challenge = .error failure →
        Text.IsClean failure.message := by
  have surroundings : listener.vaults.world.IsClean (· = 0) := by
    rintro _ rfl
    refine ⟨by decide +kernel, ?_⟩
    rintro key realm - rfl username answered
    have different := Environment.variableName_userKey_ne "APP_" realm "APP_" "a"
    have found : brokenLine.find? (Environment.variableName "APP_" (Config.userKey realm)) =
        some (.ofText username) := answered
    rw [brokenLine, Table.find?_insert, if_neg different, Table.find?_insert] at found
    split at found
    · obtain rfl : "alice" = username := RawText.ofText_inj.mp (Option.some.inj found)
      decide +kernel
    · cases found
  refine notices_performAll_isClean (· = 0) listener ?_ (fun _ _ => rfl) ?_ surroundings _ ?_
  · exact fun _ member isMember => ⟨0, List.mem_singleton.mp isMember⟩
  · rintro resolver _ ⟨⟩
    exact .inl ⟨0, rfl, rfl⟩
  · intro deed isDeed
    rw [List.mem_cons, List.mem_singleton] at isDeed
    rcases isDeed with rfl | rfl
    · rintro _ ⟨⟩
    · rintro _ ⟨⟩

end Client
end Countersign
