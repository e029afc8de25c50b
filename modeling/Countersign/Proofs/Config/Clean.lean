import Countersign.Proofs.Config.Providers
import Countersign.Proofs.Text.Clean
import Countersign.Proofs.Vault.Sound

/-!
# Configurations that cannot spoil the log

A clean configuration answers the keys of usernames with clean texts and logs clean lines.  A
provider is one if its usernames are clean and, where it reads the environment, what the names of
its variables start with.  Nothing is asked of passwords.
-/

namespace Countersign

open Countersign.Action (Keeps)

/-- Whether an event is not the logging of a line that is not clean. -/
def Event.IsClean (event : Event) : Prop :=
  ∀ notice, event = .noted notice → Text.IsClean notice.text

theorem Event.isClean_asked (key : String) : (Event.asked key).IsClean := by
  rintro _ ⟨⟩

theorem Event.isClean_noted {notice : Notice} (clean : Text.IsClean notice.text) :
    (Event.noted notice).IsClean := by
  rintro _ ⟨⟩
  exact clean

namespace Config

variable {World : Type} {held : World → Prop} {config : Config World} {realm : String}

/-- Whether a configuration answers with clean usernames, logs clean lines, and does not fail as if
something with a name that is not clean were missing, in worlds of a kind that it stays in. -/
structure IsClean (held : World → Prop) (config : Config World) : Prop where
  username : ∀ realm, Challenge.IsRealm realm →
    (config (userKey realm)).Keeps held Event.IsClean
      fun answer => ∀ username, answer = some (.ofText username) → Text.IsClean username
  password : ∀ realm, Challenge.IsRealm realm →
    (config (passwordKey realm)).Keeps held Event.IsClean fun _ => True
  candid : ∀ key world, held world → ∀ message missing asked,
    (config key world).result = .error (.notFound message missing (some asked)) →
    Text.IsClean asked

theorem isClean_resolved {username : String} (isRealm : Challenge.IsRealm realm)
    (clean : Text.IsClean username) : Text.IsClean (Notice.resolved realm username).text := by
  have opening : Text.IsClean "Resolved Basic credentials for realm '" := by decide +kernel
  have middle : Text.IsClean "' (user=" := by decide +kernel
  have ending : Text.IsClean ", ***)" := by decide +kernel
  exact (((opening.append isRealm.isPlain.isClean).append middle).append clean).append ending

theorem isClean_unavailable {key : Option String} (isRealm : Challenge.IsRealm realm)
    (clean : ∀ asked ∈ key, Text.IsClean asked) :
    Text.IsClean (Notice.unavailable realm key).text := by
  have opening : Text.IsClean "Basic authentication unavailable for realm '" := by decide +kernel
  have middle : Text.IsClean "': missing '" := by decide +kernel
  have ending : Text.IsClean "'" := by decide +kernel
  have named : Text.IsClean (key.getD "None") := by
    cases key with
    | none => decide
    | some asked => exact clean asked rfl
  exact (((opening.append isRealm.isPlain.isClean).append middle).append named).append ending

/-- A look-up of a realm in a clean configuration leaves clean lines only. -/
theorem IsClean.serves (clean : config.IsClean held) (isRealm : Challenge.IsRealm realm) :
    config.Serves held Event.IsClean realm where
  keeps := by
    intro world holds
    have first := clean.username realm isRealm world holds
    have second := clean.password realm isRealm _ first.state
    have both : ∀ event ∈ .asked (userKey realm) :: (config (userKey realm) world).events ++
        .asked (passwordKey realm) ::
          (config (passwordKey realm) (config (userKey realm) world).state).events,
        event.IsClean :=
      List.forall_mem_append.mpr
        ⟨List.forall_mem_cons.mpr ⟨Event.isClean_asked _, first.events⟩,
          List.forall_mem_cons.mpr ⟨Event.isClean_asked _, second.events⟩⟩
    have lookUp := Credentials.fromConfig_lookUp realm config world
    generalize Credentials.fromConfig realm config world = outcome at lookUp
    cases lookUp with
    | failedFirst asked | noUsername asked =>
        subst asked
        exact
          { state := first.state
            events := List.forall_mem_cons.mpr ⟨Event.isClean_asked _, first.events⟩
            value := nofun }
    | failedThen asked _ continued | noPassword asked _ continued =>
        subst asked continued
        exact { state := second.state, events := both, value := nofun }
    | found asked answered continued =>
        subst asked continued
        refine { state := second.state, events := both, value := fun credentials made => ?_ }
        obtain ⟨rfl, -⟩ := Credentials.of_make_ok made
        exact Event.isClean_noted (isClean_resolved isRealm (first.value _ answered _ rfl))
  unavailable := by
    intro world holds message missing key failed
    have between := (clean.username realm isRealm world holds).state
    refine Event.isClean_noted (isClean_unavailable isRealm fun asked named => ?_)
    obtain rfl : key = some asked := named
    have lookUp := Credentials.fromConfig_lookUp realm config world
    generalize Credentials.fromConfig realm config world = outcome at lookUp failed
    cases lookUp with
    | failedFirst asked broken =>
        subst asked
        cases failed
        exact clean.candid _ _ holds _ _ _ broken
    | noUsername =>
        cases failed
        exact (isPlain_userKey isRealm.isPlain).isClean
    | failedThen asked _ continued broken =>
        subst asked continued
        cases failed
        exact clean.candid _ _ between _ _ _ broken
    | noPassword =>
        cases failed
        exact (isPlain_passwordKey isRealm.isPlain).isClean
    | found =>
        obtain ⟨_, ⟨⟩⟩ := Credentials.eq_unencodable_of_make failed

/-- Whether an answer to a key is clean if it is a username. -/
def AnswersClean (key : String) (answer : Option RawText) : Prop :=
  ∀ realm, Challenge.IsRealm realm → key = userKey realm → ∀ username,
    answer = some (.ofText username) → Text.IsClean username

theorem answersClean_none (key : String) : AnswersClean key none := by
  rintro realm - - _ ⟨⟩

end Config

/-- Whether a provider has clean usernames, reads variables with clean names, and is not made of
other providers than those in use. -/
def Provider.IsClean (used : Nat → Prop) (environment : Environment) : Provider → Prop
  | table values | recorder values _ | faulty values _ _ _ =>
      ∀ key, Config.AnswersClean key (values.find? key)
  | Provider.environment lead _ _ =>
      Text.IsClean lead ∧
        ∀ key, Config.AnswersClean key (environment.find? (Environment.variableName lead key))
  | chain members => ∀ member ∈ members, used member

/-- Whether all providers in use are clean. -/
def Surroundings.IsClean (used : Nat → Prop) (surroundings : Surroundings) : Prop :=
  ∀ number, used number →
    (surroundings.providers number).IsClean used surroundings.environment

namespace Surroundings

variable {used : Nat → Prop} {surroundings : Surroundings} {number : Nat} {key : String}

theorem IsClean.setProvider (clean : surroundings.IsClean used) {provider : Provider}
    (also : provider.IsClean used surroundings.environment) :
    (surroundings.setProvider number provider).IsClean used := by
  apply assign_forall fun number (provider : Provider) =>
    used number → provider.IsClean used surroundings.environment
  · exact fun _ => also
  · exact fun other _ => clean other

theorem isClean_fromVariable {lead : String} (plain : Text.IsPlain key)
    (clean : Text.IsClean lead) :
    Text.IsClean (Notice.fromVariable key (Environment.variableName lead key)).text := by
  have name := Environment.isClean_variableName clean plain
  have opening : Text.IsClean "Resolved '" := by decide +kernel
  have middle : Text.IsClean "' from environment variable '" := by decide +kernel
  have ending : Text.IsClean "'" := by decide +kernel
  exact (((opening.append plain.isClean).append middle).append name).append ending

theorem read_keeps (isUsed : used number) (plain : Text.IsPlain key) :
    (read number key).Keeps (IsClean used) Event.IsClean (Config.AnswersClean key) := by
  refine Keeps.current.bind fun surroundings clean => ?_
  have provided := clean number isUsed
  generalize surroundings.providers number = provider at provided
  cases provider with
  | table values => exact .pure (provided key)
  | recorder values requested =>
      refine Keeps.bind (.change fun state held => ?_) fun _ _ => .pure (provided key)
      exact held.setProvider provided
  | faulty values failing message remaining =>
      dsimp only
      generalize (if key = failing then remaining else 0) = left
      cases left with
      | zero => exact .pure (provided key)
      | succ left =>
          refine Keeps.bind (.change fun state held => ?_) fun _ _ => .fail _
          exact held.setProvider provided
  | environment lead place loaded =>
      have answered := provided.2 key
      dsimp only
      generalize surroundings.environment.find? (Environment.variableName lead key) = answer
        at answered
      cases answer with
      | none => exact .pure answered
      | some value =>
          exact .note_bind (Event.isClean_noted (isClean_fromVariable plain provided.1))
            (.pure answered)
  | chain members => exact .fail _

theorem value_keeps (clean : surroundings.IsClean used) (isUsed : used number)
    (plain : Text.IsPlain key) (depth : Nat) :
    (surroundings.value depth number key).Keeps (IsClean used) Event.IsClean
      (Config.AnswersClean key) := by
  have closed : ∀ number, used number → ∀ members,
      surroundings.providers number = .chain members → ∀ member ∈ members, used member := by
    intro number isUsed members is_chain
    have provided := clean number isUsed
    rwa [is_chain] at provided
  exact value_keeps_of_read (Config.answersClean_none key) (fun _ isUsed => read_keeps isUsed plain)
    closed isUsed depth

/-- A provider in use is a clean configuration. -/
theorem isClean_config (isUsed : used number) :
    Config.IsClean (IsClean used) (config number) := by
  have keeps : ∀ key, Text.IsPlain key →
      (config number key).Keeps (IsClean used) Event.IsClean (Config.AnswersClean key) :=
    fun key plain => Keeps.current.bind fun surroundings clean =>
      value_keeps clean isUsed plain surroundings.count
  refine { username := fun realm isRealm => ?_, password := fun realm isRealm => ?_, candid := ?_ }
  · refine (keeps _ (Config.isPlain_userKey isRealm.isPlain)).imp fun answer clean => ?_
    exact clean realm isRealm rfl
  · exact (keeps _ (Config.isPlain_passwordKey isRealm.isPlain)).imp fun _ _ => trivial
  · intro key surroundings _ message missing asked failed
    exact absurd failed (isCandid_config number key surroundings message missing (some asked))

end Surroundings
end Countersign
