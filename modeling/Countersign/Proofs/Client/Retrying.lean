import Countersign.Proofs.Client.Replies
import Countersign.Proofs.Config.Isolation
import Countersign.Proofs.Scheme.Course
import Countersign.Proofs.Threads.Alone
import Countersign.Proofs.Vault.BreakingOff

/-!
# Failures that leave no trace

If the configuration fails while a challenge is resolved, the failure reaches the caller, and of the
call nothing remains but what the configuration itself did to the world.  So a call can be repeated
until the configuration answers, and then comes to what it would have come to at once.
-/

namespace Countersign

variable {World : Type}

namespace Surroundings

/-- A provider behind a key whose next look-ups fail has the values of its table after them. -/
theorem config_failsFirst (number : Nat) (values : Table String RawText) (key message : String) :
    (config number).FailsFirst values key (.broken message) fun remaining surroundings =>
      surroundings.providers number = .faulty values key message remaining where
  fails remaining surroundings standing := by
    have single : ∀ members, surroundings.providers number ≠ .chain members := by simp [standing]
    rw [config_eq_read single]
    refine ⟨surroundings.setProvider number (.faulty values key message remaining), [], ?_,
      assign_self _ _ _⟩
    simp [read, Action.bind_apply, standing]
  answers remaining surroundings other standing unaffected := by
    have single : ∀ members, surroundings.providers number ≠ .chain members := by simp [standing]
    rw [config_eq_read single]
    refine ⟨surroundings, [], ?_, standing⟩
    have none_left : (if other = key then remaining else 0) = 0 := by
      rcases unaffected with different | used_up
      · rw [if_neg different]
      · rw [used_up, ite_self]
    simp [read, Action.bind_apply, Action.pure_apply, standing, none_left]

end Surroundings

namespace Resolver

variable {resolver : Resolver World} {vaults : Vaults World} {challenge : Option String}
  {config : Option (Config World)} {failure : Failure} {after : World} {events : List Event}

/-- As a scheme, too, a resolver passes the failure on and changes nothing but the world. -/
theorem scheme_resolve_of_breaksOff
    (breaks : Vault.BreaksOff resolver.config challenge config
      { cache := vaults.caches resolver.cache, world := vaults.world } failure after events) :
    resolver.scheme.resolve challenge config vaults =
      { result := .error failure, state := { vaults with world := after }, events } := by
  have resolved : resolver.resolve challenge config vaults =
      { result := .error failure, state := { vaults with world := after }, events } := by
    simp [Resolver.resolve, Vaults.onVault, Vault.resolve_of_breaksOff breaks]
  change (resolver.resolve challenge config >>= _) vaults = _
  rw [Action.bind_of_error (by rw [resolved]), resolved]

end Resolver

namespace Client

variable {client middle : Client World} {number : Nat} {challenge : Option String}
  {config : Option (Config World)} {failure : Failure} {after : World} {events : List Event}

/-- A call that breaks off changes nothing but the world. -/
theorem resolve_of_breaksOff
    (breaks : Vault.BreaksOff (client.fallback number) challenge config (client.vault number)
      failure after events) :
    resolve number challenge config client =
      { result := .error failure, state := client.after (.mutate fun _ => after), events } := by
  have unchanged : client.setVault number { client.vault number with world := after } =
      client.after (.mutate fun _ => after) := by
    simp [setVault, vault, Client.after, onWorld, onVaults, Vaults.onWorld]
  rw [resolve, onResolver_apply, Vault.resolve_of_breaksOff breaks, unchanged]

theorem authorizeAny_apply (number : Nat) (challenges : List (Option String))
    (config : Option (Config World)) (client : Client World) :
    let outcome := (client.dispatcher number).authorizeAny config challenges client.vaults
    authorizeAny number challenges config client =
      { result := outcome.result, state := { client with vaults := outcome.state }
        events := outcome.events } := by
  simp [authorizeAny, Action.bind_apply, onVaults]

/-- A failure ends the search of a dispatcher, and challenges after it are not tried. -/
theorem authorizeAny_of_breaksOff {dispatcher : Nat} {early : List (Option String)}
    {before : List Event}
    (unanswered : authorizeAny dispatcher early config client =
      { result := .ok none, state := middle, events := before })
    (selected : (client.dispatcher dispatcher).select challenge =
      some (client.resolvers number).scheme)
    (breaks : Vault.BreaksOff (middle.fallback number) challenge config (middle.vault number)
      failure after events) (late : List (Option String)) :
    authorizeAny dispatcher (early ++ challenge :: late) config client =
      { result := .error failure, state := middle.after (.mutate fun _ => after)
        events := before ++ events } := by
  rw [authorizeAny_apply] at unanswered ⊢
  rcases reached : (client.dispatcher dispatcher).authorizeAny config early client.vaults with
    ⟨result, vaults, shown⟩
  rw [reached] at unanswered
  cases unanswered
  have resolved : (client.resolvers number).scheme.resolve challenge config vaults =
      { result := .error failure, state := { vaults with world := after }, events } :=
    Resolver.scheme_resolve_of_breaksOff breaks
  have authorized : (client.dispatcher dispatcher).authorize challenge config vaults =
      { result := .error failure, state := { vaults with world := after }, events } := by
    rw [Dispatcher.authorize_of_some selected, resolved]
    simp
  rw [Dispatcher.authorizeAny_append_of_none (by rw [reached]), reached,
    Dispatcher.authorizeAny_cons_of_ne (by rw [authorized]; nofun), authorized]
  rfl

/-! ## Calls made again -/

/-- Whether a call is about a realm and has a configuration to look it up in. -/
structure Consults (fallback : Option (Config World)) (realm : String) (given : Config World)
    (challenge : Option String) (config : Option (Config World)) : Prop where
  parsed : Challenge.parse challenge = .ok realm
  available : config.or fallback = some given

/-- Calls on a resolver that resolve challenges, each with its configuration if it has one. -/
def asking (number : Nat) (asked : List (Option String × Option (Config World))) :
    List (Input World) :=
  asked.map fun question => .call (.resolve number question.1 question.2)

variable {given : Config World} {values : Table String RawText} {key realm : String}
  {left : Nat → World → Prop} {asked : List (Option String × Option (Config World))}

/-- As many calls as there are failures left all fail, and change nothing but the world. -/
theorem replies_of_failsFirst (fails : given.FailsFirst values key failure left)
    (other : ∀ message missing key, failure ≠ .notFound message missing key)
    (asks : key = Config.userKey realm ∨
      key = Config.passwordKey realm ∧ (values.find? (Config.userKey realm)).isSome)
    (unknown : (client.vault number).cache.find? realm = none)
    (standing : left asked.length client.vaults.world)
    (consults : ∀ call ∈ asked, Consults (client.fallback number) realm given call.1 call.2) :
    (client.replies (asking number asked)).map (·.result) =
        List.replicate asked.length (.error failure) ∧
      ∃ world, left 0 world ∧
        client.final (asking number asked) = client.after (.mutate fun _ => world) := by
  induction asked generalizing client with
  | nil => exact ⟨rfl, client.vaults.world, standing, rfl⟩
  | cons question asked induction =>
      obtain ⟨⟨parsed, available⟩, consults⟩ := List.forall_mem_cons.mp consults
      obtain ⟨after, events, broken, standing_after⟩ := fails.exists_breaksOff asks standing
      have breaks : Vault.BreaksOff (client.fallback number) question.1 question.2
          (client.vault number) failure after events :=
        { fails := ⟨realm, given, parsed, unknown, available, broken⟩, other }
      have resolved := resolve_of_breaksOff breaks
      have left_eq : client.after (.call (.resolve number question.1 question.2)) =
          client.after (.mutate fun _ => after) :=
        congrArg Outcome.state resolved
      have standing_next : left asked.length (client.after (.mutate fun _ => after)).vaults.world :=
        standing_after
      have unknown_next :
          ((client.after (.mutate fun _ => after)).vault number).cache.find? realm = none := unknown
      obtain ⟨failed, world, used_up, final⟩ := induction unknown_next standing_next consults
      rw [← left_eq] at failed final
      refine ⟨?_, world, used_up, ?_⟩
      · have first : (client.reply (.resolve number question.1 question.2)).result =
            .error failure := congrArg Outcome.result resolved
        rw [List.length_cons, List.replicate_succ, ← failed, ← first]
        rfl
      · refine Eq.trans final ?_
        rw [left_eq]
        rfl

/-- When no failures are left, a call returns and stores what one with the table would have at
first. -/
theorem resolve_of_failsFirst (fails : given.FailsFirst values key failure left)
    (unknown : (client.vault number).cache.find? realm = none) {world : World}
    (used_up : left 0 world)
    (consults : Consults (client.fallback number) realm given challenge config) :
    let retried := resolve number challenge config (client.after (.mutate fun _ => world))
    let plain := resolve number challenge (some (.ofTable values)) client
    retried.result = plain.result ∧ retried.state.vaults.caches = plain.state.vaults.caches := by
  obtain ⟨parsed, available⟩ := consults
  intro retried plain
  obtain ⟨returned, stored⟩ :=
    Vault.resolve_of_failsFirst fails used_up parsed available unknown client.vaults.world
  simp only [retried, plain, resolve, onResolver_apply]
  exact ⟨returned, congrArg (assign client.vaults.caches _) stored⟩

/-! ## The law -/

/-- What can be relied on when the configuration of a resolver fails. -/
structure Recovers (client : Client World) (number : Nat) : Prop where
  /-- The failure reaches the caller, the caches are what they were, nothing is shown but what the
  configuration does, and whatever follows is as if only the world had changed. -/
  breaks : ∀ challenge config failure after events,
    Vault.BreaksOff (client.fallback number) challenge config (client.vault number) failure after
      events →
    (∀ cache realm,
      ((resolve number challenge config client).state.vaults.caches cache).find? realm =
        (client.vaults.caches cache).find? realm) ∧
    ∀ inputs,
      client.replies (.call (.resolve number challenge config) :: inputs) =
          { resolver := number, result := .error failure, events } ::
            client.replies (.mutate (fun _ => after) :: inputs) ∧
        client.final (.call (.resolve number challenge config) :: inputs) =
          client.final (.mutate (fun _ => after) :: inputs)
  /-- A thread that makes the call while the lock is free leaves it free, and all other locks and
  threads as they were. -/
  unlocks : ∀ (state : Threads.State World) thread challenge config pending returned failure after
      events,
    state.threads thread =
      { stage := .idle, pending := .resolve number challenge config :: pending, returned } →
    state.holders number = none →
    Vault.BreaksOff (client.fallback number) challenge config state.vault failure after events →
    ∃ turns, state.run client.fallback (List.replicate turns thread) =
      { vault := { state.vault with world := after }
        holders := state.holders
        threads := assign state.threads thread
          { stage := .idle, pending, returned := returned ++ [.error failure] }
        events := state.events ++ events.map fun event => (thread, event) }
  /-- If the configuration has the values of a table after failures on one of the keys, as many
  calls fail, and the next one returns and stores what it would have with the table. -/
  retries : ∀ (given : Config World) values key failure left realm asked challenge config,
    given.FailsFirst values key failure left →
    (∀ message missing key, failure ≠ .notFound message missing key) →
    (key = Config.userKey realm ∨
      key = Config.passwordKey realm ∧ (values.find? (Config.userKey realm)).isSome) →
    (client.vault number).cache.find? realm = none →
    left asked.length client.vaults.world →
    (∀ question ∈ asked,
      Consults (client.fallback number) realm given question.1 question.2) →
    Consults (client.fallback number) realm given challenge config →
    let retried := resolve number challenge config (client.final (asking number asked))
    let plain := resolve number challenge (some (.ofTable values)) client
    (client.replies (asking number asked)).map (·.result) =
        List.replicate asked.length (.error failure) ∧
      retried.result = plain.result ∧ retried.state.vaults.caches = plain.state.vaults.caches
  /-- If the resolver is the first scheme for a challenge that comes after others without an answer,
  its failure ends the search, and no challenge after it is tried. -/
  ends : ∀ dispatcher early challenge late config middle before failure after events,
    authorizeAny dispatcher early config client =
      { result := .ok none, state := middle, events := before } →
    (client.dispatcher dispatcher).select challenge = some (client.resolvers number).scheme →
    Vault.BreaksOff (middle.fallback number) challenge config (middle.vault number) failure after
      events →
    authorizeAny dispatcher (early ++ challenge :: late) config client =
      { result := .error failure, state := middle.after (.mutate fun _ => after)
        events := before ++ events }

/-- A failing configuration leaves no trace, and the call can be made again. -/
theorem recovers (client : Client World) (number : Nat) : client.Recovers number where
  breaks challenge config failure after events breaks := by
    have resolved := resolve_of_breaksOff breaks
    refine ⟨fun cache realm => by rw [resolved]; rfl, fun inputs => ?_⟩
    have left_eq : client.after (.call (.resolve number challenge config)) =
        client.after (.mutate fun _ => after) := congrArg Outcome.state resolved
    have replied : client.reply (.resolve number challenge config) =
        { resolver := number, result := .error failure, events } := by
      rw [reply, call, resolved]
      rfl
    constructor
    · rw [replies, replied, left_eq]
      rfl
    · rw [final, List.foldl_cons, left_eq]
      rfl
  unlocks state thread challenge config pending returned failure after events threaded free
      breaks := by
    obtain ⟨turns, reached⟩ := Threads.State.exists_run_of_call client.fallback threaded free
    refine ⟨turns, ?_⟩
    have performed : (Threads.Call.resolve number challenge config).perform
        (client.fallback number) state.vault =
        { result := .error failure, state := { state.vault with world := after }, events } :=
      Vault.resolve_of_breaksOff breaks
    rw [reached]
    simp only [Threads.Call.resolver, performed]
  retries given values key failure left realm asked challenge config fails other asks unknown
      standing consults consults_last := by
    intro retried plain
    obtain ⟨failed, world, used_up, final_eq⟩ :=
      replies_of_failsFirst fails other asks unknown standing consults
    refine ⟨failed, ?_⟩
    simp only [retried, final_eq]
    exact resolve_of_failsFirst fails unknown used_up consults_last
  ends _ _ _ late _ _ _ _ _ _ unanswered selected breaks :=
    authorizeAny_of_breaksOff unanswered selected breaks late

/-- The username and the password of a realm. -/
def twoValues : Table String RawText :=
  .ofList [(Config.userKey "a", .ofText "ann"), (Config.passwordKey "a", .ofText "secret")]

/-- A client with a provider that fails twice on the password of the realm, and with a dispatcher
that has its only resolver. -/
def unlucky : Client Surroundings :=
  { start ((Surroundings.start Environment.loader .empty .empty).addProvider
      (.faulty twoValues (Config.passwordKey "a") "boom" 2)) with
    dispatchers := fun _ => [.basic 0] }

/-- Two calls fail and the third one does not, and a dispatcher tries nothing after a failure. -/
theorem recovers_unlucky :
    let question := (some "Basic realm=\"a\"", some (Surroundings.config 0))
    (unlucky.replies (asking 0 [question, question])).map (·.result) =
        [.error (.broken "boom"), .error (.broken "boom")] ∧
      (resolve 0 question.1 question.2 (unlucky.final (asking 0 [question, question]))).result =
        .ok (some { serial := 0, credentials := ⟨"a", "ann", "secret"⟩ }) ∧
      (authorizeAny 0 [some "Digest", question.1, some "Basic realm=\"b\""] question.2
        unlucky).result = .error (.broken "boom") := by
  intro question
  have parsed : Challenge.parse question.1 = .ok "a" := rfl
  have consults : Consults (unlucky.fallback 0) "a" (Surroundings.config 0) question.1 question.2 :=
    ⟨parsed, rfl⟩
  have fails := Surroundings.config_failsFirst 0 twoValues (Config.passwordKey "a") "boom"
  have asks : Config.passwordKey "a" = Config.userKey "a" ∨
      Config.passwordKey "a" = Config.passwordKey "a" ∧
        (twoValues.find? (Config.userKey "a")).isSome :=
    .inr ⟨rfl, rfl⟩
  have standing : unlucky.vaults.world.providers 0 =
      .faulty twoValues (Config.passwordKey "a") "boom" 2 := rfl
  have unknown : (unlucky.vault 0).cache.find? "a" = none := rfl
  obtain ⟨failed, returned, -⟩ := (recovers unlucky 0).retries (Surroundings.config 0) twoValues
    (Config.passwordKey "a") (.broken "boom") _ "a" [question, question] question.1 question.2 fails
    nofun asks unknown standing (by simp [consults]) consults
  refine ⟨failed, ?_, ?_⟩
  · rw [returned]
    rfl
  · obtain ⟨after, events, broken, -⟩ := fails.exists_breaksOff asks standing
    have breaks : Vault.BreaksOff (unlucky.fallback 0) question.1 question.2 (unlucky.vault 0)
        (.broken "boom") after events :=
      { fails := ⟨"a", Surroundings.config 0, parsed, unknown, rfl, broken⟩, other := nofun }
    have unanswered : authorizeAny 0 [some "Digest"] question.2 unlucky =
        { result := .ok none, state := unlucky, events := [.noted (.unmatched (some "Digest"))] } :=
      rfl
    exact congrArg Outcome.result ((recovers unlucky 0).ends 0 [some "Digest"] question.1
      [some "Basic realm=\"b\""] question.2 unlucky _ (.broken "boom") after events unanswered rfl
      breaks)

end Client
end Countersign
