import Countersign.Client
import Countersign.Proofs.Vault.Recall

/-!
# A resolver and its history

A run of operations on a resolver leaves a history of what each of them found.  The resolver knows
about a realm what the first look-up that did not break off gave, of all since the realm was last
dropped, and so its answers can be told from its history.
-/

namespace Countersign

variable {World : Type}

namespace Client

/-- The cache of a resolver with the world. -/
def vault (client : Client World) (number : Nat) : Vault World :=
  { cache := client.vaults.caches (client.resolvers number).cache, world := client.vaults.world }

/-- Replaces the cache of a resolver and the world. -/
def setVault (client : Client World) (number : Nat) (vault : Vault World) : Client World :=
  { client with
    vaults :=
      { caches := assign client.vaults.caches (client.resolvers number).cache vault.cache
        world := vault.world } }

/-- The configuration that a resolver falls back on. -/
def fallback (client : Client World) (number : Nat) : Option (Config World) :=
  (client.resolvers number).config

@[simp]
theorem vault_setVault (client : Client World) (number : Nat) (vault : Vault World) :
    (client.setVault number vault).vault number = vault := by
  simp [Client.vault, setVault]

@[simp]
theorem setVault_vault (client : Client World) (number : Nat) :
    client.setVault number (client.vault number) = client := by
  simp [vault, setVault]

@[simp]
theorem fallback_setVault (client : Client World) (number : Nat) (vault : Vault World) :
    (client.setVault number vault).fallback number = client.fallback number := rfl

@[simp]
theorem onResolver_apply {Value : Type} (number : Nat)
    (action : Option (Config World) → Action (Vault World) Value) (client : Client World) :
    onResolver number action client =
      { result := (action (client.fallback number) (client.vault number)).result
        state := client.setVault number
          (action (client.fallback number) (client.vault number)).state
        events := (action (client.fallback number) (client.vault number)).events } := by
  simp [onResolver, Action.bind_apply, onVaults, Vaults.onVault, fallback, vault, setVault]

end Client

/-- Something that is done to a resolver, or to what its configurations read. -/
inductive Operation (World : Type) where
  | resolve (challenge : Option String) (config : Option (Config World))
  | forget (realm : String)
  | clear
  | configure (config : Option (Config World))
  | mutate (change : World → World)

namespace Operation

/-- Does an operation to a resolver. -/
def perform (number : Nat) : Operation World → Action (Client World) (Option Record)
  | resolve challenge config => Client.resolve number challenge config
  | forget realm => do
      Client.forget number realm
      pure none
  | clear => do
      Client.clear number
      pure none
  | configure config => do
      Client.configureResolver number config
      pure none
  | mutate change => do
      Client.onWorld (Action.change change)
      pure none

/-- Whether an operation drops what is known about a realm. -/
def drops (realm : String) : Operation World → Bool
  | forget other => other = realm
  | clear => true
  | resolve _ _ | configure _ | mutate _ => false

/-- Whether an operation brings no configuration but a candid one. -/
def IsCandid : Operation World → Prop
  | resolve _ config | configure config => ∀ given, config = some given → given.IsCandid
  | forget _ | clear | mutate _ => True

end Operation

/-- An operation with what its resolver fell back on and knew before it. -/
structure Moment (World : Type) where
  operation : Operation World
  fallback : Option (Config World)
  vault : Vault World

namespace Moment

/-- What an operation makes known about a realm that was not known before. -/
def verdict? (realm : String) (moment : Moment World) : Option (Option Record) :=
  match moment.operation with
  | .resolve challenge config =>
      (Vault.configFor? realm moment.fallback challenge config).bind
        (Vault.verdict? realm · moment.vault)
  | .forget _ | .clear | .configure _ | .mutate _ => none

end Moment

/-- The part of a history after the last time a realm was dropped. -/
def sinceDrop (realm : String) (history : List (Moment World)) : List (Moment World) :=
  (history.reverse.takeWhile fun moment => !moment.operation.drops realm).reverse

/-- What a history made known about a realm. -/
def learned (realm : String) (history : List (Moment World)) : Option (Option Record) :=
  (sinceDrop realm history).findSome? (·.verdict? realm)

theorem learned_nil (realm : String) : learned realm ([] : List (Moment World)) = none := rfl

theorem learned_append_of_drops {realm : String} {moment : Moment World}
    (drops : moment.operation.drops realm) (history : List (Moment World)) :
    learned realm (history ++ [moment]) = none := by
  simp [learned, sinceDrop, drops]

/-- What is known since the last dropping stays, and what is not may become known. -/
theorem learned_append {realm : String} {moment : Moment World}
    (keeps : moment.operation.drops realm = false) (history : List (Moment World)) :
    learned realm (history ++ [moment]) = (learned realm history).or (moment.verdict? realm) := by
  simp [learned, sinceDrop, keeps, List.findSome?_append]

namespace Client

variable {number : Nat} {client : Client World} {history : List (Moment World)}

/-- What is about to happen to a resolver. -/
def moment (client : Client World) (number : Nat) (operation : Operation World) : Moment World :=
  { operation, fallback := client.fallback number, vault := client.vault number }

/-- Does operations one after the other, also after one that failed. -/
def performAll (number : Nat) (client : Client World) (operations : List (Operation World)) :
    Client World :=
  operations.foldl (fun client operation => (operation.perform number client).state) client

/-- What operations find, one after the other. -/
def moments (number : Nat) (client : Client World) : List (Operation World) → List (Moment World)
  | [] => []
  | operation :: operations =>
      client.moment number operation ::
        moments number (operation.perform number client).state operations

theorem moments_append (client : Client World) (early late : List (Operation World)) :
    client.moments number (early ++ late) =
      client.moments number early ++ (client.performAll number early).moments number late := by
  induction early generalizing client with
  | nil => rfl
  | cons operation early induction =>
      simp only [List.cons_append, moments, induction, List.cons.injEq, true_and]
      rfl

/-- Whether a resolver knows what a history made known, and can only fall back on a candid
configuration. -/
structure Recalls (number : Nat) (client : Client World) (history : List (Moment World)) :
    Prop where
  known : ∀ realm, (client.vault number).cache.find? realm = learned realm history
  candid : ∀ given, client.fallback number = some given → given.IsCandid

theorem Recalls.candid_or (recalls : Recalls number client history)
    {config : Option (Config World)} (candid : ∀ given, config = some given → given.IsCandid)
    (given : Config World) (available : config.or (client.fallback number) = some given) :
    given.IsCandid := by
  cases config with
  | none => exact recalls.candid given available
  | some config => exact candid given available

/-- After an operation the resolver knows what the history with it made known. -/
theorem Recalls.perform (recalls : Recalls number client history) {operation : Operation World}
    (candid : operation.IsCandid) :
    Recalls number (operation.perform number client).state
      (history ++ [client.moment number operation]) := by
  cases operation with
  | resolve challenge config =>
      refine ⟨fun realm => ?_, by simpa [Operation.perform, resolve] using recalls.candid⟩
      rw [learned_append rfl, ← recalls.known realm]
      simp only [Operation.perform, resolve, onResolver_apply, vault_setVault]
      exact Vault.find?_resolve (recalls.candid_or candid) realm
  | forget dropped =>
      refine ⟨fun realm => ?_, ?_⟩
      · by_cases same : dropped = realm
        · subst same
          rw [learned_append_of_drops (by simp [moment, Operation.drops])]
          simp [Operation.perform, forget, Action.bind_apply, Action.pure_apply, Cache.find?_forget]
        · rw [learned_append (by simp [moment, Operation.drops, same]), ← recalls.known realm]
          have different : ¬realm = dropped := fun equal => same equal.symm
          simp [Operation.perform, forget, Action.bind_apply, Action.pure_apply, Cache.find?_forget,
            different, Moment.verdict?, moment]
      · simpa [Operation.perform, forget, Action.bind_apply, Action.pure_apply] using recalls.candid
  | clear =>
      refine ⟨fun realm => ?_, ?_⟩
      · rw [learned_append_of_drops rfl]
        simp [Operation.perform, clear, Action.bind_apply, Action.pure_apply]
      · simpa [Operation.perform, clear, Action.bind_apply, Action.pure_apply] using recalls.candid
  | configure config =>
      refine ⟨fun realm => ?_, ?_⟩
      · rw [learned_append rfl, ← recalls.known realm]
        simp [Operation.perform, configureResolver, Action.bind_apply, Action.pure_apply,
          Moment.verdict?, moment, vault]
      · simpa [Operation.perform, configureResolver, Action.bind_apply, Action.pure_apply, fallback]
          using show ∀ given, config = some given → given.IsCandid from candid
  | mutate change =>
      refine ⟨fun realm => ?_, ?_⟩
      · rw [learned_append rfl, ← recalls.known realm]
        simp [Operation.perform, onWorld, onVaults, Vaults.onWorld, Action.bind_apply,
          Action.pure_apply, Moment.verdict?, moment, vault]
      · simpa [Operation.perform, onWorld, onVaults, Vaults.onWorld, Action.bind_apply,
          Action.pure_apply, fallback] using recalls.candid

theorem Recalls.performAll (recalls : Recalls number client history)
    {operations : List (Operation World)} (candid : ∀ operation ∈ operations, operation.IsCandid) :
    Recalls number (client.performAll number operations)
      (history ++ client.moments number operations) := by
  induction operations generalizing client history with
  | nil => simpa [Client.performAll, moments] using recalls
  | cons operation operations induction =>
      have next := recalls.perform (candid operation (.head _))
      have rest := induction next fun later member => candid later (.tail _ member)
      rwa [List.append_assoc] at rest

/-- A challenge without a realm is answered with nothing and changes nothing.  A challenge for a
realm is answered with what the history up to and with it made known about the realm, if anything,
without a configuration with nothing, and otherwise with the failure of the configuration. -/
theorem resolve_eq_learned
    (unknown : ∀ realm, (client.vault number).cache.find? realm = none)
    (fallback_candid : ∀ given, client.fallback number = some given → given.IsCandid)
    {operations : List (Operation World)} (candid : ∀ operation ∈ operations, operation.IsCandid)
    (challenge : Option String) {config : Option (Config World)}
    (config_candid : ∀ given, config = some given → given.IsCandid) :
    (∀ failure, Challenge.parse challenge = .error failure →
      resolve number challenge config (client.performAll number operations) =
        { result := .ok none, state := client.performAll number operations
          events := [.noted (.ignored failure)] }) ∧
    ∀ realm, Challenge.parse challenge = .ok realm →
      (∀ entry,
        learned realm (client.moments number (operations ++ [.resolve challenge config])) =
          some entry →
        (resolve number challenge config (client.performAll number operations)).result =
          .ok entry) ∧
      (learned realm (client.moments number (operations ++ [.resolve challenge config])) = none →
        (config.or ((client.performAll number operations).fallback number) = none →
          (resolve number challenge config (client.performAll number operations)).result =
            .ok none) ∧
        ∀ given, config.or ((client.performAll number operations).fallback number) = some given →
          ∃ failure,
            given.failure? realm (client.performAll number operations).vaults.world =
              some failure ∧
            (resolve number challenge config (client.performAll number operations)).result =
              .error failure) := by
  have start : Recalls number client [] :=
    { known := fun realm => by rw [unknown, learned_nil], candid := fallback_candid }
  have recalls := start.performAll candid
  rw [List.nil_append] at recalls
  generalize final_eq : client.performAll number operations = final at recalls
  refine ⟨?_, ?_⟩
  · intro failure parsed
    simp [resolve, Vault.resolve_malformed parsed]
  · intro realm parsed
    have call_candid : Operation.IsCandid (.resolve challenge config) := config_candid
    have known := (recalls.perform call_candid).known realm
    have history_eq : client.moments number (operations ++ [.resolve challenge config]) =
        client.moments number operations ++ [final.moment number (.resolve challenge config)] := by
      rw [moments_append, final_eq]
      rfl
    simp only [Operation.perform, resolve, onResolver_apply, vault_setVault] at known ⊢
    rw [history_eq, ← known]
    rcases Vault.resolve_cases (recalls.candid_or config_candid) parsed with
      ⟨entry, stored, ended⟩ | ⟨unstored, ⟨unavailable, ended⟩ | ⟨given, failure, available,
        failed, ended⟩⟩
    · rw [stored, ended]
      exact ⟨by rintro _ ⟨⟩; rfl, nofun⟩
    · rw [unstored, ended, unavailable]
      exact ⟨nofun, fun _ => ⟨fun _ => rfl, nofun⟩⟩
    · rw [unstored, ended, available]
      refine ⟨nofun, fun _ => ⟨nofun, ?_⟩⟩
      rintro _ ⟨⟩
      exact ⟨failure, failed, rfl⟩

/-- A configuration that answers every key with what the world holds. -/
def echo : Config (Option RawText) := fun _ held =>
  { result := .ok held, state := held, events := [] }

/-- What a realm was found to have before the world changed. -/
theorem resolve_eq_learned_after_mutation :
    (resolve 0 (some "Basic realm=\"a\"") none ((start (some (.ofText "u"))).performAll 0
      [.configure (some echo), .resolve (some "Basic realm=\"a\"") none,
        .mutate fun _ => some (.ofText "v")])).result =
      .ok (some { serial := 0, credentials := { realm := "a", username := "u", password := "u" } })
    := by
  have candid : echo.IsCandid := by
    intro key world message missing asked failed
    cases failed
  refine ((resolve_eq_learned (fun _ => rfl) nofun ?_ (some "Basic realm=\"a\"") nofun).2 "a"
    rfl).1 _ rfl
  simp only [List.forall_mem_cons, List.not_mem_nil, false_implies, implies_true, and_true]
  refine ⟨?_, nofun, trivial⟩
  rintro _ ⟨⟩
  exact candid

/-- A look-up whose values were given but could not be written is not what a later challenge is
answered with: the later challenge has the realm looked up anew.  And the first look-up of a
resolver is not what it answers with if another resolver has filled its cache. -/
theorem resolve_after_refusal :
    let ragged := RawText.ofBytes [0xe9]
    let client := (start (some ragged)).performAll 0 [.configure (some echo)]
    let first := resolve 0 (some "Basic realm=\"a\"") none client
    (∀ key, (echo key client.vaults.world).result = .ok (some ragged)) ∧
      first.result = (Credentials.fromConfig "a" echo client.vaults.world).result.map
        (fun _ => none) ∧
      first.result =
        .error (.unencodable { point := .escape 0xe9, position := 0, width := 1 }) ∧
      (resolve 0 (some "Basic realm=\"a\"") none
        (client.performAll 0 [.resolve (some "Basic realm=\"a\"") none,
          .mutate fun _ => some (.ofText "v")])).result =
        .ok (some
          { serial := 0, credentials := { realm := "a", username := "v", password := "v" } }) ∧
      (resolve 0 (some "Basic realm=\"a\"") (some echo)
        (resolve 1 (some "Basic realm=\"a\"") (some (.ofTable .empty))
          (start (some (.ofText "u")))).state).result = .ok none :=
  ⟨fun _ => rfl, rfl, rfl, rfl, rfl⟩

end Client
end Countersign
