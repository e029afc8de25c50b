import Countersign.Proofs.Client.History
import Countersign.Proofs.Vault.Inert

/-!
# What calls on resolvers come to

Calls are made on resolvers one after the other, and in between something may change what
configurations read.  Resolvers over one cache that fall back on the same configuration can stand in
for each other.  A resolver that shares its cache with no other does not notice the calls on others,
but for what they do to the world, and not even that if the configurations are inert.
-/

namespace Countersign

open Countersign.Action (Agree Keeps)

variable {World : Type}

/-- Something that happens to a client: a call, or a change to what configurations read. -/
inductive Input (World : Type) where
  | call (call : Threads.Call World)
  | mutate (change : World → World)

/-- What a call on a resolver came to. -/
structure Reply where
  resolver : Nat
  result : Except Failure (Option Record)
  events : List Event

namespace Threads.Call

/-- The same call on another resolver. -/
def on (number : Nat) : Call World → Call World
  | resolve _ challenge config => resolve number challenge config
  | forget _ realm => forget number realm
  | clear _ => clear number

@[simp]
theorem resolver_on (number : Nat) (call : Call World) : (call.on number).resolver = number := by
  cases call <;> rfl

@[simp]
theorem perform_on (number : Nat) (call : Call World) (fallback : Option (Config World)) :
    (call.on number).perform fallback = call.perform fallback := by
  cases call <;> rfl

end Threads.Call

namespace Input

/-- The same on another resolver, if it is a call. -/
def on (number : Nat) : Input World → Input World
  | call made => .call (made.on number)
  | mutate change => mutate change

/-- Whether something is no call, or one on some resolvers. -/
def IsOn (members : List Nat) : Input World → Prop
  | call made => made.resolver ∈ members
  | mutate _ => True

/-- Whether something is no call, or one on a resolver. -/
def concerns (number : Nat) : Input World → Bool
  | call made => made.resolver = number
  | mutate _ => true

/-- Whether a call brings no configuration but an inert one, and whether a change keeps worlds
related. -/
def IsInert (worlds : World → World → Prop) : Input World → Prop
  | call made => made.IsInert worlds
  | mutate change => ∀ left right, worlds left right → worlds (change left) (change right)

end Input

/-- The reply of another resolver. -/
def Reply.on (number : Nat) (reply : Reply) : Reply :=
  { reply with resolver := number }

namespace Client

/-- Makes a call. -/
def call : Threads.Call World → Action (Client World) (Option Record)
  | .resolve number challenge config => resolve number challenge config
  | .forget number realm => do
      forget number realm
      pure none
  | .clear number => do
      clear number
      pure none

theorem call_apply (call : Threads.Call World) (client : Client World) :
    Client.call call client =
      { result :=
          (call.perform (client.fallback call.resolver) (client.vault call.resolver)).result
        state := client.setVault call.resolver
          (call.perform (client.fallback call.resolver) (client.vault call.resolver)).state
        events :=
          (call.perform (client.fallback call.resolver) (client.vault call.resolver)).events } := by
  cases call with
  | resolve number challenge config =>
      exact onResolver_apply number (fun fallback => Vault.resolve fallback challenge config) client
  | forget number realm =>
      simp [Client.call, forget, Threads.Call.perform, Threads.Call.resolver, Action.bind_apply,
        Action.pure_apply]
  | clear number =>
      simp [Client.call, clear, Threads.Call.perform, Threads.Call.resolver, Action.bind_apply,
        Action.pure_apply]

/-- What a call comes to. -/
def reply (client : Client World) (call : Threads.Call World) : Reply :=
  { resolver := call.resolver
    result := (Client.call call client).result
    events := (Client.call call client).events }

/-- What is left of a client by something that happens to it. -/
def after (client : Client World) : Input World → Client World
  | .call call => (Client.call call client).state
  | .mutate change => (onWorld (Action.change change) client).state

/-- What is left of a client in the end, also if calls failed. -/
def final (client : Client World) (inputs : List (Input World)) : Client World :=
  inputs.foldl after client

/-- What calls come to, one after the other. -/
def replies (client : Client World) : List (Input World) → List Reply
  | [] => []
  | .call call :: inputs => client.reply call :: replies (client.after (.call call)) inputs
  | .mutate change :: inputs => replies (client.after (.mutate change)) inputs

variable {client left right many one : Client World} {number sole : Nat}

@[simp]
theorem resolvers_after (client : Client World) (input : Input World) :
    (client.after input).resolvers = client.resolvers := by
  cases input with
  | call call =>
      rw [after, call_apply]
      rfl
  | mutate change => rfl

theorem world_after_call (client : Client World) (call : Threads.Call World) :
    (client.after (.call call)).vaults.world =
      (call.perform (client.fallback call.resolver) (client.vault call.resolver)).state.world := by
  rw [after, call_apply]
  rfl

theorem vaults_after_mutate (client : Client World) (change : World → World) :
    (client.after (.mutate change)).vaults =
      { client.vaults with world := change client.vaults.world } := rfl

/-- What a call comes to depends on the vaults and its resolver alone. -/
theorem reply_on (vaults : many.vaults = one.vaults) {call : Threads.Call World}
    (same : many.resolvers call.resolver = one.resolvers sole) :
    one.reply (call.on sole) = (many.reply call).on sole ∧
      (one.after (.call (call.on sole))).vaults = (many.after (.call call)).vaults := by
  have vault : one.vault sole = many.vault call.resolver := by
    rw [Client.vault, Client.vault, same, vaults]
  have fallback : one.fallback sole = many.fallback call.resolver :=
    congrArg Resolver.config same.symm
  simp only [reply, Reply.on, after, call_apply, Threads.Call.resolver_on,
    Threads.Call.perform_on, vault, fallback, setVault, same, vaults, and_self]

/-- Calls come to the same on several resolvers as on one over the same cache that falls back on the
same configuration. -/
theorem replies_on (vaults : many.vaults = one.vaults) {members : List Nat}
    (same : ∀ member ∈ members, many.resolvers member = one.resolvers sole)
    {inputs : List (Input World)} (within : ∀ input ∈ inputs, input.IsOn members) :
    one.replies (inputs.map (·.on sole)) = (many.replies inputs).map (·.on sole) ∧
      (one.final (inputs.map (·.on sole))).vaults = (many.final inputs).vaults := by
  induction inputs generalizing many one with
  | nil => exact ⟨rfl, vaults.symm⟩
  | cons input inputs induction =>
      have rest : ∀ later ∈ inputs, later.IsOn members := fun later isInput =>
        within later (.tail _ isInput)
      have alike : ∀ member ∈ members, (many.after input).resolvers member =
          (one.after (input.on sole)).resolvers sole := by
        simpa only [resolvers_after] using same
      cases input with
      | call call =>
          obtain ⟨replied, left⟩ := reply_on vaults (same _ (within _ (.head _)))
          obtain ⟨later, final⟩ := induction left.symm alike rest
          refine ⟨?_, final⟩
          change one.reply (call.on sole) :: _ = (many.reply call).on sole :: _
          rw [replied]
          exact congrArg _ later
      | mutate change =>
          have left : (many.after (.mutate change)).vaults =
              (one.after (.mutate change)).vaults := by
            rw [vaults_after_mutate, vaults_after_mutate, vaults]
          exact induction left alike rest

/-- Whether a resolver is the same in two clients, with the same cache, and the worlds are
related. -/
structure SameFor (worlds : World → World → Prop) (number : Nat) (left right : Client World) :
    Prop where
  resolver : left.resolvers number = right.resolvers number
  vault : Vault.SameBut worlds (left.vault number) (right.vault number)

variable {worlds : World → World → Prop}

/-- A call on the resolver comes to the same in both clients. -/
theorem SameFor.own (same : SameFor worlds number left right) {call : Threads.Call World}
    (own : call.resolver = number)
    (agree : Agree (Vault.SameBut worlds) (fun _ _ => Eq)
      (call.perform (left.fallback number)) (call.perform (left.fallback number))) :
    left.reply call = right.reply call ∧
      SameFor worlds number (left.after (.call call)) (right.after (.call call)) := by
  subst own
  have fallback : right.fallback call.resolver = left.fallback call.resolver :=
    congrArg Resolver.config same.resolver.symm
  have agreed := agree _ _ same.vault
  rw [reply, reply, after, after, call_apply, call_apply, fallback]
  refine ⟨?_, same.resolver, ?_⟩
  · rw [agreed.result.eq, agreed.events]
  · rw [vault_setVault, vault_setVault]
    exact agreed.state

/-- A call on another resolver with another cache does to the resolver what it does to the world. -/
theorem SameFor.other (same : SameFor worlds number left right) {call : Threads.Call World}
    (apart : (left.resolvers call.resolver).cache ≠ (left.resolvers number).cache)
    {next : Client World} (resolvers : next.resolvers = right.resolvers)
    (caches : next.vaults.caches = right.vaults.caches)
    (related : worlds (left.after (.call call)).vaults.world next.vaults.world) :
    SameFor worlds number (left.after (.call call)) next where
  resolver := by rw [resolvers_after, resolvers, same.resolver]
  vault :=
    { cache := by
        have cache : (left.after (.call call)).vaults.caches (left.resolvers number).cache =
            left.vaults.caches (left.resolvers number).cache := by
          rw [after, call_apply]
          exact assign_of_ne _ _ apart.symm
        rw [Client.vault, resolvers_after, cache, Client.vault, resolvers, caches]
        exact same.vault.cache
      world := related }

theorem SameFor.mutate (same : SameFor worlds number left right) {change other : World → World}
    (related : worlds (change left.vaults.world) (other right.vaults.world)) :
    SameFor worlds number (left.after (.mutate change)) (right.after (.mutate other)) where
  resolver := same.resolver
  vault := { cache := same.vault.cache, world := related }

variable {call : Threads.Call World} {inputs : List (Input World)} {members : List Nat}

theorem concerns_call (own : call.resolver = number) : (Input.call call).concerns number = true :=
  decide_eq_true own

theorem not_concerns_call (other : call.resolver ≠ number) :
    ¬(Input.call call).concerns number = true :=
  mt of_decide_eq_true other

theorem filter_replies_own (own : call.resolver = number) (inputs : List (Input World)) :
    (client.replies (.call call :: inputs)).filter (·.resolver = number) =
      client.reply call ::
        ((client.after (.call call)).replies inputs).filter (·.resolver = number) :=
  List.filter_cons_of_pos (decide_eq_true own)

theorem filter_replies_other (other : call.resolver ≠ number) (inputs : List (Input World)) :
    (client.replies (.call call :: inputs)).filter (·.resolver = number) =
      ((client.after (.call call)).replies inputs).filter (·.resolver = number) :=
  List.filter_cons_of_neg (mt of_decide_eq_true other)

/-- Whether a resolver shares its cache with no other of several. -/
def Owns (client : Client World) (number : Nat) (members : List Nat) : Prop :=
  ∀ other ∈ members, other ≠ number →
    (client.resolvers other).cache ≠ (client.resolvers number).cache

theorem Owns.after (owns : client.Owns number members) (input : Input World) :
    (client.after input).Owns number members := by
  simpa only [Owns, resolvers_after] using owns

/-- What happens, with the calls on other resolvers reduced to what they do to the world. -/
def reduced (number : Nat) (client : Client World) : List (Input World) → List (Input World)
  | [] => []
  | input :: inputs =>
      (if input.concerns number then input
        else .mutate fun _ => (client.after input).vaults.world) ::
          reduced number (client.after input) inputs

/-- A resolver that shares its cache with no other does not notice the calls on others, but for what
they do to the world. -/
theorem replies_reduced (same : SameFor Eq number left right) (owns : left.Owns number members)
    (within : ∀ input ∈ inputs, input.IsOn members) :
    (left.replies inputs).filter (·.resolver = number) =
        right.replies (left.reduced number inputs) ∧
      SameFor Eq number (left.final inputs) (right.final (left.reduced number inputs)) := by
  induction inputs generalizing left right with
  | nil => exact ⟨rfl, same⟩
  | cons input inputs induction =>
      have rest : ∀ later ∈ inputs, later.IsOn members := fun later isInput =>
        within later (.tail _ isInput)
      cases input with
      | call call =>
          have isMember : call.resolver ∈ members := within _ (.head _)
          by_cases own : call.resolver = number
          · obtain ⟨replied, next⟩ := same.own own (Vault.agree_self _)
            obtain ⟨later, final⟩ := induction next (owns.after _) rest
            have kept : left.reduced number (.call call :: inputs) =
                .call call :: (left.after (.call call)).reduced number inputs := by
              rw [reduced, if_pos (concerns_call own)]
            rw [filter_replies_own own, kept, replies, replied, later]
            exact ⟨rfl, final⟩
          · -- the change that stands in for the call on the other resolver levels the worlds
            have next : SameFor Eq number (left.after (.call call))
                (right.after (.mutate fun _ => (left.after (.call call)).vaults.world)) :=
              same.other (owns _ isMember own) rfl rfl rfl
            obtain ⟨later, final⟩ := induction next (owns.after _) rest
            have replaced : left.reduced number (.call call :: inputs) =
                .mutate (fun _ => (left.after (.call call)).vaults.world) ::
                  (left.after (.call call)).reduced number inputs := by
              rw [reduced, if_neg (not_concerns_call own)]
            rw [filter_replies_other own, replaced, later]
            exact ⟨rfl, final⟩
      | mutate change =>
          obtain ⟨later, final⟩ :=
            induction (same.mutate (congrArg change same.vault.world)) (owns.after _) rest
          exact ⟨later, final⟩

/-- Whether several resolvers fall back on inert configurations only. -/
def AreInert (worlds : World → World → Prop) (client : Client World) (members : List Nat) : Prop :=
  ∀ member ∈ members, ∀ config ∈ client.fallback member, config.IsInert worlds

theorem AreInert.after (inert : client.AreInert worlds members) (input : Input World) :
    (client.after input).AreInert worlds members := by
  simpa only [AreInert, fallback, resolvers_after] using inert

/-- With inert configurations a resolver that shares its cache with no other does not notice the
calls on others. -/
theorem replies_concerning (same : SameFor worlds number left right)
    (owns : left.Owns number members) (inert : left.AreInert worlds members)
    (within : ∀ input ∈ inputs, input.IsOn members)
    (brings : ∀ input ∈ inputs, input.IsInert worlds) :
    (left.replies inputs).filter (·.resolver = number) =
        right.replies (inputs.filter (·.concerns number)) ∧
      SameFor worlds number (left.final inputs)
        (right.final (inputs.filter (·.concerns number))) := by
  induction inputs generalizing left right with
  | nil => exact ⟨rfl, same⟩
  | cons input inputs induction =>
      have rest : ∀ later ∈ inputs, later.IsOn members := fun later isInput =>
        within later (.tail _ isInput)
      have quiet : ∀ later ∈ inputs, later.IsInert worlds := fun later isInput =>
        brings later (.tail _ isInput)
      cases input with
      | call call =>
          have isMember : call.resolver ∈ members := within _ (.head _)
          have isInert : call.IsInert worlds := brings _ (.head _)
          by_cases own : call.resolver = number
          · obtain ⟨replied, next⟩ := same.own own (isInert.agree (own ▸ inert _ isMember))
            obtain ⟨later, final⟩ := induction next (owns.after _) (inert.after _) rest quiet
            rw [filter_replies_own own, List.filter_cons_of_pos (concerns_call own), replies,
              replied, later]
            exact ⟨rfl, final⟩
          · -- only the left client takes this step, so its world has to stay related to the old one
            have still : worlds (left.after (.call call)).vaults.world right.vaults.world := by
              rw [world_after_call]
              exact (isInert.still (inert _ isMember) _ (left.vault call.resolver)
                same.vault.world).state
            have next := same.other (owns _ isMember own) rfl rfl still
            obtain ⟨later, final⟩ := induction next (owns.after _) (inert.after _) rest quiet
            rw [filter_replies_other own, List.filter_cons_of_neg (not_concerns_call own), later]
            exact ⟨rfl, final⟩
      | mutate change =>
          have next := same.mutate (brings _ (.head _) _ _ same.vault.world)
          obtain ⟨later, final⟩ := induction next (owns.after _) (inert.after _) rest quiet
          exact ⟨later, final⟩

/-- Whether calls on several resolvers come to what they come to on any one of them. -/
def AreInterchangeable (client : Client World) (members : List Nat) : Prop :=
  ∀ sole ∈ members, ∀ inputs : List (Input World), (∀ input ∈ inputs, input.IsOn members) →
    client.replies (inputs.map (·.on sole)) = (client.replies inputs).map (·.on sole) ∧
      (client.final (inputs.map (·.on sole))).vaults = (client.final inputs).vaults

/-- Whether calls on each of several resolvers come to what they come to when the calls on the
others are reduced to what they do to the world. -/
def AreApart (client : Client World) (members : List Nat) : Prop :=
  ∀ number ∈ members, ∀ inputs : List (Input World), (∀ input ∈ inputs, input.IsOn members) →
    (client.replies inputs).filter (·.resolver = number) =
        client.replies (client.reduced number inputs) ∧
      ((client.final inputs).vault number).cache =
        ((client.final (client.reduced number inputs)).vault number).cache

/-- Whether calls on each of several resolvers come to what they come to when the calls on the
others are left out. -/
def AreUnaffected (worlds : World → World → Prop) (client : Client World) (members : List Nat) :
    Prop :=
  ∀ number ∈ members, ∀ inputs : List (Input World), (∀ input ∈ inputs, input.IsOn members) →
    (∀ input ∈ inputs, input.IsInert worlds) →
    (client.replies inputs).filter (·.resolver = number) =
        client.replies (inputs.filter (·.concerns number)) ∧
      ((client.final inputs).vault number).cache =
        ((client.final (inputs.filter (·.concerns number))).vault number).cache

theorem areInterchangeable_of_same {resolver : Resolver World}
    (same : ∀ member ∈ members, client.resolvers member = resolver) :
    client.AreInterchangeable members := by
  intro sole isSole inputs within
  exact replies_on rfl (fun member isMember => (same member isMember).trans (same sole isSole).symm)
    within

theorem areApart_of_owns (owns : ∀ number ∈ members, client.Owns number members) :
    client.AreApart members := by
  intro number isMember inputs within
  obtain ⟨replied, final⟩ := replies_reduced ⟨rfl, rfl, rfl⟩ (owns number isMember) within
  exact ⟨replied, final.vault.cache⟩

theorem areUnaffected_of_owns (owns : ∀ number ∈ members, client.Owns number members)
    (inert : client.AreInert worlds members)
    (start : worlds client.vaults.world client.vaults.world) :
    client.AreUnaffected worlds members := by
  intro number isMember inputs within brings
  obtain ⟨replied, final⟩ :=
    replies_concerning ⟨rfl, rfl, start⟩ (owns number isMember) inert within brings
  exact ⟨replied, final.vault.cache⟩

end Client
end Countersign
