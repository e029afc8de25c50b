import Countersign.Config.Surroundings
import Countersign.Proofs.Config.Reliable
import Countersign.Proofs.Keeping

/-!
# What the providers of configuration may do

Reading a provider logs at most which variable a value is from, and it never fails as if a
credential were missing; it changes that provider alone, and that only in the keys that it has been
asked or the failures that it has left.  Chains keep to that, since they only read their members.
-/

namespace Countersign

open Countersign.Action (Keeps)

namespace Action

variable {State Value Result : Type}

/-- Whether an action does not fail as if a credential were missing. -/
def IsCandid (action : Action State Value) : Prop :=
  ∀ state message missing asked, (action state).result ≠ .error (.notFound message missing asked)

theorem IsCandid.pure (value : Value) : IsCandid (pure value : Action State Value) := nofun

theorem IsCandid.current : IsCandid (current : Action State State) := nofun

theorem IsCandid.change (update : State → State) : IsCandid (change update) := nofun

theorem IsCandid.note (notice : Notice) : IsCandid (note notice : Action State Unit) := nofun

theorem IsCandid.bind {action : Action State Value} {next : Value → Action State Result}
    (first : action.IsCandid) (rest : ∀ value, (next value).IsCandid) :
    (action >>= next).IsCandid := by
  intro state message missing asked
  cases ended : (action state).result with
  | error failure =>
      have other := first state message missing asked
      rw [ended] at other
      rw [bind_of_error ended]
      rintro ⟨⟩
      exact other rfl
  | ok value =>
      rw [bind_of_ok ended]
      exact rest value _ message missing asked

end Action

/-- A chain of candid configurations is candid. -/
theorem Config.first_isCandid {World : Type} {configs : List (Config World)} {key : String}
    (candid : ∀ config ∈ configs, (config key).IsCandid) : (first configs key).IsCandid := by
  induction configs with
  | nil => exact .pure none
  | cons config configs induction =>
      refine (candid config (.head _)).bind fun value => ?_
      cases value with
      | none => exact induction fun other member => candid other (.tail _ member)
      | some value => exact .pure (some value)

/-- What a provider may be after it has been read. -/
inductive Provider.AfterRead : Provider → Provider → Prop
  | same (provider : Provider) : AfterRead provider provider
  | asked (values : Table String RawText) (requested : List String) (key : String) :
      AfterRead (.recorder values requested) (.recorder values (requested ++ [key]))
  | spent (values : Table String RawText) (key message : String) (remaining : Nat) :
      AfterRead (.faulty values key message (remaining + 1)) (.faulty values key message remaining)

namespace Surroundings

/-- Reading a provider changes that provider alone, and logs at most which variable a value is
from. -/
theorem read_spec (surroundings : Surroundings) (number : Nat) (key : String) :
    ∃ provider, (surroundings.providers number).AfterRead provider ∧
      (read number key surroundings).state = surroundings.setProvider number provider ∧
      ∀ event ∈ (read number key surroundings).events, ∃ name,
        event = .noted (.fromVariable key name) := by
  have unchanged : surroundings.setProvider number (surroundings.providers number) =
      surroundings := by rw [setProvider, assign_same]
  cases provided : surroundings.providers number with
  | table values =>
      refine ⟨_, .same _, ?_⟩
      rw [← provided, unchanged]
      simp [read, Action.bind_apply, provided, Action.pure_apply]
  | recorder values requested =>
      refine ⟨_, .asked values requested key, ?_⟩
      simp [read, Action.bind_apply, provided]
  | faulty values failing message remaining =>
      cases left : if key = failing then remaining else 0 with
      | zero =>
          refine ⟨_, .same _, ?_⟩
          rw [← provided, unchanged]
          simp [read, Action.bind_apply, provided, left, Action.pure_apply]
      | succ less =>
          have enough : remaining = less + 1 := by
            split at left
            next => exact left
            next => cases left
          rw [enough] at left ⊢
          refine ⟨_, .spent values failing message less, ?_⟩
          simp [read, Action.bind_apply, provided, enough, left]
  | environment lead place loaded =>
      refine ⟨_, .same _, ?_⟩
      rw [← provided, unchanged]
      cases found : surroundings.environment.find? (Environment.variableName lead key) with
      | none => simp [read, Action.bind_apply, provided, found, Action.pure_apply]
      | some value => simp [read, Action.bind_apply, provided, found]
  | chain members =>
      refine ⟨_, .same _, ?_⟩
      rw [← provided, unchanged]
      simp [read, Action.bind_apply, provided]

/-- Reading keeps what does not depend on the keys that providers have been asked, nor on the
failures that they have left. -/
theorem read_keeps_of_afterRead {holds : Surroundings → Prop} {shows : Event → Prop} {number : Nat}
    {key : String} (logs : ∀ name, shows (.noted (.fromVariable key name)))
    (stays : ∀ surroundings, holds surroundings → ∀ provider,
      (surroundings.providers number).AfterRead provider →
        holds (surroundings.setProvider number provider)) :
    (read number key).Keeps holds shows fun _ => True := by
  intro surroundings held
  obtain ⟨provider, after, state, logged⟩ := surroundings.read_spec number key
  refine ⟨?_, fun event observed => ?_, fun _ _ => trivial⟩
  · rw [state]
    exact stays surroundings held provider after
  · obtain ⟨name, rfl⟩ := logged event observed
    exact logs name

theorem read_isCandid (number : Nat) (key : String) : (read number key).IsCandid := by
  refine .bind .current fun surroundings => ?_
  cases surroundings.providers number with
  | table values => exact .pure _
  | recorder values requested =>
      exact .bind (.change _) fun _ => .pure _
  | faulty values failing message remaining =>
      dsimp only
      generalize (if key = failing then remaining else 0) = left
      cases left with
      | zero => exact .pure _
      | succ left =>
          exact .bind (.change _) fun _ => nofun
  | environment lead place loaded =>
      dsimp only
      cases surroundings.environment.find? (Environment.variableName lead key) with
      | none => exact .pure none
      | some value => exact .bind (.note _) fun _ => .pure (some value)
  | chain members => exact nofun

theorem value_isCandid (surroundings : Surroundings) (depth number : Nat) (key : String) :
    (surroundings.value depth number key).IsCandid := by
  induction depth generalizing number with
  | zero => exact read_isCandid number key
  | succ depth induction =>
      rw [value]
      split
      · apply Config.first_isCandid
        intro config member
        obtain ⟨other, -, rfl⟩ := List.mem_map.mp member
        exact induction other
      · exact read_isCandid number key

/-- A provider keeps what reading does, if reading keeps it of all providers that it is made of. -/
theorem value_keeps_of_read {used : Nat → Prop} {holds : Surroundings → Prop}
    {shows : Event → Prop} {gives : Option RawText → Prop} {surroundings : Surroundings}
    {key : String} (nothing : gives none)
    (reads : ∀ number, used number → (read number key).Keeps holds shows gives)
    (closed : ∀ number, used number → ∀ members, surroundings.providers number = .chain members →
      ∀ member ∈ members, used member)
    {number : Nat} (isUsed : used number) (depth : Nat) :
    (surroundings.value depth number key).Keeps holds shows gives := by
  induction depth generalizing number with
  | zero => exact reads number isUsed
  | succ depth induction =>
      rw [value]
      split
      next members is_chain =>
        apply Config.first_keeps nothing
        intro config isConfig
        obtain ⟨member, isMember, rfl⟩ := List.mem_map.mp isConfig
        exact induction (closed number isUsed members is_chain member isMember)
      next => exact reads number isUsed

/-- No failure of a provider looks like a missing credential. -/
theorem isCandid_config (number : Nat) : (config number).IsCandid := by
  have candid (key : String) : (config number key).IsCandid :=
    .bind .current fun surroundings => surroundings.value_isCandid surroundings.count number key
  exact candid

end Surroundings
end Countersign
