import Countersign.Proofs.Threads.Turn

/-!
# What is done under locks

What the thread that has the lock of a resolver is doing, for each resolver, and how the turn of a
thread changes it.  Threads that have no lock play no part in it, and a thread concerned with one
lock changes what is done under that one only.
-/

namespace Countersign
namespace Threads

variable {World : Type}

/-- What is being done under the lock of a resolver by a thread at a stage. -/
def Stage.under (resolver : Nat) : Stage World → Option (Work World)
  | .holding other work => if other = resolver then some work else none
  | .idle | .waiting _ _ => none

/-- What is being done under the lock of a resolver. -/
def under (holders : Nat → Option Nat) (threads : Nat → Thread World) (resolver : Nat) :
    Option (Work World) :=
  (holders resolver).bind fun holder => (threads holder).stage.under resolver

/-- Whether every thread that is at work under a lock has that lock. -/
def IsLocked (holders : Nat → Option Nat) (threads : Nat → Thread World) : Prop :=
  ∀ number resolver work, (threads number).stage = .holding resolver work →
    holders resolver = some number

section Locks

variable {holders : Nat → Option Nat} {threads : Nat → Thread World} {number resolver : Nat}
  {thread : Thread World} {work : Work World}

theorem Stage.under_of_not_isHolding {stage : Stage World} (free : ¬stage.IsHolding)
    (resolver : Nat) : stage.under resolver = none := by
  cases stage with
  | holding => exact absurd trivial free
  | idle | waiting => rfl

theorem Stage.under_holding_of_ne {other : Nat} (different : other ≠ resolver) (work : Work World) :
    (Stage.holding resolver work).under other = none :=
  if_neg different.symm

theorem IsLocked.under_eq (locked : IsLocked holders threads)
    (staged : (threads number).stage = .holding resolver work) :
    under holders threads resolver = some work := by
  simp [under, locked number resolver work staged, staged, Stage.under]

/-- A thread that goes on without a lock changes nothing under any. -/
theorem under_assign_of_away (before : ¬(threads number).stage.IsHolding)
    (now : ¬thread.stage.IsHolding) :
    under holders (assign threads number thread) = under holders threads := by
  funext resolver
  rw [under, under]
  cases holders resolver with
  | none => rfl
  | some holder =>
      by_cases same : holder = number
      · subst same
        simp [Stage.under_of_not_isHolding before, Stage.under_of_not_isHolding now]
      · simp [assign_of_ne _ _ same]

/-- A thread that is concerned with one lock changes what is done under that lock only. -/
theorem under_assign (holders : Nat → Option Nat) (holder : Option Nat)
    (before : ∀ other, other ≠ resolver → (threads number).stage.under other = none)
    (now : ∀ other, other ≠ resolver → thread.stage.under other = none) :
    under (assign holders resolver holder) (assign threads number thread) =
      assign (under holders threads) resolver
        (holder.bind fun holder => (assign threads number thread holder).stage.under resolver) := by
  funext other
  by_cases same : other = resolver
  · subst same
    simp [under]
  · rw [assign_of_ne _ _ same, under, under, assign_of_ne _ _ same]
    cases holders other with
    | none => rfl
    | some holder =>
        by_cases is_number : holder = number
        · subst is_number
          simp [before other same, now other same]
        · simp [assign_of_ne _ _ is_number]

theorem IsLocked.assign_of_away (locked : IsLocked holders threads)
    (now : ¬thread.stage.IsHolding) : IsLocked holders (assign threads number thread) := by
  intro other resolver work staged
  by_cases same : other = number
  · subst same
    rw [assign_self] at staged
    rw [staged] at now
    exact absurd trivial now
  · rw [assign_of_ne _ _ same] at staged
    exact locked other resolver work staged

/-- A lock that nobody else has can be taken, kept or released. -/
theorem IsLocked.assign_of_mine {holder : Option Nat} (locked : IsLocked holders threads)
    (mine : ∀ other, other ≠ number → holders resolver ≠ some other)
    (now : ∀ other work, thread.stage = .holding other work →
      other = resolver ∧ holder = some number) :
    IsLocked (assign holders resolver holder) (assign threads number thread) := by
  intro other taken work staged
  by_cases same : other = number
  · subst same
    rw [assign_self] at staged
    obtain ⟨rfl, has⟩ := now taken work staged
    rw [assign_self, has]
  · rw [assign_of_ne _ _ same] at staged
    have has := locked other taken work staged
    have different : taken ≠ resolver := by
      rintro rfl
      exact mine other same has
    rw [assign_of_ne _ _ different, has]

/-- A thread that has a lock is the only one. -/
theorem IsLocked.ne_some (locked : IsLocked holders threads)
    (staged : (threads number).stage = .holding resolver work) {other : Nat}
    (different : other ≠ number) : holders resolver ≠ some other := by
  rw [locked number resolver work staged]
  rintro ⟨⟩
  exact different rfl

section GoingOn

variable {next : Work World} (locked : IsLocked holders threads)
  (staged : (threads number).stage = .holding resolver work)
  (now : thread.stage = .holding resolver next)

include locked staged now

/-- A thread that goes on under its lock keeps it. -/
theorem IsLocked.assign_of_holding : IsLocked holders (assign threads number thread) := by
  have kept : IsLocked (assign holders resolver (holders resolver))
      (assign threads number thread) := by
    apply locked.assign_of_mine
    · exact fun other different => locked.ne_some staged different
    · intro other work held
      rw [now] at held
      cases held
      exact ⟨rfl, locked number resolver _ staged⟩
  rwa [assign_same] at kept

/-- A thread that goes on under its lock changes what is done under it. -/
theorem IsLocked.under_assign_of_holding :
    under holders (assign threads number thread) =
      assign (under holders threads) resolver (some next) := by
  have before (other : Nat) (different : other ≠ resolver) :
      (threads number).stage.under other = none := by
    rw [staged]
    exact Stage.under_holding_of_ne different work
  have after (other : Nat) (different : other ≠ resolver) : thread.stage.under other = none := by
    rw [now]
    exact Stage.under_holding_of_ne different next
  have changed := under_assign holders (holders resolver) before after
  rw [assign_same, locked number resolver work staged] at changed
  simpa [now, Stage.under] using changed

end GoingOn

end Locks

end Threads
end Countersign
