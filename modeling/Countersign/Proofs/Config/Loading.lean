import Countersign.Config.Loading
import Countersign.Proofs.Action

/-!
# Loading happens once

However the turns of the threads fall, one thread loads, the flag is set after that, and calls
return after the flag is set.  The load may fail: that is logged, the flag is set all the same, and
the lock is released, so that every call can return.
-/

namespace Countersign
namespace Loading

variable {World : Type}

/-- What is logged about the end of a load. -/
def report : Except Failure Unit → Notice
  | .ok _ => .loaded
  | .error failure => .unloadable failure.message

/-- A load that is reported does not fail. -/
theorem reported_apply (load : Action World Unit) (world : World) :
    reported load world =
      { result := .ok (), state := (load world).state
        events := (load world).events ++ [.noted (report (load world).result)] } := by
  cases ended : (load world).result with
  | ok _ => simp [reported, Action.bind_apply, ended, report]
  | error failure => simp [reported, Action.bind_apply, ended, report]

namespace Stage

/-- Whether a thread has the lock. -/
def IsHolding : Stage → Prop
  | idle | waiting => False
  | checking | loading | marking | leaving => True

/-- How many calls of a thread have begun and not returned. -/
def underway : Stage → Nat
  | idle => 0
  | waiting | checking | loading | marking | leaving => 1

/-- How many turns a thread needs at most to return from its call. -/
def remaining : Stage → Nat
  | idle => 0
  | waiting => 5
  | checking => 4
  | loading => 3
  | marking => 2
  | leaving => 1

end Stage

namespace Thread

/-- How many calls a thread makes in all. -/
def calls (thread : Thread) : Nat :=
  thread.returned + thread.stage.underway + thread.pending

/-- How many turns a thread needs at most to return from all its calls. -/
def remaining (thread : Thread) : Nat :=
  6 * thread.pending + thread.stage.remaining

theorem returned_of_remaining {thread : Thread} (done : thread.remaining = 0) :
    thread.stage = .idle ∧ thread.returned = thread.calls := by
  obtain ⟨stage, pending, returned⟩ := thread
  have parts : 6 * pending = 0 ∧ stage.remaining = 0 := Nat.add_eq_zero_iff.mp done
  cases stage with
  | idle =>
      have none_pending : pending = 0 := by omega
      exact ⟨rfl, by simp [calls, Stage.underway, none_pending]⟩
  | _ => cases parts.2

end Thread

/-- Whether a thread has not returned from any call and is not about to. -/
def Thread.IsUnreturned (thread : Thread) : Prop :=
  thread.returned = 0 ∧ thread.stage ≠ .leaving

/-- Whether a thread stands before the load. -/
def Thread.IsEarly (thread : Thread) : Prop :=
  thread.IsUnreturned ∧ thread.stage ≠ .marking

/-- Whether a thread will not load. -/
def Thread.IsLate (thread : Thread) : Prop :=
  thread.stage ≠ .loading ∧ thread.stage ≠ .marking

namespace State

variable {load : Action World Unit} {world : World} {state next : State World} {number : Nat}

/-! ## What a turn can do -/

/-- What a turn of a thread can make of a state. -/
inductive Turn (load : Action World Unit) (state : State World) (number : Nat) :
    State World → Prop
  /-- Nothing happens. -/
  | rest (stage : Stage) (pending returned : Nat) :
      state.threads number = { stage, pending, returned } → ¬stage.IsHolding →
      (stage = .idle → pending = 0) → (stage = .waiting → state.holder ≠ none) →
      Turn load state number state
  /-- A call finds the flag set and returns at once. -/
  | pass (pending returned : Nat) :
      state.threads number = { stage := .idle, pending := pending + 1, returned } →
      state.loaded = true →
      Turn load state number
        { state with
          threads := assign state.threads number
            { stage := .idle, pending, returned := returned + 1 } }
  /-- A call finds the flag unset and wants the lock. -/
  | want (pending returned : Nat) :
      state.threads number = { stage := .idle, pending := pending + 1, returned } →
      state.loaded = false →
      Turn load state number
        { state with
          threads := assign state.threads number { stage := .waiting, pending, returned } }
  /-- The lock is taken. -/
  | take (pending returned : Nat) :
      state.threads number = { stage := .waiting, pending, returned } → state.holder = none →
      Turn load state number
        { state with
          holder := some number
          threads := assign state.threads number { stage := .checking, pending, returned } }
  /-- The flag is looked at again. -/
  | look (pending returned : Nat) :
      state.threads number = { stage := .checking, pending, returned } →
      Turn load state number
        { state with
          threads := assign state.threads number
            { stage := if state.loaded then .leaving else .loading, pending, returned } }
  /-- The load happens. -/
  | load (pending returned : Nat) :
      state.threads number = { stage := .loading, pending, returned } →
      Turn load state number
        { state with
          world := (load state.world).state
          events := state.events ++
            ((load state.world).events ++ [.noted (report (load state.world).result)])
          threads := assign state.threads number { stage := .marking, pending, returned } }
  /-- The flag is set. -/
  | mark (pending returned : Nat) :
      state.threads number = { stage := .marking, pending, returned } →
      Turn load state number
        { state with
          loaded := true
          threads := assign state.threads number { stage := .leaving, pending, returned } }
  /-- The lock is released, and the call returns. -/
  | leave (pending returned : Nat) :
      state.threads number = { stage := .leaving, pending, returned } →
      Turn load state number
        { state with
          holder := none
          threads := assign state.threads number
            { stage := .idle, pending, returned := returned + 1 } }

/-- A turn does nothing else. -/
theorem turn_spec (load : Action World Unit) (state : State World) (number : Nat) :
    Turn load state number (state.turn load number) := by
  rcases threaded : state.threads number with ⟨stage, pending, returned⟩
  cases stage with
  | idle =>
      cases pending with
      | zero =>
          have same : state.turn load number = state := by simp [turn, threaded]
          rw [same]
          exact .rest .idle 0 returned threaded id (fun _ => rfl) nofun
      | succ pending =>
          cases flag : state.loaded with
          | true =>
              have next : Turn load state number _ := .pass pending returned threaded flag
              simpa [turn, threaded, flag] using next
          | false =>
              have next : Turn load state number _ := .want pending returned threaded flag
              simpa [turn, threaded, flag] using next
  | waiting =>
      cases free : state.holder with
      | none =>
          have next : Turn load state number _ := .take pending returned threaded free
          simpa [turn, threaded, free, moveTo] using next
      | some holder =>
          have same : state.turn load number = state := by simp [turn, threaded, free]
          rw [same]
          exact .rest .waiting pending returned threaded id nofun (by simp [free])
  | checking =>
      have next : Turn load state number _ := .look pending returned threaded
      simpa [turn, threaded, moveTo] using next
  | loading =>
      have next : Turn load state number _ := .load pending returned threaded
      simpa [turn, threaded, moveTo, reported_apply] using next
  | marking =>
      have next : Turn load state number _ := .mark pending returned threaded
      simpa [turn, threaded, moveTo] using next
  | leaving =>
      have next : Turn load state number _ := .leave pending returned threaded
      simpa [turn, threaded] using next

/-- A turn concerns no other thread. -/
theorem turn_threads_of_ne (load : Action World Unit) (state : State World) {number other : Nat}
    (different : other ≠ number) :
    (state.turn load number).threads other = state.threads other := by
  have turned := turn_spec load state number
  generalize state.turn load number = next at turned
  cases turned with
  | rest => rfl
  | pass | want | take | look | load | mark | leave => exact assign_of_ne _ _ different

/-- No call is lost: those that have returned, begun and not begun are as many as before. -/
theorem Turn.calls (turned : Turn load state number next) (other : Nat) :
    (next.threads other).calls = (state.threads other).calls := by
  by_cases same : other = number
  · subst same
    cases turned with
    | rest => rfl
    | pass _ _ threaded | want _ _ threaded =>
        simp only [assign_self, threaded, Thread.calls, Stage.underway]
        omega
    | take _ _ threaded | load _ _ threaded | mark _ _ threaded | leave _ _ threaded =>
        simp [threaded, Thread.calls, Stage.underway]
    | look _ _ threaded =>
        cases state.loaded with
        | true => simp [threaded, Thread.calls, Stage.underway]
        | false => simp [threaded, Thread.calls, Stage.underway]
  · cases turned with
    | rest => rfl
    | pass | want | take | look | load | mark | leave =>
        exact congrArg Thread.calls (assign_of_ne _ _ same)

/-! ## The lock -/

/-- Whether the lock is had by the thread that is at work under it, if there is one. -/
def IsLocked (state : State World) : Prop :=
  ∀ number, (state.threads number).stage.IsHolding ↔ state.holder = some number

theorem isLocked_start (world : World) (loaded : Bool) (calls : Nat → Nat) :
    (start world loaded calls).IsLocked := by
  simp [IsLocked, start, Stage.IsHolding]

/-- No two threads are at work under the lock. -/
theorem IsLocked.eq (locked : state.IsLocked) {one other : Nat}
    (first : (state.threads one).stage.IsHolding)
    (second : (state.threads other).stage.IsHolding) : one = other :=
  Option.some.inj (((locked one).mp first).symm.trans ((locked other).mp second))

/-- A thread may change hands with the lock if nobody else gets it or loses it. -/
theorem IsLocked.assign (locked : state.IsLocked) {holder : Option Nat} {thread : Thread}
    (mine : thread.stage.IsHolding ↔ holder = some number)
    (others : ∀ other, other ≠ number → (state.holder = some other ↔ holder = some other))
    (other : Nat) :
    (assign state.threads number thread other).stage.IsHolding ↔ holder = some other :=
  assign_forall (fun other (thread : Thread) => thread.stage.IsHolding ↔ holder = some other) mine
    (fun other different => (locked other).trans (others other different)) other

theorem IsLocked.turn (locked : state.IsLocked) (turned : Turn load state number next) :
    next.IsLocked := by
  have mine := locked number
  cases turned with
  | rest => exact locked
  | pass pending returned threaded | want pending returned threaded =>
      rw [threaded] at mine
      exact locked.assign mine fun _ _ => Iff.rfl
  | take pending returned threaded free =>
      refine locked.assign (iff_of_true trivial rfl) fun other different => ?_
      rw [free]
      exact iff_of_false nofun fun same => different (Option.some.inj same).symm
  | look pending returned threaded =>
      rw [threaded] at mine
      refine locked.assign (iff_of_true ?_ (mine.mp trivial)) fun _ _ => Iff.rfl
      cases state.loaded <;> exact trivial
  | load pending returned threaded | mark pending returned threaded =>
      rw [threaded] at mine
      exact locked.assign (iff_of_true trivial (mine.mp trivial)) fun _ _ => Iff.rfl
  | leave pending returned threaded =>
      rw [threaded] at mine
      refine locked.assign (iff_of_false id nofun) fun other different => ?_
      rw [mine.mp trivial]
      exact iff_of_false (fun same => different (Option.some.inj same).symm) nofun

/-! ## The load -/

/-- The thread that loads on its turn, if it does. -/
def loader (state : State World) (number : Nat) : List Nat :=
  if (state.threads number).stage = .loading then [number] else []

/-- The threads that load in a run, in order. -/
def loaders (load : Action World Unit) (state : State World) : List Nat → List Nat
  | [] => []
  | number :: schedule => state.loader number ++ loaders load (state.turn load number) schedule

/-- Whether nothing has been loaded, and no call has returned. -/
structure IsAhead (world : World) (state : State World) : Prop where
  unset : state.loaded = false
  untouched : state.world = world
  silent : state.events = []
  early : ∀ number, (state.threads number).IsEarly

/-- Whether a load has happened, once. -/
structure HasLoaded (load : Action World Unit) (world : World) (state : State World) : Prop where
  reached : state.world = (load world).state
  logged : state.events = (load world).events ++ [.noted (report (load world).result)]

/-- Whether a load has happened, and the thread that did it has yet to set the flag. -/
structure IsUnmarked (load : Action World Unit) (world : World) (loader : Nat)
    (state : State World) : Prop extends HasLoaded load world state where
  unset : state.loaded = false
  marking : (state.threads loader).stage = .marking
  unreturned : ∀ number, (state.threads number).IsUnreturned

/-- Whether the flag is set, and no thread will load. -/
structure IsSettled (state : State World) : Prop where
  set : state.loaded = true
  late : ∀ number, (state.threads number).IsLate

/-- How far the load has come, with the threads that have loaded. -/
inductive Progress (load : Action World Unit) (world : World) (state : State World) :
    List Nat → Prop
  | ahead : IsAhead world state → Progress load world state []
  | unmarked (loader : Nat) : IsUnmarked load world loader state →
      Progress load world state [loader]
  | finished (loader : Nat) : HasLoaded load world state → IsSettled state →
      Progress load world state [loader]

theorem isAhead_start (world : World) (calls : Nat → Nat) :
    (start world false calls).IsAhead world where
  unset := rfl
  untouched := rfl
  silent := rfl
  early _ := ⟨⟨rfl, nofun⟩, nofun⟩

theorem loader_of_stage {stage : Stage} {pending returned : Nat}
    (threaded : state.threads number = { stage, pending, returned }) :
    state.loader number = if stage = .loading then [number] else [] := by
  rw [loader, threaded]

/-- Threads of a kind stay of the kind when one of them goes on in the kind. -/
theorem threads_assign {kind : Thread → Prop} {thread : Thread} (mine : kind thread)
    (others : ∀ number, kind (state.threads number)) (other : Nat) :
    kind (assign state.threads number thread other) :=
  assign_forall (fun _ thread => kind thread) mine (fun other _ => others other) other

/-- A turn before the load either loads or leaves the load ahead. -/
theorem IsAhead.turn (ahead : state.IsAhead world) (turned : Turn load state number next) :
    Progress load world next (state.loader number) := by
  have mine := ahead.early number
  cases turned with
  | rest stage pending returned threaded free =>
      rw [loader_of_stage threaded, if_neg (by rintro rfl; exact free trivial)]
      exact .ahead ahead
  | pass _ _ _ flag =>
      rw [ahead.unset] at flag
      cases flag
  | want pending returned threaded | take pending returned threaded =>
      rw [threaded] at mine
      rw [loader_of_stage threaded]
      exact .ahead
        { ahead with early := threads_assign ⟨⟨mine.1.1, nofun⟩, nofun⟩ ahead.early }
  | look pending returned threaded =>
      rw [threaded] at mine
      rw [loader_of_stage threaded]
      refine .ahead { ahead with early := threads_assign ?_ ahead.early }
      rw [ahead.unset]
      exact ⟨⟨mine.1.1, nofun⟩, nofun⟩
  | load pending returned threaded =>
      rw [threaded] at mine
      rw [loader_of_stage threaded]
      exact .unmarked number
        { unset := ahead.unset
          reached := by simp [ahead.untouched]
          logged := by simp [ahead.untouched, ahead.silent]
          marking := by simp
          unreturned := threads_assign ⟨mine.1.1, nofun⟩ fun other => (ahead.early other).1 }
  | mark _ _ threaded =>
      rw [threaded] at mine
      exact absurd rfl mine.2
  | leave _ _ threaded =>
      rw [threaded] at mine
      exact absurd rfl mine.1.2

/-- Between the load and the setting of the flag nobody else is at work under the lock. -/
theorem IsUnmarked.turn {loader : Nat} (unmarked : IsUnmarked load world loader state)
    (locked : state.IsLocked) (turned : Turn load state number next) :
    Progress load world next (loader :: state.loader number) := by
  have marking := unmarked.marking
  have holding : (state.threads loader).stage.IsHolding := by
    rw [marking]
    trivial
  have mine := unmarked.unreturned number
  have alone {stage : Stage} {pending returned : Nat}
      (threaded : state.threads number = { stage, pending, returned }) (held : stage.IsHolding) :
      loader = number ∧ stage = .marking := by
    have same : loader = number := locked.eq holding (by rwa [threaded])
    rw [same, threaded] at marking
    exact ⟨same, marking⟩
  cases turned with
  | rest stage pending returned threaded free =>
      rw [loader_of_stage threaded, if_neg (by rintro rfl; exact free trivial)]
      exact .unmarked loader unmarked
  | pass _ _ _ flag =>
      rw [unmarked.unset] at flag
      cases flag
  | want pending returned threaded =>
      have different : loader ≠ number := by
        rintro rfl
        rw [threaded] at marking
        cases marking
      rw [threaded] at mine
      rw [loader_of_stage threaded]
      exact .unmarked loader
        { unmarked with
          marking := by simpa [assign_of_ne _ _ different] using marking
          unreturned := threads_assign ⟨mine.1, nofun⟩ unmarked.unreturned }
  | take _ _ _ free =>
      rw [(locked loader).mp holding] at free
      cases free
  | look _ _ threaded => cases (alone threaded trivial).2
  | load _ _ threaded => cases (alone threaded trivial).2
  | leave _ _ threaded => cases (alone threaded trivial).2
  | mark pending returned threaded =>
      obtain ⟨rfl, -⟩ := alone threaded trivial
      rw [loader_of_stage threaded]
      refine .finished loader { unmarked.toHasLoaded with } ⟨rfl, ?_⟩
      apply assign_forall fun _ (thread : Thread) => thread.IsLate
      · exact ⟨nofun, nofun⟩
      · intro other different
        have free : ¬(state.threads other).stage.IsHolding := fun held =>
          different (locked.eq held holding)
        exact ⟨fun same => free (same ▸ trivial), fun same => free (same ▸ trivial)⟩

/-- Once the flag is set it stays set, and there is no other load. -/
theorem IsSettled.turn (settled : state.IsSettled) (turned : Turn load state number next) :
    next.IsSettled ∧ next.world = state.world ∧ next.events = state.events := by
  have mine := settled.late number
  cases turned with
  | rest => exact ⟨settled, rfl, rfl⟩
  | want _ _ _ flag =>
      rw [settled.set] at flag
      cases flag
  | pass | take | leave =>
      exact ⟨⟨settled.set, threads_assign ⟨nofun, nofun⟩ settled.late⟩, rfl, rfl⟩
  | look =>
      refine ⟨⟨settled.set, threads_assign ?_ settled.late⟩, rfl, rfl⟩
      rw [settled.set]
      exact ⟨nofun, nofun⟩
  | load _ _ threaded =>
      rw [threaded] at mine
      exact absurd rfl mine.1
  | mark _ _ threaded =>
      rw [threaded] at mine
      exact absurd rfl mine.2

theorem IsSettled.run (settled : state.IsSettled) (load : Action World Unit)
    (schedule : List Nat) :
    (state.run load schedule).IsSettled ∧ state.loaders load schedule = [] ∧
      (state.run load schedule).world = state.world ∧
      (state.run load schedule).events = state.events := by
  induction schedule generalizing state with
  | nil => exact ⟨settled, rfl, rfl, rfl⟩
  | cons number schedule induction =>
      obtain ⟨next, same_world, same_events⟩ := settled.turn (turn_spec load state number)
      obtain ⟨final, silent, same_world', same_events'⟩ := induction next
      refine ⟨final, ?_, same_world'.trans same_world, same_events'.trans same_events⟩
      rw [loaders, loader, if_neg (settled.late number).1]
      exact silent

theorem Progress.turn {loaders : List Nat} (progress : Progress load world state loaders)
    (locked : state.IsLocked) (turned : Turn load state number next) :
    Progress load world next (loaders ++ state.loader number) := by
  cases progress with
  | ahead ahead => exact ahead.turn turned
  | unmarked loader unmarked => exact unmarked.turn locked turned
  | finished loader loaded settled =>
      obtain ⟨still_settled, same_world, same_events⟩ := settled.turn turned
      rw [State.loader, if_neg (settled.late number).1]
      exact .finished loader
        { reached := same_world.trans loaded.reached
          logged := same_events.trans loaded.logged } still_settled

/-! ## Whole runs -/

/-- How a run stands that started before the load, with the threads that have loaded in it. -/
structure IsUnderway (load : Action World Unit) (world : World) (calls : Nat → Nat)
    (loaders : List Nat) (state : State World) : Prop where
  locked : state.IsLocked
  calls : ∀ number, (state.threads number).calls = calls number
  progress : Progress load world state loaders

variable {calls : Nat → Nat}

theorem isUnderway_start (load : Action World Unit) (world : World) (calls : Nat → Nat) :
    IsUnderway load world calls [] (start world false calls) where
  locked := isLocked_start world false calls
  calls number := by simp [start, Thread.calls, Stage.underway]
  progress := .ahead (isAhead_start world calls)

theorem IsUnderway.turn {loaders : List Nat} (underway : IsUnderway load world calls loaders state)
    (number : Nat) :
    IsUnderway load world calls (loaders ++ state.loader number) (state.turn load number) where
  locked := underway.locked.turn (turn_spec load state number)
  calls other := ((turn_spec load state number).calls other).trans (underway.calls other)
  progress := underway.progress.turn underway.locked (turn_spec load state number)

theorem IsUnderway.run {loaders : List Nat} (underway : IsUnderway load world calls loaders state)
    (schedule : List Nat) :
    IsUnderway load world calls (loaders ++ state.loaders load schedule)
      (state.run load schedule) := by
  induction schedule generalizing state loaders with
  | nil => simpa [State.loaders, State.run] using underway
  | cons number schedule induction =>
      have rest := induction (underway.turn number)
      rwa [List.append_assoc] at rest

theorem IsUnderway.run_start (load : Action World Unit) (world : World) (calls : Nat → Nat)
    (schedule : List Nat) :
    IsUnderway load world calls ((start world false calls).loaders load schedule)
      ((start world false calls).run load schedule) :=
  (isUnderway_start load world calls).run schedule

theorem run_append (state : State World) (early late : List Nat) :
    state.run load (early ++ late) = (state.run load early).run load late :=
  List.foldl_append

/-! ## Calls return -/

/-- Whether a thread does not have to wait for another one. -/
def IsFree (number : Nat) (state : State World) : Prop :=
  ¬(state.threads number).stage.IsHolding → state.holder = none

/-- A thread that does not have to wait comes closer to the end of its calls with every turn. -/
theorem IsFree.turn (free : state.IsFree number) (turned : Turn load state number next)
    (more : (state.threads number).remaining ≠ 0) :
    next.IsFree number ∧ (next.threads number).remaining < (state.threads number).remaining := by
  rw [IsFree] at free ⊢
  cases turned with
  | rest stage pending returned threaded outside idle waiting =>
      rw [threaded] at free more
      cases stage with
      | idle => exact absurd (by simp [Thread.remaining, Stage.remaining, idle rfl]) more
      | waiting => exact absurd (free outside) (waiting rfl)
      | checking | loading | marking | leaving => exact absurd trivial outside
  | pass pending returned threaded =>
      rw [threaded] at free
      simp [threaded, Thread.remaining, Stage.remaining, free id]
  | want pending returned threaded =>
      rw [threaded] at free
      simp [threaded, Thread.remaining, Stage.remaining, free id]
      omega
  | take pending returned threaded =>
      simp [threaded, Thread.remaining, Stage.remaining, Stage.IsHolding]
  | look pending returned threaded =>
      cases state.loaded with
      | true => simp [threaded, Thread.remaining, Stage.remaining, Stage.IsHolding]
      | false => simp [threaded, Thread.remaining, Stage.remaining, Stage.IsHolding]
  | load pending returned threaded | mark pending returned threaded
  | leave pending returned threaded =>
      simp [threaded, Thread.remaining, Stage.remaining, Stage.IsHolding]

/-- So it returns from all its calls if it is given enough turns. -/
theorem IsFree.exists_run (load : Action World Unit) (free : state.IsFree number) :
    ∃ turns, ((state.run load (List.replicate turns number)).threads number).remaining = 0 ∧
      (state.run load (List.replicate turns number)).IsFree number := by
  induction measured : (state.threads number).remaining using Nat.strongRecOn
    generalizing state with
  | ind remaining induction =>
      by_cases done : remaining = 0
      · exact ⟨0, measured.trans done, free⟩
      · have turned := free.turn (turn_spec load state number) fun zero =>
          done (measured.symm.trans zero)
        obtain ⟨turns, spent, still_free⟩ := induction _ (measured ▸ turned.2) turned.1 rfl
        exact ⟨turns + 1, spent, still_free⟩

/-- From wherever a run stands, every thread can return from all its calls. -/
theorem IsUnderway.exists_returned {loaders : List Nat}
    (underway : IsUnderway load world calls loaders state) (number : Nat) :
    ∃ later, ((state.run load later).threads number).returned = calls number := by
  -- whoever has the lock is given turns until it does not need it any more
  have unlocked : ∃ early, (state.run load early).IsFree number := by
    cases held : state.holder with
    | none => exact ⟨[], fun _ => held⟩
    | some holder =>
        have holding := (underway.locked holder).mpr held
        have entitled : state.IsFree holder := fun outside => absurd holding outside
        obtain ⟨turns, done, free⟩ := entitled.exists_run load
        have idle := (Thread.returned_of_remaining done).1
        refine ⟨_, fun _ => free ?_⟩
        rw [idle]
        exact id
  obtain ⟨early, free⟩ := unlocked
  obtain ⟨turns, done, -⟩ := free.exists_run load
  refine ⟨early ++ List.replicate turns number, ?_⟩
  have whole := (underway.run (early ++ List.replicate turns number)).calls number
  rw [run_append] at whole ⊢
  rw [(Thread.returned_of_remaining done).2, whole]

/-! ## The load happens once -/

/-- How a run ends of calls on something that has not been loaded. -/
structure LoadsOnce (load : Action World Unit) (world : World) (calls : Nat → Nat)
    (loaders : List Nat) (final : State World) : Prop where
  /-- No two calls load. -/
  once : loaders.length ≤ 1
  /-- Unless a call loads, nothing is done and nothing is logged. -/
  still : loaders = [] → final.world = world ∧ final.events = []
  /-- When a call has loaded, what the load did has been done, and one line tells how it ended. -/
  loads : loaders ≠ [] → final.HasLoaded load world
  /-- The flag is set after the load, and no call returns while it is unset. -/
  loaded : final.loaded = true → loaders.length = 1
  returned : ∀ number, 0 < (final.threads number).returned → final.loaded = true
  /-- Whatever turns follow, the flag stays set, and nothing is loaded or logged any more. -/
  stays : final.loaded = true → ∀ later, (final.run load later).loaded = true ∧
    final.loaders load later = [] ∧ (final.run load later).world = final.world ∧
      (final.run load later).events = final.events
  /-- A failure of the load does not reach the call. -/
  unfailing : ∀ world, (reported load world).result = .ok ()
  /-- No call is lost, and every thread can still return from all its calls. -/
  total : ∀ number, (final.threads number).calls = calls number
  returns : ∀ number, ∃ later, ((final.run load later).threads number).returned = calls number

theorem Progress.length_le {loaders : List Nat} (progress : Progress load world state loaders) :
    loaders.length ≤ 1 := by
  cases progress with
  | ahead => exact Nat.zero_le 1
  | unmarked | finished => exact Nat.le_refl 1

theorem Progress.hasLoaded {loaders : List Nat} (progress : Progress load world state loaders)
    (some_loaded : loaders ≠ []) : HasLoaded load world state := by
  cases progress with
  | ahead => exact absurd rfl some_loaded
  | unmarked loader unmarked => exact unmarked.toHasLoaded
  | finished loader loaded => exact loaded

theorem Progress.isSettled {loaders : List Nat} (progress : Progress load world state loaders)
    (set : state.loaded = true) : loaders.length = 1 ∧ state.IsSettled := by
  cases progress with
  | ahead ahead => cases ahead.unset.symm.trans set
  | unmarked loader unmarked => cases unmarked.unset.symm.trans set
  | finished loader _ settled => exact ⟨rfl, settled⟩

theorem Progress.loaded_of_returned {loaders : List Nat}
    (progress : Progress load world state loaders)
    (returned : 0 < (state.threads number).returned) : state.loaded = true := by
  cases progress with
  | ahead ahead => exact absurd (ahead.early number).1.1 (Nat.ne_of_gt returned)
  | unmarked loader unmarked =>
      exact absurd (unmarked.unreturned number).1 (Nat.ne_of_gt returned)
  | finished loader _ settled => exact settled.set

/-- Any number of threads may make any number of calls, and their turns may fall in any order: there
is one load, it is over before the first call returns, and it is not noticed by the calls whether it
failed. -/
theorem run_loadsOnce (load : Action World Unit) (world : World) (calls : Nat → Nat)
    (schedule : List Nat) :
    LoadsOnce load world calls ((start world false calls).loaders load schedule)
      ((start world false calls).run load schedule) := by
  have underway := IsUnderway.run_start load world calls schedule
  have progress := underway.progress
  generalize (start world false calls).loaders load schedule = loaders at underway progress
  generalize (start world false calls).run load schedule = final at underway progress
  refine
    { once := progress.length_le
      still := ?_
      loads := progress.hasLoaded
      loaded := fun set => (progress.isSettled set).1
      returned := fun _ => progress.loaded_of_returned
      stays := ?_
      unfailing := fun world => by rw [reported_apply]
      total := underway.calls
      returns := underway.exists_returned }
  · rintro rfl
    cases progress with
    | ahead ahead => exact ⟨ahead.untouched, ahead.silent⟩
  · intro set later
    obtain ⟨settled, silent, same_world, same_events⟩ := (progress.isSettled set).2.run load later
    exact ⟨settled.set, silent, same_world, same_events⟩

/-- Three threads that all find the flag unset, and a load that fails. -/
example : ((start () false fun number => if number < 3 then 1 else 0).run
    (Action.fail (.broken "no disk")) (crowd 3)).events = [.noted (.unloadable "no disk")] := by
  decide

/-! ## Threads that all find the flag unset -/

theorem run_threads_of_not_mem (load : Action World Unit) (state : State World)
    {schedule : List Nat} (absent : number ∉ schedule) :
    (state.run load schedule).threads number = state.threads number := by
  induction schedule generalizing state with
  | nil => rfl
  | cons first schedule induction =>
      obtain ⟨different, absent⟩ := not_or.mp (mt List.mem_cons.mpr absent)
      exact (induction (state.turn load first) absent).trans
        (turn_threads_of_ne load state different)

/-- Threads that begin their only call before any of them goes on all want the lock, which nobody
has. -/
theorem run_begin (load : Action World Unit) {numbers : List Nat} (distinct : numbers.Nodup)
    (unset : state.loaded = false) (free : state.holder = none)
    (idle : ∀ number ∈ numbers, state.threads number = ⟨.idle, 1, 0⟩) :
    (state.run load numbers).loaded = false ∧ (state.run load numbers).holder = none ∧
      ∀ number ∈ numbers, (state.run load numbers).threads number = ⟨.waiting, 0, 0⟩ := by
  induction numbers generalizing state with
  | nil => exact ⟨unset, free, nofun⟩
  | cons first numbers induction =>
      obtain ⟨absent, distinct⟩ := List.nodup_cons.mp distinct
      obtain ⟨first_idle, idle⟩ := List.forall_mem_cons.mp idle
      have turned : state.turn load first =
          { state with threads := assign state.threads first ⟨.waiting, 0, 0⟩ } := by
        simp [turn, first_idle, unset]
      have still_idle : ∀ number ∈ numbers,
          (state.turn load first).threads number = ⟨.idle, 1, 0⟩ := by
        intro number isMember
        rw [turn_threads_of_ne load state (ne_of_mem_of_not_mem isMember absent)]
        exact idle number isMember
      have unset' : (state.turn load first).loaded = false := by rw [turned]; exact unset
      have free' : (state.turn load first).holder = none := by rw [turned]; exact free
      obtain ⟨still_unset, still_free, waiting⟩ := induction distinct unset' free' still_idle
      refine ⟨still_unset, still_free, List.forall_mem_cons.mpr ⟨?_, waiting⟩⟩
      refine (run_threads_of_not_mem load (state.turn load first) absent).trans ?_
      rw [turned]
      exact assign_self _ _ _

/-- A thread that wants the lock, which nobody has, needs four turns to set the flag. -/
theorem loaded_of_waiting (load : Action World Unit) {pending returned : Nat}
    (threaded : state.threads number = ⟨.waiting, pending, returned⟩)
    (unset : state.loaded = false) (free : state.holder = none) :
    (state.run load (List.replicate 4 number)).loaded = true := by
  simp [run, List.replicate, turn, threaded, free, unset, moveTo]

/-- Threads that all find the flag unset have the load done once, as one call has. -/
theorem run_crowd (load : Action World Unit) (world : World) {threads : Nat} (any : 0 < threads) :
    let final := (start world false fun number => if number < threads then 1 else 0).run load
      (crowd threads)
    final.loaded = true ∧ HasLoaded load world final := by
  intro final
  let calls := fun number => if number < threads then 1 else 0
  obtain ⟨late, split⟩ : ∃ late,
      crowd threads = List.range threads ++ (List.replicate 4 0 ++ late) := by
    obtain ⟨more, rfl⟩ := Nat.exists_eq_succ_of_ne_zero (Nat.ne_of_gt any)
    refine ⟨0 :: (List.range' 1 more).flatMap fun number => List.replicate 5 number, ?_⟩
    rw [crowd, List.range_eq_range', List.range'_succ]
    rfl
  have idle : ∀ number ∈ List.range threads,
      (start world false calls).threads number = ⟨.idle, 1, 0⟩ := by
    intro number isMember
    simp [start, calls, List.mem_range.mp isMember]
  obtain ⟨unset, free, waiting⟩ := run_begin load List.nodup_range rfl rfl idle
  have set := loaded_of_waiting load (waiting 0 (List.mem_range.mpr any)) unset free
  have underway := IsUnderway.run_start load world calls (List.range threads ++ List.replicate 4 0)
  rw [← run_append] at set
  have settled := (underway.progress.isSettled set).2.run load late
  have whole := IsUnderway.run_start load world calls (crowd threads)
  have final_eq : final = ((start world false calls).run load
      (List.range threads ++ List.replicate 4 0)).run load late := by
    rw [← run_append, List.append_assoc, ← split]
  have final_set : final.loaded = true := final_eq ▸ settled.1.set
  refine ⟨final_set, whole.progress.hasLoaded fun none_loaded => ?_⟩
  have one := (whole.progress.isSettled final_set).1
  rw [none_loaded] at one
  cases one

end State
end Loading
end Countersign
