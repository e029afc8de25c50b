import Countersign.Proofs.Threads.Turn

/-!
# Threads on one resolver beside calls one after the other

A call on a resolver takes effect at one of its own turns: a call that returns at once at its
beginning, and any other at the turn after which it only has to release the lock.  A state stands to
the sequential state in which all calls that have taken effect have been made, and every turn keeps
it there or makes one more call in the sequential state.  What is observed is the same in both, up
to the lines about challenges without a realm, which are logged without the lock.
-/

namespace Countersign

namespace Threads

variable {World : Type}

/-- Whether a thread has returned from all of its calls. -/
def Thread.IsDone (thread : Thread World) : Prop :=
  thread.stage = .idle ∧ thread.pending = []

/-- Whether a thread is in the middle of a call under the lock. -/
def Thread.IsMidway (thread : Thread World) : Prop :=
  ∃ resolver work, thread.stage = .holding resolver work ∧ work.IsOpen

namespace State

/-- A thread makes its next call without interruption. -/
def whole (fallback : Nat → Option (Config World)) (state : State World) (number : Nat) :
    State World :=
  let thread := state.threads number
  match thread.pending with
  | [] => state
  | call :: pending =>
      let outcome := call.perform (fallback call.resolver) state.vault
      (state.record number outcome).setThread number
        { thread with pending, returned := thread.returned ++ [outcome.result] }

/-- The state after the given threads have made whole calls, in order. -/
def runWhole (fallback : Nat → Option (Config World)) (state : State World) (order : List Nat) :
    State World :=
  order.foldl (whole fallback) state

/-- What was observed, apart from the lines about challenges without a realm. -/
def ordered (events : List (Nat × Event)) : List (Nat × Event) :=
  events.filter fun event => !event.2.isIgnoring

@[simp]
theorem ordered_nil : ordered [] = [] := rfl

@[simp]
theorem ordered_append (early late : List (Nat × Event)) :
    ordered (early ++ late) = ordered early ++ ordered late :=
  List.filter_append ..

/-- How a thread stands to the same thread of the sequential state: a call that has not taken effect
is still to be made there, and if it is midway, what is left of it is the rest of the whole call.
-/
inductive Follows (fallback : Option (Config World)) (resolver : Nat) (serial vault : Vault World)
    (begun : List Event) : Thread World → Thread World → Prop
  /-- Between calls. -/
  | idle (pending : List (Call World)) (returned : List (Except Failure (Option Record))) :
      Follows fallback resolver serial vault begun
        { stage := .idle, pending, returned } { stage := .idle, pending, returned }
  /-- Before the lock. -/
  | waiting (call : Call World) (work : Work World) (pending : List (Call World))
      (returned : List (Except Failure (Option Record))) :
      work.IsOpen → call.perform fallback = work.finish fallback →
      Follows fallback resolver serial vault begun
        { stage := .waiting resolver work, pending, returned }
        { stage := .idle, pending := call :: pending, returned }
  /-- Under the lock, before the effect. -/
  | midway (call : Call World) (work : Work World) (pending : List (Call World))
      (returned : List (Except Failure (Option Record))) :
      work.IsOpen → call.perform fallback serial = (work.finish fallback vault).after begun →
      Follows fallback resolver serial vault begun
        { stage := .holding resolver work, pending, returned }
        { stage := .idle, pending := call :: pending, returned }
  /-- Under the lock, after the effect. -/
  | leaving (result : Except Failure (Option Record)) (pending : List (Call World))
      (returned : List (Except Failure (Option Record))) :
      Follows fallback resolver serial vault begun
        { stage := .holding resolver (.leave result), pending, returned }
        { stage := .idle, pending, returned := returned ++ [result] }

/-- How a state stands to the sequential state in which every call that has taken effect has been
made: the same is known, and vault and events differ by what the call under way has begun. -/
structure Simulates (fallback : Nat → Option (Config World)) (resolver : Nat)
    (state serial : State World) (begun : List Event) : Prop where
  /-- The same is known. -/
  entries : state.vault.cache.entries = serial.vault.cache.entries
  /-- Each thread follows its sequential self. -/
  follows : ∀ number,
    Follows (fallback resolver) resolver serial.vault state.vault begun (state.threads number)
      (serial.threads number)
  /-- At most one thread has the lock. -/
  exclusive : ∀ number,
    state.holders resolver = some number ↔ (state.threads number).stage.IsHolding
  /-- Without a thread midway the vaults are the same, and the same was observed in the same order.
  What a thread midway has begun was observed last. -/
  progress :
    (begun = [] ∧ state.vault = serial.vault ∧ ordered state.events = ordered serial.events) ∨
      ∃ number, (state.threads number).IsMidway ∧
        ordered state.events =
          ordered serial.events ++ ordered (begun.map fun event => (number, event))
  /-- All calls are made on the resolver. -/
  shared : ∀ number, ∀ call ∈ (serial.threads number).pending, call.resolver = resolver
  /-- In the sequential state no lock is held. -/
  free : ∀ resolver, serial.holders resolver = none

variable {fallback : Nat → Option (Config World)} {resolver number : Nat}
  {state serial : State World} {begun : List Event}

theorem whole_eq {call : Call World} {stage : Stage World} {pending : List (Call World)}
    {returned : List (Except Failure (Option Record))} {result : Except Failure (Option Record)}
    {after : Vault World} {events : List Event}
    (threaded : state.threads number = { stage, pending := call :: pending, returned })
    (performed : call.perform (fallback call.resolver) state.vault =
      { result, state := after, events }) :
    state.whole fallback number =
      { state with
        vault := after
        threads := assign state.threads number
          { stage, pending, returned := returned ++ [result] }
        events := state.events ++ events.map fun event => (number, event) } := by
  simp only [whole, threaded, performed, record, setThread]

/-- A thread without the lock follows its sequential self whatever happens to the vaults. -/
theorem Follows.elsewhere {fallback : Option (Config World)} {resolver : Nat}
    {serial vault serial' vault' : Vault World} {begun begun' : List Event}
    {thread other : Thread World}
    (follows : Follows fallback resolver serial vault begun thread other)
    (away : ¬thread.stage.IsHolding) :
    Follows fallback resolver serial' vault' begun' thread other := by
  cases follows with
  | idle pending returned => exact .idle pending returned
  | waiting call work pending returned isOpen performed =>
      exact .waiting call work pending returned isOpen performed
  | midway => exact absurd trivial away
  | leaving => exact absurd trivial away

theorem midway_of_staged {thread : Thread World} {work : Work World}
    (staged : thread.stage = .holding resolver work) : thread.IsMidway ↔ work.IsOpen := by
  constructor
  · rintro ⟨_, _, staged', isOpen⟩
    rw [staged] at staged'
    cases staged'
    exact isOpen
  · intro isOpen
    exact ⟨resolver, work, staged, isOpen⟩

theorem not_midway_of_away {thread : Thread World} (away : ¬thread.stage.IsHolding) :
    ¬thread.IsMidway := by
  rintro ⟨_, _, staged, _⟩
  exact away (by rw [staged]; trivial)

/-- Threads other than the holder are without the lock. -/
theorem Simulates.away_of_ne
    (simulates : Simulates fallback resolver state serial begun)
    (holding : (state.threads number).stage.IsHolding) {other : Nat} (different : other ≠ number) :
    ¬(state.threads other).stage.IsHolding := by
  intro both
  have holder := (simulates.exclusive number).mpr holding
  have holder' := (simulates.exclusive other).mpr both
  rw [holder] at holder'
  exact different (Option.some.inj holder').symm

/-- While nobody is midway, the vaults are the same and the same was observed. -/
theorem Simulates.settled
    (simulates : Simulates fallback resolver state serial begun)
    (nobody : ∀ number, ¬(state.threads number).IsMidway) :
    begun = [] ∧ state.vault = serial.vault ∧
      ordered state.events = ordered serial.events := by
  rcases simulates.progress with settled | ⟨other, midway, _⟩
  · exact settled
  · exact absurd midway (nobody other)

theorem Simulates.nobody_midway_of_free
    (simulates : Simulates fallback resolver state serial begun)
    (free : state.holders resolver = none) (other : Nat) : ¬(state.threads other).IsMidway := by
  refine not_midway_of_away fun holding => ?_
  have holder := (simulates.exclusive other).mpr holding
  rw [free] at holder
  cases holder

theorem Simulates.nobody_midway_of_leaving {result : Except Failure (Option Record)}
    (simulates : Simulates fallback resolver state serial begun)
    (staged : (state.threads number).stage = .holding resolver (.leave result)) (other : Nat) :
    ¬(state.threads other).IsMidway := by
  by_cases same : other = number
  · subst same
    exact fun midway => (midway_of_staged staged).mp midway result rfl
  · refine not_midway_of_away ?_
    exact simulates.away_of_ne (by rw [staged]; trivial) same

/-- What the holder of the lock has begun was observed last. -/
theorem Simulates.observed_of_holding
    (simulates : Simulates fallback resolver state serial begun)
    (holding : (state.threads number).stage.IsHolding) :
    ordered state.events =
      ordered serial.events ++ ordered (begun.map fun event => (number, event)) := by
  rcases simulates.progress with ⟨nothing, _, observed⟩ | ⟨other, midway, observed⟩
  · simp [nothing, observed]
  · by_cases same : other = number
    · rwa [same] at observed
    · exact absurd midway (not_midway_of_away (simulates.away_of_ne holding same))

theorem Follows.eq_of_idle {fallback : Option (Config World)} {serial vault : Vault World}
    {begun : List Event} {pending : List (Call World)}
    {returned : List (Except Failure (Option Record))} {other : Thread World}
    (follows : Follows fallback resolver serial vault begun
      { stage := .idle, pending, returned } other) :
    other = { stage := .idle, pending, returned } := by
  cases follows
  rfl

theorem ordered_eq_nil {number : Nat} {events : List Event}
    (ignoring : ∀ event ∈ events, event.isIgnoring) :
    ordered (events.map fun event => (number, event)) = [] := by
  simpa [ordered] using ignoring

/-- Making a call leaves no other calls to be made than before. -/
theorem shared_assign {call : Call World} {stage : Stage World} {pending : List (Call World)}
    {returned : List (Except Failure (Option Record))} (thread : Thread World)
    (shared : ∀ number, ∀ call ∈ (serial.threads number).pending, call.resolver = resolver)
    (threaded : serial.threads number = { stage, pending := call :: pending, returned })
    (made : thread.pending = pending) :
    ∀ other, ∀ call ∈ (assign serial.threads number thread other).pending,
      call.resolver = resolver := by
  refine assign_forall
    (fun _ (thread : Thread World) => ∀ call ∈ thread.pending, call.resolver = resolver) ?_
    fun other _ => shared other
  intro call' called
  rw [made] at called
  exact shared number call' (by rw [threaded]; exact .tail _ called)

/-- As long as a thread keeps the lock, or keeps without it, the same thread has it. -/
theorem Simulates.exclusive_assign (simulates : Simulates fallback resolver state serial begun)
    {thread : Thread World}
    (same : thread.stage.IsHolding ↔ (state.threads number).stage.IsHolding) (other : Nat) :
    state.holders resolver = some other ↔
      (assign state.threads number thread other).stage.IsHolding :=
  assign_forall
    (fun other (thread : Thread World) =>
      state.holders resolver = some other ↔ thread.stage.IsHolding)
    ((simulates.exclusive number).trans same.symm) (fun other _ => simulates.exclusive other) other

/-- What a thread does that is not midway leaves a thread midway where it is. -/
theorem Simulates.progress_assign (simulates : Simulates fallback resolver state serial begun)
    (not_midway : ¬(state.threads number).IsMidway) (thread : Thread World) :
    (begun = [] ∧ state.vault = serial.vault ∧ ordered state.events = ordered serial.events) ∨
      ∃ other, (assign state.threads number thread other).IsMidway ∧
        ordered state.events =
          ordered serial.events ++ ordered (begun.map fun event => (other, event)) := by
  rcases simulates.progress with settled | ⟨other, midway, observed⟩
  · exact .inl settled
  · have different : other ≠ number := by
      rintro rfl
      exact not_midway midway
    refine .inr ⟨other, ?_, observed⟩
    rwa [assign_of_ne _ _ different]

/-- Threads go on following their sequential selves when one of each takes a step. -/
theorem follows_assign {fallback : Option (Config World)} {serial_vault vault : Vault World}
    {thread serial_thread : Thread World}
    (new : Follows fallback resolver serial_vault vault begun thread serial_thread)
    (others : ∀ other, other ≠ number → Follows fallback resolver serial_vault vault begun
      (state.threads other) (serial.threads other)) (other : Nat) :
    Follows fallback resolver serial_vault vault begun
      (assign state.threads number thread other)
      (assign serial.threads number serial_thread other) := by
  refine assign_forall (fun other thread => Follows fallback resolver serial_vault vault begun
    thread (assign serial.threads number serial_thread other)) ?_ (fun other different => ?_) other
  · rwa [assign_self]
  · rw [assign_of_ne _ _ different]
    exact others other different

/-- Threads go on following their sequential selves when one takes a step by itself. -/
theorem follows_assign_left {fallback : Option (Config World)} {serial_vault vault : Vault World}
    {thread serial_thread : Thread World} (serial_threaded : serial.threads number = serial_thread)
    (new : Follows fallback resolver serial_vault vault begun thread serial_thread)
    (others : ∀ other, other ≠ number → Follows fallback resolver serial_vault vault begun
      (state.threads other) (serial.threads other)) (other : Nat) :
    Follows fallback resolver serial_vault vault begun (assign state.threads number thread other)
      (serial.threads other) := by
  have followed := follows_assign new others other
  rwa [← serial_threaded, assign_same] at followed

/-- A call that returns at once takes effect. -/
theorem Simulates.answer {call : Call World} {pending : List (Call World)}
    {returned : List (Except Failure (Option Record))} {entry : Option Record}
    {events : List Event} (simulates : Simulates fallback resolver state serial begun)
    (threaded : state.threads number = { stage := .idle, pending := call :: pending, returned })
    (answered :
      call.begin state.vault = { result := .ok (.ok entry), state := state.vault, events }) :
    Simulates fallback resolver
      { state with
        threads := assign state.threads number
          { stage := .idle, pending, returned := returned ++ [.ok entry] }
        events := state.events ++ events.map fun event => (number, event) }
      (serial.whole fallback number) begun := by
  have serial_threaded := (threaded ▸ simulates.follows number).eq_of_idle
  obtain ⟨ignoring, performs⟩ := Call.perform_of_answer answered
  rw [whole_eq serial_threaded (performs _ serial.vault simulates.entries.symm)]
  refine
    { entries := simulates.entries
      follows := ?_, exclusive := ?_, progress := ?_
      shared := shared_assign _ simulates.shared serial_threaded rfl
      free := simulates.free }
  · exact follows_assign (.idle pending _) fun other _ => simulates.follows other
  · exact simulates.exclusive_assign (by simp [threaded, Stage.IsHolding])
  · have not_midway : ¬(state.threads number).IsMidway := by simp [threaded, Thread.IsMidway]
    simp only [ordered_append, ordered_eq_nil ignoring, List.append_nil]
    exact simulates.progress_assign not_midway _

/-- A call that wants the lock has no effect yet. -/
theorem Simulates.want {call : Call World} {pending : List (Call World)}
    {returned : List (Except Failure (Option Record))} {work : Work World}
    (simulates : Simulates fallback resolver state serial begun)
    (threaded : state.threads number = { stage := .idle, pending := call :: pending, returned })
    (wanted : call.begin state.vault =
      { result := .ok (.error work), state := state.vault, events := [] }) :
    Simulates fallback resolver
      { state with
        threads := assign state.threads number
          { stage := .waiting call.resolver work, pending, returned } }
      serial begun := by
  have serial_threaded := (threaded ▸ simulates.follows number).eq_of_idle
  obtain ⟨isOpen, performs⟩ := Call.perform_of_want wanted
  have on_resolver : call.resolver = resolver :=
    simulates.shared number call (by rw [serial_threaded]; exact .head _)
  refine { simulates with follows := ?_, exclusive := ?_, progress := ?_ }
  · refine follows_assign_left serial_threaded ?_ fun other _ => simulates.follows other
    rw [on_resolver]
    exact .waiting call work pending returned isOpen (performs _)
  · exact simulates.exclusive_assign (by simp [threaded, Stage.IsHolding])
  · have not_midway : ¬(state.threads number).IsMidway := by simp [threaded, Thread.IsMidway]
    exact simulates.progress_assign not_midway _

/-- Taking the lock puts a thread midway, with all of its call left. -/
theorem Simulates.take {work : Work World} {pending : List (Call World)}
    {returned : List (Except Failure (Option Record))}
    (simulates : Simulates fallback resolver state serial begun)
    (threaded : state.threads number = { stage := .waiting resolver work, pending, returned })
    (free : state.holders resolver = none) :
    Simulates fallback resolver
      { state with
        threads := assign state.threads number
          { stage := .holding resolver work, pending, returned }
        holders := assign state.holders resolver (some number) }
      serial begun := by
  obtain ⟨nothing, same_vault, observed⟩ :=
    simulates.settled (simulates.nobody_midway_of_free free)
  subst nothing
  have follows := simulates.follows number
  rw [threaded] at follows
  generalize serial_threaded : serial.threads number = serial_thread at follows
  cases follows with
  | waiting call work pending returned isOpen performed =>
      refine { simulates with follows := ?_, exclusive := ?_, progress := ?_ }
      · refine follows_assign_left serial_threaded ?_ fun other _ => simulates.follows other
        refine .midway call work pending returned isOpen ?_
        rw [performed, same_vault]
        rfl
      · intro other
        by_cases same : other = number
        · subst same
          simp [Stage.IsHolding]
        · have away : ¬(state.threads other).stage.IsHolding := by
            rw [← simulates.exclusive other, free]
            simp
          simpa [assign_of_ne _ _ same, Ne.symm same] using away
      · exact .inr ⟨number, ⟨resolver, work, by simp, isOpen⟩, by simp [observed]⟩

/-- Work under the lock that leaves more to be done has no effect yet. -/
theorem Simulates.goOn {work next : Work World} {pending : List (Call World)}
    {returned : List (Except Failure (Option Record))} {after : Vault World} {events : List Event}
    (simulates : Simulates fallback resolver state serial begun)
    (threaded : state.threads number = { stage := .holding resolver work, pending, returned })
    (isOpen : work.IsOpen) (next_isOpen : next.IsOpen)
    (proceeded : work.proceed (fallback resolver) state.vault =
      { result := .ok next, state := after, events }) :
    Simulates fallback resolver
      { state with
        vault := after
        threads := assign state.threads number
          { stage := .holding resolver next, pending, returned }
        events := state.events ++ events.map fun event => (number, event) }
      serial (begun ++ events) := by
  have holding : (state.threads number).stage.IsHolding := by
    rw [threaded]
    trivial
  have follows := simulates.follows number
  rw [threaded] at follows
  generalize serial_threaded : serial.threads number = serial_thread at follows
  cases follows with
  | leaving => exact absurd rfl (isOpen _)
  | midway call work pending returned _ performed =>
      refine
        { simulates with
          entries := ?_, follows := ?_, exclusive := ?_, progress := ?_ }
      · rw [Work.entries_of_proceed proceeded next_isOpen]
        exact simulates.entries
      · refine follows_assign_left serial_threaded ?_ fun other different =>
          (simulates.follows other).elsewhere (simulates.away_of_ne holding different)
        refine .midway call next pending returned next_isOpen ?_
        rw [performed, Work.finish_of_proceed proceeded]
        simp
      · exact simulates.exclusive_assign (by simp [threaded, Stage.IsHolding])
      · refine .inr ⟨number, ⟨resolver, next, by simp, next_isOpen⟩, ?_⟩
        simp [simulates.observed_of_holding holding]

/-- The work after which the lock is only to be released completes a call, which takes effect. -/
theorem Simulates.effect {work : Work World} {pending : List (Call World)}
    {returned : List (Except Failure (Option Record))} {after : Vault World} {events : List Event}
    {result : Except Failure (Option Record)}
    (simulates : Simulates fallback resolver state serial begun)
    (threaded : state.threads number = { stage := .holding resolver work, pending, returned })
    (isOpen : work.IsOpen)
    (proceeded : work.proceed (fallback resolver) state.vault =
      { result := .ok (.leave result), state := after, events }) :
    Simulates fallback resolver
      { state with
        vault := after
        threads := assign state.threads number
          { stage := .holding resolver (.leave result), pending, returned }
        events := state.events ++ events.map fun event => (number, event) }
      (serial.whole fallback number) [] := by
  have holding : (state.threads number).stage.IsHolding := by
    rw [threaded]
    trivial
  have follows := simulates.follows number
  rw [threaded] at follows
  generalize serial_threaded : serial.threads number = serial_thread at follows
  cases follows with
  | leaving => exact absurd rfl (isOpen _)
  | midway call work pending returned _ performed =>
      have on_resolver : call.resolver = resolver :=
        simulates.shared number call (by rw [serial_threaded]; exact .head _)
      have completed : call.perform (fallback call.resolver) serial.vault =
          { result, state := after, events := begun ++ events } := by
        rw [on_resolver, performed, Work.finish_of_proceed proceeded]
        simp [Work.finish, Outcome.after]
      rw [whole_eq serial_threaded completed]
      refine
        { entries := rfl, follows := ?_, exclusive := ?_, progress := .inl ⟨rfl, rfl, ?_⟩
          shared := shared_assign _ simulates.shared serial_threaded rfl
          free := simulates.free }
      · exact follows_assign (.leaving result pending returned) fun other different =>
          (simulates.follows other).elsewhere (simulates.away_of_ne holding different)
      · exact simulates.exclusive_assign (by simp [threaded, Stage.IsHolding])
      · simp [simulates.observed_of_holding holding]

/-- Releasing the lock ends a call that has taken effect. -/
theorem Simulates.release {pending : List (Call World)}
    {returned : List (Except Failure (Option Record))} {result : Except Failure (Option Record)}
    (simulates : Simulates fallback resolver state serial begun)
    (threaded : state.threads number =
      { stage := .holding resolver (.leave result), pending, returned }) :
    Simulates fallback resolver
      { state with
        threads := assign state.threads number
          { stage := .idle, pending, returned := returned ++ [result] }
        holders := assign state.holders resolver none }
      serial begun := by
  have holding : (state.threads number).stage.IsHolding := by
    rw [threaded]
    trivial
  have settled := simulates.settled (simulates.nobody_midway_of_leaving (by rw [threaded]))
  have follows := simulates.follows number
  rw [threaded] at follows
  generalize serial_threaded : serial.threads number = serial_thread at follows
  cases follows with
  | midway _ _ _ _ isOpen => exact absurd rfl (isOpen _)
  | leaving result pending returned =>
      refine { simulates with follows := ?_, exclusive := ?_, progress := .inl settled }
      · exact follows_assign_left serial_threaded (.idle pending (returned ++ [result]))
          fun other _ => simulates.follows other
      · intro other
        by_cases same : other = number
        · subst same
          simp [Stage.IsHolding]
        · simpa [assign_of_ne _ _ same] using simulates.away_of_ne holding same

theorem Follows.resolver_of_waiting {fallback : Option (Config World)} {serial vault : Vault World}
    {wanted : Nat} {work : Work World} {pending : List (Call World)}
    {returned : List (Except Failure (Option Record))} {other : Thread World}
    (follows : Follows fallback resolver serial vault begun
      { stage := .waiting wanted work, pending, returned } other) : wanted = resolver := by
  cases follows
  rfl

theorem Follows.resolver_of_holding {fallback : Option (Config World)} {serial vault : Vault World}
    {held : Nat} {work : Work World} {pending : List (Call World)}
    {returned : List (Except Failure (Option Record))} {other : Thread World}
    (follows : Follows fallback resolver serial vault begun
      { stage := .holding held work, pending, returned } other) : held = resolver := by
  cases follows <;> rfl

/-- After a turn the state stands to the same sequential state as before, or to the one in which the
thread has made one more call. -/
theorem Simulates.turn (simulates : Simulates fallback resolver state serial begun)
    (number : Nat) :
    ∃ begun',
      Simulates fallback resolver (state.turn fallback number) serial begun' ∨
        Simulates fallback resolver (state.turn fallback number) (serial.whole fallback number)
          begun' := by
  have turned := turn_spec fallback state number
  generalize state.turn fallback number = next at turned
  cases turned with
  | rest => exact ⟨begun, .inl simulates⟩
  | answer call pending returned entry events threaded answered =>
      exact ⟨begun, .inr (simulates.answer threaded answered)⟩
  | want call pending returned work threaded wanted =>
      exact ⟨begun, .inl (simulates.want threaded wanted)⟩
  | take wanted work pending returned threaded free =>
      obtain rfl := (threaded ▸ simulates.follows number).resolver_of_waiting
      exact ⟨begun, .inl (simulates.take threaded free)⟩
  | work held work next pending returned after events threaded isOpen proceeded =>
      obtain rfl := (threaded ▸ simulates.follows number).resolver_of_holding
      by_cases ended : ∃ result, next = .leave result
      · obtain ⟨result, rfl⟩ := ended
        exact ⟨[], .inr (simulates.effect threaded isOpen proceeded)⟩
      · have next_isOpen : next.IsOpen := fun result equal => ended ⟨result, equal⟩
        exact ⟨_, .inl (simulates.goOn threaded isOpen next_isOpen proceeded)⟩
  | release held result pending returned threaded =>
      obtain rfl := (threaded ▸ simulates.follows number).resolver_of_holding
      exact ⟨begun, .inl (simulates.release threaded)⟩

end State
end Threads
end Countersign
