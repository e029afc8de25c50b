import Countersign.Proofs.Threads.Locks
import Countersign.Proofs.Threads.Service

/-!
# Threads on several resolvers over one cache

A resolver's lock keeps the calls on that resolver apart, but not those on another resolver over the
same cache.  With reliable configurations that give a realm what can be written, one call on each
resolver at most looks the realm up, and none does if it is known from the start, but calls on two
resolvers may both look it up.  What a call returns was known from the start or was stored by one of
these look-ups.
-/

namespace Countersign
namespace Threads

variable {World : Type}

namespace State

/-- What the turn of a thread does under the lock that the thread has. -/
def effort? (state : State World) (number : Nat) : Option (Effort World) :=
  match (state.threads number).stage with
  | .holding resolver work =>
      some { number, place := (state.threads number).returned.length, resolver, work }
  | .idle | .waiting _ _ => none

/-- What is done under locks along a schedule. -/
def efforts (fallback : Nat → Option (Config World)) (state : State World) :
    List Nat → List (Effort World)
  | [] => []
  | number :: schedule =>
      (state.effort? number).toList ++ efforts fallback (state.turn fallback number) schedule

theorem effort?_of_not_isHolding {state : State World} {number : Nat}
    (away : ¬(state.threads number).stage.IsHolding) : state.effort? number = none := by
  rcases staged : (state.threads number).stage with _ | _ | ⟨resolver, work⟩
  · simp [effort?, staged]
  · simp [effort?, staged]
  · rw [staged] at away
    exact absurd trivial away

theorem effort?_of_holding {state : State World} {number resolver : Nat} {work : Work World}
    {pending : List (Call World)} {returned : List (Except Failure (Option Record))}
    (threaded : state.threads number = { stage := .holding resolver work, pending, returned }) :
    state.effort? number = some { number, place := returned.length, resolver, work } := by
  simp [effort?, threaded]

/-- Whether a state of threads that only resolve over one cache is in order after some efforts. -/
structure Coherent (sure : String → Prop) (fallback : Nat → Option (Config World)) (start : Cache)
    (calls : Nat → List (Call World)) (efforts : List (Effort World)) (state : State World) :
    Prop where
  /-- A thread at work under a lock has it. -/
  locked : IsLocked state.holders state.threads
  /-- The books are in order. -/
  ledger : Ledger sure start efforts (under state.holders state.threads) state.vault.cache
  /-- Each thread returns what was found. -/
  sound : ∀ number,
    (state.threads number).IsSound sure fallback (IsFound start efforts) (calls number)
  /-- A key is asked as often as the books say. -/
  asked : ∀ key, state.askings key = (readers key efforts).length

namespace Coherent

variable {sure : String → Prop} {fallback : Nat → Option (Config World)} {state : State World}
  {start : Cache} {calls : Nat → List (Call World)} {efforts : List (Effort World)}
  {number resolver : Nat} {pending : List (Call World)}
  {returned : List (Except Failure (Option Record))} {work : Work World}

theorem sound_assign {late : List (Effort World)}
    (coherent : Coherent sure fallback start calls efforts state) {thread : Thread World}
    (sound : thread.IsSound sure fallback (IsFound start (efforts ++ late)) (calls number))
    (other : Nat) :
    (assign state.threads number thread other).IsSound sure fallback
      (IsFound start (efforts ++ late)) (calls other) :=
  assign_forall (fun number (thread : Thread World) =>
    thread.IsSound sure fallback (IsFound start (efforts ++ late)) (calls number)) sound
    (fun other _ => (coherent.sound other).mono fun _ _ isFound => isFound.append late) other

/-- A thread that has no lock before and after its turn leaves the locks and the books alone. -/
theorem away (coherent : Coherent sure fallback start calls efforts state) {thread : Thread World}
    (before : ¬(state.threads number).stage.IsHolding) (now : ¬thread.stage.IsHolding)
    (sound : thread.IsSound sure fallback (IsFound start efforts) (calls number))
    {events : List Event} (silent : Event.askedKeys events = []) :
    Coherent sure fallback start calls efforts
      { state with
        threads := assign state.threads number thread
        events := state.events ++ events.map fun event => (number, event) } where
  locked := coherent.locked.assign_of_away now
  ledger := by
    rw [under_assign_of_away before now]
    exact coherent.ledger
  sound := assign_forall (fun number (thread : Thread World) =>
    thread.IsSound sure fallback (IsFound start efforts) (calls number)) sound
    fun other _ => coherent.sound other
  asked key := by
    rw [askings_append rfl, silent, coherent.asked]
    rfl

/-- A thread that takes a free lock to look for a realm leaves the books alone. -/
theorem take (coherent : Coherent sure fallback start calls efforts state)
    (threaded : state.threads number = { stage := .waiting resolver work, pending, returned })
    (free : state.holders resolver = none) :
    Coherent sure fallback start calls efforts
      { state with
        threads := assign state.threads number
          { stage := .holding resolver work, pending, returned }
        holders := assign state.holders resolver (some number) } := by
  obtain ⟨made, rest, split, lengths, held, now⟩ := coherent.sound number
  rw [threaded] at lengths held now
  obtain ⟨call, realm, config, rfl, on, rfl, reliable, serves⟩ := now
  refine
    { locked := coherent.locked.assign_of_mine ?_ ?_
      ledger := ?_
      sound := assign_forall (fun number (thread : Thread World) =>
        thread.IsSound sure fallback (IsFound start efforts) (calls number))
        ⟨made, _, split, lengths, held, call, rfl, on, reliable, serves⟩
        fun other _ => coherent.sound other
      asked := coherent.asked }
  · intro other _
    rw [free]
    nofun
  · rintro _ _ ⟨⟩
    exact ⟨rfl, rfl⟩
  · have before (other : Nat) (_ : other ≠ resolver) :
        (state.threads number).stage.under other = none := by
      rw [threaded]
      rfl
    rw [under_assign state.holders (some number) before fun other different =>
      Stage.under_holding_of_ne different _]
    refine coherent.ledger.still ?_ ?_
    · intro work realm doing
      rw [under, free] at doing
      cases doing
    · intro work other doing
      simp only [Option.bind_some, assign_self, Stage.under, if_true, Option.some.injEq] at doing
      rw [← doing]
      exact id

/-- What is done under a lock is entered in the books. -/
theorem effort (coherent : Coherent sure fallback start calls efforts state)
    (provides : ∀ given ∈ fallback resolver, ∀ realm, given.Provides sure realm) {next : Work World}
    {after : Vault World} {events : List Event}
    (threaded : state.threads number = { stage := .holding resolver work, pending, returned })
    (isOpen : work.IsOpen)
    (proceeded : work.proceed (fallback resolver) state.vault =
      { result := .ok next, state := after, events }) :
    Coherent sure fallback start calls
      (efforts ++ [{ number, place := returned.length, resolver, work }])
      { state with
        vault := after
        threads := assign state.threads number
          { stage := .holding resolver next, pending, returned }
        events := state.events ++ events.map fun event => (number, event) } := by
  obtain ⟨made, rest, split, lengths, held, now⟩ := coherent.sound number
  rw [threaded] at lengths held now
  obtain ⟨call, rfl, rfl, provided, serves⟩ := now
  have staged : (state.threads number).stage = .holding call.resolver work := by rw [threaded]
  have progress := Work.progress_of_proceed provides provided isOpen proceeded
  refine
    { locked := coherent.locked.assign_of_holding staged rfl
      ledger := ?_
      sound := coherent.sound_assign
        ⟨made, _, split, lengths, fun pair member => (held pair member).mono fun _ _ isFound =>
          isFound.append _, call, rfl, rfl, progress.isProvided provided, ?_⟩
      asked := ?_ }
  · rw [coherent.locked.under_assign_of_holding staged rfl]
    refine coherent.ledger.turn (coherent.locked.under_eq staged) progress ?_ ?_
    · rintro realm rfl
      exact serves
    · rintro rfl
      exact serves
  · refine progress.serves serves ?_ ?_
    · exact fun realm entry known => (coherent.ledger.found realm entry known).append _
    · exact fun realm entry stores =>
        .inr ⟨call.resolver, (mem_stored_concat efforts).mpr (.inr ⟨stores, rfl⟩)⟩
  · intro key
    rw [askings_append rfl, coherent.asked, progress.keys_eq, readers_concat, List.length_append]
    cases asks : work.asks with
    | none => simp
    | some asked => by_cases same : asked = key <;> simp [same]

/-- A thread that releases its lock leaves the books alone. -/
theorem release (coherent : Coherent sure fallback start calls efforts state)
    {result : Except Failure (Option Record)}
    (threaded : state.threads number =
      { stage := .holding resolver (.leave result), pending, returned }) :
    Coherent sure fallback start calls
      (efforts ++ [{ number, place := returned.length, resolver, work := .leave result }])
      { state with
        threads := assign state.threads number
          { stage := .idle, pending, returned := returned ++ [result] }
        holders := assign state.holders resolver none } := by
  obtain ⟨made, rest, split, lengths, held, now⟩ := coherent.sound number
  rw [threaded] at lengths held now
  obtain ⟨call, rfl, -, -, serves⟩ := now
  have staged : (state.threads number).stage = .holding resolver (.leave result) := by rw [threaded]
  refine
    { locked := coherent.locked.assign_of_mine (fun _ => coherent.locked.ne_some staged) nofun
      ledger := ?_
      sound := coherent.sound_assign (Thread.isSound_of_returns split lengths
        (fun pair member => (held pair member).mono fun _ _ isFound => isFound.append _)
        (Call.Returns.mono serves fun _ _ isFound => isFound.append _))
      asked := ?_ }
  · have before (other : Nat) (different : other ≠ resolver) :
        (state.threads number).stage.under other = none := by
      rw [staged]
      exact Stage.under_holding_of_ne different _
    rw [under_assign state.holders none before fun _ _ => rfl]
    exact coherent.ledger.aside (coherent.locked.under_eq staged) (fun _ => id) nofun
  · intro key
    rw [readers_concat]
    change state.askings key = _
    simp [coherent.asked key, Work.asks]

/-- With reliable configurations a turn of threads that only resolve keeps everything in order. -/
theorem turn
    (provides : ∀ resolver, ∀ given ∈ fallback resolver, ∀ realm, given.Provides sure realm)
    (brings : ∀ number, ∀ call ∈ calls number, call.Brings (Config.Provides sure))
    (resolves : ∀ number, ∀ call ∈ calls number, call.IsResolve)
    (coherent : Coherent sure fallback start calls efforts state) (number : Nat) :
    Coherent sure fallback start calls (efforts ++ (state.effort? number).toList)
      (state.turn fallback number) := by
  have sound := coherent.sound number
  have turned := turn_spec fallback state number
  generalize state.turn fallback number = next at turned
  cases turned with
  | rest away =>
      rw [effort?_of_not_isHolding away]
      simpa using coherent
  | answer call pending returned entry events threaded answered =>
      have away : ¬(state.threads number).stage.IsHolding := by simp [threaded, Stage.IsHolding]
      rw [threaded] at sound
      obtain ⟨made, rest, split, lengths, held, rfl⟩ := sound
      have returns : call.Returns sure fallback (IsFound start efforts) (.ok entry) :=
        Call.returns_of_answer answered coherent.ledger.found
      rw [effort?_of_not_isHolding away]
      simpa using coherent.away away id (Thread.isSound_of_returns split lengths held returns)
        (Call.askedKeys_of_answer answered)
  | want call pending returned work threaded wanted =>
      have away : ¬(state.threads number).stage.IsHolding := by simp [threaded, Stage.IsHolding]
      rw [threaded] at sound
      obtain ⟨made, rest, split, lengths, held, rfl⟩ := sound
      have called : call ∈ calls number := by
        rw [split]
        exact List.mem_append_right _ (.head _)
      obtain ⟨realm, config, rfl, serves⟩ :=
        Call.serves_of_want (resolves number call called) wanted
      have fits := Call.fits_of_want (brings number call called) wanted state.vault
      rw [effort?_of_not_isHolding away]
      have waits : ({ stage := .waiting call.resolver (.look realm config), pending, returned } :
          Thread World).IsSound sure fallback (IsFound start efforts) (calls number) :=
        ⟨made, _, split, lengths, held, call, realm, config, rfl, rfl, rfl, fits.provided, serves⟩
      have silent : Event.askedKeys [] = [] := rfl
      simpa using coherent.away away id waits silent
  | take resolver work pending returned threaded free =>
      have away : ¬(state.threads number).stage.IsHolding := by simp [threaded, Stage.IsHolding]
      rw [effort?_of_not_isHolding away]
      simpa using coherent.take threaded free
  | work resolver work next pending returned after events threaded isOpen proceeded =>
      rw [effort?_of_holding threaded]
      exact coherent.effort (provides resolver) threaded isOpen proceeded
  | release resolver result pending returned threaded =>
      rw [effort?_of_holding threaded]
      exact coherent.release threaded

theorem of_start (sure : String → Prop) (fallback : Nat → Option (Config World))
    (vault : Vault World) (calls : Nat → List (Call World)) :
    Coherent sure fallback vault.cache calls [] (State.start vault calls) where
  locked := nofun
  ledger := Ledger.empty sure vault.cache
  sound number := ⟨[], calls number, rfl, rfl, nofun, rfl⟩
  asked _ := rfl

/-- A call that asks for a key of a realm under a lock is one of the calls for that realm. -/
theorem call_of_effort? (coherent : Coherent sure fallback start calls efforts state)
    {effort : Effort World} (does : state.effort? number = some effort) {realm : String}
    (reads : effort.Reads realm) :
    ∃ call, (calls effort.number)[effort.place]? = some call ∧ call.resolver = effort.resolver ∧
      call.IsFor realm := by
  have sound := coherent.sound number
  rcases threaded : state.threads number with ⟨_ | _ | ⟨resolver, work⟩, pending, returned⟩
  · simp [effort?, threaded] at does
  · simp [effort?, threaded] at does
  · rw [effort?_of_holding threaded] at does
    cases does
    rw [threaded] at sound
    obtain ⟨made, rest, split, lengths, -, call, rfl, on, -, serves⟩ := sound
    refine ⟨call, ?_, on, serves.isFor reads.isLookingUp⟩
    rw [split, ← lengths]
    simp

end Coherent

/-- Whether what is asked for under locks is asked for by calls for the realm, each of which has
asked for the username before it asks for the password. -/
structure Attributed (calls : Nat → List (Call World)) (efforts : List (Effort World))
    (state : State World) : Prop where
  called : ∀ effort ∈ efforts, ∀ realm, effort.Reads realm →
    ∃ call, (calls effort.number)[effort.place]? = some call ∧ call.resolver = effort.resolver ∧
      call.IsFor realm
  followed : ∀ effort ∈ efforts, ∀ realm, effort.work.asks = some (Config.passwordKey realm) →
    effort.IsBegun realm efforts
  begun : ∀ number effort realm, state.effort? number = some effort →
    effort.work.HasAsked realm (Config.userKey realm) → effort.IsBegun realm efforts

namespace Attributed

variable {sure : String → Prop} {fallback : Nat → Option (Config World)} {state : State World}
  {start : Cache} {calls : Nat → List (Call World)} {efforts : List (Effort World)}

theorem begun_turn
    (provides : ∀ resolver, ∀ given ∈ fallback resolver, ∀ realm, given.Provides sure realm)
    (coherent : Coherent sure fallback start calls efforts state)
    (attributed : Attributed calls efforts state) {number : Nat} {effort : Effort World}
    {realm : String} (does : (state.turn fallback number).effort? number = some effort)
    (asked : effort.work.HasAsked realm (Config.userKey realm)) :
    effort.IsBegun realm (efforts ++ (state.effort? number).toList) := by
  have sound := coherent.sound number
  have turned := turn_spec fallback state number
  generalize state.turn fallback number = next at turned does
  cases turned with
  | rest => exact (attributed.begun number effort realm does asked).append _
  | answer | want | release => simp [effort?] at does
  | take resolver work pending returned threaded free =>
      rw [threaded] at sound
      obtain ⟨_, _, _, _, _, _, _, _, _, _, rfl, _⟩ := sound
      simp only [effort?, assign_self, Option.some.injEq] at does
      subst does
      cases asked
  | work resolver work next pending returned after events threaded isOpen proceeded =>
      rw [threaded] at sound
      obtain ⟨_, _, _, _, _, _, _, _, provided, _⟩ := sound
      have progress := Work.progress_of_proceed (provides resolver) provided isOpen proceeded
      simp only [effort?, assign_self, Option.some.injEq] at does
      subst does
      have did := effort?_of_holding threaded
      rcases progress.hasAsked_username asked with before | asks
      · exact Effort.IsBegun.append (attributed.begun number _ realm did before) _
      · refine ⟨work, asks, List.mem_append_right _ ?_⟩
        rw [did]
        exact .head _

theorem turn
    (provides : ∀ resolver, ∀ given ∈ fallback resolver, ∀ realm, given.Provides sure realm)
    (coherent : Coherent sure fallback start calls efforts state)
    (attributed : Attributed calls efforts state) (number : Nat) :
    Attributed calls (efforts ++ (state.effort? number).toList) (state.turn fallback number) where
  called effort is_effort realm reads := by
    rcases List.mem_append.mp is_effort with earlier | does
    · exact attributed.called effort earlier realm reads
    · exact coherent.call_of_effort? (Option.mem_toList.mp does) reads
  followed effort is_effort realm asks := by
    rcases List.mem_append.mp is_effort with earlier | does
    · exact (attributed.followed effort earlier realm asks).append _
    · exact (attributed.begun number effort realm (Option.mem_toList.mp does)
        (Work.hasAsked_username_of_asks asks)).append _
  begun other effort realm does asked := by
    by_cases same : other = number
    · subst same
      exact attributed.begun_turn provides coherent does asked
    · rw [effort?, turn_threads_of_ne fallback state same] at does
      exact (attributed.begun other effort realm does asked).append _

end Attributed

/-- Whether a call for a realm, with a configuration at hand, has returned a result. -/
def HasReturned (fallback : Nat → Option (Config World)) (calls : Nat → List (Call World))
    (realm : String) (state : State World) (result : Except Failure (Option Record)) : Prop :=
  ∃ (number place resolver : Nat) (challenge : Option String) (config : Option (Config World)),
    (calls number)[place]? = some (.resolve resolver challenge config) ∧
      Challenge.parse challenge = .ok realm ∧ (config.or (fallback resolver)).isSome ∧
        (state.threads number).returned[place]? = some result

/-- How calls on several resolvers have shared what is known about a realm. -/
structure Shares (fallback : Nat → Option (Config World)) (start : Cache)
    (calls : Nat → List (Call World)) (realm : String) (efforts : List (Effort World))
    (state : State World) : Prop where
  /-- Each key of the realm is asked for once under the lock of a resolver, and never else. -/
  asked : ∀ key, key = Config.userKey realm ∨ key = Config.passwordKey realm →
    state.askings key = (readers key efforts).length ∧ (readers key efforts).Nodup
  /-- The keys are asked for by calls for the realm, and not at all if it was known at the start. -/
  called : ∀ effort ∈ efforts, effort.Reads realm → start.find? realm = none ∧
    ∃ call, (calls effort.number)[effort.place]? = some call ∧ call.resolver = effort.resolver ∧
      call.IsFor realm
  /-- It is one call that asks for keys under the lock of a resolver. -/
  single : ∀ first ∈ efforts, ∀ second ∈ efforts, first.Reads realm → second.Reads realm →
    first.resolver = second.resolver → first.number = second.number ∧ first.place = second.place
  /-- The realm is stored once under the lock of a resolver, and only if the username was asked for
  there. -/
  storedOnce : ((stored realm efforts).map (·.1)).Nodup ∧
    ∀ pair ∈ stored realm efforts, pair.1 ∈ readers (Config.userKey realm) efforts
  /-- A call with a configuration at hand returns what was known at the start or has been stored. -/
  returned : ∀ result, state.HasReturned fallback calls realm result →
    ∃ entry, result = .ok entry ∧ IsFound start efforts realm entry
  /-- All such calls return the same unless the username was asked for under two locks. -/
  same : state.askings (Config.userKey realm) ≤ 1 →
    ∃ entry, ∀ result, state.HasReturned fallback calls realm result → result = .ok entry

section Sharing

variable {sure : String → Prop} {fallback : Nat → Option (Config World)} {state : State World}
  {start : Cache} {calls : Nat → List (Call World)} {efforts : List (Effort World)}

theorem in_order_run
    (provides : ∀ resolver, ∀ given ∈ fallback resolver, ∀ realm, given.Provides sure realm)
    (brings : ∀ number, ∀ call ∈ calls number, call.Brings (Config.Provides sure))
    (resolves : ∀ number, ∀ call ∈ calls number, call.IsResolve)
    (coherent : Coherent sure fallback start calls efforts state)
    (attributed : Attributed calls efforts state) (schedule : List Nat) :
    Coherent sure fallback start calls (efforts ++ state.efforts fallback schedule)
        (state.run fallback schedule) ∧
      Attributed calls (efforts ++ state.efforts fallback schedule)
        (state.run fallback schedule) := by
  induction schedule generalizing state efforts with
  | nil =>
      rw [State.efforts, List.append_nil]
      exact ⟨coherent, attributed⟩
  | cons number schedule induction =>
      rw [State.efforts, ← List.append_assoc]
      exact induction (coherent.turn provides brings resolves number)
        (attributed.turn provides coherent number)

/-- Calls that ask for keys of a realm under the lock of one resolver are the same call. -/
theorem Attributed.single (attributed : Attributed calls efforts state) {realm : String}
    (once : (readers (Config.userKey realm) efforts).Nodup) {first second : Effort World}
    (is_first : first ∈ efforts) (is_second : second ∈ efforts) (first_reads : first.Reads realm)
    (second_reads : second.Reads realm) (same : first.resolver = second.resolver) :
    first.number = second.number ∧ first.place = second.place := by
  have begun (effort : Effort World) (is_effort : effort ∈ efforts) (reads : effort.Reads realm) :
      effort.IsBegun realm efforts := by
    rcases reads with asks | asks
    · exact ⟨effort.work, asks, is_effort⟩
    · exact attributed.followed effort is_effort realm asks
  obtain ⟨_, first_asks, first_began⟩ := begun first is_first first_reads
  obtain ⟨_, second_asks, second_began⟩ := begun second is_second second_reads
  have same_effort :=
    eq_of_resolver efforts once first_began first_asks second_began second_asks same
  obtain ⟨same_number, same_place, -⟩ := Effort.mk.inj same_effort
  exact ⟨same_number, same_place⟩

theorem Coherent.returned (coherent : Coherent sure fallback start calls efforts state)
    {realm : String} (isSure : sure realm) {result : Except Failure (Option Record)}
    (has_returned : state.HasReturned fallback calls realm result) :
    ∃ entry, result = .ok entry ∧ IsFound start efforts realm entry := by
  obtain ⟨number, place, resolver, challenge, config, called, parsed, available, ended⟩ :=
    has_returned
  exact (coherent.sound number).returns called ended resolver challenge config realm rfl parsed
    isSure available

end Sharing

/-- Threads that only resolve, on any resolvers over one cache and in any interleaving, look a realm
up in one call on each resolver at most, with reliable configurations that give the realm what can
be written, and return what was known from the start or what one of these calls has found. -/
theorem run_shares (fallback : Nat → Option (Config World)) (vault : Vault World)
    {calls : Nat → List (Call World)}
    (reliable : ∀ resolver, ∀ given ∈ fallback resolver, given.IsReliable)
    (calls_reliable : ∀ number, ∀ call ∈ calls number,
      call.Brings fun _ config => config.IsReliable)
    (resolves : ∀ number, ∀ call ∈ calls number, call.IsResolve) (schedule : List Nat)
    (realm : String) (writable : ∀ resolver, ∀ given ∈ fallback resolver, given.IsWritable realm)
    (calls_writable : ∀ number, ∀ call ∈ calls number,
      call.Brings fun other config => other = realm → config.IsWritable realm) :
    Shares fallback vault.cache calls realm ((start vault calls).efforts fallback schedule)
      ((start vault calls).run fallback schedule) := by
  have provides (resolver : Nat) (given : Config World) (available : given ∈ fallback resolver)
      (other : String) : given.Provides (· = realm) other :=
    ⟨reliable resolver given available, fun same => same ▸ writable resolver given available⟩
  have brings (number : Nat) (call : Call World) (called : call ∈ calls number) :
      call.Brings (Config.Provides (· = realm)) :=
    (calls_reliable number call called).provides (calls_writable number call called)
  have attributed : Attributed calls [] (start vault calls) :=
    { called := nofun, followed := nofun, begun := nofun }
  obtain ⟨coherent, attributed⟩ := in_order_run provides brings resolves
    (Coherent.of_start _ fallback vault calls) attributed schedule
  rw [List.nil_append] at coherent attributed
  have once (key : String) := coherent.ledger.once realm key rfl
  refine
    { asked := fun key of_realm => ⟨coherent.asked key, once key of_realm⟩
      called := ?_
      single := fun first is_first second is_second =>
        attributed.single (once _ (.inl rfl)) is_first is_second
      storedOnce := ⟨coherent.ledger.storedOnce realm rfl, fun pair is_stored =>
        (coherent.ledger.storedOf realm rfl pair.1 pair.2 is_stored).2⟩
      returned := fun result => coherent.returned rfl
      same := ?_ }
  · intro effort is_effort reads
    refine ⟨?_, attributed.called effort is_effort realm reads⟩
    rcases reads with asks | asks
    · exact coherent.ledger.unknown_of_reads rfl (.inl rfl) (mem_readers_of_mem _ is_effort asks)
    · exact coherent.ledger.unknown_of_reads rfl (.inr rfl) (mem_readers_of_mem _ is_effort asks)
  · intro few
    rw [coherent.asked] at few
    by_cases has_found : ∃ entry, IsFound vault.cache
        ((start vault calls).efforts fallback schedule) realm entry
    · obtain ⟨entry, is_found⟩ := has_found
      refine ⟨entry, fun result has_returned => ?_⟩
      obtain ⟨other, rfl, other_found⟩ := coherent.returned rfl has_returned
      rw [coherent.ledger.eq_of_isFound rfl few other_found is_found]
    · refine ⟨none, fun result has_returned => ?_⟩
      obtain ⟨other, -, other_found⟩ := coherent.returned rfl has_returned
      exact absurd ⟨other, other_found⟩ has_found

/-- Threads that each resolve a challenge of the same realm, on a resolver and with a configuration
of their own. -/
def rivals (configs : List (Option (Config Unit))) (number : Nat) : List (Call Unit) :=
  configs[number]?.toList.map (.resolve number (some "Basic realm=\"a\""))

/-- What becomes of two of them that take turn about until both have returned. -/
def race (configs : List (Option (Config Unit))) : State Unit :=
  (start { cache := .empty, world := () } (rivals configs)).run (fun _ => none)
    (List.replicate 7 [0, 1]).flatten

/-- What both of them do under locks. -/
def raceEfforts (configs : List (Option (Config Unit))) : List (Effort Unit) :=
  (start { cache := .empty, world := () } (rivals configs)).efforts (fun _ => none)
    (List.replicate 7 [0, 1]).flatten

/-- A configuration with a username and a password. -/
def equipped : Option (Config Unit) :=
  some (.ofTable { entries :=
    [("http.auth.basic.a.user", .ofText "u"), ("http.auth.basic.a.password", .ofText "p")] })

theorem of_mem_rivals {configs : List (Option (Config Unit))} {number : Nat} {call : Call Unit}
    (called : call ∈ rivals configs number) :
    ∃ config ∈ configs, call = .resolve number (some "Basic realm=\"a\"") config := by
  obtain ⟨config, is_config, rfl⟩ := List.mem_map.mp called
  exact ⟨config, List.mem_of_getElem? (Option.mem_toList.mp is_config), rfl⟩

theorem rivals_brings (number : Nat) :
    ∀ call ∈ rivals [equipped, equipped] number,
      call.Brings fun _ config => config.IsReliable ∧ config.IsWritable "a" := by
  intro call called
  obtain ⟨config, is_config, rfl⟩ := of_mem_rivals called
  obtain rfl : config = equipped := by simpa using is_config
  rintro _ - _ ⟨⟩
  refine ⟨Config.isReliable_ofTable _, ?_⟩
  rintro _ _ _ _ ⟨⟩ ⟨⟩
  exact ⟨RawText.isText_ofText _, RawText.isText_ofText _⟩

theorem rivals_resolve (configs : List (Option (Config Unit))) (number : Nat) :
    ∀ call ∈ rivals configs number, call.IsResolve := by
  intro call called
  obtain ⟨config, -, rfl⟩ := of_mem_rivals called
  trivial

theorem run_shares_rivals :
    readers (Config.userKey "a") (raceEfforts [equipped, equipped]) = [0, 1] ∧
      (race [equipped, equipped]).askings (Config.userKey "a") = 2 ∧
      ∀ number < 2, ∃ entry, ((race [equipped, equipped]).threads number).returned = [.ok entry] ∧
        IsFound .empty (raceEfforts [equipped, equipped]) "a" entry := by
  have shares := run_shares (fun _ => none) { cache := .empty, world := () } nofun
    (fun number call called => (rivals_brings number call called).imp fun _ _ brings => brings.1)
    (rivals_resolve _) (List.replicate 7 [0, 1]).flatten "a" nofun
    (fun number call called => (rivals_brings number call called).imp fun _ _ brings _ => brings.2)
  have read_by : readers (Config.userKey "a") (raceEfforts [equipped, equipped]) = [0, 1] := by
    decide +kernel
  refine ⟨read_by, ?_, fun number early => ?_⟩
  · exact (shares.asked _ (.inl rfl)).1.trans (congrArg List.length read_by)
  · have returned : ∃ result, ((race [equipped, equipped]).threads number).returned = [result] := by
      obtain rfl | rfl : number = 0 ∨ number = 1 := by omega
      · exact ⟨_, rfl⟩
      · exact ⟨_, rfl⟩
    obtain ⟨result, returned⟩ := returned
    have called : (rivals [equipped, equipped] number)[0]? =
        some (.resolve number (some "Basic realm=\"a\"") equipped) := by
      obtain rfl | rfl : number = 0 ∨ number = 1 := by omega
      · rfl
      · rfl
    obtain ⟨entry, rfl, is_found⟩ := shares.returned result
      ⟨number, 0, number, _, _, called, rfl, rfl, congrArg (·[0]?) returned⟩
    exact ⟨entry, returned, is_found⟩

/-- Two resolvers over one cache may both look a realm up, and return different records.  Without a
configuration a call returns nothing, though another may look the realm up.  If the password is a
byte that no character starts with two calls on one resolver both look the realm up, and return
nothing. -/
theorem rivals_disagree :
    (∀ number, ∀ call ∈ rivals [equipped, equipped] number,
      call.IsResolve ∧ call.IsFor "a" ∧ call.Brings fun _ config => config.IsReliable) ∧
    (race [equipped, equipped]).askings (Config.userKey "a") = 2 ∧
    (race [equipped, equipped]).askings (Config.passwordKey "a") = 2 ∧
    (∃ first second, ((race [equipped, equipped]).threads 0).returned = [.ok first] ∧
      ((race [equipped, equipped]).threads 1).returned = [.ok second] ∧ first ≠ second) ∧
    ((race [none, equipped]).threads 0).returned = [.ok none] ∧
    (∃ record, ((race [none, equipped]).threads 1).returned = [.ok (some record)]) ∧
    (crowded (.ofBytes [0xe9])).askings (Config.userKey "a") = 2 ∧
    ∃ failure, ((crowded (.ofBytes [0xe9])).threads 0).returned = [.error failure] := by
  refine ⟨fun number call called => ⟨rivals_resolve _ number call called, ?_,
    (rivals_brings number call called).imp fun _ _ brings => brings.1⟩,
    by decide +kernel, by decide +kernel, ⟨_, _, rfl, rfl, by decide +kernel⟩, rfl, ⟨_, rfl⟩,
    by decide +kernel, _, rfl⟩
  obtain ⟨config, -, rfl⟩ := of_mem_rivals called
  exact ⟨number, _, config, rfl, rfl⟩

end State

end Threads
end Countersign
