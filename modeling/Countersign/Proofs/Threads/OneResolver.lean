import Countersign.Proofs.Threads.LookUps

/-!
# Threads on one resolver

Any schedule of threads on one resolver comes down to an order of whole calls that keeps to the
order of every thread and to real time.  With reliable configurations that give a realm what can be
written, its keys are asked at most once from one dropping of the realm to the next, and without any
dropping all calls for the realm that had a configuration return the same record.
-/

namespace Countersign
namespace Threads

variable {World : Type}

/-- Whether a call answers a challenge. -/
def Call.IsResolve : Call World → Prop
  | .resolve _ _ _ => True
  | .forget _ _ | .clear _ => False

namespace State

variable {sure : String → Prop} {fallback : Nat → Option (Config World)} {resolver number : Nat}
  {realm key : String} {state : State World}

/-- How the results of a thread stand to its calls: as many calls as there are results have been
made, and what they were is known. -/
def Made (holds : Call World → Except Failure (Option Record) → Prop) (calls : List (Call World))
    (thread : Thread World) : Prop :=
  ∃ made, calls = made ++ thread.pending ∧ made.length = thread.returned.length ∧
    ∀ pair ∈ made.zip thread.returned, holds pair.1 pair.2

/-- Making one more whole call. -/
theorem Made.whole {before holds : Call World → Except Failure (Option Record) → Prop}
    {calls : Nat → List (Call World)}
    (made : ∀ number, Made before (calls number) (state.threads number))
    (keeps : ∀ call result, before call result → holds call result)
    (now : ∀ call pending, (state.threads number).pending = call :: pending →
      holds call (call.perform (fallback call.resolver) state.vault).result) (other : Nat) :
    Made holds (calls other) ((state.whole fallback number).threads other) := by
  obtain ⟨done, split, lengths, held⟩ := made other
  rcases threaded : state.threads number with ⟨stage, _ | ⟨call, pending⟩, returned⟩
  · have same : state.whole fallback number = state := by simp [State.whole, threaded]
    rw [same]
    exact ⟨done, split, lengths, fun pair member => keeps _ _ (held pair member)⟩
  · rw [whole_eq threaded rfl]
    by_cases same : other = number
    · subst same
      rw [threaded] at split lengths held
      refine ⟨done ++ [call], by simpa using split, by simpa using lengths, ?_⟩
      intro pair member
      simp only [assign_self] at member
      rw [List.zip_append lengths, List.mem_append] at member
      rcases member with earlier | last
      · exact keeps _ _ (held pair earlier)
      · obtain rfl := List.mem_singleton.mp last
        exact now call pending (by rw [threaded])
    · simp only [assign_of_ne _ _ same]
      exact ⟨done, split, lengths, fun pair member => keeps _ _ (held pair member)⟩

theorem made_start (holds : Call World → Except Failure (Option Record) → Prop)
    (vault : Vault World) (calls : Nat → List (Call World)) (number : Nat) :
    Made holds (calls number) ((start vault calls).threads number) :=
  ⟨[], rfl, rfl, nofun⟩

/-- A call that has been made stands beside its result, which has the same place. -/
theorem mem_zip_of_getElem? {made rest : List (Call World)}
    {returned : List (Except Failure (Option Record))} (lengths : made.length = returned.length)
    {place : Nat} {call : Call World} {result : Except Failure (Option Record)}
    (called : (made ++ rest)[place]? = some call) (ended : returned[place]? = some result) :
    (call, result) ∈ made.zip returned := by
  obtain ⟨within_returned, -⟩ := List.getElem?_eq_some_iff.mp ended
  rw [List.getElem?_append_left (by omega)] at called
  rw [List.mem_iff_getElem?]
  exact ⟨place, List.getElem?_zip_eq_some.mpr ⟨called, ended⟩⟩

/-- The result of a call that has been made, by its place among the calls of its thread. -/
theorem Made.of_getElem? {holds : Call World → Except Failure (Option Record) → Prop}
    {calls : List (Call World)} {thread : Thread World} (made : Made holds calls thread)
    {index : Nat} {call : Call World} {result : Except Failure (Option Record)}
    (called : calls[index]? = some call) (ended : thread.returned[index]? = some result) :
    holds call result := by
  obtain ⟨done, rfl, lengths, held⟩ := made
  exact held (call, result) (mem_zip_of_getElem? lengths called ended)

/-- Whether a call for a sure realm with a configuration at hand returned what is known about the
realm. -/
def Answered (sure : String → Prop) (fallback : Option (Config World)) (vault : Vault World)
    (call : Call World) (result : Except Failure (Option Record)) : Prop :=
  ∀ resolver challenge config realm, call = .resolve resolver challenge config →
    Challenge.parse challenge = .ok realm → sure realm → (config.or fallback).isSome →
      ∃ entry, result = .ok entry ∧ vault.cache.find? realm = some entry

theorem find?_whole_of_known {entry : Option Record}
    (resolves : ∀ call ∈ (state.threads number).pending, call.IsResolve)
    (known : state.vault.cache.find? realm = some entry) :
    (state.whole fallback number).vault.cache.find? realm = some entry := by
  rcases threaded : state.threads number with ⟨stage, _ | ⟨call, pending⟩, returned⟩
  · have same : state.whole fallback number = state := by simp [whole, threaded]
    rwa [same]
  · rw [whole_eq threaded rfl]
    have is_resolve := resolves call (by rw [threaded]; exact .head _)
    cases call with
    | resolve => exact Vault.find?_resolve_of_known known
    | forget => exact absurd is_resolve id
    | clear => exact absurd is_resolve id

theorem answered_perform {given : Option (Config World)} {call : Call World}
    (provides : ∀ config ∈ given, ∀ realm, config.Provides sure realm)
    (brings : call.Brings (Config.Provides sure)) (vault : Vault World) :
    Answered sure given (call.perform given vault).state call
      (call.perform given vault).result := by
  rintro resolver challenge config realm rfl parsed isSure available
  obtain ⟨at_hand, is_at_hand⟩ := Option.isSome_iff_exists.mp available
  have provided : at_hand.Provides sure realm := by
    cases config with
    | none => exact provides at_hand is_at_hand realm
    | some config => exact brings realm parsed at_hand is_at_hand
  exact Vault.resolve_of_reliable parsed is_at_hand provided.reliable (provided.writable isSure)

/-- While nothing is dropped, every whole call for a sure realm with a configuration at hand returns
what is then known about the realm for good. -/
theorem answered_runWhole {calls : Nat → List (Call World)}
    (shared : ∀ number, ∀ call ∈ calls number, call.resolver = resolver)
    (provides : ∀ given ∈ fallback resolver, ∀ realm, given.Provides sure realm)
    (brings : ∀ number, ∀ call ∈ calls number, call.Brings (Config.Provides sure))
    (resolves : ∀ number, ∀ call ∈ calls number, call.IsResolve)
    (made : ∀ number,
      Made (Answered sure (fallback resolver) state.vault) (calls number) (state.threads number))
    (order : List Nat) (number : Nat) :
    Made (Answered sure (fallback resolver) (state.runWhole fallback order).vault) (calls number)
      ((state.runWhole fallback order).threads number) := by
  induction order generalizing state with
  | nil => exact made number
  | cons maker order induction =>
      have called (other : Nat) {call : Call World}
          (is_pending : call ∈ (state.threads other).pending) : call ∈ calls other := by
        obtain ⟨done, split, -⟩ := made other
        rw [split]
        exact List.mem_append_right _ is_pending
      have next_made (other : Nat) :
          Made (Answered sure (fallback resolver) (state.whole fallback maker).vault) (calls other)
            ((state.whole fallback maker).threads other) := by
        apply Made.whole made
        · rintro call result answered resolver challenge config realm rfl parsed isSure available
          obtain ⟨entry, returned, known⟩ :=
            answered resolver challenge config realm rfl parsed isSure available
          refine ⟨entry, returned, find?_whole_of_known (fun call is_pending => ?_) known⟩
          exact resolves maker call (called maker is_pending)
        · intro call pending is_next
          rcases threaded : state.threads maker with ⟨stage, pending', returned⟩
          rw [threaded] at is_next
          obtain rfl := is_next
          have is_called := called maker (by rw [threaded]; exact .head _)
          rw [whole_eq threaded rfl, shared maker call is_called]
          exact answered_perform provides (brings maker call is_called) state.vault
      exact induction next_made

theorem askedKeys_ordered (events : List (Nat × Event)) :
    Event.askedKeys ((ordered events).map (·.2)) = Event.askedKeys (events.map (·.2)) := by
  induction events with
  | nil => rfl
  | cons observed events induction =>
      obtain ⟨number, event⟩ := observed
      by_cases ignoring : event.isIgnoring = true
      · have silent : Event.askedKeys [event] = [] := by
          cases event <;> first | rfl | cases ignoring
        have split : Event.askedKeys (event :: events.map (·.2)) =
            Event.askedKeys [event] ++ Event.askedKeys (events.map (·.2)) :=
          Event.askedKeys_append [event] _
        simp only [ordered, ignoring, List.filter_cons, List.map_cons] at induction ⊢
        rw [split, silent]
        exact induction
      · have kept : ordered ((number, event) :: events) = (number, event) :: ordered events := by
          simp [ordered, ignoring]
        rw [kept]
        change Event.askedKeys ([event] ++ _) = Event.askedKeys ([event] ++ _)
        rw [Event.askedKeys_append, Event.askedKeys_append, induction]

theorem orderly_start (fallback : Nat → Option (Config World)) (vault : Vault World)
    {calls : Nat → List (Call World)}
    (shared : ∀ number, ∀ call ∈ calls number, call.resolver = resolver)
    (brings : ∀ number, ∀ call ∈ calls number, call.Brings (Config.Provides sure)) :
    Orderly sure fallback resolver (start vault calls) :=
  { simulated := ⟨_, _, simulates_start fallback vault shared⟩
    fits := fun number => ⟨brings number, trivial⟩ }

theorem run_append (fallback : Nat → Option (Config World)) (state : State World)
    (early late : List Nat) :
    state.run fallback (early ++ late) = (state.run fallback early).run fallback late :=
  List.foldl_append ..

theorem Orderly.run (provides : ∀ given ∈ fallback resolver, ∀ realm, given.Provides sure realm)
    (orderly : Orderly sure fallback resolver state) (schedule : List Nat) :
    Orderly sure fallback resolver (state.run fallback schedule) := by
  induction schedule generalizing state with
  | nil => exact orderly
  | cons number schedule induction => exact induction (orderly.turn provides number)

/-- What a state in which all threads are done has in common with a sequential one: the vault, what
each thread returned, and what was observed in which order. -/
structure Agrees (serial state : State World) : Prop where
  vault : state.vault = serial.vault
  threads : state.threads = serial.threads
  events : ordered state.events = ordered serial.events
  askedKeys : Event.askedKeys (state.events.map (·.2)) =
    Event.askedKeys (serial.events.map (·.2))

theorem Simulates.agrees {serial : State World} {begun : List Event}
    (simulates : Simulates fallback resolver state serial begun)
    (done : ∀ number, (state.threads number).IsDone) : Agrees serial state := by
  obtain ⟨vault, threads, events⟩ := simulates.eq_of_done done
  refine { vault, threads, events, askedKeys := ?_ }
  rw [← askedKeys_ordered state.events, events, askedKeys_ordered]

theorem run_threads_of_not_mem (fallback : Nat → Option (Config World)) (state : State World)
    {schedule : List Nat} (absent : number ∉ schedule) :
    (state.run fallback schedule).threads number = state.threads number := by
  induction schedule generalizing state with
  | nil => rfl
  | cons other schedule induction =>
      rw [List.mem_cons, not_or] at absent
      have same := turn_threads_of_ne fallback state absent.1
      rw [← same]
      exact induction (state.turn fallback other) absent.2

/-- Threads on one resolver, in any interleaving, come down to whole calls one after the other.  Up
to every point of the schedule the calls that have returned have been made with these results, and
none that has not begun.  With reliable configurations that give a realm what can be written a key
of the realm is asked at most once while the realm is not dropped, and if the threads only resolve,
all calls for the realm that had a configuration return the same. -/
theorem run_linearizes (fallback : Nat → Option (Config World)) (vault : Vault World)
    {calls : Nat → List (Call World)}
    (shared : ∀ number, ∀ call ∈ calls number, call.resolver = resolver) (schedule : List Nat) :
    (∃ order,
      (∀ early late, schedule = early ++ late → ∃ first second, order = first ++ second ∧
        Accounts ((start vault calls).runWhole fallback first)
          ((start vault calls).run fallback early)) ∧
      ((∀ number, (((start vault calls).run fallback schedule).threads number).IsDone) →
        Agrees ((start vault calls).runWhole fallback order)
          ((start vault calls).run fallback schedule))) ∧
    ((∀ given ∈ fallback resolver, given.IsReliable) →
      (∀ number, ∀ call ∈ calls number, call.Brings fun _ config => config.IsReliable) →
      ∀ realm, (∀ given ∈ fallback resolver, given.IsWritable realm) →
      (∀ number, ∀ call ∈ calls number,
        call.Brings fun other config => other = realm → config.IsWritable realm) →
      (∀ early middle,
        Keeps fallback realm ((start vault calls).run fallback early) middle →
        ∀ key, key = Config.userKey realm ∨ key = Config.passwordKey realm →
          ((start vault calls).run fallback (early ++ middle)).askings key ≤
            ((start vault calls).run fallback early).askings key + 1) ∧
      ((∀ number, ∀ call ∈ calls number, call.IsResolve) →
        ∃ entry, ∀ (number index : Nat) challenge config result,
          (calls number)[index]? = some (.resolve resolver challenge config) →
          Challenge.parse challenge = .ok realm → (config.or (fallback resolver)).isSome →
          (((start vault calls).run fallback schedule).threads number).returned[index]? =
            some result →
          result = .ok entry)) := by
  obtain ⟨order, begun, simulates, beginnings⟩ :=
    (simulates_start fallback vault shared).run schedule
  refine ⟨⟨order, beginnings, simulates.agrees⟩,
    fun reliable calls_reliable realm writable calls_writable => ?_⟩
  have provides : ∀ given ∈ fallback resolver, ∀ other, given.Provides (· = realm) other := by
    rintro given available other
    exact ⟨reliable given available, fun same => same ▸ writable given available⟩
  have brings (number : Nat) (call : Call World) (called : call ∈ calls number) :
      call.Brings (Config.Provides (· = realm)) :=
    (calls_reliable number call called).provides (calls_writable number call called)
  constructor
  · intro early middle keeps key of_realm
    have orderly := (orderly_start fallback vault shared brings).run provides early
    rw [run_append]
    exact (askings_run provides orderly rfl of_realm keeps).1
  · intro resolves
    have accounts := simulates.accounts
    have answered := answered_runWhole shared provides brings resolves
      (made_start _ vault calls) order
    generalize (start vault calls).runWhole fallback order = serial at accounts answered
    refine ⟨(serial.vault.cache.find? realm).getD none, ?_⟩
    intro number index challenge config result called parsed available returned
    have serial_returned : (serial.threads number).returned[index]? = some result := by
      obtain ⟨later, same⟩ := accounts.returned number
      obtain ⟨within_returned, -⟩ := List.getElem?_eq_some_iff.mp returned
      rw [← same, List.getElem?_append_left within_returned]
      exact returned
    obtain ⟨entry, rfl, known⟩ :=
      (answered number).of_getElem? called serial_returned resolver challenge config realm rfl
        parsed rfl available
    rw [known]
    rfl

/-- Two threads, each with one challenge of the same realm to resolve, for which the configuration
has a password. -/
def twoCalls (password : RawText) (number : Nat) : List (Call Unit) :=
  if number < 2 then
    [.resolve 0 (some "Basic realm=\"a\"") (some (.ofTable { entries :=
      [("http.auth.basic.a.user", .ofText "u"), ("http.auth.basic.a.password", password)] }))]
  else []

/-- The two threads when both look into the empty cache before either goes on. -/
def crowded (password : RawText) : State Unit :=
  (start { cache := .empty, world := () } (twoCalls password)).run (fun _ => none) (crowd 2)

theorem eq_of_mem_twoCalls {password : RawText} {call : Call Unit}
    (called : call ∈ twoCalls password number) :
    call = .resolve 0 (some "Basic realm=\"a\"") (some (.ofTable { entries :=
      [("http.auth.basic.a.user", .ofText "u"), ("http.auth.basic.a.password", password)] })) := by
  by_cases early : number < 2
  · simpa [twoCalls, early] using called
  · simp [twoCalls, early] at called

theorem reliable_twoCalls {password : RawText} {call : Call Unit}
    (called : call ∈ twoCalls password number) :
    call.IsResolve ∧ call.Brings fun _ config => config.IsReliable := by
  obtain rfl := eq_of_mem_twoCalls called
  refine ⟨trivial, ?_⟩
  rintro _ - _ ⟨⟩
  exact Config.isReliable_ofTable _

theorem run_linearizes_crowded :
    (∃ order, Agrees ((start { cache := .empty, world := () } (twoCalls (.ofText "p"))).runWhole
        (fun _ => none) order) (crowded (.ofText "p"))) ∧
      (crowded (.ofText "p")).askings (Config.userKey "a") ≤ 1 ∧
      ∃ entry, ((crowded (.ofText "p")).threads 0).returned = [.ok entry] ∧
        ((crowded (.ofText "p")).threads 1).returned = [.ok entry] := by
  have shared (number : Nat) : ∀ call ∈ twoCalls (.ofText "p") number, call.resolver = 0 := by
    intro call called
    rw [eq_of_mem_twoCalls called]
    rfl
  have writable (number : Nat) : ∀ call ∈ twoCalls (.ofText "p") number,
      call.Brings fun other config => other = "a" → config.IsWritable "a" := by
    intro call called
    rw [eq_of_mem_twoCalls called]
    rintro _ - _ ⟨⟩ -
    rintro _ _ _ _ ⟨⟩ ⟨⟩
    exact ⟨RawText.isText_ofText _, RawText.isText_ofText _⟩
  have done (number : Nat) : ((crowded (.ofText "p")).threads number).IsDone := by
    by_cases early : number < 2
    · obtain rfl | rfl : number = 0 ∨ number = 1 := by omega
      · exact ⟨rfl, rfl⟩
      · exact ⟨rfl, rfl⟩
    · have absent : number ∉ crowd 2 := by
        intro scheduled
        simp [crowd, List.range_succ] at scheduled
        omega
      rw [crowded, run_threads_of_not_mem _ _ absent]
      exact ⟨rfl, if_neg early⟩
  obtain ⟨⟨order, -, agrees⟩, once⟩ :=
    run_linearizes (fun _ => none) { cache := .empty, world := () } shared (crowd 2)
  obtain ⟨asked, same⟩ := once nofun (fun _ _ called => (reliable_twoCalls called).2) "a" nofun
    writable
  obtain ⟨entry, returned⟩ := same fun _ _ called => (reliable_twoCalls called).1
  have keeps : Keeps (fun _ => none) "a"
      (start { cache := .empty, world := () } (twoCalls (.ofText "p"))) (crowd 2) := by
    decide
  have first := returned 0 0 _ _ _ rfl rfl rfl rfl
  have second := returned 1 0 _ _ _ rfl rfl rfl rfl
  refine ⟨⟨order, agrees done⟩, asked [] (crowd 2) keeps _ (.inl rfl), entry, ?_, ?_⟩
  · rw [← first]; rfl
  · rw [← second]; rfl

/-- If the password is a byte that no character starts with both calls ask for it, though nothing is
dropped, and neither returns anything.  And a call that has no configuration does not return what a
later call for the realm returns that has one. -/
theorem crowded_reread :
    let refusal := Failure.unencodable { point := .escape 0xe9, position := 2, width := 1 }
    let calls := twoCalls (.ofBytes [0xe9])
    (∀ number, ∀ call ∈ calls number,
      call.IsResolve ∧ call.Brings fun _ config => config.IsReliable) ∧
      Keeps (fun _ => none) "a" (start { cache := .empty, world := () } calls) (crowd 2) ∧
      (crowded (.ofBytes [0xe9])).askings (Config.userKey "a") = 2 ∧
      ((crowded (.ofBytes [0xe9])).threads 0).returned = [.error refusal] ∧
      ((crowded (.ofBytes [0xe9])).threads 1).returned = [.error refusal] ∧
      ∃ record, (((start { cache := .empty, world := () } fun number =>
        if number = 0 then
          .resolve 0 (some "Basic realm=\"a\"") none :: twoCalls (.ofText "p") number
        else []).run (fun _ => none) (List.replicate 20 0)).threads 0).returned =
          [.ok none, .ok (some record)] := by
  intro refusal calls
  exact ⟨fun _ _ called => reliable_twoCalls called, by decide +kernel, by decide +kernel,
    rfl, rfl, _, rfl⟩

end State
end Threads
end Countersign
