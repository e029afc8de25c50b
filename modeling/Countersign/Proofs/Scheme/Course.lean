import Countersign.Client
import Countersign.Proofs.Action

/-!
# Which schemes are called

To say which calls a dispatcher makes, its schemes are made to write down each call before they do
what they did.  A challenge then leads to one call of the first scheme that accepts it, or to none,
and the challenges are handled in order until one is answered or fails.
-/

namespace Countersign

/-- A call of a scheme. -/
structure Dispatcher.Call (Conf : Type) where
  /-- The place of the scheme in its dispatcher. -/
  place : Nat
  /-- The challenge that the scheme is given. -/
  challenge : Option String
  /-- The configuration that the scheme is given. -/
  config : Option Conf

/-- The scheme at a place that also writes down when it is called. -/
def Scheme.recorded {State Conf : Type} (place : Nat) (scheme : Scheme State Conf) :
    Scheme (State × List (Dispatcher.Call Conf)) Conf :=
  { name := scheme.name
    accepts := scheme.accepts
    resolve := fun challenge config => do
      Action.change fun (state, calls) => (state, calls ++ [{ place, challenge, config }])
      (scheme.resolve challenge config).within (·.1) fun whole state => (state, whole.2) }

/-- An outcome next to the calls that have been made by then. -/
def Outcome.beside {State Conf Value : Type} (outcome : Outcome State Value)
    (calls : List (Dispatcher.Call Conf)) :
    Outcome (State × List (Dispatcher.Call Conf)) Value :=
  { result := outcome.result, state := (outcome.state, calls), events := outcome.events }

namespace Dispatcher

variable {State Conf : Type} {dispatcher : Dispatcher State Conf} {config : Option Conf}
  {challenge : Option String} {place : Nat} {scheme : Scheme State Conf}

/-- A dispatcher whose schemes write down when they are called. -/
def recorded (dispatcher : Dispatcher State Conf) : Dispatcher (State × List (Call Conf)) Conf :=
  dispatcher.mapIdx Scheme.recorded

/-! ## Selection -/

/-- Whether the scheme at a place is the first one that accepts a challenge. -/
structure Selects (dispatcher : Dispatcher State Conf) (challenge : Option String) (place : Nat)
    (scheme : Scheme State Conf) : Prop where
  placed : dispatcher[place]? = some scheme
  accepts : scheme.accepts challenge
  refused : ∀ earlier < place, ∀ other, dispatcher[earlier]? = some other →
    other.accepts challenge = false

theorem Selects.select_eq (selects : dispatcher.Selects challenge place scheme) :
    dispatcher.select challenge = some scheme := by
  obtain ⟨bound, placed⟩ := List.getElem?_eq_some_iff.mp selects.placed
  refine List.find?_eq_some_iff_getElem.mpr ⟨selects.accepts, place, bound, placed, ?_⟩
  intro earlier before
  rw [selects.refused earlier before _ (List.getElem?_eq_getElem _)]
  rfl

theorem exists_selects (selected : dispatcher.select challenge = some scheme) :
    ∃ place, dispatcher.Selects challenge place scheme := by
  obtain ⟨accepts, place, bound, rfl, earlier⟩ := List.find?_eq_some_iff_getElem.mp selected
  refine ⟨place, List.getElem?_eq_getElem bound, accepts, fun other before scheme placed => ?_⟩
  obtain ⟨other_bound, rfl⟩ := List.getElem?_eq_some_iff.mp placed
  simpa using earlier other before

theorem select_eq_none_iff :
    dispatcher.select challenge = none ↔
      ∀ scheme ∈ dispatcher, scheme.accepts challenge = false := by
  simp [select]

/-- Writing calls down changes nothing about which scheme is selected. -/
theorem Selects.recorded (selects : dispatcher.Selects challenge place scheme) :
    dispatcher.recorded.Selects challenge place (scheme.recorded place) where
  placed := by simp [Dispatcher.recorded, selects.placed]
  accepts := selects.accepts
  refused := by
    intro earlier before other placed
    rw [Dispatcher.recorded, List.getElem?_mapIdx, Option.map_eq_some_iff] at placed
    obtain ⟨original, found, rfl⟩ := placed
    exact selects.refused earlier before original found

theorem select_recorded_of_none (unselected : dispatcher.select challenge = none) :
    dispatcher.recorded.select challenge = none := by
  rw [select_eq_none_iff] at unselected ⊢
  intro scheme isScheme
  obtain ⟨place, bound, rfl⟩ := List.mem_mapIdx.mp isScheme
  exact unselected _ (List.getElem_mem bound)

/-- Schemes that are registered later are not selected for what was accepted before. -/
theorem select_append_of_accepted (accepted : ∃ scheme ∈ dispatcher, scheme.accepts challenge)
    (more : Dispatcher State Conf) :
    Dispatcher.select (dispatcher ++ more) challenge = dispatcher.select challenge := by
  cases selected : dispatcher.select challenge with
  | none =>
      obtain ⟨scheme, isScheme, accepts⟩ := accepted
      rw [select_eq_none_iff.mp selected scheme isScheme] at accepts
      cases accepts
  | some scheme =>
      rw [select] at selected ⊢
      rw [List.find?_append, selected, Option.some_or]

theorem select_recorded_append_of_accepted
    (accepted : ∃ scheme ∈ dispatcher, scheme.accepts challenge) (more : Dispatcher State Conf) :
    Dispatcher.select (Dispatcher.recorded (dispatcher ++ more)) challenge =
      dispatcher.recorded.select challenge := by
  obtain ⟨scheme, isScheme, accepts⟩ := accepted
  obtain ⟨place, bound, rfl⟩ := List.getElem_of_mem isScheme
  rw [recorded, List.mapIdx_append]
  refine select_append_of_accepted ⟨dispatcher[place].recorded place, ?_, accepts⟩ _
  exact List.mem_mapIdx.mpr ⟨place, bound, rfl⟩

/-! ## One challenge -/

/-- How a challenge is handled, with the calls that this leads to. -/
inductive Handling (dispatcher : Dispatcher State Conf) (config : Option Conf)
    (challenge : Option String) (state : State) :
    List (Call Conf) → Outcome State (Option Handle) → Prop
  /-- No scheme accepts the challenge. -/
  | unmatched : (∀ scheme ∈ dispatcher, scheme.accepts challenge = false) →
      Handling dispatcher config challenge state []
        { result := .ok none, state, events := [.noted (.unmatched challenge)] }
  /-- The first scheme that accepts the challenge has no answer. -/
  | withheld (place : Nat) (scheme : Scheme State Conf) (after : State) (events : List Event) :
      dispatcher.Selects challenge place scheme →
      scheme.resolve challenge config state = { result := .ok none, state := after, events } →
      Handling dispatcher config challenge state [{ place, challenge, config }]
        { result := .ok none, state := after
          events := events ++ [.noted (.withheld scheme.name challenge)] }
  /-- The first scheme that accepts the challenge answers it. -/
  | provided (place : Nat) (scheme : Scheme State Conf) (handle : Handle) (after : State)
      (events : List Event) :
      dispatcher.Selects challenge place scheme →
      scheme.resolve challenge config state =
        { result := .ok (some handle), state := after, events } →
      Handling dispatcher config challenge state [{ place, challenge, config }]
        { result := .ok (some handle), state := after
          events := events ++ [.noted (.provided scheme.name handle.realm)] }
  /-- The first scheme that accepts the challenge fails. -/
  | raised (place : Nat) (scheme : Scheme State Conf) (failure : Failure) (after : State)
      (events : List Event) :
      dispatcher.Selects challenge place scheme →
      scheme.resolve challenge config state =
        { result := .error failure, state := after, events } →
      Handling dispatcher config challenge state [{ place, challenge, config }]
        { result := .error failure, state := after, events }

theorem authorize_of_none (unselected : dispatcher.select challenge = none) (state : State) :
    dispatcher.authorize challenge config state =
      { result := .ok none, state, events := [.noted (.unmatched challenge)] } := by
  simp [authorize, unselected, Action.bind_apply, Action.pure_apply]

/-- What the selected scheme comes to, with a line about it unless it failed. -/
theorem authorize_of_some (selected : dispatcher.select challenge = some scheme) (state : State) :
    let outcome := scheme.resolve challenge config state
    dispatcher.authorize challenge config state =
      { outcome with
        events := outcome.events ++ match outcome.result with
          | .ok none => [.noted (.withheld scheme.name challenge)]
          | .ok (some handle) => [.noted (.provided scheme.name handle.realm)]
          | .error _ => [] } := by
  intro outcome
  rcases ended : (scheme.resolve challenge config state).result with failure | _ | handle
  · simp [authorize, selected, Action.bind_apply, ended, outcome]
  · simp [authorize, selected, Action.bind_apply, ended, outcome, Except.map]
  · simp [authorize, selected, Action.bind_apply, ended, outcome, Except.map]

theorem recorded_resolve (place : Nat) (scheme : Scheme State Conf) (challenge : Option String)
    (config : Option Conf) (state : State) (past : List (Call Conf)) :
    let call : Call Conf := { place, challenge, config }
    (scheme.recorded place).resolve challenge config (state, past) =
      (scheme.resolve challenge config state).beside (past ++ [call]) := by
  simp [Scheme.recorded, Action.bind_apply, Outcome.beside]

/-- A challenge is handled in one of the ways that there are, and that leads to the calls said. -/
theorem authorize_handling (dispatcher : Dispatcher State Conf) (config : Option Conf)
    (challenge : Option String) (state : State) :
    ∃ calls,
      Handling dispatcher config challenge state calls
        (dispatcher.authorize challenge config state) ∧
      ∀ past, dispatcher.recorded.authorize challenge config (state, past) =
        (dispatcher.authorize challenge config state).beside (past ++ calls) := by
  cases selected : dispatcher.select challenge with
  | none =>
      refine ⟨[], ?_, fun past => ?_⟩
      · rw [authorize_of_none selected]
        exact .unmatched (select_eq_none_iff.mp selected)
      · rw [authorize_of_none selected, authorize_of_none (select_recorded_of_none selected),
          List.append_nil]
        rfl
  | some scheme =>
      obtain ⟨place, selects⟩ := exists_selects selected
      refine ⟨[{ place, challenge, config }], ?_, fun past => ?_⟩
      · rw [authorize_of_some selected]
        rcases resolved : scheme.resolve challenge config state with
          ⟨failure | _ | handle, after, events⟩
        · simpa using Handling.raised place scheme failure after events selects resolved
        · exact .withheld place scheme after events selects resolved
        · exact .provided place scheme handle after events selects resolved
      · rw [authorize_of_some selected, authorize_of_some selects.recorded.select_eq,
          recorded_resolve]
        rfl

/-! ## Several challenges -/

/-- How challenges are handled in order, with the calls that this leads to. -/
inductive Course (dispatcher : Dispatcher State Conf) (config : Option Conf) :
    List (Option String) → State → List (Call Conf) → Outcome State (Option Handle) → Prop
  /-- No challenge is left. -/
  | finished (state : State) :
      Course dispatcher config [] state [] { result := .ok none, state, events := [] }
  /-- The first challenge is answered or fails, and the others are not looked at. -/
  | stopped {challenge : Option String} {challenges : List (Option String)} {state : State}
      {calls : List (Call Conf)} {outcome : Outcome State (Option Handle)} :
      Handling dispatcher config challenge state calls outcome → outcome.result ≠ .ok none →
      Course dispatcher config (challenge :: challenges) state calls outcome
  /-- The first challenge gets no answer, and the others are handled in what that left. -/
  | passed {challenge : Option String} {challenges : List (Option String)}
      {state after : State} {calls later : List (Call Conf)} {events : List Event}
      {outcome : Outcome State (Option Handle)} :
      Handling dispatcher config challenge state calls
        { result := .ok none, state := after, events } →
      Course dispatcher config challenges after later outcome →
      Course dispatcher config (challenge :: challenges) state (calls ++ later)
        (outcome.after events)

theorem authorizeAny_cons_of_none {challenges : List (Option String)} {state : State}
    (ended : (dispatcher.authorize challenge config state).result = .ok none) :
    dispatcher.authorizeAny config (challenge :: challenges) state =
      (dispatcher.authorizeAny config challenges
        (dispatcher.authorize challenge config state).state).after
        (dispatcher.authorize challenge config state).events := by
  rw [authorizeAny, Action.bind_of_ok ended]

theorem authorizeAny_cons_of_ne {challenges : List (Option String)} {state : State}
    (ended : (dispatcher.authorize challenge config state).result ≠ .ok none) :
    dispatcher.authorizeAny config (challenge :: challenges) state =
      dispatcher.authorize challenge config state := by
  rw [authorizeAny]
  exact Action.bind_of_ne_none (fun _ => rfl) ended

/-- The challenges are handled in order, and that leads to the calls said. -/
theorem authorizeAny_course (dispatcher : Dispatcher State Conf) (config : Option Conf)
    (challenges : List (Option String)) (state : State) :
    ∃ calls,
      Course dispatcher config challenges state calls
        (dispatcher.authorizeAny config challenges state) ∧
      ∀ past, dispatcher.recorded.authorizeAny config challenges (state, past) =
        (dispatcher.authorizeAny config challenges state).beside (past ++ calls) := by
  induction challenges generalizing state with
  | nil => exact ⟨[], .finished state, fun past => by rw [List.append_nil]; rfl⟩
  | cons challenge challenges induction =>
      obtain ⟨calls, handling, called⟩ := authorize_handling dispatcher config challenge state
      by_cases ended : (dispatcher.authorize challenge config state).result = .ok none
      · obtain ⟨later, course, called_later⟩ :=
          induction (dispatcher.authorize challenge config state).state
        refine ⟨calls ++ later, ?_, fun past => ?_⟩
        · rw [authorizeAny_cons_of_none ended]
          exact .passed (by rw [← ended]; exact handling) course
        · have ended_recorded :
              (dispatcher.recorded.authorize challenge config (state, past)).result = .ok none := by
            rw [called]
            exact ended
          rw [authorizeAny_cons_of_none ended, authorizeAny_cons_of_none ended_recorded, called]
          simp only [Outcome.beside] at called_later ⊢
          rw [called_later, List.append_assoc]
          rfl
      · refine ⟨calls, ?_, fun past => ?_⟩
        · rw [authorizeAny_cons_of_ne ended]
          exact .stopped handling ended
        · have ended_recorded :
              (dispatcher.recorded.authorize challenge config (state, past)).result ≠ .ok none := by
            rw [called]
            exact ended
          rw [authorizeAny_cons_of_ne ended, authorizeAny_cons_of_ne ended_recorded, called]

/-- Challenges that are not all handled make no difference to the others by coming later. -/
theorem authorizeAny_append_of_ne {early : List (Option String)} {state : State}
    (ended : (dispatcher.authorizeAny config early state).result ≠ .ok none)
    (late : List (Option String)) :
    dispatcher.authorizeAny config (early ++ late) state =
      dispatcher.authorizeAny config early state := by
  induction early generalizing state with
  | nil => exact absurd rfl ended
  | cons challenge early induction =>
      by_cases first : (dispatcher.authorize challenge config state).result = .ok none
      · rw [authorizeAny_cons_of_none first] at ended
        rw [List.cons_append, authorizeAny_cons_of_none first, authorizeAny_cons_of_none first,
          induction ended]
      · rw [List.cons_append, authorizeAny_cons_of_ne first, authorizeAny_cons_of_ne first]

/-- After challenges that get no answer the others are handled in what those left. -/
theorem authorizeAny_append_of_none {early : List (Option String)} {state : State}
    (ended : (dispatcher.authorizeAny config early state).result = .ok none)
    (late : List (Option String)) :
    dispatcher.authorizeAny config (early ++ late) state =
      (dispatcher.authorizeAny config late
        (dispatcher.authorizeAny config early state).state).after
        (dispatcher.authorizeAny config early state).events := by
  induction early generalizing state with
  | nil => rfl
  | cons challenge early induction =>
      by_cases first : (dispatcher.authorize challenge config state).result = .ok none
      · rw [authorizeAny_cons_of_none first] at ended ⊢
        rw [List.cons_append, authorizeAny_cons_of_none first, induction ended,
          Outcome.after_after]
        rfl
      · rw [authorizeAny_cons_of_ne first] at ended
        exact absurd ended first

/-- Challenges for which dispatchers select the same schemes are handled alike by them. -/
theorem authorizeAny_congr {first second : Dispatcher State Conf}
    {challenges : List (Option String)}
    (same : ∀ challenge ∈ challenges, first.select challenge = second.select challenge) :
    first.authorizeAny config challenges = second.authorizeAny config challenges := by
  induction challenges with
  | nil => rfl
  | cons challenge challenges induction =>
      obtain ⟨head, tail⟩ := List.forall_mem_cons.mp same
      rw [authorizeAny, authorizeAny, authorize, authorize, head, induction tail]

/-! ## The law -/

/-- What can be relied on when a dispatcher is given challenges. -/
structure IsLawful (dispatcher : Dispatcher State Conf) (config : Option Conf) : Prop where
  /-- The challenges are handled in order until one is answered or fails, and no other calls are
  made than those that belong to this. -/
  course : ∀ challenges state, ∃ calls,
    Course dispatcher config challenges state calls
      (dispatcher.authorizeAny config challenges state) ∧
    ∀ past, dispatcher.recorded.authorizeAny config challenges (state, past) =
      (dispatcher.authorizeAny config challenges state).beside (past ++ calls)
  /-- Challenges after an answer or a failure do not matter. -/
  stops : ∀ early late state, (dispatcher.authorizeAny config early state).result ≠ .ok none →
    dispatcher.authorizeAny config (early ++ late) state =
      dispatcher.authorizeAny config early state
  /-- Challenges after others that get no answer are handled in what those left. -/
  goesOn : ∀ early late state, (dispatcher.authorizeAny config early state).result = .ok none →
    dispatcher.authorizeAny config (early ++ late) state =
      (dispatcher.authorizeAny config late
        (dispatcher.authorizeAny config early state).state).after
        (dispatcher.authorizeAny config early state).events
  /-- Schemes that are registered later change nothing about challenges that were accepted before,
  nor about the calls that these lead to. -/
  grows : ∀ (more : Dispatcher State Conf) (challenges : List (Option String)),
    (∀ challenge ∈ challenges, ∃ scheme ∈ dispatcher, scheme.accepts challenge) →
    Dispatcher.authorizeAny (dispatcher ++ more) config challenges =
        dispatcher.authorizeAny config challenges ∧
      Dispatcher.authorizeAny (Dispatcher.recorded (dispatcher ++ more)) config challenges =
        dispatcher.recorded.authorizeAny config challenges

theorem isLawful (dispatcher : Dispatcher State Conf) (config : Option Conf) :
    dispatcher.IsLawful config where
  course := authorizeAny_course dispatcher config
  stops _ late _ ended := authorizeAny_append_of_ne ended late
  goesOn _ late _ ended := authorizeAny_append_of_none ended late
  grows more _ accepted :=
    ⟨authorizeAny_congr fun challenge isMember =>
      select_append_of_accepted (accepted challenge isMember) more,
    authorizeAny_congr fun challenge isMember =>
      select_recorded_append_of_accepted (accepted challenge isMember) more⟩

end Dispatcher

namespace Client

variable {World : Type}

/-- Gives a dispatcher more schemes, in order. -/
def registerAll (number : Nat) : List (Member World) → Action (Client World) Unit
  | [] => pure ()
  | member :: members => do
      register number member
      registerAll number members

/-- Schemes that are registered come after the schemes that a dispatcher has. -/
theorem register_dispatcher (client : Client World) (number : Nat) (members : List (Member World)) :
    ∃ grown, registerAll number members client =
        { result := .ok (), state := grown, events := [] } ∧
      grown.dispatcher number = client.dispatcher number ++ members.map client.scheme := by
  induction members generalizing client with
  | nil => exact ⟨client, rfl, by simp⟩
  | cons member members induction =>
      obtain ⟨grown, registered, dispatched⟩ := induction (register number member client).state
      refine ⟨grown, ?_, ?_⟩
      · have first : (register number member client).result = .ok () := rfl
        rw [registerAll, Action.bind_of_ok first, registered]
        rfl
      · have unchanged : (register number member client).state.scheme = client.scheme := by
          funext other
          cases other <;> rfl
        rw [dispatched, unchanged, dispatcher, unchanged]
        simp [register, dispatcher]

/-- The law of dispatch, which holds of all dispatchers, and what registering schemes makes of the
dispatchers that there are. -/
theorem dispatch_isLawful :
    (∀ {State Conf : Type} (dispatcher : Dispatcher State Conf) (config : Option Conf),
      dispatcher.IsLawful config) ∧
    ∀ {World : Type} (client : Client World) (number : Nat) (members : List (Member World)),
      ∃ grown, registerAll number members client =
          { result := .ok (), state := grown, events := [] } ∧
        grown.dispatcher number = client.dispatcher number ++ members.map client.scheme :=
  ⟨fun dispatcher config => dispatcher.isLawful config, register_dispatcher⟩

end Client
end Countersign
