import Countersign.Proofs.Action
import Countersign.Scheme.Basic

/-!
# What actions keep, show and give

An action keeps a condition on the state if it holds at the end whenever it held at the start, also
where the action fails.  On such a start the observed events may be limited to some, and so may the
value.  A sequence is dealt with part by part, and so is the dispatch of challenges.
-/

namespace Countersign

variable {State Part Value Result : Type}

/-- Whether an outcome meets a condition on the state, shows certain events at most, and gives a
value of a certain kind if a value at all. -/
structure Outcome.Meets (holds : State → Prop) (shows : Event → Prop) (gives : Value → Prop)
    (outcome : Outcome State Value) : Prop where
  state : holds outcome.state
  events : ∀ event ∈ outcome.events, shows event
  value : ∀ value, outcome.result = .ok value → gives value

namespace Action

/-- Whether an action that starts where a condition holds has an outcome that meets it. -/
def Keeps (holds : State → Prop) (shows : Event → Prop) (gives : Value → Prop)
    (action : Action State Value) : Prop :=
  ∀ state, holds state → (action state).Meets holds shows gives

variable {holds : State → Prop} {shows : Event → Prop} {gives : Value → Prop}
  {action : Action State Value}

theorem Keeps.pure {value : Value} (given : gives value) :
    Keeps holds shows gives (pure value) :=
  fun _ held =>
    { state := held
      events := fun _ observed => absurd observed List.not_mem_nil
      value := by
        rintro _ ⟨⟩
        exact given }

theorem Keeps.fail (failure : Failure) :
    Keeps holds shows gives (fail failure : Action State Value) :=
  fun _ held =>
    { state := held
      events := fun _ observed => absurd observed List.not_mem_nil
      value := nofun }

theorem Keeps.ofResult {result : Except Failure Value}
    (given : ∀ value, result = .ok value → gives value) :
    Keeps holds shows gives (ofResult result : Action State Value) :=
  fun _ held =>
    { state := held
      events := fun _ observed => absurd observed List.not_mem_nil
      value := given }

theorem Keeps.emit {event : Event} (shown : shows event) :
    Keeps holds shows (fun _ => True) (emit event) :=
  fun _ held =>
    { state := held
      events := fun _ observed => by rwa [List.mem_singleton.mp observed]
      value := fun _ _ => trivial }

theorem Keeps.note {notice : Notice} (shown : shows (.noted notice)) :
    Keeps holds shows (fun _ => True) (note notice) :=
  .emit shown

/-- The current state meets the condition. -/
theorem Keeps.current : Keeps holds shows holds (current : Action State State) :=
  fun _ held =>
    { state := held
      events := fun _ observed => absurd observed List.not_mem_nil
      value := by
        rintro _ ⟨⟩
        exact held }

theorem Keeps.change {update : State → State}
    (keeps : ∀ state, holds state → holds (update state)) :
    Keeps holds shows (fun _ => True) (change update) :=
  fun state held =>
    { state := keeps state held
      events := fun _ observed => absurd observed List.not_mem_nil
      value := fun _ _ => trivial }

/-- A sequence keeps what its parts keep, the second part after a value that the first may give. -/
theorem Keeps.bind {next : Value → Action State Result} {results : Result → Prop}
    (first : action.Keeps holds shows gives)
    (rest : ∀ value, gives value → (next value).Keeps holds shows results) :
    (action >>= next).Keeps holds shows results := by
  intro state held
  have early := first state held
  cases ended : (action state).result with
  | error failure =>
      rw [bind_of_error ended]
      exact { state := early.state, events := early.events, value := nofun }
  | ok value =>
      have late := rest value (early.value value ended) _ early.state
      rw [bind_of_ok ended]
      refine { state := late.state, events := fun event observed => ?_, value := late.value }
      rcases List.mem_append.mp observed with before | after
      · exact early.events event before
      · exact late.events event after

theorem Keeps.imp {others : Value → Prop} (keeps : action.Keeps holds shows gives)
    (weaker : ∀ value, gives value → others value) : action.Keeps holds shows others :=
  fun state held =>
    { keeps state held with
      value := fun value ended => weaker value ((keeps state held).value value ended) }

/-- An action on a part keeps a condition on the whole if it keeps one on the part. -/
theorem Keeps.within {wholes : Part → Prop} {view : Part → State} {update : Part → State → Part}
    (keeps : action.Keeps holds shows gives)
    (viewed : ∀ whole, wholes whole → holds (view whole))
    (updated : ∀ whole part, wholes whole → holds part → wholes (update whole part)) :
    (action.within view update).Keeps wholes shows gives :=
  fun whole held =>
    { keeps _ (viewed whole held) with
      state := updated _ _ held (keeps _ (viewed whole held)).state }

theorem Keeps.attempt (keeps : action.Keeps holds shows gives) :
    action.attempt.Keeps holds shows fun _ => True :=
  fun state held => { keeps state held with value := fun _ _ => trivial }

/-- What follows a line that may be logged. -/
theorem Keeps.note_bind {notice : Notice} (shown : shows (.noted notice))
    (rest : action.Keeps holds shows gives) :
    (Action.note notice >>= fun _ => action).Keeps holds shows gives :=
  (Keeps.note shown).bind fun _ _ => rest

end Action

/-- A chain of configurations keeps what its members keep, and gives nothing or what one of them
gives. -/
theorem Config.first_keeps {holds : State → Prop} {shows : Event → Prop}
    {gives : Option RawText → Prop} {configs : List (Config State)} {key : String}
    (nothing : gives none)
    (keeps : ∀ config ∈ configs, (config key).Keeps holds shows gives) :
    (first configs key).Keeps holds shows gives := by
  induction configs with
  | nil => exact .pure nothing
  | cons config configs induction =>
      refine (keeps config (.head _)).bind fun answer given => ?_
      cases answer with
      | none => exact induction fun other isConfig => keeps other (.tail _ isConfig)
      | some value => exact .pure given

namespace Dispatcher

open Countersign.Action (Keeps)

variable {Conf : Type} {holds : State → Prop} {shows : Event → Prop}
  {good : Option String → Handle → Prop} {dispatcher : Dispatcher State Conf}
  {config : Option Conf}

/-- Whether the lines that a dispatcher logs may be observed, given that its schemes answer
challenges with good handles only. -/
structure Reports (dispatcher : Dispatcher State Conf) (shows : Event → Prop)
    (good : Option String → Handle → Prop) : Prop where
  unmatched : ∀ challenge, shows (.noted (.unmatched challenge))
  withheld : ∀ scheme ∈ dispatcher, ∀ challenge, shows (.noted (.withheld scheme.name challenge))
  provided : ∀ scheme ∈ dispatcher, ∀ challenge handle, good challenge handle →
    shows (.noted (.provided scheme.name handle.realm))

/-- A challenge is dispatched to a good handle, if to any, where all schemes give none but these. -/
theorem authorize_keeps (reports : dispatcher.Reports shows good)
    (resolves : ∀ scheme ∈ dispatcher, ∀ challenge,
      (scheme.resolve challenge config).Keeps holds shows
        fun answer => ∀ handle ∈ answer, good challenge handle)
    (challenge : Option String) :
    (dispatcher.authorize challenge config).Keeps holds shows
      fun answer => ∀ handle ∈ answer, good challenge handle := by
  unfold authorize
  cases selected : dispatcher.select challenge with
  | none => exact .note_bind (reports.unmatched challenge) (.pure nofun)
  | some scheme =>
      have isScheme : scheme ∈ dispatcher := List.mem_of_find?_eq_some selected
      refine (resolves scheme isScheme challenge).bind fun answer given => ?_
      cases answer with
      | none => exact .note_bind (reports.withheld scheme isScheme challenge) (.pure nofun)
      | some handle =>
          exact .note_bind (reports.provided scheme isScheme challenge handle (given handle rfl))
            (.pure given)

/-- Several challenges are dispatched to a handle that is good for one of them, if to any. -/
theorem authorizeAny_keeps (reports : dispatcher.Reports shows good)
    (resolves : ∀ scheme ∈ dispatcher, ∀ challenge,
      (scheme.resolve challenge config).Keeps holds shows
        fun answer => ∀ handle ∈ answer, good challenge handle)
    (challenges : List (Option String)) :
    (dispatcher.authorizeAny config challenges).Keeps holds shows
      fun answer => ∀ handle ∈ answer, ∃ challenge ∈ challenges, good challenge handle := by
  induction challenges with
  | nil => exact .pure nofun
  | cons challenge challenges induction =>
      refine (authorize_keeps reports resolves challenge).bind fun answer given => ?_
      cases answer with
      | none =>
          refine induction.imp fun answer later handle isAnswer => ?_
          obtain ⟨other, isMember, isGood⟩ := later handle isAnswer
          exact ⟨other, .tail _ isMember, isGood⟩
      | some handle =>
          exact .pure fun other isAnswer => ⟨challenge, .head _, given other isAnswer⟩

/-- What answers several challenges answers one of them, after those before it got no answer. -/
theorem exists_of_authorizeAny {challenges : List (Option String)} {state : State}
    {handle : Handle}
    (answered : (dispatcher.authorizeAny config challenges state).result = .ok (some handle)) :
    ∃ early challenge late, challenges = early ++ challenge :: late ∧
      (dispatcher.authorizeAny config early state).result = .ok none ∧
      (dispatcher.authorize challenge config
        (dispatcher.authorizeAny config early state).state).result = .ok (some handle) := by
  induction challenges generalizing state with
  | nil => cases answered
  | cons challenge challenges induction =>
      rw [authorizeAny] at answered
      rcases ended : (dispatcher.authorize challenge config state).result with
        failure | _ | first
      · rw [Action.bind_of_error ended] at answered
        cases answered
      · rw [Action.bind_of_ok ended] at answered
        obtain ⟨early, other, late, rfl, unanswered, last⟩ := induction answered
        refine ⟨challenge :: early, other, late, rfl, ?_, ?_⟩
        · rw [authorizeAny, Action.bind_of_ok ended]
          exact unanswered
        · rw [authorizeAny, Action.bind_of_ok ended]
          exact last
      · rw [Action.bind_of_ok ended] at answered
        cases answered
        exact ⟨[], challenge, challenges, rfl, rfl, ended⟩

end Dispatcher
end Countersign
