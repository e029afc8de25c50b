import Countersign.Proofs.Action
import Countersign.Scheme.Basic

/-!
# Actions side by side

Two actions agree if, started in related states, they end in related states, with related values or
the same failure, and nothing that could be observed tells them apart.  A sequence agrees with
another if their parts do, and so does the dispatch of challenges among schemes that agree.
-/

namespace Countersign

variable {State Part Value Result : Type}

/-- Whether two results are the same failure or related values. -/
inductive EndsAlike (values : Value → Value → Prop) :
    Except Failure Value → Except Failure Value → Prop
  | ok {left right : Value} : values left right → EndsAlike values (.ok left) (.ok right)
  | error (failure : Failure) : EndsAlike values (.error failure) (.error failure)

theorem EndsAlike.imp {values others : Value → Value → Prop} {left right : Except Failure Value}
    (alike : EndsAlike values left right) (weaker : ∀ value other, values value other →
      others value other) : EndsAlike others left right := by
  cases alike with
  | ok related => exact .ok (weaker _ _ related)
  | error failure => exact .error failure

theorem EndsAlike.refl {values : Value → Value → Prop} (same : ∀ value, values value value)
    (result : Except Failure Value) : EndsAlike values result result := by
  cases result with
  | ok value => exact .ok (same value)
  | error failure => exact .error failure

theorem EndsAlike.eq {left right : Except Failure Value} (alike : EndsAlike Eq left right) :
    left = right := by
  cases alike with
  | ok same => rw [same]
  | error failure => rfl

/-- Whether two outcomes agree, with values related in the states that they came with. -/
structure Outcome.Agree (states : State → State → Prop)
    (values : State → State → Value → Value → Prop) (left right : Outcome State Value) : Prop where
  events : left.events = right.events
  state : states left.state right.state
  result : EndsAlike (values left.state right.state) left.result right.result

/-- Outcomes that the same events came before agree if they did. -/
theorem Outcome.Agree.after {states : State → State → Prop}
    {values : State → State → Value → Value → Prop} {left right : Outcome State Value}
    (agree : left.Agree states values right) {early late : List Event} (same : early = late) :
    (left.after early).Agree states values (right.after late) :=
  { agree with events := by simp [Outcome.after, same, agree.events] }

namespace Action

/-- Whether two actions agree wherever they start in related states. -/
def Agree (states : State → State → Prop) (values : State → State → Value → Value → Prop)
    (left right : Action State Value) : Prop :=
  ∀ before other, states before other → (left before).Agree states values (right other)

variable {states : State → State → Prop} {values : State → State → Value → Value → Prop}
  {left right : Action State Value}

theorem Agree.pure {value other : Value}
    (related : ∀ before also, states before also → values before also value other) :
    Agree states values (pure value) (pure other) :=
  fun before also held => { events := rfl, state := held, result := .ok (related before also held) }

theorem Agree.current :
    Agree states (fun before also value other => value = before ∧ other = also)
      (current : Action State State) current :=
  fun _ _ held => { events := rfl, state := held, result := .ok ⟨rfl, rfl⟩ }

theorem Agree.ofResult {result other : Except Failure Value}
    (related : ∀ before also, states before also → EndsAlike (values before also) result other) :
    Agree states values (ofResult result : Action State Value) (ofResult other) :=
  fun before also held => { events := rfl, state := held, result := related before also held }

theorem Agree.emit (event : Event) : Agree states (fun _ _ _ _ => True) (emit event) (emit event) :=
  fun _ _ held => { events := rfl, state := held, result := .ok trivial }

theorem Agree.note (notice : Notice) :
    Agree states (fun _ _ _ _ => True) (note notice) (note notice) :=
  .emit (.noted notice)

theorem Agree.change {update change : State → State}
    (keeps : ∀ before other, states before other → states (update before) (change other)) :
    Agree states (fun _ _ _ _ => True) (Action.change update) (Action.change change) :=
  fun before other held =>
    { events := rfl, state := keeps before other held, result := .ok trivial }

/-- Sequences agree if their first parts do, and whatever follows related values. -/
theorem Agree.bind {next follow : Value → Action State Result}
    {results : State → State → Result → Result → Prop} (first : Agree states values left right)
    (rest : ∀ value other before also, states before also → values before also value other →
      (next value before).Agree states results (follow other also)) :
    Agree states results (left >>= next) (right >>= follow) := by
  intro before also held
  have agree := first before also held
  have ends := agree.result
  generalize ended : (left before).result = result at ends
  generalize ended' : (right also).result = other at ends
  cases ends with
  | error failure =>
      rw [bind_of_error ended, bind_of_error ended']
      exact { events := agree.events, state := agree.state, result := .error failure }
  | ok related =>
      rw [bind_of_ok ended, bind_of_ok ended']
      exact (rest _ _ _ _ agree.state related).after agree.events

/-- Agreement on something is agreement on what is made of it. -/
theorem Agree.map {make also : Value → Result} {results : State → State → Result → Result → Prop}
    (agree : Agree states values left right)
    (related : ∀ before other value answer, values before other value answer →
      results before other (make value) (also answer)) :
    Agree states results (left >>= fun value => Pure.pure (make value))
      (right >>= fun value => Pure.pure (also value)) :=
  agree.bind fun _ _ _ _ held same =>
    { events := rfl, state := held, result := .ok (related _ _ _ _ same) }

theorem Agree.imp {others : State → State → Value → Value → Prop}
    (agree : Agree states values left right)
    (weaker : ∀ before also value other, values before also value other →
      others before also value other) : Agree states others left right :=
  fun before also held =>
    { agree before also held with
      result := (agree before also held).result.imp (weaker _ _) }

/-- What follows a line that both sides log. -/
theorem Agree.note_bind (notice : Notice) {next follow : Action State Result}
    {results : State → State → Result → Result → Prop} (rest : Agree states results next follow) :
    Agree states results (Action.note notice >>= fun _ => next)
      (Action.note notice >>= fun _ => follow) :=
  (Agree.note notice).bind fun _ _ before also held _ => rest before also held

theorem Agree.attempt (agree : Agree states values left right) :
    Agree states (fun before also => EndsAlike (values before also)) left.attempt right.attempt :=
  fun before also held =>
    { agree before also held with result := .ok (agree before also held).result }

/-- Actions on parts agree where the parts of related states are related, and come out related. -/
theorem Agree.within {wholes : Part → Part → Prop} {view : Part → State}
    {update : Part → State → Part} (agree : Agree states values left right)
    {results : Part → Part → Value → Value → Prop}
    (parts : ∀ before also, wholes before also → states (view before) (view also))
    (keeps : ∀ before also part other, wholes before also → states part other →
      wholes (update before part) (update also other))
    (related : ∀ before also part other value answer, values part other value answer →
      results (update before part) (update also other) value answer) :
    Agree wholes results (left.within view update) (right.within view update) := by
  intro before also held
  have agreed := agree _ _ (parts before also held)
  exact
    { events := agreed.events
      state := keeps _ _ _ _ held agreed.state
      result := agreed.result.imp fun _ _ => related _ _ _ _ _ _ }

end Action

namespace Config

open Countersign.Action (Agree)

variable {states : State → State → Prop} {answers : Option RawText → Option RawText → Prop}
  {key : String}

theorem ask_agree {config other : Config State}
    (agree : Agree states (fun _ _ => answers) (config key) (other key)) :
    Agree states (fun _ _ => answers) (config.ask key) (other.ask key) :=
  (Agree.emit (.asked key)).bind fun _ _ before also held _ => agree before also held

/-- Chains of configurations agree if their members do, and on whether there is a value. -/
theorem first_agree {members : List Nat} {left right : Nat → Config State}
    (nothing : answers none none)
    (both : ∀ answer other, answers answer other → (answer = none ↔ other = none))
    (agree : ∀ member ∈ members,
      Agree states (fun _ _ => answers) (left member key) (right member key)) :
    Agree states (fun _ _ => answers) (first (members.map left) key)
      (first (members.map right) key) := by
  induction members with
  | nil => exact .pure fun _ _ _ => nothing
  | cons member members induction =>
      refine (agree member (.head _)).bind fun answer other before also held related => ?_
      have alike := both answer other related
      cases answer with
      | none =>
          obtain rfl := alike.mp rfl
          exact induction (fun later isMember => agree later (.tail _ isMember)) before also held
      | some value =>
          cases other with
          | none => cases alike.mpr rfl
          | some value => exact { events := rfl, state := held, result := .ok related }

end Config

namespace Dispatcher

open Countersign.Action (Agree)

variable {Conf : Type} {states : State → State → Prop}
  {handles : State → State → Handle → Handle → Prop} {dispatcher : Dispatcher State Conf}
  {config : Option Conf}

/-- The same challenge is dispatched alike if the schemes agree on it, and what they hand over is
for the same realm. -/
theorem authorize_agree
    (realms : ∀ before also handle other, handles before also handle other →
      handle.realm = other.realm)
    (resolves : ∀ scheme ∈ dispatcher, ∀ challenge,
      Agree states (fun before also => Option.Rel (handles before also))
        (scheme.resolve challenge config) (scheme.resolve challenge config))
    (challenge : Option String) :
    Agree states (fun before also => Option.Rel (handles before also))
      (dispatcher.authorize challenge config) (dispatcher.authorize challenge config) := by
  unfold authorize
  cases selected : dispatcher.select challenge with
  | none => exact .note_bind _ (.pure fun _ _ _ => .none)
  | some scheme =>
      refine (resolves scheme (List.mem_of_find?_eq_some selected) challenge).bind ?_
      intro answer other before also held related
      cases related with
      | none => exact Agree.note_bind _ (.pure fun _ _ _ => .none) before also held
      | some same =>
          -- the realm is all of the handle that is logged
          dsimp only
          rw [realms before also _ _ same]
          exact { events := rfl, state := held, result := .ok (.some same) }

theorem authorizeAny_agree
    (realms : ∀ before also handle other, handles before also handle other →
      handle.realm = other.realm)
    (resolves : ∀ scheme ∈ dispatcher, ∀ challenge,
      Agree states (fun before also => Option.Rel (handles before also))
        (scheme.resolve challenge config) (scheme.resolve challenge config))
    (challenges : List (Option String)) :
    Agree states (fun before also => Option.Rel (handles before also))
      (dispatcher.authorizeAny config challenges) (dispatcher.authorizeAny config challenges) := by
  induction challenges with
  | nil => exact .pure fun _ _ _ => .none
  | cons challenge challenges induction =>
      refine (authorize_agree realms resolves challenge).bind ?_
      intro answer other before also held related
      cases related with
      | none => exact induction before also held
      | some same => exact { events := rfl, state := held, result := .ok (.some same) }

end Dispatcher
end Countersign
