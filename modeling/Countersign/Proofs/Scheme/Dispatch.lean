import Countersign.Proofs.Action
import Countersign.Scheme.Basic

/-!
# Dispatch with settled answers

Where the answer to every single challenge is settled, whatever came before, so is the answer to
several: it is the first one that is not the absence of an answer.
-/

namespace Countersign

namespace Action

variable {State Value Result : Type} {holds : State → Prop}

/-- Whether an action started in a state of a kind ends with a result in a state of that kind. -/
structure Yields (holds : State → Prop) (action : Action State Value)
    (result : Except Failure Value) : Prop where
  result : ∀ state, holds state → (action state).result = result
  keeps : ∀ state, holds state → holds (action state).state

theorem Yields.pure (value : Value) : Yields holds (pure value) (.ok value) :=
  { result := fun _ _ => rfl, keeps := fun _ held => held }

theorem Yields.note (notice : Notice) : Yields holds (note notice) (.ok ()) :=
  { result := fun _ _ => rfl, keeps := fun _ held => held }

theorem Yields.bind {action : Action State Value} {value : Value}
    {next : Value → Action State Result} {result : Except Failure Result}
    (first : Yields holds action (.ok value)) (rest : Yields holds (next value) result) :
    Yields holds (action >>= next) result where
  result state held := by
    rw [bind_of_ok (first.result state held)]
    exact rest.result _ (first.keeps state held)
  keeps state held := by
    rw [bind_of_ok (first.result state held)]
    exact rest.keeps _ (first.keeps state held)

theorem Yields.bind_error {action : Action State Value} {failure : Failure}
    (first : Yields holds action (.error failure)) (next : Value → Action State Result) :
    Yields holds (action >>= next) (.error failure) where
  result state held := by rw [bind_of_error (first.result state held)]
  keeps state held := by
    rw [bind_of_error (first.result state held)]
    exact first.keeps state held

end Action

namespace Dispatcher

variable {State Conf : Type} {holds : State → Prop} {dispatcher : Dispatcher State Conf}
  {config : Option Conf}

theorem authorize_yields_none {challenge : Option String}
    (unselected : dispatcher.select challenge = none) :
    Action.Yields holds (dispatcher.authorize challenge config) (.ok none) := by
  simp only [authorize, unselected]
  exact .bind (.note _) (.pure none)

theorem authorize_yields {challenge : Option String} {scheme : Scheme State Conf}
    {answer : Except Failure (Option Handle)}
    (selected : dispatcher.select challenge = some scheme)
    (resolves : Action.Yields holds (scheme.resolve challenge config) answer) :
    Action.Yields holds (dispatcher.authorize challenge config) answer := by
  simp only [authorize, selected]
  rcases answer with failure | _ | handle
  · exact resolves.bind_error _
  · exact resolves.bind (.bind (.note _) (.pure none))
  · exact resolves.bind (.bind (.note _) (.pure (some handle)))

/-- Among the answers to several challenges the first that is not an absence. -/
def firstAnswer (answer : Option String → Except Failure (Option Handle)) :
    List (Option String) → Except Failure (Option Handle)
  | [] => .ok none
  | challenge :: challenges =>
      match answer challenge with
      | .ok none => firstAnswer answer challenges
      | .ok (some handle) => .ok (some handle)
      | .error failure => .error failure

/-- The first answer that is a handle answers one of the challenges. -/
theorem exists_of_firstAnswer {answer : Option String → Except Failure (Option Handle)}
    {challenges : List (Option String)} {handle : Handle}
    (answers : firstAnswer answer challenges = .ok (some handle)) :
    ∃ challenge ∈ challenges, answer challenge = .ok (some handle) := by
  induction challenges with
  | nil => cases answers
  | cons challenge challenges induction =>
      rw [firstAnswer] at answers
      split at answers
      · obtain ⟨other, isMember, answered⟩ := induction answers
        exact ⟨other, .tail _ isMember, answered⟩
      · cases answers
        exact ⟨challenge, .head _, ‹_›⟩
      · cases answers

/-- Among several challenges the first that has an answer, or that cannot be answered, counts. -/
theorem authorizeAny_yields {answer : Option String → Except Failure (Option Handle)}
    (authorizes : ∀ challenge,
      Action.Yields holds (dispatcher.authorize challenge config) (answer challenge))
    (challenges : List (Option String)) :
    Action.Yields holds (dispatcher.authorizeAny config challenges)
      (firstAnswer answer challenges) := by
  induction challenges with
  | nil => exact .pure none
  | cons challenge challenges induction =>
      have first := authorizes challenge
      rw [firstAnswer]
      rcases answered : answer challenge with failure | _ | handle
      · rw [answered] at first
        exact first.bind_error _
      · rw [answered] at first
        exact first.bind induction
      · rw [answered] at first
        exact first.bind (.pure (some handle))

end Dispatcher
end Countersign
