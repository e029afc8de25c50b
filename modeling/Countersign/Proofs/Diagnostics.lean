import Countersign.Proofs.Scheme.Course
import Countersign.Proofs.Text.Quoted

/-!
# What messages tell

A challenge that cannot be read is quoted in the failure, and one that no scheme accepts in the line
that is logged.  As quoting loses nothing, both messages tell which challenge they are about.
-/

namespace Countersign

/-- The lines that an action has logged. -/
def Outcome.lines {State Value : Type} (outcome : Outcome State Value) : List String :=
  (Event.notices outcome.events).map Notice.text

namespace Challenge

/-- Why a challenge cannot be read, unless it is empty, is that it is no Basic challenge. -/
theorem eq_notBasic_of_parse {challenge : String} {failure : Failure} (nonempty : challenge ≠ "")
    (refused : parse (some challenge) = .error failure) : failure = .notBasic challenge := by
  simp only [parse, nonempty, if_false] at refused
  split at refused
  · cases refused
  · exact (Except.error.inj refused).symm

/-- The message about a challenge that cannot be read ends with the challenge in quotes. -/
theorem message_of_parse {challenge : String} {failure : Failure} (nonempty : challenge ≠ "")
    (refused : parse (some challenge) = .error failure) :
    failure.message = "Not a Basic challenge: " ++ Text.quoted challenge := by
  rw [eq_notBasic_of_parse nonempty refused]
  rfl

end Challenge

/-- The line about a challenge that no scheme accepts ends with the challenge in quotes. -/
theorem Dispatcher.lines_authorize {State Conf : Type} {dispatcher : Dispatcher State Conf}
    {challenge : Option String} (refused : ∀ scheme ∈ dispatcher, scheme.accepts challenge = false)
    (config : Option Conf) (state : State) :
    (dispatcher.authorize challenge config state).lines =
      ["No authentication scheme matches challenge " ++ Text.quotedOrNone challenge] := by
  rw [authorize_of_none (select_eq_none_iff.mpr refused)]
  rfl

/-- A challenge is read back from its quotes whatever comes after them, and that there is none is
read back from the word for it.  So the messages about two challenges that cannot be read are the
same only if the challenges are, and so are the lines about two that no scheme accepts. -/
theorem messages_identify :
    (∀ challenge rest, Text.readQuotedOrNone? ((Text.quotedOrNone challenge).toList ++ rest) =
      some (challenge, rest)) ∧
    (∀ left right : String, left ≠ "" → right ≠ "" → ∀ failure other,
      Challenge.parse (some left) = .error failure → Challenge.parse (some right) = .error other →
      failure.message = "Not a Basic challenge: " ++ Text.quoted left ∧
        (failure.message = other.message ↔ left = right)) ∧
    ∀ {State Conf : Type} (dispatcher : Dispatcher State Conf) (left right : Option String),
      (∀ scheme ∈ dispatcher, scheme.accepts left = false) →
      (∀ scheme ∈ dispatcher, scheme.accepts right = false) →
      ∀ config state settings later,
        (dispatcher.authorize left config state).lines =
            ["No authentication scheme matches challenge " ++ Text.quotedOrNone left] ∧
          ((dispatcher.authorize left config state).lines =
            (dispatcher.authorize right settings later).lines ↔ left = right) := by
  refine ⟨Text.readQuotedOrNone?_quotedOrNone, ?_, ?_⟩
  · intro left right left_nonempty right_nonempty failure other left_refused right_refused
    refine ⟨Challenge.message_of_parse left_nonempty left_refused, ?_⟩
    rw [Challenge.message_of_parse left_nonempty left_refused,
      Challenge.message_of_parse right_nonempty right_refused, String.append_right_inj,
      Text.quoted_inj]
  · intro State Conf dispatcher left right left_refused right_refused config state settings later
    refine ⟨Dispatcher.lines_authorize left_refused config state, ?_⟩
    rw [Dispatcher.lines_authorize left_refused, Dispatcher.lines_authorize right_refused,
      List.singleton_inj, String.append_right_inj, Text.quotedOrNone_inj]

/-- A dispatcher with a resolver and nothing else. -/
def Dispatcher.basicAlone : Dispatcher (Vaults Unit) (Config Unit) :=
  [Resolver.scheme { cache := 0, config := none }]

/-- A line break is not taken for the letters of its escape, nor an absent challenge for the word
that stands for it. -/
theorem messages_identify_lookalikes :
    Challenge.parse (some "\n") = .error (.notBasic "\n") ∧
      Challenge.parse (some "\\n") = .error (.notBasic "\\n") ∧
      (Failure.notBasic "\n").message ≠ (Failure.notBasic "\\n").message ∧
      (Dispatcher.basicAlone.authorize none none (Client.start ()).vaults).lines ≠
        (Dispatcher.basicAlone.authorize (some "None") none (Client.start ()).vaults).lines := by
  obtain ⟨-, failures, lines⟩ := messages_identify
  have line_break : Challenge.parse (some "\n") = .error (.notBasic "\n") := rfl
  have letters : Challenge.parse (some "\\n") = .error (.notBasic "\\n") := rfl
  have absent : ∀ scheme ∈ Dispatcher.basicAlone, scheme.accepts none = false :=
    List.forall_mem_singleton.mpr rfl
  have word : ∀ scheme ∈ Dispatcher.basicAlone, scheme.accepts (some "None") = false :=
    List.forall_mem_singleton.mpr (by decide +kernel)
  refine ⟨line_break, letters, fun same => ?_, fun same => ?_⟩
  · obtain ⟨-, identified⟩ :=
      failures "\n" "\\n" (by decide) (by decide) _ _ line_break letters
    exact absurd (identified.mp same) (by decide)
  · obtain ⟨-, identified⟩ := lines _ none (some "None") absent word none _ none _
    cases identified.mp same

end Countersign
