import Countersign.Proofs.Transport.Answering

/-!
# What an exchange leaves open

When an exchange ends, every answer that came in has been closed but the one that is returned,
unless asking the schemes fails or the first answer cannot be closed: then that answer stays open
although nothing is returned.
-/

namespace Countersign

/-- What has been answered among events and is not closed. -/
def Event.unclosed (events : List Event) : List Attempt :=
  ((Event.answers events).map (·.1)).filter (· ∉ Event.closings events)

namespace Exchange

variable {Conf State : Type} {schemes : Schemes Conf State} {wire : Wire}
  {scene : Scene Conf State} {request : Request} {account : Account Conf State}

/-- Whether an exchange fails while the schemes are asked, or while the first answer is closed in
favour of what they offered. -/
def Abandons (schemes : Schemes Conf State) (wire : Wire) (scene : Scene Conf State)
    (request : Request) (own : List Event) (failure : Failure) : Prop :=
  (∃ challenges ∈ Event.consultations own,
      (schemes challenges scene.1.config scene.2).result = .error failure) ∨
    (wire.unclosable = some failure ∧ ∃ handle, Offers schemes scene request own handle)

attribute [local simp] Account.own Event.answers Event.consultations Event.closings Event.unclosed
  Offers Abandons challenge filterMap_opening

/-- What is returned is open, and nothing else is. -/
theorem Performed.unclosed_of_ok (performed : Performed schemes wire scene request account)
    {response : Response} (returns : account.result = .ok response) :
    ∃ attempt, (attempt, response) ∈ Event.answers account.own ∧
      Event.unclosed account.own = [attempt] := by
  cases performed with
  | unpassed | unprepared | unread | unanswered | broken => cases returns
  | passed | settled | unhelped | repeated =>
      cases returns
      exact ⟨.first, by simp⟩
  | resent _ _ _ _ _ _ _ _ resent =>
      cases resent with
      | unclosable | unsendable | unanswered => cases returns
      | rejected | accepted =>
          cases returns
          exact ⟨.second, by simp⟩

/-- An exchange that fails leaves the first answer open, or nothing. -/
theorem Performed.unclosed_of_error (performed : Performed schemes wire scene request account)
    {failure : Failure} (fails : account.result = .error failure) :
    (Event.unclosed account.own = [.first] ∧
        Abandons schemes wire scene request account.own failure) ∨
      (Event.unclosed account.own = [] ∧
        ¬Abandons schemes wire scene request account.own failure) := by
  cases performed with
  | passed | settled | unhelped | repeated => cases fails
  | unpassed | unprepared | unread | unanswered =>
      right
      simp
  | broken _ _ _ _ _ consulted =>
      cases fails
      left
      simp [consulted]
  | resent _ _ _ _ _ _ consulted different resent =>
      cases resent with
      | unclosable _ closes =>
          cases fails
          left
          simp [consulted, different, closes]
      | unsendable _ closes | unanswered _ closes =>
          right
          simp [consulted, closes]
      | rejected | accepted => cases fails

/-- Why an exchange failed, if it has. -/
def failure? (exchange : Exchange) : Option Failure :=
  match exchange.stage with
  | .finished (.error failure) => some failure
  | _ => none

/-- The outcome of a request that is challenged, with schemes that fail. -/
def abandoned : Outcome (Scene Unit Unit) Exchange :=
  perform (fun _ _ => Action.fail (.broken "vault is sealed")) doubtful report clearing

end Exchange
end Countersign
