import Countersign.Scheme.Basic
import Countersign.Text.Lowercase

/-!
# Fixed schemes

A fixed scheme accepts challenges by how they begin and answers all of them alike: with one header
value, with nothing, or with a failure.
-/

namespace Countersign

/-- A scheme that gives every challenge the same answer. -/
structure FixedScheme where
  /-- What the scheme is called. -/
  name : String
  /-- What the lower-case form of an accepted challenge begins with. -/
  lead : String
  /-- Realm of the answer. -/
  realm : String
  /-- Header value of the answer, if there is one. -/
  value : Option String
  /-- Whether the scheme accepts everything, even the absence of a challenge. -/
  acceptsAll : Bool
  /-- What the scheme fails with instead of answering. -/
  failure : Option String
  /-- How many challenges the scheme has been given. -/
  calls : Nat

namespace FixedScheme

/-- The scheme that accepts nothing but nonempty challenges and answers none of them. -/
def silent : FixedScheme :=
  { name := "", lead := "", realm := "", value := none, acceptsAll := false, failure := none
    calls := 0 }

/-- Whether the scheme is for a challenge. -/
def accepts (scheme : FixedScheme) (challenge : Option String) : Bool :=
  scheme.acceptsAll ||
    match challenge with
    | some text =>
        text ≠ "" && scheme.lead.toList.isPrefixOf (Text.lowercaseAfter [] text.toList)
    | none => false

/-- The scheme after it has been given one more challenge. -/
def counted (scheme : FixedScheme) : FixedScheme :=
  { scheme with calls := scheme.calls + 1 }

/-- What the scheme answers. -/
def answer (scheme : FixedScheme) : Except Failure (Option Handle) :=
  match scheme.failure with
  | some message => .error (.broken message)
  | none =>
      .ok (scheme.value.map fun value =>
        { realm := scheme.realm
          credentialHeader := authorizationHeader ++ ": " ++ value
          headerValue := value })

end FixedScheme
end Countersign
