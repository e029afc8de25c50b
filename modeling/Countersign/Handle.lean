/-!
# Handles

A handle is an answer to a challenge, in the forms in which a request can carry it.
-/

namespace Countersign

/-- What a scheme answers a challenge with. -/
structure Handle where
  /-- The realm that the handle is for. -/
  realm : String
  /-- The full header line. -/
  credentialHeader : String
  /-- The value of the header alone. -/
  headerValue : String
  deriving DecidableEq, Repr

end Countersign
