import Countersign.Failure

/-!
# Basic challenges

A Basic challenge is the word and parameter name in any case of ASCII letters, then the realm
between double quotes.  The realm is a nonempty word of ASCII letters, digits and underscores, and
nothing stands before or after.
-/

namespace Countersign
namespace Challenge

/-- Whether a character may stand in the realm of a challenge. -/
def isWordChar (char : Char) : Bool :=
  char.isAlphanum || char = '_'

/-- What stands before the realm, in lower case. -/
def opening : List Char :=
  ['b', 'a', 's', 'i', 'c', ' ', 'r', 'e', 'a', 'l', 'm', '=', Text.doubleQuote]

/-- The realm that follows the opening of a challenge. -/
def closedWord? (text : List Char) : Option (List Char) :=
  let word := text.takeWhile isWordChar
  if word ≠ [] ∧ text.drop word.length = [Text.doubleQuote] then some word else none

/-- The realm of a challenge. -/
def realm? (challenge : List Char) : Option (List Char) :=
  if (challenge.take opening.length).map Char.toLower = opening then
    closedWord? (challenge.drop opening.length)
  else none

/-- The realm of a challenge, or why there is none. -/
def parse : Option String → Except Failure String
  | none => .error (.emptyChallenge none)
  | some challenge =>
      if challenge = "" then .error (.emptyChallenge (some challenge))
      else
        match realm? challenge.toList with
        | some realm => .ok (String.ofList realm)
        | none => .error (.notBasic challenge)

/-- Whether a challenge is a Basic challenge. -/
def isBasic : Option String → Bool
  | none => false
  | some challenge => challenge ≠ "" && (realm? challenge.toList).isSome

/-- The challenge for a realm. -/
def forRealm (realm : String) : String :=
  "Basic realm=\"" ++ realm ++ "\""

end Challenge
end Countersign
