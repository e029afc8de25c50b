import Countersign.Text.Quoted

/-!
# ASCII

Writing a text as ASCII bytes is strict.  A refusal names the first character that is not ASCII and
those next to it that are not either.
-/

namespace Countersign
namespace Ascii

/-- Whether a character is ASCII. -/
def isAscii (char : Char) : Bool :=
  char.toNat < 0x80

/-- A refusal to write a text as ASCII bytes. -/
structure Fault where
  /-- The first refused character. -/
  char : Char
  /-- Position of the first refused character. -/
  position : Nat
  /-- Number of refused characters. -/
  width : Nat
  deriving DecidableEq, Repr

/-- The wording of a refusal. -/
def Fault.message (fault : Fault) : String :=
  "'ascii' codec can't encode " ++
    Text.refusedPlace fault.char.toNat fault.position fault.width ++ ": ordinal not in range(128)"

/-- Why characters from a position on cannot be written as ASCII bytes, if they cannot. -/
def faultFrom (position : Nat) : List Char → Option Fault
  | [] => none
  | char :: rest =>
      if isAscii char then faultFrom (position + 1) rest
      else some { char, position, width := (rest.takeWhile (!isAscii ·)).length + 1 }

/-- Why a text cannot be written as ASCII bytes, if it cannot. -/
def fault? (text : String) : Option Fault :=
  faultFrom 0 text.toList

end Ascii
end Countersign
