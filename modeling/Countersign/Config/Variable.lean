import Countersign.Text.Raw

/-!
# Variables

A variable can be set if it has a name, its name holds no equals sign, and neither its name nor its
value holds a null character.  Its value is kept as bytes, so surrogates in it must stand for bytes,
and those that together are a character are read as that character.
-/

namespace Countersign
namespace Variable

/-- Why a variable cannot be set. -/
inductive Fault where
  /-- The name or the value holds a null character. -/
  | nullCharacter
  /-- The name holds an equals sign. -/
  | equalsSign
  /-- The name is empty. -/
  | emptyName
  deriving DecidableEq, Repr

/-- The wording of a fault. -/
def Fault.message : Fault → String
  | nullCharacter => "embedded null byte"
  | equalsSign => "illegal environment variable name"
  | emptyName => "[Errno 22] Invalid argument"

/-- Why a variable cannot be set to a value that can be kept, if it cannot. -/
def fault? (name : String) (value : RawText) : Option Fault :=
  if name.toList.contains '\x00' ∨ value.points.contains (.plain '\x00') then some .nullCharacter
  else if name.toList.contains '=' then some .equalsSign
  else if name.toList.isEmpty then some .emptyName
  else none

/-- Why a value cannot be kept, if it cannot. -/
def refusal? (value : RawText) : Option RawText.Fault :=
  RawText.faultFrom (·.bytes?.isNone) 0 value.points

/-- What a value is read as once it has been kept.  A text stays as it is. -/
def kept (value : RawText) : RawText :=
  if value.isText then value
  else .ofBytes (value.points.flatMap fun point => point.bytes?.getD [])

end Variable
end Countersign
