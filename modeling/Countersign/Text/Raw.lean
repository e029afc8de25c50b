import Countersign.Text.Quoted
import Countersign.Text.Utf8

/-!
# Raw texts

A raw text is a row of code points among which surrogates may stand.  Bytes that are read as text
without being refused give such texts: a byte that no character starts with becomes a surrogate.
Only a raw text without surrogates is a text, and only a text can be written as UTF-8.  A refusal
names the first refused code point and how far the surrogates go on from there.
-/

namespace Countersign

/-- A code point. -/
inductive CodePoint where
  /-- A character. -/
  | plain (char : Char)
  /-- A surrogate, by its place among the surrogates. -/
  | surrogate (place : Fin 0x800)
  deriving DecidableEq, Repr

namespace CodePoint

/-- The number of a code point. -/
def number : CodePoint → Nat
  | plain char => char.toNat
  | surrogate place => 0xd800 + place

/-- The character that a code point is, if it is one. -/
def char? : CodePoint → Option Char
  | plain char => some char
  | surrogate _ => none

/-- Whether a code point is a surrogate. -/
def isSurrogate : CodePoint → Bool
  | plain _ => false
  | surrogate _ => true

/-- The surrogate that stands for a byte. -/
def escape (byte : UInt8) : CodePoint :=
  surrogate ⟨0x400 + byte.toNat, by have := byte.toNat_lt; omega⟩

/-- The bytes that a code point is written as, or `none` for a surrogate that stands for no byte. -/
def bytes? : CodePoint → Option (List UInt8)
  | plain char => some (String.utf8EncodeChar char)
  | surrogate place =>
      if 0x480 ≤ place.val ∧ place.val < 0x500 then some [UInt8.ofNat (place.val - 0x400)]
      else none

end CodePoint

/-- A text in which surrogates may stand. -/
structure RawText where
  /-- The code points. -/
  points : List CodePoint
  deriving DecidableEq, Repr

namespace RawText

/-- A text as a raw text. -/
def ofText (text : String) : RawText :=
  ⟨text.toList.map .plain⟩

/-- The characters of a raw text. -/
def text (raw : RawText) : String :=
  String.ofList (raw.points.filterMap CodePoint.char?)

/-- A raw text behind another one. -/
instance : Append RawText :=
  ⟨fun left right => ⟨left.points ++ right.points⟩⟩

/-- A refusal to write a raw text. -/
structure Fault where
  /-- The first refused code point. -/
  point : CodePoint
  /-- Position of the first refused code point. -/
  position : Nat
  /-- Number of refused code points. -/
  width : Nat
  deriving DecidableEq, Repr

/-- The wording of a refusal. -/
def Fault.message (fault : Fault) : String :=
  "'utf-8' codec can't encode " ++
    Text.refusedPlace fault.point.number fault.position fault.width ++ ": surrogates not allowed"

/-- The refusal of the first of several code points that is to be refused, if there is one, from a
position on. -/
def faultFrom (refuses : CodePoint → Bool) (position : Nat) : List CodePoint → Option Fault
  | [] => none
  | point :: rest =>
      if refuses point then
        some { point, position, width := (rest.takeWhile CodePoint.isSurrogate).length + 1 }
      else faultFrom refuses (position + 1) rest

/-- Why a raw text cannot be written as UTF-8, if it cannot. -/
def fault? (raw : RawText) : Option Fault :=
  faultFrom CodePoint.isSurrogate 0 raw.points

/-- Whether a raw text is a text. -/
def isText (raw : RawText) : Bool :=
  !raw.points.any CodePoint.isSurrogate

/-- The character at the start of bytes and the number of its bytes, if the bytes start with a
character. -/
def firstChar? (bytes : List UInt8) : Option (Char × Nat) :=
  [1, 2, 3, 4].findSome? fun width =>
    match Utf8.decode (bytes.take width) with
    | .ok [char] => some (char, width)
    | _ => none

/-- At most the given number of code points of bytes. -/
def readPoints : Nat → List UInt8 → List CodePoint
  | 0, _ => []
  | _, [] => []
  | count + 1, byte :: rest =>
      match firstChar? (byte :: rest) with
      | some (char, width) => .plain char :: readPoints count ((byte :: rest).drop width)
      | none => .escape byte :: readPoints count rest

/-- The raw text that bytes are read as; there are no more code points than bytes. -/
def ofBytes (bytes : List UInt8) : RawText :=
  ⟨readPoints bytes.length bytes⟩

end RawText
end Countersign
