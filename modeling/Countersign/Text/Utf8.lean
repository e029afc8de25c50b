import Countersign.Text.Hex

/-!
# UTF-8

Reading bytes as text is strict: overlong forms, surrogates and code points beyond the last are
refused at the byte where they show.  A refusal names the bytes that were read as the start of a
character and the reason.
-/

namespace Countersign
namespace Utf8

/-- The bytes of a text. -/
def encode (text : String) : List UInt8 :=
  text.toList.flatMap String.utf8EncodeChar

/-- Why bytes are not the start of a character. -/
inductive Reason where
  /-- No character starts with this byte. -/
  | badStart
  /-- The next byte does not continue the character. -/
  | badContinuation
  /-- The text ends inside the character. -/
  | truncated
  deriving DecidableEq, Repr

/-- A refusal to read bytes as text. -/
structure Fault where
  /-- The value of the first refused byte. -/
  byte : UInt8
  /-- Position of the first refused byte. -/
  position : Nat
  /-- Number of refused bytes. -/
  width : Nat
  /-- What is wrong with them. -/
  reason : Reason
  deriving DecidableEq, Repr

/-- The wording of a reason. -/
def Reason.message : Reason → String
  | .badStart => "invalid start byte"
  | .badContinuation => "invalid continuation byte"
  | .truncated => "unexpected end of data"

/-- The refused bytes as they are named in a refusal: one byte by its value, several by their
place. -/
def Fault.place (fault : Fault) : String :=
  if fault.width ≤ 1 then
    "byte 0x" ++ String.ofList (Text.hexDigits 2 fault.byte.toNat) ++ " in position " ++
      toString fault.position
  else
    "bytes in position " ++ toString fault.position ++ "-" ++
      toString (fault.position + fault.width - 1)

/-- The wording of a refusal. -/
def Fault.message (fault : Fault) : String :=
  "'utf-8' codec can't decode " ++ fault.place ++ ": " ++ fault.reason.message

/-- What a first byte announces: how many bytes follow it, the range of the second byte, and its
own contribution to the code point. -/
structure Lead where
  /-- Number of bytes that follow. -/
  tails : Nat
  /-- Least second byte. -/
  low : Nat
  /-- Greatest second byte. -/
  high : Nat
  /-- Bits of the code point in the first byte. -/
  bits : Nat

/-- What a byte from 0x80 on announces as the first byte of a character. -/
def lead? (byte : Nat) : Option Lead :=
  if byte < 0xc2 then none
  else if byte < 0xe0 then some ⟨1, 0x80, 0xbf, byte - 0xc0⟩
  else if byte = 0xe0 then some ⟨2, 0xa0, 0xbf, 0⟩
  else if byte = 0xed then some ⟨2, 0x80, 0x9f, 0xd⟩
  else if byte < 0xf0 then some ⟨2, 0x80, 0xbf, byte - 0xe0⟩
  else if byte = 0xf0 then some ⟨3, 0x90, 0xbf, 0⟩
  else if byte < 0xf4 then some ⟨3, 0x80, 0xbf, byte - 0xf0⟩
  else if byte = 0xf4 then some ⟨3, 0x80, 0x8f, 4⟩
  else none

/-- A character of which some bytes have been read. -/
structure Partial where
  /-- Its first byte. -/
  start : UInt8
  /-- Position of its first byte. -/
  position : Nat
  /-- Number of bytes read. -/
  width : Nat
  /-- Number of bytes to come, less one. -/
  more : Nat
  /-- Least next byte. -/
  low : Nat
  /-- Greatest next byte. -/
  high : Nat
  /-- Bits of the code point so far. -/
  bits : Nat

/-- The refusal of the bytes read so far. -/
def Partial.fault (char : Partial) (reason : Reason) : Fault :=
  { byte := char.start, position := char.position, width := char.width, reason }

/-- Reads the bytes from a position on, with the character they are in the middle of, if any. -/
def decodeFrom : Nat → Option Partial → List UInt8 → Except Fault (List Char)
  | _, none, [] => .ok []
  | _, some char, [] => .error (char.fault .truncated)
  | position, none, byte :: rest =>
      if byte.toNat < 0x80 then
        (decodeFrom (position + 1) none rest).map (Char.ofNat byte.toNat :: ·)
      else
        match lead? byte.toNat with
        | none => .error { byte, position, width := 1, reason := .badStart }
        | some lead =>
            decodeFrom (position + 1)
              (some
                { start := byte, position, width := 1, more := lead.tails - 1
                  low := lead.low, high := lead.high, bits := lead.bits })
              rest
  | position, some char, byte :: rest =>
      if char.low ≤ byte.toNat ∧ byte.toNat ≤ char.high then
        let bits := char.bits * 64 + (byte.toNat - 0x80)
        match char.more with
        | 0 => (decodeFrom (position + 1) none rest).map (Char.ofNat bits :: ·)
        | more + 1 =>
            decodeFrom (position + 1)
              (some { char with width := char.width + 1, more, low := 0x80, high := 0xbf, bits })
              rest
      else .error (char.fault .badContinuation)

/-- Reads bytes as text. -/
def decode (bytes : List UInt8) : Except Fault (List Char) :=
  decodeFrom 0 none bytes

end Utf8
end Countersign
