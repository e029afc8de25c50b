import Countersign.Text.Blank

/-!
# Decimal numbers

A whole number is written in the decimal digits of any script, with a sign before them, single
underscores between them and white space around all of it.  The digits of Unicode 14 come in runs of
ten from zero to nine.
-/

namespace Countersign
namespace Text

/-- Code points of the zeros of all scripts. -/
def zeros : List Nat :=
  [
    0x30, 0x660, 0x6f0, 0x7c0, 0x966, 0x9e6, 0xa66, 0xae6, 0xb66, 0xbe6, 0xc66, 0xce6, 0xd66,
    0xde6, 0xe50, 0xed0, 0xf20, 0x1040, 0x1090, 0x17e0, 0x1810, 0x1946, 0x19d0, 0x1a80, 0x1a90,
    0x1b50, 0x1bb0, 0x1c40, 0x1c50, 0xa620, 0xa8d0, 0xa900, 0xa9d0, 0xa9f0, 0xaa50, 0xabf0,
    0xff10, 0x104a0, 0x10d30, 0x11066, 0x110f0, 0x11136, 0x111d0, 0x112f0, 0x11450, 0x114d0,
    0x11650, 0x116c0, 0x11730, 0x118e0, 0x11950, 0x11c50, 0x11d50, 0x11da0, 0x16a60, 0x16ac0,
    0x16b50, 0x1d7ce, 0x1d7d8, 0x1d7e2, 0x1d7ec, 0x1d7f6, 0x1e140, 0x1e2f0, 0x1e950, 0x1fbf0
  ]

/-- The value of a decimal digit. -/
def decimalValue? (char : Char) : Option Nat :=
  (zeros.find? fun first => first ≤ char.toNat && char.toNat ≤ first + 9).map (char.toNat - ·)

/-- Most digits that a number may be written in. -/
def maximalDigits : Nat := 4300

/-- The values of digits that may have single underscores between them. -/
def digitValues? : List Char → Option (List Nat)
  | [] => none
  | [char] => (decimalValue? char).map ([·])
  | char :: next :: rest => do
      let value ← decimalValue? char
      let values ← if next = '_' then digitValues? rest else digitValues? (next :: rest)
      pure (value :: values)

/-- The number that digits write. -/
def natural? (text : List Char) : Option Nat :=
  match digitValues? text with
  | some values =>
      if values.length ≤ maximalDigits then
        some (values.foldl (fun number value => number * 10 + value) 0)
      else none
  | none => none

/-- The whole number that a text writes. -/
def integer? (text : List Char) : Option Int :=
  match trimEnd (text.dropWhile isBlank) with
  | [] => none
  | char :: rest =>
      if char = '-' then (natural? rest).map fun number => -(number : Int)
      else (natural? (if char = '+' then rest else char :: rest)).map fun number => (number : Int)

end Text
end Countersign
