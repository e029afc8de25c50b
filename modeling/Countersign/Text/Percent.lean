import Countersign.Text.Hex

/-!
# Percent escapes

A character that may not stand for itself is written as its UTF-8 bytes, each by a percent sign and
two upper-case hexadecimal digits.
-/

namespace Countersign
namespace Text

/-- The escape of a byte. -/
def escapeByte (byte : UInt8) : List Char :=
  '%' :: (hexDigits 2 byte.toNat).map Char.toUpper

/-- A text in which only the given characters stand for themselves. -/
def escape (keeps : Char → Bool) (text : List Char) : List Char :=
  text.flatMap fun char =>
    if keeps char then [char] else (String.utf8EncodeChar char).flatMap escapeByte

end Text
end Countersign
