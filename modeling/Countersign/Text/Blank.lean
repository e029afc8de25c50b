import Countersign.Text.Ranges

/-!
# White space

The characters that separate words: the ASCII controls from tab to carriage return and from the file
separator to the unit separator, and the spaces and separators of Unicode.
-/

namespace Countersign
namespace Text

/-- Code points of white space. -/
def blankRanges : List (Nat × Nat) :=
  [
    (0x9, 0xd), (0x1c, 0x20), (0x85, 0x85), (0xa0, 0xa0), (0x1680, 0x1680), (0x2000, 0x200a),
    (0x2028, 0x2029), (0x202f, 0x202f), (0x205f, 0x205f), (0x3000, 0x3000)
  ]

/-- Whether a character is white space. -/
def isBlank (char : Char) : Bool :=
  inRanges blankRanges char

/-- A text without the white space at its end. -/
def trimEnd (text : List Char) : List Char :=
  (text.reverse.dropWhile isBlank).reverse

end Text
end Countersign
