import Countersign.Http.Label.Letters
import Countersign.Text.Composed

/-!
# Characters that depend on their neighbours

A part of a domain name may hold some characters only next to certain others: the joiners between
letters that join or after a mark that joins, and some dots, quotes, sign and digits of single
scripts.
-/

namespace Countersign
namespace Label

/-- How a letter of a cursive script joins its neighbours. -/
inductive Joining where
  /-- It does not join. -/
  | none
  /-- It joins the letter after it in logical order only. -/
  | leftward
  /-- It joins the letter before it in logical order only. -/
  | rightward
  /-- It joins the letters on both sides. -/
  | dual
  /-- It is passed over. -/
  | transparent
  deriving DecidableEq, Repr

/-- Inclusive ranges of code points of letters that join, and of exceptions among the marks. -/
def joinings : List (Nat × Nat × Joining) :=
  [
    (0x620, 0x620, .dual), (0x622, 0x625, .rightward), (0x626, 0x626, .dual),
    (0x627, 0x627, .rightward), (0x628, 0x628, .dual), (0x629, 0x629, .rightward),
    (0x62a, 0x62e, .dual), (0x62f, 0x632, .rightward), (0x633, 0x647, .dual),
    (0x648, 0x648, .rightward), (0x649, 0x64a, .dual), (0x66e, 0x66f, .dual),
    (0x671, 0x673, .rightward), (0x679, 0x687, .dual), (0x688, 0x699, .rightward),
    (0x69a, 0x6bf, .dual), (0x6c0, 0x6c0, .rightward), (0x6c1, 0x6c2, .dual),
    (0x6c3, 0x6cb, .rightward), (0x6cc, 0x6cc, .dual), (0x6cd, 0x6cd, .rightward),
    (0x6ce, 0x6ce, .dual), (0x6cf, 0x6cf, .rightward), (0x6d0, 0x6d1, .dual),
    (0x6d2, 0x6d5, .rightward), (0x6ee, 0x6ef, .rightward), (0x6fa, 0x6fc, .dual),
    (0x6ff, 0x6ff, .dual), (0x710, 0x710, .rightward), (0x712, 0x714, .dual),
    (0x715, 0x719, .rightward), (0x71a, 0x71d, .dual), (0x71e, 0x71e, .rightward),
    (0x71f, 0x727, .dual), (0x728, 0x728, .rightward), (0x729, 0x729, .dual),
    (0x72a, 0x72a, .rightward), (0x72b, 0x72b, .dual), (0x72c, 0x72c, .rightward),
    (0x72d, 0x72e, .dual), (0x72f, 0x72f, .rightward), (0x74d, 0x74d, .rightward),
    (0x74e, 0x758, .dual), (0x759, 0x75b, .rightward), (0x75c, 0x76a, .dual),
    (0x76b, 0x76c, .rightward), (0x76d, 0x770, .dual), (0x771, 0x771, .rightward),
    (0x772, 0x772, .dual), (0x773, 0x774, .rightward), (0x775, 0x777, .dual),
    (0x778, 0x779, .rightward), (0x77a, 0x77f, .dual), (0x7ca, 0x7ea, .dual),
    (0x840, 0x840, .rightward), (0x841, 0x845, .dual), (0x846, 0x847, .rightward),
    (0x848, 0x848, .dual), (0x849, 0x849, .rightward), (0x84a, 0x853, .dual),
    (0x854, 0x854, .rightward), (0x855, 0x855, .dual), (0x856, 0x858, .rightward),
    (0x860, 0x860, .dual), (0x862, 0x865, .dual), (0x867, 0x867, .rightward),
    (0x868, 0x868, .dual), (0x869, 0x882, .rightward), (0x886, 0x886, .dual),
    (0x889, 0x88d, .dual), (0x88e, 0x88e, .rightward), (0x8a0, 0x8a9, .dual),
    (0x8aa, 0x8ac, .rightward), (0x8ae, 0x8ae, .rightward), (0x8af, 0x8b0, .dual),
    (0x8b1, 0x8b2, .rightward), (0x8b3, 0x8b8, .dual), (0x8b9, 0x8b9, .rightward),
    (0x8ba, 0x8c8, .dual), (0x1820, 0x1878, .dual), (0x1887, 0x18a8, .dual),
    (0x18aa, 0x18aa, .dual), (0xa840, 0xa871, .dual), (0xa872, 0xa872, .leftward),
    (0x10ac0, 0x10ac4, .dual), (0x10ac5, 0x10ac5, .rightward), (0x10ac7, 0x10aca, .rightward),
    (0x10acd, 0x10acd, .leftward), (0x10ace, 0x10ad2, .rightward), (0x10ad3, 0x10ad6, .dual),
    (0x10ad7, 0x10ad7, .leftward), (0x10ad8, 0x10adc, .dual), (0x10add, 0x10add, .rightward),
    (0x10ade, 0x10ae0, .dual), (0x10ae1, 0x10ae1, .rightward), (0x10ae4, 0x10ae4, .rightward),
    (0x10b80, 0x10b80, .dual), (0x10b81, 0x10b81, .rightward), (0x10b82, 0x10b82, .dual),
    (0x10b83, 0x10b85, .rightward), (0x10b86, 0x10b88, .dual), (0x10b89, 0x10b89, .rightward),
    (0x10b8a, 0x10b8b, .dual), (0x10b8c, 0x10b8c, .rightward), (0x10b8d, 0x10b8d, .dual),
    (0x10b8e, 0x10b8f, .rightward), (0x10b90, 0x10b90, .dual), (0x10b91, 0x10b91, .rightward),
    (0x10d00, 0x10d00, .leftward), (0x10d01, 0x10d21, .dual), (0x10d22, 0x10d22, .rightward),
    (0x10d23, 0x10d23, .dual), (0x10f30, 0x10f32, .dual), (0x10f33, 0x10f33, .rightward),
    (0x10f34, 0x10f44, .dual), (0x10f70, 0x10f73, .dual), (0x10f74, 0x10f75, .rightward),
    (0x10f76, 0x10f81, .dual), (0x10fb0, 0x10fb0, .dual), (0x10fb2, 0x10fb3, .dual),
    (0x10fb4, 0x10fb6, .rightward), (0x10fb8, 0x10fb8, .dual), (0x10fb9, 0x10fba, .rightward),
    (0x10fbb, 0x10fbc, .dual), (0x10fbd, 0x10fbd, .rightward), (0x10fbe, 0x10fbf, .dual),
    (0x10fc1, 0x10fc1, .dual), (0x10fc2, 0x10fc3, .rightward), (0x10fc4, 0x10fc4, .dual),
    (0x1171e, 0x1171e, .none), (0x1e922, 0x1e943, .dual), (0x1e94b, 0x1e94b, .transparent)
  ]

/-- Code points of the Greek script. -/
def greekRanges : List (Nat × Nat) :=
  [
    (0x370, 0x373), (0x375, 0x377), (0x37a, 0x37d), (0x37f, 0x37f), (0x384, 0x384),
    (0x386, 0x386), (0x388, 0x38a), (0x38c, 0x38c), (0x38e, 0x3a1), (0x3a3, 0x3e1),
    (0x3f0, 0x3ff), (0x1d26, 0x1d2a), (0x1d5d, 0x1d61), (0x1d66, 0x1d6a), (0x1dbf, 0x1dbf),
    (0x1f00, 0x1f15), (0x1f18, 0x1f1d), (0x1f20, 0x1f45), (0x1f48, 0x1f4d), (0x1f50, 0x1f57),
    (0x1f59, 0x1f59), (0x1f5b, 0x1f5b), (0x1f5d, 0x1f5d), (0x1f5f, 0x1f7d), (0x1f80, 0x1fb4),
    (0x1fb6, 0x1fc4), (0x1fc6, 0x1fd3), (0x1fd6, 0x1fdb), (0x1fdd, 0x1fef), (0x1ff2, 0x1ff4),
    (0x1ff6, 0x1ffe), (0x2126, 0x2126), (0xab65, 0xab65), (0x10140, 0x1018e), (0x101a0, 0x101a0),
    (0x1d200, 0x1d245)
  ]

/-- Code points of the Hebrew script. -/
def hebrewRanges : List (Nat × Nat) :=
  [
    (0x591, 0x5c7), (0x5d0, 0x5ea), (0x5ef, 0x5f4), (0xfb1d, 0xfb36), (0xfb38, 0xfb3c),
    (0xfb3e, 0xfb3e), (0xfb40, 0xfb41), (0xfb43, 0xfb44), (0xfb46, 0xfb4f)
  ]

/-- Code points of the Hiragana, Katakana and Han scripts. -/
def eastAsianRanges : List (Nat × Nat) :=
  [
    (0x2e80, 0x2e99), (0x2e9b, 0x2ef3), (0x2f00, 0x2fd5), (0x3005, 0x3005), (0x3007, 0x3007),
    (0x3021, 0x3029), (0x3038, 0x303b), (0x3041, 0x3096), (0x309d, 0x309f), (0x30a1, 0x30fa),
    (0x30fd, 0x30ff), (0x31f0, 0x31ff), (0x32d0, 0x32fe), (0x3300, 0x3357), (0x3400, 0x4dbf),
    (0x4e00, 0x9fff), (0xf900, 0xfa6d), (0xfa70, 0xfad9), (0xff66, 0xff6f), (0xff71, 0xff9d),
    (0x16fe2, 0x16fe3), (0x16ff0, 0x16ff1), (0x1aff0, 0x1aff3), (0x1aff5, 0x1affb),
    (0x1affd, 0x1affe), (0x1b000, 0x1b122), (0x1b150, 0x1b152), (0x1b164, 0x1b167),
    (0x1f200, 0x1f200), (0x20000, 0x2a6df), (0x2a700, 0x2b738), (0x2b740, 0x2b81d),
    (0x2b820, 0x2cea1), (0x2ceb0, 0x2ebe0), (0x2f800, 0x2fa1d), (0x30000, 0x3134a)
  ]

/-- How a character joins its neighbours; marks are passed over. -/
def joining (char : Char) : Joining :=
  match joinings.find? fun range => range.1 ≤ char.toNat && char.toNat ≤ range.2.1 with
  | some range => range.2.2
  | none => if isNarrowMark char then .transparent else .none

/-- The joining of the first character that is not passed over. -/
def nextJoining (chars : List Char) : Joining :=
  ((chars.map joining).find? (· ≠ .transparent)).getD .none

/-- Whether the first character is a mark that joins letters. -/
def followsVirama (before : List Char) : Bool :=
  before.head?.any fun char => Text.combiningClass char = 9

/-- Whether a character is one of the two joiners. -/
def isJoiner (char : Char) : Bool :=
  char = '\u200c' || char = '\u200d'

/-- Whether a joiner may stand between what is before it, nearest first, and what is after it. -/
def joinerFits (before : List Char) (char : Char) (after : List Char) : Bool :=
  followsVirama before ||
    (char = '\u200c' && (nextJoining before = .leftward || nextJoining before = .dual) &&
      (nextJoining after = .rightward || nextJoining after = .dual))

/-- Whether a character is a digit of the Arabic script. -/
def isArabicDigit (char : Char) : Bool :=
  0x660 ≤ char.toNat && char.toNat ≤ 0x669

/-- Whether a character is a digit of the extended Arabic script. -/
def isExtendedArabicDigit (char : Char) : Bool :=
  0x6f0 ≤ char.toNat && char.toNat ≤ 0x6f9

/-- Whether some characters may stand only in certain places, the given one among them. -/
def isPlaced (char : Char) : Bool :=
  ['\u00b7', '\u0375', '\u05f3', '\u05f4', '\u30fb'].contains char || isArabicDigit char ||
    isExtendedArabicDigit char

/-- Whether such a character may stand between what is before it, nearest first, and what is after
it. -/
def placeFits (before : List Char) (char : Char) (after : List Char) : Bool :=
  if char = '\u00b7' then before.head? = some 'l' && after.head? = some 'l'
  else if char = '\u0375' then after.head?.any (Text.inRanges greekRanges)
  else if char = '\u05f3' ∨ char = '\u05f4' then before.head?.any (Text.inRanges hebrewRanges)
  else if char = '\u30fb' then
    (before ++ after).any fun other => other ≠ char && Text.inRanges eastAsianRanges other
  else if isArabicDigit char then !(before ++ after).any isExtendedArabicDigit
  else !(before ++ after).any isArabicDigit

end Label
end Countersign
