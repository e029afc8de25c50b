import Countersign.Http.Label.Context
import Countersign.Http.Label.Direction
import Countersign.Text.Punycode
import Countersign.Text.Quoted

/-!
# Labels of domain names

A domain name consists of labels.  A label with letters above ASCII is sent in an ASCII form, which
is its Punycode behind a fixed beginning.  Only composed texts of letters that go together are
labels, and the ASCII form of anything else is no label either.
-/

namespace Countersign
namespace Label

/-- Why a text is no label, or labels are no domain name. -/
inductive Fault where
  /-- A label is empty. -/
  | empty
  /-- A label has too many characters. -/
  | tooLong
  /-- A domain name has too many characters. -/
  | domainTooLong
  /-- A letter is not written with the character for it and its mark. -/
  | notComposed
  /-- The third and the fourth character are hyphens. -/
  | hyphensInside
  /-- The first or the last character is a hyphen. -/
  | hyphenOutside
  /-- The first character is a mark. -/
  | leadingMark
  /-- A joiner stands where it may not. -/
  | joiner (char : Char) (position : Nat) (label : List Char)
  /-- A character stands where it may not. -/
  | misplaced (char : Char) (position : Nat) (label : List Char)
  /-- A character may stand nowhere. -/
  | disallowed (char : Char) (position : Nat) (label : List Char)
  /-- The directions of the characters do not go together. -/
  | direction (fault : DirectionFault) (label : List Char)
  /-- Nothing follows the fixed beginning of an ASCII form. -/
  | noCode
  /-- An ASCII form ends in a hyphen. -/
  | hyphenAfterCode
  /-- What follows the fixed beginning of an ASCII form is no Punycode. -/
  | badCode
  deriving DecidableEq, Repr

/-- A character by its code point, in at least four digits. -/
def pointName (char : Char) : String :=
  let digits := (Nat.toDigits 16 char.toNat).map Char.toUpper
  "U+" ++ String.ofList (List.replicate (4 - digits.length) '0' ++ digits)

/-- The wording of a fault in the directions of a label. -/
def DirectionFault.message (label : List Char) : DirectionFault → String
  | first =>
      "First codepoint in label " ++ String.ofList (Text.quoteChars label) ++
        " must be directionality L, R or AL"
  | inRightward position =>
      "Invalid direction for codepoint at position " ++ toString position ++
        " in a right-to-left label"
  | inLeftward position =>
      "Invalid direction for codepoint at position " ++ toString position ++
        " in a left-to-right label"
  | mixedNumbers => "Can not mix numeral types in a right-to-left label"
  | last => "Label ends with illegal codepoint directionality"

/-- The wording of a fault. -/
def Fault.message : Fault → String
  | empty => "Empty Label"
  | tooLong => "Label too long"
  | domainTooLong => "Domain too long"
  | notComposed => "Label must be in Normalization Form C"
  | hyphensInside => "Label has disallowed hyphens in 3rd and 4th position"
  | hyphenOutside => "Label must not start or end with a hyphen"
  | leadingMark => "Label begins with an illegal combining character"
  | joiner char position label =>
      "Joiner " ++ pointName char ++ " not allowed at position " ++ toString position ++ " in " ++
        String.ofList (Text.quoteChars label)
  | misplaced char position label =>
      "Codepoint " ++ pointName char ++ " not allowed at position " ++ toString position ++
        " in " ++ String.ofList (Text.quoteChars label)
  | disallowed char position label =>
      "Codepoint " ++ pointName char ++ " at position " ++ toString position ++ " of " ++
        String.ofList (Text.quoteChars label) ++ " not allowed"
  | direction fault label => fault.message label
  | noCode => "Malformed A-label, no Punycode eligible content found"
  | hyphenAfterCode => "A-label must not end with a hyphen"
  | badCode => "Invalid A-label"

/-- Most characters of a label as it is sent. -/
def maximalLength : Nat := 63

/-- Most characters of a domain name as it is sent, but for a dot at its end. -/
def maximalDomainLength : Nat := 253

/-- The first character of a label that may not stand where it stands, given what is before it,
nearest first. -/
def charFault? (label before : List Char) : List Char → Option Fault
  | [] => none
  | char :: after =>
      if isLetter char then charFault? label (char :: before) after
      else if isJoiner char then
        if joinerFits before char after then charFault? label (char :: before) after
        else some (.joiner char (before.length + 1) label)
      else if isPlaced char then
        if placeFits before char after then charFault? label (char :: before) after
        else some (.misplaced char (before.length + 1) label)
      else some (.disallowed char (before.length + 1) label)

/-- Why a text is no label, if it is none. -/
def fault? (label : List Char) : Option Fault :=
  if label.isEmpty then some .empty
  else if maximalDomainLength + 1 < label.length then some .tooLong
  else if !Text.isComposed label then some .notComposed
  else if (label.drop 2).take 2 = ['-', '-'] then some .hyphensInside
  else if label.head? = some '-' ∨ label.getLast? = some '-' then some .hyphenOutside
  else if label.head?.any isMark then some .leadingMark
  else
    (charFault? label [] label).or
      ((directionFault? label).map fun fault => .direction fault label)

/-- A text if it is a label. -/
def checked (label : List Char) : Except Fault (List Char) :=
  match fault? label with
  | some fault => .error fault
  | none => .ok label

/-- What an ASCII form begins with. -/
def codeStart : List Char := ['x', 'n', '-', '-']

/-- The label that is sent as an ASCII text. -/
def unicodeForm (label : List Char) : Except Fault (List Char) :=
  let lower := label.map Char.toLower
  match codeStart.isPrefixOf? lower with
  | some [] => .error .noCode
  | some code =>
      if code.getLast? = some '-' then .error .hyphenAfterCode
      else
        match Punycode.decode? code with
        | some decoded => checked decoded
        | none => .error .badCode
  | none => checked lower

/-- A text if it is short enough to be sent as a label. -/
def limited (label : List Char) : Except Fault (List Char) :=
  if maximalLength < label.length then .error .tooLong else .ok label

/-- The ASCII text as which a label is sent. -/
def asciiForm (label : List Char) : Except Fault (List Char) :=
  if label.all (·.toNat < 0x80) then (unicodeForm label).bind fun _ => limited label
  else (checked label).bind fun label => limited (codeStart ++ Punycode.encode label)

end Label
end Countersign
